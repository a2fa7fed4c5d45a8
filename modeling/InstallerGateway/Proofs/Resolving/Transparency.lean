import InstallerGateway.Proofs.Resolving.Failure
import InstallerGateway.Proofs.Resolving.Run
import Mathlib.Data.List.Induction
import Mathlib.Tactic.Linarith

/-!
# What keeping resolved keys changes

Keys are kept for an extension, and not for a key. So a resolution is answered as a resolver that
keeps nothing would answer the key that holds the extension: the key of the last resolution for it
that was told a key by its manifest, as long as the usual time since then is not over. If all keys
of an extension that are resolved in a run have the same answer, keeping it changes nothing.
-/

namespace InstallerGateway.Resolving

open Act

variable {usual : Int} {d : KeyDescriptor} {w w' w₀ : World} {v extension : String}

/-! ## Who holds an extension -/

/-- A key that was told another one by its manifest, and when. -/
structure Holder where
  asker : KeyDescriptor
  /-- When its manifest was read. -/
  since : Instant

/-- The present instant and the last holder of each extension. -/
structure Ledger where
  now : Instant
  /-- The last holder of an extension, if there was one. -/
  last? : String → Option Holder

namespace Ledger

/-- The holder of an extension, if the usual time since it was told its key is not over. -/
def holder? (usual : Int) (l : Ledger) (extension : String) : Option Holder :=
  (l.last? extension).filter fun h => l.now < h.since + usual

/-- The key that is answered when a key is resolved. -/
def inForce (usual : Int) (l : Ledger) (d : KeyDescriptor) : KeyDescriptor :=
  if d.isLatest then ((l.holder? usual d.extension).map (·.asker)).getD d else d

/-- The key holds its extension from now on. -/
def hold (d : KeyDescriptor) (l : Ledger) : Ledger :=
  { l with last? := fun extension =>
      if extension = d.extension then some ⟨d, l.now⟩ else l.last? extension }

/-- The ledger after a call. `isKept` says of each key whether its manifest tells it another one
that can be kept. -/
def perform (usual : Int) (isKept : KeyDescriptor → Bool) : Call → Ledger → Ledger
  | .wait seconds, l => { l with now := l.now + seconds }
  | .resolve d, l =>
    if d.isLatest && (l.holder? usual d.extension).isNone && isKept d then l.hold d else l

/-- A resolution that does not keep a key leaves the ledger as it is. -/
theorem perform_resolve_of_not {isKept : KeyDescriptor → Bool} {l : Ledger}
    (h : (d.isLatest && (l.holder? usual d.extension).isNone && isKept d) = false) :
    l.perform usual isKept (.resolve d) = l :=
  if_neg (by rw [h]; exact Bool.false_ne_true)

end Ledger

/-- The manifest tells the key another one, which can be kept in memory. -/
def isKept (usual : Int) (w : World) (d : KeyDescriptor) : Bool :=
  match result (fetch d) w with
  | .ok (some _) => w.cache.counts usual
  | _ => false

/-- The ledger of the calls of a run. -/
def ledger (usual : Int) (w : World) (calls : List Call) : Ledger :=
  calls.foldl (fun l c => l.perform usual (isKept usual w) c) ⟨w.clock, fun _ => none⟩

/-- What a resolver that keeps nothing answers. -/
def alone (usual : Int) (w : World) (d : KeyDescriptor) : Except Fault String :=
  result (resolve usual d) w.emptied

/-- The world after some calls, at first with nothing kept. -/
def called (usual : Int) (w : World) (calls : List Call) : World :=
  run usual w.emptied (calls.map .call)

theorem ledger_snoc (usual : Int) (w : World) (calls : List Call) (c : Call) :
    ledger usual w (calls ++ [c]) = (ledger usual w calls).perform usual (isKept usual w) c := by
  simp [ledger]

theorem called_snoc (usual : Int) (w : World) (calls : List Call) (c : Call) :
    called usual w (calls ++ [c]) = c.perform usual (called usual w calls) := by
  unfold called
  rw [List.map_append]
  exact run_snoc usual w.emptied (calls.map .call) (.call c)

/-! ## A resolver that keeps nothing -/

theorem lookup_emptied (extension : String) (w : World) :
    result (Caching.lookup extension) w.emptied = .ok none :=
  result_eq (Caching.lookup_memory (w := w.emptied) rfl extension)

theorem sameSources_emptied (w : World) : w.SameSources w.emptied := ⟨rfl, rfl, rfl, rfl⟩

theorem alone_of_tells (hd : d.isLatest = true) (ht : Tells w d v)
    (hcounts : w.cache.counts usual = true) : alone usual w d = .ok v := by
  have hf : result (fetch d) w.emptied = .ok (some v) :=
    fetch_eq_some_iff.mpr (ht.congr (sameSources_emptied w))
  have hlasts : Caching.overruns usual w.emptied = false := by
    rw [overruns_inMemory rfl]
    exact congrArg (!·) hcounts
  exact result_eq (resolve_settled hd (lookup_emptied d.extension w) hf hlasts)

/-- A key is kept if the manifest tells it and its time can be counted. -/
theorem isKept_iff :
    isKept usual w d = true ↔ (∃ v, Tells w d v) ∧ w.cache.counts usual = true := by
  unfold isKept
  constructor
  · intro h
    split at h
    · rename_i v hf
      exact ⟨⟨v, fetch_eq_some_iff.mp hf⟩, h⟩
    · cases h
  · rintro ⟨⟨v, ht⟩, hcounts⟩
    rw [fetch_eq_some_iff.mpr ht]
    exact hcounts

theorem Tells.ne_empty (ht : Tells w d v) : v ≠ "" := by
  obtain ⟨key, o, m, -, -, hm, hv⟩ := ht
  exact Manifest.concreteKey_ne_empty hm hv

/-! ## The ledger and the values in memory -/

/-- The ledger tells what is kept in memory in the world `w` of a run that started in `w₀`. -/
structure Shadows (usual : Int) (w₀ : World) (l : Ledger) (w : World) : Prop where
  clock : w.clock = l.now
  table : w.cache.table = none
  inDoubles : w.cache.inDoubles = w₀.cache.inDoubles
  sources : w₀.SameSources w
  /-- A value in memory was told to the last holder. -/
  kept : ∀ extension kept, Dictionary.find? extension w.cache.memory = some kept →
    ∃ h, l.last? extension = some h ∧ h.asker.isLatest = true ∧ Tells w₀ h.asker kept.value ∧
      w₀.cache.counts usual = true ∧ kept.expiresAt = h.since + usual
  /-- If there is no value in memory, the time of the last holder is over. -/
  absent : ∀ extension h, Dictionary.find? extension w.cache.memory = none →
    l.last? extension = some h → h.since + usual ≤ l.now

theorem Shadows.counts {l : Ledger} (hs : Shadows usual w₀ l w) (seconds : Rat) :
    w.cache.counts seconds = w₀.cache.counts seconds := by
  unfold LatestCache.counts
  rw [hs.inDoubles]

/-- If the extension has a holder, memory has the key that its manifest tells. -/
theorem Shadows.kept?_of_holder {l : Ledger} {h : Holder} (hs : Shadows usual w₀ l w)
    (hh : l.holder? usual extension = some h) :
    h.asker.isLatest = true ∧ w₀.cache.counts usual = true ∧
      ∃ v, Caching.kept? w extension = some v ∧ Tells w₀ h.asker v := by
  obtain ⟨hlast, hlive⟩ := Option.filter_eq_some_iff.mp hh
  have hlive' : l.now < h.since + usual := by simpa using hlive
  cases hfind : Dictionary.find? extension w.cache.memory with
  | none => exact absurd (hs.absent extension h hfind hlast) (not_le.mpr hlive')
  | some kept =>
    obtain ⟨h', hlast', hlatest, htells, hcounts, hexp⟩ := hs.kept extension kept hfind
    cases hlast.symm.trans hlast'
    have hget : (w.cache.memory.get w.clock extension).1 = some kept.value :=
      MemoryCache.get_eq_some_iff.mpr ⟨kept, hfind, by rw [hs.clock, hexp]; exact hlive', rfl⟩
    refine ⟨hlatest, hcounts, kept.value, ?_, htells⟩
    unfold Caching.kept?
    rw [hget]
    simp [Option.filter, htells.ne_empty]

/-- If the extension has no holder, nothing is found in memory. -/
theorem Shadows.get_of_no_holder {l : Ledger} (hs : Shadows usual w₀ l w)
    (hh : l.holder? usual extension = none) :
    (w.cache.memory.get w.clock extension).1 = none := by
  cases hget : (w.cache.memory.get w.clock extension).1 with
  | none => rfl
  | some v =>
    obtain ⟨kept, hfind, hlive, rfl⟩ := MemoryCache.get_eq_some_iff.mp hget
    obtain ⟨h, hlast, -, -, -, hexp⟩ := hs.kept extension kept hfind
    rw [hexp, hs.clock] at hlive
    unfold Ledger.holder? at hh
    rw [hlast] at hh
    simp [Option.filter, hlive] at hh

theorem Shadows.kept?_of_no_holder {l : Ledger} (hs : Shadows usual w₀ l w)
    (hh : l.holder? usual extension = none) : Caching.kept? w extension = none := by
  unfold Caching.kept?
  rw [hs.get_of_no_holder hh]
  rfl

/-- A ledger still shadows memory while time passes. -/
theorem Shadows.wait {l : Ledger} (hs : Shadows usual w₀ l w) (seconds : NNRat) :
    Shadows usual w₀ (l.perform usual (isKept usual w₀) (.wait seconds)) (w.advance seconds) where
  clock := by
    show w.clock + _ = l.now + _
    rw [hs.clock]
  table := hs.table
  inDoubles := hs.inDoubles
  sources := hs.sources.trans ⟨rfl, rfl, rfl, rfl⟩
  kept := hs.kept
  absent := fun extension h hfind hlast => by
    have hle := hs.absent extension h hfind hlast
    have hpos : (0 : Rat) ≤ seconds := seconds.cast_nonneg
    show h.since + usual ≤ l.now + seconds
    linarith

/-- A value that is dropped, because it is asked for in vain, had no holder. -/
theorem Shadows.dropped {l : Ledger} (hs : Shadows usual w₀ l w)
    (hh : l.holder? usual extension = none) (hc : w'.cache =
      { w.cache with memory := (w.cache.memory.get w.clock extension).2 })
    (hsame : w.SameMoment w') : Shadows usual w₀ l w' where
  clock := hsame.clock.trans hs.clock
  table := by rw [hc, hs.table]
  inDoubles := by rw [hc, hs.inDoubles]
  sources := hs.sources.trans hsame.toSameSources
  kept := fun other kept hk => by
    rw [hc] at hk
    exact hs.kept other kept (MemoryCache.find?_of_find?_get hk)
  absent := fun other h hfind hlast => by
    rw [hc] at hfind
    by_cases hne : other = extension
    · subst hne
      by_contra hlt
      have hlive : l.now < h.since + usual := not_le.mp hlt
      unfold Ledger.holder? at hh
      rw [hlast] at hh
      simp [Option.filter, hlive] at hh
    · rw [MemoryCache.find?_get_of_ne hne] at hfind
      exact hs.absent other h hfind hlast

/-- A ledger still shadows memory if nothing is kept. -/
theorem Shadows.unchanged {l : Ledger} (hs : Shadows usual w₀ l w) (hc : w'.cache = w.cache)
    (hsame : w.SameMoment w') : Shadows usual w₀ l w' where
  clock := hsame.clock.trans hs.clock
  table := by rw [hc, hs.table]
  inDoubles := by rw [hc, hs.inDoubles]
  sources := hs.sources.trans hsame.toSameSources
  kept := by
    rw [hc]
    exact hs.kept
  absent := by
    rw [hc]
    exact hs.absent

/-- A key that is told another one, which is kept, holds its extension. -/
theorem Shadows.hold {l : Ledger} (hs : Shadows usual w₀ l w) (hd : d.isLatest = true)
    (ht : Tells w₀ d v) (hcounts : w₀.cache.counts usual = true) (hc : w'.cache =
      { w.cache with
        memory := (w.cache.memory.get w.clock d.extension).2.put w.clock d.extension v usual })
    (hsame : w.SameMoment w') : Shadows usual w₀ (l.hold d) w' where
  clock := hsame.clock.trans hs.clock
  table := by rw [hc, hs.table]
  inDoubles := by rw [hc, hs.inDoubles]
  sources := hs.sources.trans hsame.toSameSources
  kept := fun extension kept hk => by
    rw [hc] at hk
    dsimp only [MemoryCache.put, Ledger.hold] at hk ⊢
    by_cases he : extension = d.extension
    · rw [he, Dictionary.find?_put_self] at hk
      cases hk
      rw [if_pos he]
      exact ⟨_, rfl, hd, ht, hcounts, by rw [hs.clock]⟩
    · rw [Dictionary.find?_put_of_ne (Ne.symm he)] at hk
      rw [if_neg he]
      exact hs.kept extension kept (MemoryCache.find?_of_find?_get hk)
  absent := fun extension h hfind hlast => by
    rw [hc] at hfind
    dsimp only [MemoryCache.put, Ledger.hold] at hfind hlast ⊢
    by_cases he : extension = d.extension
    · rw [he, Dictionary.find?_put_self] at hfind
      cases hfind
    · rw [Dictionary.find?_put_of_ne (Ne.symm he), MemoryCache.find?_get_of_ne he] at hfind
      rw [if_neg he] at hlast
      exact hs.absent extension h hfind hlast

/-- A ledger still shadows memory after a resolution. If the extension has a holder, its value is
found, and memory stays as it is. If not, the manifest is asked, and the resolution holds the
extension if it is told a key that can be kept. -/
theorem Shadows.resolve {l : Ledger} (hs : Shadows usual w₀ l w) (d : KeyDescriptor) :
    Shadows usual w₀ (l.perform usual (isKept usual w₀) (.resolve d))
      (after (Resolving.resolve usual d) w) := by
  have hsame := resolve_sameMoment usual d w
  have hcache := resolve_cache hs.table usual d
  by_cases hd : d.isLatest = false
  · rw [if_pos hd] at hcache
    rw [Ledger.perform_resolve_of_not (by simp [hd])]
    exact hs.unchanged hcache hsame
  have hd' : d.isLatest = true := by simpa using hd
  rw [if_neg hd] at hcache
  cases hh : l.holder? usual d.extension with
  | some h =>
    obtain ⟨-, -, v, hk, -⟩ := hs.kept?_of_holder hh
    have hget : (w.cache.memory.get w.clock d.extension).1 = some v :=
      (Option.filter_eq_some_iff.mp hk).1
    rw [hk, MemoryCache.get_snd_of_some hget] at hcache
    rw [Ledger.perform_resolve_of_not (by simp [hh])]
    exact hs.unchanged hcache hsame
  | none =>
    rw [hs.kept?_of_no_holder hh, fetch_result_congr hs.sources d, overruns_inMemory hs.table,
      hs.counts] at hcache
    by_cases ht : isKept usual w₀ d = true
    · obtain ⟨⟨v, hv⟩, hcounts⟩ := isKept_iff.mp ht
      rw [fetch_eq_some_iff.mpr hv, hcounts] at hcache
      have hl : l.perform usual (isKept usual w₀) (.resolve d) = l.hold d :=
        if_pos (by simp [hd', hh, ht])
      rw [hl]
      exact hs.hold hd' hv hcounts hcache hsame
    · rw [Ledger.perform_resolve_of_not (by simp [ht])]
      refine hs.dropped hh (hcache.trans ?_) hsame
      dsimp only
      split
      · rename_i v _ hf
        have hendless : w₀.cache.counts usual = false := by
          by_contra hcounts
          exact ht (isKept_iff.mpr ⟨⟨v, fetch_eq_some_iff.mp hf⟩, by simpa using hcounts⟩)
        rw [hendless]
        rfl
      · rfl

/-- Throughout a run the ledger tells what is kept in memory. -/
theorem called_shadows (usual : Int) (w₀ : World) (calls : List Call) :
    Shadows usual w₀ (ledger usual w₀ calls) (called usual w₀ calls) := by
  induction calls using List.reverseRecOn with
  | nil => exact ⟨rfl, rfl, rfl, sameSources_emptied w₀, nofun, nofun⟩
  | append_singleton calls c ih =>
    rw [ledger_snoc, called_snoc]
    cases c with
    | wait seconds => exact ih.wait seconds
    | resolve d => exact ih.resolve d

/-- A holder of an extension has called for it before. -/
theorem ledger_last? (usual : Int) (w₀ : World) (calls : List Call) (extension : String)
    (h : Holder) (hl : (ledger usual w₀ calls).last? extension = some h) :
    ∃ earlier later, calls = earlier ++ .resolve h.asker :: later ∧ h.asker.isLatest = true ∧
      h.asker.extension = extension ∧ h.since = (called usual w₀ earlier).clock := by
  induction calls using List.reverseRecOn with
  | nil => cases hl
  | append_singleton calls c ih =>
    have earlier (hl : (ledger usual w₀ calls).last? extension = some h) :
        ∃ earlier later, calls ++ [c] = earlier ++ .resolve h.asker :: later ∧
          h.asker.isLatest = true ∧ h.asker.extension = extension ∧
          h.since = (called usual w₀ earlier).clock := by
      obtain ⟨before, later, rfl, hd, he, hsince⟩ := ih hl
      exact ⟨before, later ++ [c], by simp, hd, he, hsince⟩
    rw [ledger_snoc] at hl
    cases c with
    | wait seconds => exact earlier hl
    | resolve d =>
      dsimp only [Ledger.perform] at hl
      split at hl
      · rename_i hcond
        dsimp only [Ledger.hold] at hl
        split at hl
        · rename_i he
          cases hl
          have hd : d.isLatest = true := by
            simp only [Bool.and_eq_true] at hcond
            exact hcond.1.1
          exact ⟨calls, [], rfl, hd, he.symm, (called_shadows usual w₀ calls).clock.symm⟩
        · exact earlier hl
      · exact earlier hl

/-- The exact answer of every resolution in a run of resolutions and of time that passes: it is what
a resolver that keeps nothing answers to the key that holds the extension, which is this key itself
or one for the same extension that was resolved less than the usual time ago. So keeping keys
changes nothing as long as all keys of an extension that are resolved have the same answer. -/
theorem resolve_eq_alone_inForce (usual : Int) (w₀ : World) (calls : List Call)
    (d : KeyDescriptor) :
    let w := called usual w₀ calls
    let d' := (ledger usual w₀ calls).inForce usual d
    result (resolve usual d) w = alone usual w₀ d' ∧
    (d' = d ∨ d.isLatest = true ∧ ∃ earlier later, calls = earlier ++ .resolve d' :: later ∧
      d'.isLatest = true ∧ d'.extension = d.extension ∧
      w.clock - (called usual w₀ earlier).clock < usual) ∧
    ((∀ d'', .resolve d'' ∈ calls → d''.isLatest = true → d''.extension = d.extension →
      alone usual w₀ d'' = alone usual w₀ d) →
        result (resolve usual d) w = alone usual w₀ d) := by
  intro w d'
  have hs := called_shadows usual w₀ calls
  have hl : result (Caching.lookup d.extension) w = .ok (Caching.kept? w d.extension) :=
    result_eq (Caching.lookup_memory hs.table d.extension)
  have hanswer : result (resolve usual d) w = alone usual w₀ d' ∧
      (d' = d ∨ d.isLatest = true ∧ ∃ earlier later, calls = earlier ++ .resolve d' :: later ∧
        d'.isLatest = true ∧ d'.extension = d.extension ∧
        w.clock - (called usual w₀ earlier).clock < usual) := by
    cases hd : d.isLatest with
    | false =>
      have hd' : d' = d := if_neg (by simp [hd])
      rw [hd']
      refine ⟨?_, .inl rfl⟩
      have hw : result (resolve usual d) w = .ok d.key := result_eq (resolve_unmarked hd)
      exact hw.trans (result_eq (resolve_unmarked hd)).symm
    | true =>
      have hd' : d' = (((ledger usual w₀ calls).holder? usual d.extension).map (·.asker)).getD d :=
        if_pos hd
      cases hh : (ledger usual w₀ calls).holder? usual d.extension with
      | none =>
        rw [hh] at hd'
        rw [hd']
        refine ⟨?_, .inl rfl⟩
        rw [hs.kept?_of_no_holder hh] at hl
        have hover : Caching.overruns usual w = Caching.overruns usual w₀.emptied := by
          rw [overruns_inMemory hs.table, overruns_inMemory rfl, hs.counts]
          rfl
        exact resolve_result_congr hd ((sameSources_emptied w₀).symm.trans hs.sources) hover
          (lookup_emptied d.extension w₀) hl
      | some h =>
        rw [hh] at hd'
        rw [hd']
        obtain ⟨hlatest, hcounts, v, hk, ht⟩ := hs.kept?_of_holder hh
        rw [hk] at hl
        obtain ⟨hlast, hlive⟩ := Option.filter_eq_some_iff.mp hh
        obtain ⟨earlier, later, hcalls, -, he, hsince⟩ := ledger_last? usual w₀ calls _ h hlast
        refine ⟨?_, .inr ⟨rfl, earlier, later, hcalls, hlatest, he, ?_⟩⟩
        · exact (result_eq (resolve_kept hd hl)).trans (alone_of_tells hlatest ht hcounts).symm
        · have hlt : (ledger usual w₀ calls).now < h.since + usual := by simpa using hlive
          rw [← hsince, hs.clock]
          linarith
  refine ⟨hanswer.1, hanswer.2, fun hsame => ?_⟩
  rcases hanswer.2 with hself | ⟨-, earlier, later, hcalls, hd', he, -⟩
  · rw [hanswer.1, hself]
  · have hmem : Call.resolve d' ∈ calls := by
      rw [hcalls]
      simp
    rw [hanswer.1]
    exact hsame d' hmem hd' he

/-- A key for another architecture is answered with the one that is kept for the extension, which a
resolver that keeps nothing would not answer. -/
theorem resolve_other_architecture :
    let w := linuxWorld
      "version: 1.2.3\nfiles:\n  - url: app-1.2.3_x64.deb\n  - url: app-1.2.3_arm64.deb\n"
    let x64 := KeyDescriptor.parse "desktop/app-latest_x64.deb"
    let arm64 := KeyDescriptor.parse "desktop/app-latest_arm64.deb"
    result (resolve 300 arm64) (called 300 w [.resolve x64]) = .ok "desktop/app-1.2.3_x64.deb" ∧
      alone 300 w arm64 = .ok "desktop/app-1.2.3_arm64.deb" := by
  decide +kernel

end InstallerGateway.Resolving
