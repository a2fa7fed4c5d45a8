import InstallerGateway.Proofs.Resolving.Failure
import InstallerGateway.Proofs.Resolving.Run
import Mathlib.Data.List.Induction
import Mathlib.Tactic.Linarith

/-!
# Where resolved keys come from

Every key that is found in a run is the key itself, or was told by a manifest: by the one that is
read just then, or by one that an earlier resolution for the same extension has read, less than the
usual time ago. The invariant is that each value in memory was put there by such a resolution, and
that its time is over the usual time after it.
-/

namespace InstallerGateway.Resolving

open Act

variable {usual : Int} {d : KeyDescriptor} {w w₀ : World} {v : String}

/-- In the world `w` the resolution of `d` reads a manifest, and the manifest tells the key `v`. -/
structure ReadsFrom (usual : Int) (d : KeyDescriptor) (w : World) (v : String) : Prop where
  isLatest : d.isLatest = true
  /-- The store is asked for the manifest. -/
  asks : ∃ key, manifestKey w.platforms.table d = .ok key ∧
    .storeGet key ∈ noted (resolve usual d) w
  tells : Tells w d v

/-! ## What is noted -/

/-- A key that is told comes from the manifest. -/
theorem readsFrom_of_told (hd : d.isLatest = true)
    (hn : result (Caching.lookup d.extension) w = .ok none)
    (hf : result (fetch d) w = .ok (some v)) : ReadsFrom usual d w v := by
  have ht : Tells w d v := fetch_eq_some_iff.mp hf
  obtain ⟨key, o, m, hkey, ho, hm, hv⟩ := ht
  obtain ⟨_, memory, before, hl⟩ := Caching.lookup_perform d.extension w
  have hwl : after (Caching.lookup d.extension) w = (w.withMemory memory).noting before :=
    after_eq hl
  have hs := Caching.lookup_sameMoment d.extension w
  obtain ⟨-, events, hwf, -, hasked⟩ := fetch_spec d (after (Caching.lookup d.extension) w)
  obtain ⟨_, table, last, hput⟩ := Caching.store_perform usual d.extension v
    (after (fetch d) (after (Caching.lookup d.extension) w))
  have hp : after (resolve usual d) w = _ :=
    (after_eq (resolve_told hd hn hf)).trans (after_eq hput)
  have hnoted : noted (resolve usual d) w = last ++ events ++ before := by
    apply noted_eq
    rw [hp, hwf, hwl]
    simp
  refine ⟨hd, ⟨key, hkey, ?_⟩, key, o, m, hkey, ho, hm, hv⟩
  rw [hnoted]
  have hmem : .storeGet key ∈ events := hasked key (by rw [hs.table, hkey])
  simp [hmem]

/-- If the manifest tells no key, nothing is kept. -/
theorem cachePut_not_mem_noted (hc : w.cache.table = none) (hd : d.isLatest = true)
    (hn : result (Caching.lookup d.extension) w = .ok none) (ht : ∀ v, ¬ Tells w d v)
    (token : String) : .cachePut token ∉ noted (resolve usual d) w := by
  have hl : after (Caching.lookup d.extension) w = _ :=
    after_eq (Caching.lookup_memory hc d.extension)
  obtain ⟨-, events, hw, hsearch, -⟩ := fetch_spec d (after (Caching.lookup d.extension) w)
  have hnoted : noted (resolve usual d) w = events ++ [.cacheGet d.extension] := by
    apply noted_eq
    rw [after_resolve_untold hd hn ht, hw, hl]
    simp
  rw [hnoted]
  intro hmem
  rcases List.mem_append.mp hmem with h | h
  · exact hsearch _ h
  · simp at h

/-! ## Steps -/

/-- The step is a resolution that has read the value from a manifest and keeps it for the usual
time. -/
def Step.Reads (usual : Int) (w : World) (s : Step) (extension : String) (kept : Kept) : Prop :=
  ∃ d, s = .call (.resolve d) ∧ d.extension = extension ∧ ReadsFrom usual d w kept.value ∧
    kept.expiresAt = w.clock + usual

/-- A value in memory after a step was there before, or the step has read it. -/
theorem Step.perform_addsOnly (usual : Int) (h : w.cache.table = none) (s : Step) :
    Caching.AddsOnly (s.Reads usual w) w (s.perform usual w) := by
  cases s with
  | put key body contentType =>
    have hkeeps := Storing.put_keeps isBesideObjects_cache key body contentType
    exact Caching.addsOnly_of_cache_eq h (hkeeps w)
  | delete key =>
    have hkeeps := Storing.delete_keeps isBesideObjects_cache key
    exact Caching.addsOnly_of_cache_eq h (hkeeps w)
  | replaceTable t => exact Caching.addsOnly_of_cache_eq h rfl
  | call c =>
    cases c with
    | wait seconds => exact Caching.addsOnly_of_cache_eq h rfl
    | resolve d =>
      have hcache := resolve_cache h usual d
      rw [← Step.perform_resolve] at hcache
      by_cases hd : d.isLatest = false
      · rw [if_pos hd] at hcache
        exact Caching.addsOnly_of_cache_eq h hcache
      · rw [if_neg hd] at hcache
        have hl : result (Caching.lookup d.extension) w = .ok (Caching.kept? w d.extension) :=
          result_eq (Caching.lookup_memory h d.extension)
        unfold Caching.AddsOnly
        rw [hcache]
        dsimp only
        split
        · rename_i v hn hf
          rw [hn] at hl
          refine ⟨h, fun extension kept hk => ?_⟩
          dsimp only [MemoryCache.put] at hk
          split_ifs at hk
          · exact .inl (MemoryCache.find?_of_find?_get hk)
          by_cases he : d.extension = extension
          · rw [he, Dictionary.find?_put_self] at hk
            cases hk
            have hd' : d.isLatest = true := by simpa using hd
            exact .inr ⟨d, rfl, he, readsFrom_of_told hd' hl hf, rfl⟩
          · rw [Dictionary.find?_put_of_ne he] at hk
            exact .inl (MemoryCache.find?_of_find?_get hk)
        · exact ⟨h, fun extension kept hk => .inl (MemoryCache.find?_of_find?_get hk)⟩

/-! ## Runs -/

/-- The value was read from a manifest by a resolution of the run, and its time is over the usual
time after that. -/
def ReadBefore (usual : Int) (w₀ : World) (steps : List Step) (extension : String) (kept : Kept) :
    Prop :=
  ∃ earlier d later, steps = earlier ++ .call (.resolve d) :: later ∧ d.extension = extension ∧
    ReadsFrom usual d (run usual w₀.emptied earlier) kept.value ∧
    kept.expiresAt = (run usual w₀.emptied earlier).clock + usual

/-- Values are kept in memory alone, and all of them were read from manifests. -/
theorem run_memory (usual : Int) (w₀ : World) (steps : List Step) :
    (run usual w₀.emptied steps).cache.table = none ∧
      ∀ extension kept,
        Dictionary.find? extension (run usual w₀.emptied steps).cache.memory = some kept →
          ReadBefore usual w₀ steps extension kept := by
  induction steps using List.reverseRecOn with
  | nil => exact ⟨rfl, fun _ _ hk => by cases hk⟩
  | append_singleton steps s ih =>
    obtain ⟨htable, hmemory⟩ := ih
    rw [run_snoc]
    obtain ⟨htable', hstep⟩ := Step.perform_addsOnly usual htable s
    refine ⟨htable', fun extension kept hk => ?_⟩
    rcases hstep extension kept hk with hold | ⟨d, rfl, he, hreads, hexp⟩
    · obtain ⟨earlier, d, later, rfl, he, hreads, hexp⟩ := hmemory extension kept hold
      exact ⟨earlier, d, later ++ [s], by simp, he, hreads, hexp⟩
    · exact ⟨steps, d, [], rfl, he, hreads, hexp⟩

/-- Every key that is found in a run comes from a manifest that was read for its extension less than
the usual time ago, or is the key itself. A key that does not ask for the newest release touches
nothing, a resolution for which the manifest tells nothing keeps nothing, and a value that is found
is kept no longer than before. -/
theorem resolve_provenance (usual : Int) (w₀ : World) (steps : List Step) (d : KeyDescriptor) :
    let w := run usual w₀.emptied steps
    (∀ v, result (resolve usual d) w = .ok v → v = d.key ∨
      d.isLatest = true ∧ (ReadsFrom usual d w v ∨
        ∃ earlier d' later, steps = earlier ++ .call (.resolve d') :: later ∧
          d'.extension = d.extension ∧ ReadsFrom usual d' (run usual w₀.emptied earlier) v ∧
          w.clock - (run usual w₀.emptied earlier).clock < usual)) ∧
    (d.isLatest = false → perform (resolve usual d) w = (.ok d.key, w)) ∧
    (d.isLatest = true → result (Caching.lookup d.extension) w = .ok none →
      (∀ v, ¬ Tells w d v) →
        (after (resolve usual d) w).cache = (after (Caching.lookup d.extension) w).cache ∧
        ∀ token, .cachePut token ∉ noted (resolve usual d) w) ∧
    (∀ v, d.isLatest = true → result (Caching.lookup d.extension) w = .ok (some v) →
      result (resolve usual d) w = .ok v ∧ (after (resolve usual d) w).cache = w.cache) := by
  intro w
  obtain ⟨htable, hmemory⟩ := run_memory usual w₀ steps
  have hl : result (Caching.lookup d.extension) w = .ok (Caching.kept? w d.extension) :=
    result_eq (Caching.lookup_memory htable d.extension)
  refine ⟨?_, resolve_unmarked, ?_, ?_⟩
  · intro v hr
    have ho := resolve_outcome usual d w
    unfold result at hr
    generalize perform (resolve usual d) w = p at ho hr
    cases ho with
    | unmarked _ => exact .inl (Except.ok.inj hr).symm
    | failed _ _ _ => cases hr
    | givenUp _ _ _ => exact .inl (Except.ok.inj hr).symm
    | settled hd hn hf _ =>
      cases hr
      exact .inr ⟨hd, .inl (readsFrom_of_told hd hn hf)⟩
    | overrun _ _ _ _ => cases hr
    | kept hd hv =>
      cases hr
      have hk : Caching.kept? w d.extension = some v := Except.ok.inj (hl.symm.trans hv)
      have hget : (w.cache.memory.get w.clock d.extension).1 = some v :=
        (Option.filter_eq_some_iff.mp hk).1
      obtain ⟨kept, hfind, hlive, rfl⟩ := MemoryCache.get_eq_some_iff.mp hget
      obtain ⟨earlier, d', later, hsteps, he, hreads, hexp⟩ := hmemory _ _ hfind
      refine .inr ⟨hd, .inr ⟨earlier, d', later, hsteps, he, hreads, ?_⟩⟩
      rw [hexp] at hlive
      linarith
  · intro hd hn ht
    exact ⟨(resolve_untold hd hn ht).2.1, cachePut_not_mem_noted htable hd hn ht⟩
  · intro v hd hv
    have hp : perform (resolve usual d) w = _ := resolve_kept hd hv
    refine ⟨result_eq hp, ?_⟩
    have hk : Caching.kept? w d.extension = some v := Except.ok.inj (hl.symm.trans hv)
    have hget : (w.cache.memory.get w.clock d.extension).1 = some v :=
      (Option.filter_eq_some_iff.mp hk).1
    have ha : after (resolve usual d) w = after (Caching.lookup d.extension) w :=
      after_eq hp
    rw [ha, after_lookup_cache htable, MemoryCache.get_snd_of_some hget]

end InstallerGateway.Resolving
