import InstallerGateway.Proofs.Cache.Memory
import InstallerGateway.Proofs.Manifest.Files
import InstallerGateway.Proofs.Resolving.Outcome
import InstallerGateway.World.Refreshing
import Mathlib.Data.NNRat.Defs

/-!
# Runs of resolutions

A run is made of resolutions, of time that passes, and of changes of the store and of the table of
platforms, in any order. It starts with nothing kept in memory, and without a table to keep anything
in. What a resolution leaves in memory is said once, in `resolve_cache`.
-/

namespace InstallerGateway

/-- The world with nothing kept, and with no table to keep anything in. -/
def World.emptied (w : World) : World := { w with cache := ⟨[], none, w.cache.inDoubles⟩ }

namespace Resolving

open Act

/-- A key is resolved, or time passes. -/
inductive Call where
  | resolve (d : KeyDescriptor)
  | wait (seconds : NNRat)

/-- A step of a run. -/
inductive Step where
  | call (c : Call)
  | put (key : String) (body : ByteArray) (contentType : Option String)
  | delete (key : String)
  | replaceTable (t : PlatformTable)

/-- The world after a call. -/
def Call.perform (usual : Int) : Call → World → World
  | .resolve d, w => after (Resolving.resolve usual d) w
  | .wait seconds, w => w.advance seconds

/-- The world after a step. -/
def Step.perform (usual : Int) : Step → World → World
  | .call c, w => c.perform usual w
  | .put key body contentType, w => after (Storing.put key body contentType) w
  | .delete key, w => after (Storing.delete key) w
  | .replaceTable t, w => after (Refreshing.replace t) w

theorem Step.perform_resolve (usual : Int) (d : KeyDescriptor) (w : World) :
    Step.perform usual (.call (.resolve d)) w = after (Resolving.resolve usual d) w := rfl

/-- The world after the steps of a run. -/
def run (usual : Int) (w : World) (steps : List Step) : World :=
  steps.foldl (fun w s => s.perform usual w) w

theorem run_snoc (usual : Int) (w : World) (steps : List Step) (s : Step) :
    run usual w (steps ++ [s]) = s.perform usual (run usual w steps) := by
  simp [run]

variable {w : World}

/-! ## What a resolution leaves in memory -/

theorem after_lookup_cache (h : w.cache.table = none) (extension : String) :
    (after (Caching.lookup extension) w).cache =
      { w.cache with memory := (w.cache.memory.get w.clock extension).2 } := by
  have hw : after (Caching.lookup extension) w = _ :=
    after_eq (Caching.lookup_memory h extension)
  rw [hw]
  rfl

theorem after_fetch_cache (d : KeyDescriptor) (w : World) :
    (after (fetch d) w).cache = w.cache := by
  obtain ⟨-, events, hw, -⟩ := fetch_spec d w
  rw [hw]
  rfl

/-- Without a table, a value overruns exactly if its time cannot be added to what the clock
tells. -/
theorem overruns_inMemory (h : w.cache.table = none) (seconds : Rat) :
    Caching.overruns seconds w = !w.cache.counts seconds := by
  simp [Caching.overruns, h]

/-- In memory, a key is kept unless its time overruns. -/
theorem after_store_cache (h : w.cache.table = none) (usual : Int) (extension v : String) :
    (after (Caching.store (.int usual) extension v .null) w).cache =
      if Caching.overruns usual w then w.cache
      else { w.cache with memory := w.cache.memory.put w.clock extension v usual } := by
  rw [overruns_inMemory h]
  cases hcounts : w.cache.counts usual with
  | true =>
    have hw : after (Caching.store (.int usual) extension v .null) w = _ :=
      after_eq (Caching.store_memory h extension v hcounts)
    rw [hw]
    rfl
  | false =>
    have hw : after (Caching.store (.int usual) extension v .null) w = _ :=
      after_eq (Caching.store_endless h extension v hcounts)
    rw [hw]
    rfl

/-- What a resolution comes to by what the manifest tells. -/
def answerOf (usual : Int) (d : KeyDescriptor) (w : World) :
    Option String → Except Fault String
  | none => .ok d.key
  | some v => if Caching.overruns usual w then .error .endlessDuration else .ok v

/-- What a resolution comes to: the key that is kept, or what the manifest tells, or the key
itself. -/
theorem resolve_result (h : w.cache.table = none) (usual : Int) (d : KeyDescriptor) :
    result (resolve usual d) w =
      if d.isLatest = false then .ok d.key
      else match Caching.kept? w d.extension with
        | some v => .ok v
        | none => (result (fetch d) w).bind (answerOf usual d w) := by
  have hl : result (Caching.lookup d.extension) w = .ok (Caching.kept? w d.extension) :=
    result_eq (Caching.lookup_memory h d.extension)
  cases hd : d.isLatest with
  | false => exact result_eq (resolve_unmarked hd)
  | true =>
    rw [if_neg (by simp)]
    cases hk : Caching.kept? w d.extension with
    | some v => exact result_eq (resolve_kept hd (hk ▸ hl))
    | none =>
      have hmissed : result (Caching.lookup d.extension) w = .ok none := hk ▸ hl
      rcases hf : result (fetch d) w with f | _ | v
      · exact result_eq (resolve_failed hd hmissed hf)
      · exact result_eq (resolve_givenUp hd hmissed hf)
      · exact result_eq (resolve_told hd hmissed hf)

/-- What a resolution leaves in memory: it drops a value whose time is over, and keeps the key that
the manifest tells, if the manifest is asked and tells one that can be kept. -/
theorem resolve_cache (h : w.cache.table = none) (usual : Int) (d : KeyDescriptor) :
    (after (resolve usual d) w).cache =
      if d.isLatest = false then w.cache
      else
        let m := (w.cache.memory.get w.clock d.extension).2
        match Caching.kept? w d.extension, result (fetch d) w with
        | none, .ok (some v) => { w.cache with
          memory := if Caching.overruns usual w then m else m.put w.clock d.extension v usual }
        | _, _ => { w.cache with memory := m } := by
  have hl : result (Caching.lookup d.extension) w = .ok (Caching.kept? w d.extension) :=
    result_eq (Caching.lookup_memory h d.extension)
  have hc := after_lookup_cache h d.extension
  have hcache := (after_fetch_cache d (after (Caching.lookup d.extension) w)).trans hc
  have hclock := (Caching.lookup_sameMoment d.extension w).trans (fetch_sameMoment d _)
  have hstored (v : String) := after_store_cache
    ((congrArg LatestCache.table hcache).trans h) usual d.extension v
  rw [overruns_after_fetch, hcache, hclock.clock] at hstored
  have ho := resolve_outcome usual d w
  unfold after at *
  generalize perform (resolve usual d) w = p at ho ⊢
  cases ho with
  | unmarked hd => rw [if_pos hd]
  | kept hd hv =>
    rw [Except.ok.inj (hl.symm.trans hv), if_neg (by simp [hd])]
    exact hc
  | failed hd hn hf =>
    rw [Except.ok.inj (hl.symm.trans hn), hf, if_neg (by simp [hd])]
    exact hcache
  | givenUp hd hn hf =>
    rw [Except.ok.inj (hl.symm.trans hn), hf, if_neg (by simp [hd])]
    exact hcache
  | settled hd hn hf hlasts =>
    rw [Except.ok.inj (hl.symm.trans hn), hf, if_neg (by simp [hd])]
    refine (hstored _).trans ?_
    rw [hlasts]
    rfl
  | overrun hd hn hf hover =>
    rw [Except.ok.inj (hl.symm.trans hn), hf, if_neg (by simp [hd])]
    refine (hstored _).trans ?_
    rw [hover]
    rfl

end Resolving

end InstallerGateway
