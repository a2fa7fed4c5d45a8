import InstallerGateway.Proofs.Resolving.Outcome
import InstallerGateway.World.Basic

/-!
# When a resolution fails

A resolution fails only if a value would have to be found in the manifest, and the manifest is out
of reach, or tells a key that cannot be kept: the store fails, no use can be made of the document,
or the usual time overruns. A manifest of any other kind that tells nothing leaves what is kept as
the lookup left it, and the key stands for itself.
-/

namespace InstallerGateway.Resolving

open Act

variable {usual : Int} {d : KeyDescriptor} {w : World} {v key : String} {f : Fault}

/-! ## Failing -/

/-- A resolution fails exactly if no value is kept for the key and its manifest is out of reach, or
tells a key that cannot be kept. -/
theorem resolve_eq_error_iff : result (resolve usual d) w = .error f ↔
    d.isLatest = true ∧ result (Caching.lookup d.extension) w = .ok none ∧
      (OutOfReach w d f ∨
        f = .endlessDuration ∧ Caching.overruns usual w = true ∧ ∃ v, Tells w d v) := by
  simp only [← fetch_eq_error_iff, ← fetch_eq_some_iff]
  constructor
  · intro h
    have ho := resolve_outcome usual d w
    unfold result at h
    generalize perform (resolve usual d) w = p at h ho
    cases ho with
    | unmarked _ => cases h
    | kept _ _ => cases h
    | failed hd hn hf =>
      cases h
      exact ⟨hd, hn, .inl hf⟩
    | givenUp _ _ _ => cases h
    | settled _ _ _ _ => cases h
    | overrun hd hn hf hover =>
      cases h
      exact ⟨hd, hn, .inr ⟨rfl, hover, _, hf⟩⟩
  · rintro ⟨hd, hn, hf | ⟨rfl, hover, v, hf⟩⟩
    · exact result_eq (resolve_failed hd hn hf)
    · exact result_eq (resolve_overrun hd hn hf hover)

/-- If the manifest tells nothing, the world is left as looking for the manifest leaves it. -/
theorem after_resolve_untold (hd : d.isLatest = true)
    (hn : result (Caching.lookup d.extension) w = .ok none) (ht : ∀ v, ¬ Tells w d v) :
    after (resolve usual d) w = after (fetch d) (after (Caching.lookup d.extension) w) := by
  cases hf : result (fetch d) w with
  | error f => exact after_eq (resolve_failed hd hn hf)
  | ok found =>
    cases found with
    | none => exact after_eq (resolve_givenUp hd hn hf)
    | some v => exact absurd (fetch_eq_some_iff.mp hf) (ht v)

/-- If the manifest tells nothing, what is kept remains as the lookup left it, and a key that is
found is the key itself. -/
theorem resolve_untold (hd : d.isLatest = true)
    (hn : result (Caching.lookup d.extension) w = .ok none) (ht : ∀ v, ¬ Tells w d v) :
    (∀ key, result (resolve usual d) w = .ok key → key = d.key) ∧
      (after (resolve usual d) w).cache = (after (Caching.lookup d.extension) w).cache ∧
      (after (resolve usual d) w).table = (after (Caching.lookup d.extension) w).table := by
  constructor
  · intro key hr
    cases hf : result (fetch d) w with
    | error f => cases (result_eq (resolve_failed hd hn hf)).symm.trans hr
    | ok found =>
      cases found with
      | none =>
        cases (result_eq (resolve_givenUp hd hn hf)).symm.trans hr
        rfl
      | some v => exact absurd (fetch_eq_some_iff.mp hf) (ht v)
  · obtain ⟨-, events, hw, -⟩ := fetch_spec d (after (Caching.lookup d.extension) w)
    rw [after_resolve_untold hd hn ht, hw]
    exact ⟨rfl, rfl⟩

/-- A world with a manifest for packages of Linux, in which nothing has been done yet. -/
def linuxWorld (manifest : String) : World :=
  { World.start 0 with
    storage := ⟨[("desktop/latest-linux.yml", manifest.toUTF8, none)], none, ""⟩
    platforms := ⟨.ofSuffixes [("deb", "-linux")], none, false⟩ }

end InstallerGateway.Resolving
