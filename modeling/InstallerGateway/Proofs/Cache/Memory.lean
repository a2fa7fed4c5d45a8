import InstallerGateway.Cache.Basic
import Mathlib.Algebra.Order.Ring.Unbundled.Rat

/-!
# What is found in memory

Asking for a name drops its value if the time of the value is over, and changes nothing else.
-/

namespace InstallerGateway.MemoryCache

variable {m : MemoryCache} {now : Instant} {name value : String} {kept : Kept}

theorem get_of_absent (h : Dictionary.find? name m = none) : m.get now name = (none, m) := by
  unfold get
  rw [h]

theorem get_of_over (h : Dictionary.find? name m = some kept) (ht : kept.expiresAt ≤ now) :
    m.get now name = (none, m.remove name) := by
  unfold get
  rw [h]
  exact if_pos ht

theorem get_of_kept (h : Dictionary.find? name m = some kept) (ht : now < kept.expiresAt) :
    m.get now name = (some kept.value, m) := by
  unfold get
  rw [h]
  exact if_neg (not_le.mpr ht)

/-- What is found is the value that is kept, unless its time is over. -/
theorem get_fst (now : Instant) (name : String) (m : MemoryCache) : (m.get now name).1 =
    ((Dictionary.find? name m).filter fun kept => now < kept.expiresAt).map Kept.value := by
  cases hk : Dictionary.find? name m with
  | none => rw [get_of_absent hk, Option.filter_none, Option.map_none]
  | some kept =>
    by_cases ht : kept.expiresAt ≤ now
    · rw [get_of_over hk ht, Option.filter_some_neg (by simpa using ht), Option.map_none]
    · have ht' : now < kept.expiresAt := not_le.mp ht
      rw [get_of_kept hk ht', Option.filter_some_pos (by simpa using ht'), Option.map_some]

/-- A value whose time is over is dropped when it is asked for. -/
theorem find?_get (now : Instant) (name : String) (m : MemoryCache) :
    Dictionary.find? name (m.get now name).2 =
      (Dictionary.find? name m).filter fun kept => now < kept.expiresAt := by
  cases hk : Dictionary.find? name m with
  | none => rw [get_of_absent hk, hk, Option.filter_none]
  | some kept =>
    by_cases ht : kept.expiresAt ≤ now
    · rw [get_of_over hk ht, Dictionary.find?_remove_self,
        Option.filter_some_neg (by simpa using ht)]
    · have ht' : now < kept.expiresAt := not_le.mp ht
      rw [get_of_kept hk ht', hk, Option.filter_some_pos (by simpa using ht')]

/-- A value is found exactly if it is kept and its time is not over. -/
theorem get_eq_some_iff : (m.get now name).1 = some value ↔
    ∃ kept, Dictionary.find? name m = some kept ∧ now < kept.expiresAt ∧ kept.value = value := by
  simp [get_fst, Option.filter_eq_some_iff, and_assoc]

theorem get_snd_of_some (h : (m.get now name).1 = some value) : (m.get now name).2 = m := by
  obtain ⟨kept, hk, ht, -⟩ := get_eq_some_iff.mp h
  rw [get_of_kept hk ht]

/-- A name that is asked for in vain has no value any more. -/
theorem find?_get_self (h : (m.get now name).1 = none) :
    Dictionary.find? name (m.get now name).2 = none := by
  rw [get_fst, Option.map_eq_none_iff] at h
  rw [find?_get, h]

/-- Asking for a name makes no difference to others. -/
theorem find?_get_of_ne {other : String} (hne : other ≠ name) :
    Dictionary.find? other (m.get now name).2 = Dictionary.find? other m := by
  cases hk : Dictionary.find? name m with
  | none => rw [get_of_absent hk]
  | some kept =>
    by_cases ht : kept.expiresAt ≤ now
    · rw [get_of_over hk ht]
      exact Dictionary.find?_remove_of_ne (Ne.symm hne) _
    · rw [get_of_kept hk (not_le.mp ht)]

/-- Nothing new is kept by asking. -/
theorem find?_of_find?_get {other : String}
    (h : Dictionary.find? other (m.get now name).2 = some kept) :
    Dictionary.find? other m = some kept := by
  by_cases hne : other = name
  · subst hne
    cases hv : (m.get now other).1 with
    | none => cases (find?_get_self hv).symm.trans h
    | some v => rwa [get_snd_of_some hv] at h
  · rwa [find?_get_of_ne hne] at h

end InstallerGateway.MemoryCache
