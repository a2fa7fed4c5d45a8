import InstallerGateway.Gateway.Serving
import InstallerGateway.Proofs.Number.Rounding
import Mathlib.Data.List.GetD
import Mathlib.Data.List.Sort

/-!
# Quantiles of durations

A quantile is the value of a certain rank among the durations, whatever their order. The greater the
part that is asked for, the greater the quantile, and this also holds below zero and above one. So
of the two quantiles that tell about the health of the gateway the first is never the greater one.
-/

namespace InstallerGateway

namespace Statistics

variable {values other : List Rat} {round : Rat → Rat} {p q x : Rat} {i j k n : Nat}

/-! ## Values in ascending order -/

theorem insertSorted_eq (x : Rat) (values : List Rat) :
    insertSorted x values = values.orderedInsert (· ≤ ·) x := by
  induction values with
  | nil => rfl
  | cons y rest ih => rw [insertSorted, List.orderedInsert_cons, ih]

theorem sorted_eq (values : List Rat) : sorted values = values.insertionSort (· ≤ ·) := by
  induction values with
  | nil => rfl
  | cons x rest ih => rw [sorted, ih, insertSorted_eq, List.insertionSort_cons]

theorem sorted_perm (values : List Rat) : (sorted values).Perm values := by
  rw [sorted_eq]
  exact List.perm_insertionSort _ values

theorem length_sorted (values : List Rat) : (sorted values).length = values.length :=
  (sorted_perm values).length_eq

theorem sorted_pairwise (values : List Rat) : (sorted values).Pairwise (· ≤ ·) := by
  rw [sorted_eq]
  exact List.pairwise_insertionSort _ values

theorem sorted_of_perm (h : other.Perm values) : sorted other = sorted values := by
  have hperm : (sorted other).Perm (sorted values) :=
    ((sorted_perm other).trans h).trans (sorted_perm values).symm
  exact hperm.eq_of_pairwise' (sorted_pairwise other) (sorted_pairwise values)

theorem getElem_sorted_le (hij : i ≤ j) (hj : j < (sorted values).length) :
    (sorted values)[i] ≤ (sorted values)[j] := by
  rcases hij.lt_or_eq with hlt | rfl
  · exact List.pairwise_iff_getElem.mp (sorted_pairwise values) i j (hlt.trans hj) hj hlt
  · exact le_refl _

/-! ## Ranks -/

/-- The value has a rank among others, the first rank being zero: besides it as many values are not
above it as the rank says, and all the others not below. -/
structure IsOfRank (values : List Rat) (k : Nat) (x : Rat) : Prop where
  mem : x ∈ values
  below : k + 1 ≤ values.countP (· ≤ x)
  above : values.length - k ≤ values.countP (x ≤ ·)

/-- What stands at a place of the sorted values has that rank. -/
theorem isOfRank_getElem (hk : k < (sorted values).length) :
    IsOfRank values k (sorted values)[k] := by
  have hperm := sorted_perm values
  let x := (sorted values)[k]
  refine ⟨hperm.mem_iff.mp (List.getElem_mem hk), ?_, ?_⟩
  · have hall : ∀ y ∈ (sorted values).take (k + 1), decide (y ≤ x) = true := by
      intro y hy
      obtain ⟨i, hi, rfl⟩ := List.mem_take_iff_getElem.mp hy
      exact decide_eq_true (getElem_sorted_le (by omega) hk)
    calc k + 1 = ((sorted values).take (k + 1)).length := by
          rw [List.length_take]
          omega
      _ = ((sorted values).take (k + 1)).countP (· ≤ x) := (List.countP_eq_length.mpr hall).symm
      _ ≤ (sorted values).countP (· ≤ x) := (List.take_sublist _ _).countP_le
      _ = values.countP (· ≤ x) := hperm.countP_eq _
  · have hall : ∀ y ∈ (sorted values).drop k, decide (x ≤ y) = true := by
      intro y hy
      obtain ⟨i, hi, rfl⟩ := List.mem_drop_iff_getElem.mp hy
      exact decide_eq_true (getElem_sorted_le (Nat.le_add_right k i) (by omega))
    calc values.length - k = ((sorted values).drop k).length := by
          rw [List.length_drop, length_sorted]
      _ = ((sorted values).drop k).countP (x ≤ ·) := (List.countP_eq_length.mpr hall).symm
      _ ≤ (sorted values).countP (x ≤ ·) := (List.drop_sublist _ _).countP_le
      _ = values.countP (x ≤ ·) := hperm.countP_eq _

theorem rank_lt (hn : 0 < n) : rank round n p < n := by
  unfold rank
  omega

/-- The rank of a quantile is what is cut off to the ranks that there are. -/
theorem rank_cast (hn : 0 < n) : (rank round n p : Int) =
    max 0 (min ((n : Int) - 1) (truncate (round (p * ((n : Rat) - 1))))) := by
  unfold rank
  generalize truncate (round (p * ((n : Rat) - 1))) = t
  omega

/-- A higher percentile has no lower rank. -/
theorem rank_mono (hround : Monotone round) (hn : 0 < n) (h : p ≤ q) :
    rank round n p ≤ rank round n q := by
  have hlast : (0 : Rat) ≤ (n : Rat) - 1 := by
    have hone : (1 : Rat) ≤ n := by exact_mod_cast hn
    linarith
  have hproduct : p * ((n : Rat) - 1) ≤ q * ((n : Rat) - 1) := mul_le_mul_of_nonneg_right h hlast
  have htruncate := truncate_mono (hround hproduct)
  unfold rank
  omega

/-! ## Quantiles -/

/-- A percentile is the value of its rank. -/
theorem percentile_eq_getElem (round : Rat → Rat) (hne : values ≠ []) (p : Rat) :
    ∃ hk : rank round values.length p < (sorted values).length,
      percentile round values p = (sorted values)[rank round values.length p] := by
  have hk : rank round values.length p < (sorted values).length := by
    rw [length_sorted]
    exact rank_lt (List.length_pos_iff.mpr hne)
  refine ⟨hk, ?_⟩
  unfold percentile
  exact List.getD_eq_getElem _ _ hk

theorem percentile_of_perm (h : other.Perm values) (p : Rat) :
    percentile round other p = percentile round values p := by
  unfold percentile
  rw [sorted_of_perm h, h.length_eq]

/-- A higher percentile is no less. -/
theorem percentile_mono (hround : Monotone round) (values : List Rat) :
    Monotone (percentile round values) := by
  intro p q h
  by_cases hempty : values = []
  · rw [hempty]
    exact le_refl _
  · obtain ⟨hp, hpercentile⟩ := percentile_eq_getElem round hempty p
    obtain ⟨hq, hpercentile'⟩ := percentile_eq_getElem round hempty q
    rw [hpercentile, hpercentile']
    exact getElem_sorted_le (rank_mono hround (List.length_pos_iff.mpr hempty) h) hq

end Statistics

theorem milliseconds_mono {x y : Rat} (h : x ≤ y) : milliseconds x ≤ milliseconds y :=
  truncate_mono (roundTo53_mono (mul_le_mul_of_nonneg_right h (by norm_num)))

namespace Statistics

variable {values : List Rat} {round : Rat → Rat}

theorem quantile_mono (s : Statistics) {p q : Rat} (h : p ≤ q) :
    Gateway.quantile s p ≤ Gateway.quantile s q :=
  milliseconds_mono (percentile_mono roundTo53_mono s.durations h)

/-- The quantile `p` of durations, at least one, is of the rank `p * (n - 1)`, the fraction dropped
and cut off to the ranks that there are. This holds for every rounding of that product that keeps
the order of numbers, like none at all. The quantile does not depend on the order of the durations,
and grows with `p`. So of the two that tell about the health of the gateway the one for one half is
never the greater one. -/
theorem percentile_is_order_statistic (hround : Monotone round) (hne : values ≠ []) :
    (∀ p, ∃ k : Nat, (k : Int) = max 0 (min ((values.length : Int) - 1)
        (truncate (round (p * ((values.length : Rat) - 1))))) ∧
      IsOfRank values k (percentile round values p)) ∧
    (∀ other : List Rat, other.Perm values → ∀ p,
      percentile round other p = percentile round values p) ∧
    Monotone (percentile round values) ∧
    ∀ s : Statistics, ∃ p50 p95 : Int, p50 ≤ p95 ∧ Gateway.health s = .ofDatum 200 (.object [
      ("ok", .bool true), ("p50_ms", .int p50), ("p95_ms", .int p95),
      ("requests", .object [("err", .int s.err), ("ok", .int s.ok)])]) := by
  refine ⟨fun p => ?_, fun other h p => percentile_of_perm h p, percentile_mono hround values,
    fun s => ?_⟩
  · obtain ⟨hk, hpercentile⟩ := percentile_eq_getElem round hne p
    refine ⟨_, rank_cast (List.length_pos_iff.mpr hne), ?_⟩
    rw [hpercentile]
    exact isOfRank_getElem hk
  · have hless : roundTo53 (1 / 2) ≤ roundTo53 (19 / 20) := roundTo53_mono (by norm_num)
    exact ⟨_, _, quantile_mono s hless, rfl⟩

/-- Quantiles of four durations, two of them the same, for a part below zero, one half, and a part
above one. -/
theorem percentile_of_four_durations :
    let values : List Rat := [30, 10, 20, 10]
    Monotone (id : Rat → Rat) ∧ values ≠ [] ∧
      [-1, 1 / 2, 2].map (percentile id values) = [10, 10, 30] ∧
      IsOfRank values 1 (percentile id values (1 / 2)) ∧
      percentile id [10, 10, 20, 30] (1 / 2) = percentile id values (1 / 2) ∧
      percentile id values (-1) ≤ percentile id values 2 := by
  intro values
  have hne : values ≠ [] := List.cons_ne_nil _ _
  obtain ⟨hranks, hperm, hmono, -⟩ := percentile_is_order_statistic monotone_id hne
  obtain ⟨k, hk, hrank⟩ := hranks (1 / 2)
  have hone : k = 1 := by
    have hcut : max 0 (min ((values.length : Int) - 1)
        (truncate (id ((1 / 2 : Rat) * ((values.length : Rat) - 1))))) = 1 := by decide +kernel
    omega
  exact ⟨monotone_id, hne, by decide +kernel, hone ▸ hrank,
    hperm [10, 10, 20, 30] (by decide) _, hmono (by norm_num)⟩

end Statistics

end InstallerGateway
