import InstallerGateway.Number.Binary64
import Mathlib.Algebra.Order.Field.Power
import Mathlib.Data.Rat.Floor
import Mathlib.Tactic.FieldSimp
import Mathlib.Tactic.Linarith
import Mathlib.Tactic.NormNum
import Mathlib.Tactic.Positivity
import Mathlib.Tactic.Ring

/-!
# Rounding

Rounding to a natural number, to 53 significant bits, and cutting off a fraction keep the order of
numbers. The binary exponent of a positive number is the one between whose powers of two it lies.
-/

namespace InstallerGateway

/-- Leaving out fractions keeps the order. -/
theorem truncate_mono {x y : Rat} (h : x ≤ y) : truncate x ≤ truncate y := by
  unfold truncate
  split
  · rename_i hx
    split
    · exact Rat.ceil_le_iff.mpr (h.trans Rat.le_ceil)
    · rename_i hy
      have hx' : x.ceil ≤ 0 := Rat.ceil_le_iff.mpr (by simpa using le_of_lt hx)
      have hy' : 0 ≤ y.floor := Rat.le_floor_iff.mpr (by simpa using hy)
      exact hx'.trans hy'
  · rename_i hx
    rw [if_neg fun hy => hx (h.trans_lt hy)]
    exact Rat.floor_monotone h

namespace Binary64

variable {x y : Rat} {n : Nat} {e f k : Int}

/-! ## Powers of two -/

theorem twoPow_eq_zpow (e : Int) : twoPow e = (2 : Rat) ^ e := by
  cases e with
  | ofNat n => exact (zpow_natCast 2 n).symm
  | negSucc n => rw [zpow_negSucc, ← one_div]; rfl

theorem twoPow_pos (e : Int) : 0 < twoPow e := by
  rw [twoPow_eq_zpow]
  exact zpow_pos (by norm_num) e

theorem twoPow_add (e f : Int) : twoPow (e + f) = twoPow e * twoPow f := by
  simp only [twoPow_eq_zpow]
  exact zpow_add₀ (by norm_num) e f

theorem twoPow_natCast (n : Nat) : twoPow n = 2 ^ n := rfl

theorem twoPow_succ (e : Int) : twoPow (e + 1) = 2 * twoPow e := by
  rw [twoPow_add, mul_comm]
  rfl

theorem twoPow_le_iff : twoPow e ≤ twoPow f ↔ e ≤ f := by
  simp only [twoPow_eq_zpow]
  exact zpow_le_zpow_iff_right₀ (by norm_num)

theorem twoPow_lt_iff : twoPow e < twoPow f ↔ e < f := by
  simp only [twoPow_eq_zpow]
  exact zpow_lt_zpow_iff_right₀ (by norm_num)

/-! ## The binary exponent -/

/-- A positive number lies between the power of two with its binary exponent and the next one. -/
theorem binaryExponent_spec (hx : 0 < x) :
    twoPow (binaryExponent x) ≤ x ∧ x < twoPow (binaryExponent x + 1) := by
  let a := x.num.toNat
  let b := x.den
  have hnum : 0 < x.num := Rat.num_pos.mpr hx
  have ha : a ≠ 0 := by omega
  have hb : b ≠ 0 := x.den_nz
  have hvalue : x * b = a := by
    have hcast : ((a : Int) : Rat) = x.num := by
      rw [Int.toNat_of_nonneg hnum.le]
    rw [Int.cast_natCast] at hcast
    rw [hcast]
    exact Rat.mul_den_eq_num x
  have hblow : (2 : Rat) ^ b.log2 ≤ b := by exact_mod_cast Nat.log2_self_le hb
  have hbhigh : (b : Rat) < 2 ^ (b.log2 + 1) := by exact_mod_cast Nat.lt_log2_self
  have halow : (2 : Rat) ^ a.log2 ≤ a := by exact_mod_cast Nat.log2_self_le ha
  have hahigh : (a : Rat) < 2 ^ (a.log2 + 1) := by exact_mod_cast Nat.lt_log2_self
  let k : Int := (a.log2 : Int) - (b.log2 : Int)
  have hsplit (j : Int) : twoPow (k + j) * 2 ^ b.log2 = 2 ^ a.log2 * twoPow j := by
    rw [← twoPow_natCast, ← twoPow_natCast, ← twoPow_add, ← twoPow_add]
    congr 1
    omega
  have hbpos : (0 : Rat) < 2 ^ b.log2 := by positivity
  have hlow : twoPow (k - 1) < x := by
    have hk := hsplit (-1)
    have hhalf : twoPow (-1) = 1 / 2 := by norm_num [twoPow_eq_zpow]
    rw [hhalf] at hk
    have hbound : twoPow (k - 1) * 2 ^ b.log2 * 2 ≤ x * b := by
      rw [Int.sub_eq_add_neg, hk, hvalue]
      linarith
    have hstrict : x * b < x * (2 ^ b.log2 * 2) := by
      rw [← pow_succ]
      exact mul_lt_mul_of_pos_left hbhigh hx
    nlinarith
  have hhigh : x < twoPow (k + 1) := by
    have hk := hsplit 1
    have htwo : twoPow 1 = 2 := by norm_num [twoPow_eq_zpow]
    rw [htwo] at hk
    have hbound : x * b < twoPow (k + 1) * 2 ^ b.log2 := by
      rw [hvalue, hk, ← pow_succ]
      exact hahigh
    have hmono : x * 2 ^ b.log2 ≤ x * b := mul_le_mul_of_nonneg_left hblow hx.le
    nlinarith
  have hexponent : binaryExponent x = if x < twoPow k then k - 1 else k := rfl
  rw [hexponent]
  split_ifs with h
  · exact ⟨hlow.le, by rwa [Int.sub_add_cancel]⟩
  · exact ⟨not_lt.mp h, hhigh⟩

theorem binaryExponent_eq (hlow : twoPow k ≤ x) (hhigh : x < twoPow (k + 1)) :
    binaryExponent x = k := by
  obtain ⟨hlow', hhigh'⟩ := binaryExponent_spec ((twoPow_pos k).trans_le hlow)
  have hle := twoPow_lt_iff.mp (hlow.trans_lt hhigh')
  have hge := twoPow_lt_iff.mp (hlow'.trans_lt hhigh)
  omega

theorem binaryExponent_mono (hx : 0 < x) (h : x ≤ y) : binaryExponent x ≤ binaryExponent y := by
  obtain ⟨hlow, -⟩ := binaryExponent_spec hx
  obtain ⟨-, hhigh⟩ := binaryExponent_spec (hx.trans_le h)
  have hlt := twoPow_lt_iff.mp ((hlow.trans h).trans_lt hhigh)
  omega

/-! ## Natural numbers -/

theorem floor_toNat (hx : 0 ≤ x) : ((x.floor.toNat : Nat) : Rat) = x.floor := by
  have hfloor : 0 ≤ x.floor := Rat.le_floor_iff.mpr (by simpa using hx)
  rw [← Int.cast_natCast, Int.toNat_of_nonneg hfloor]

/-- Less than a half away from a natural number it is the nearest. -/
theorem roundHalfEven_eq (hlow : (n : Rat) - 1 / 2 < x) (hhigh : x < n + 1 / 2) :
    roundHalfEven x = n := by
  unfold roundHalfEven
  dsimp only
  by_cases hn : (n : Rat) ≤ x
  · have hfloor : x.floor = n := by
      have hle : (n : Int) ≤ x.floor := Rat.le_floor_iff.mpr (by simpa using hn)
      have hlt : x.floor < (n : Int) + 1 := Rat.floor_lt_iff.mpr (by push_cast; linarith)
      omega
    rw [hfloor, Int.toNat_natCast, if_pos (by linarith)]
  · -- the number lies between the natural number and the one before, or below zero
    cases n with
    | zero =>
      have hneg : x < 0 := by simpa using hn
      have hfloor : x.floor.toNat = 0 := by
        have hlt : x.floor < 0 := Rat.floor_lt_iff.mpr (by simpa using hneg)
        omega
      rw [hfloor, if_pos (by push_cast; linarith)]
    | succ n =>
      push_cast at hn hlow
      have hfloor : x.floor = n := by
        have hle : (n : Int) ≤ x.floor := Rat.le_floor_iff.mpr (by push_cast; linarith)
        have hlt : x.floor < (n : Int) + 1 := Rat.floor_lt_iff.mpr (by push_cast; linarith)
        omega
      rw [hfloor, Int.toNat_natCast, if_neg (by linarith), if_pos (by linarith)]

theorem roundHalfEven_natCast (n : Nat) : roundHalfEven n = n :=
  roundHalfEven_eq (by linarith) (by linarith)

/-- A number is rounded to one of the two integers beside it, at most a half away. -/
theorem roundHalfEven_cases (x : Rat) :
    roundHalfEven x = x.floor.toNat ∧ x - x.floor.toNat ≤ 1 / 2 ∨
      roundHalfEven x = x.floor.toNat + 1 ∧ 1 / 2 ≤ x - x.floor.toNat := by
  unfold roundHalfEven
  dsimp only
  split_ifs with hless hmore heven
  · exact .inl ⟨rfl, hless.le⟩
  · exact .inr ⟨rfl, hmore.le⟩
  · exact .inl ⟨rfl, not_lt.mp hmore⟩
  · exact .inr ⟨rfl, not_lt.mp hless⟩

/-- Rounding to an integer keeps the order. -/
theorem roundHalfEven_mono (h : x ≤ y) : roundHalfEven x ≤ roundHalfEven y := by
  have hfloor : x.floor ≤ y.floor := Rat.floor_monotone h
  rcases Int.lt_or_eq_of_le (Int.toNat_le_toNat hfloor |> Int.ofNat_le.mpr) with hlt | heq
  · rcases roundHalfEven_cases x with ⟨hx, -⟩ | ⟨hx, -⟩ <;>
      rcases roundHalfEven_cases y with ⟨hy, -⟩ | ⟨hy, -⟩ <;> omega
  · -- between the same two natural numbers the fractions decide
    have heq' : x.floor.toNat = y.floor.toNat := by omega
    unfold roundHalfEven
    rw [heq']
    dsimp only
    split_ifs <;> first | omega | linarith

theorem roundHalfEven_le (h : x ≤ n) : roundHalfEven x ≤ n :=
  (roundHalfEven_mono h).trans_eq (roundHalfEven_natCast n)

theorem le_roundHalfEven (h : (n : Rat) ≤ x) : n ≤ roundHalfEven x :=
  (roundHalfEven_natCast n).symm.trans_le (roundHalfEven_mono h)

end Binary64

/-! ## Fifty-three bits -/

open Binary64

variable {x y : Rat}

/-- A positive number rounded to 53 significant bits. -/
def nearest53 (x : Rat) : Rat :=
  roundHalfEven (x / twoPow (binaryExponent x - 52)) * twoPow (binaryExponent x - 52)

theorem roundTo53_eq (x : Rat) : roundTo53 x =
    if x = 0 then 0 else if x < 0 then -nearest53 (-x) else nearest53 x := rfl

/-- A positive number does not leave the powers of two around it. -/
theorem nearest53_bounds (hx : 0 < x) : twoPow (binaryExponent x) ≤ nearest53 x ∧
    nearest53 x ≤ twoPow (binaryExponent x + 1) := by
  obtain ⟨hlow, hhigh⟩ := binaryExponent_spec hx
  unfold nearest53
  generalize binaryExponent x = k at hlow hhigh ⊢
  let unit := twoPow (k - 52)
  have hunit : 0 < unit := twoPow_pos _
  have hone : twoPow k = (2 ^ 52 : Nat) * unit := by
    have hsplit : twoPow (52 + (k - 52)) = twoPow 52 * unit := twoPow_add _ _
    have hpow : twoPow 52 = (2 ^ 52 : Nat) := by norm_num [twoPow_eq_zpow]
    rwa [add_sub_cancel, hpow] at hsplit
  have htwo : twoPow (k + 1) = (2 ^ 53 : Nat) * unit := by
    rw [twoPow_succ, hone]
    push_cast
    ring
  have hleast : ((2 ^ 52 : Nat) : Rat) ≤ x / unit := (le_div_iff₀ hunit).mpr (hone ▸ hlow)
  have hgreatest : x / unit ≤ (2 ^ 53 : Nat) := (div_le_iff₀ hunit).mpr (htwo ▸ hhigh.le)
  rw [hone, htwo]
  constructor
  · exact mul_le_mul_of_nonneg_right (by exact_mod_cast le_roundHalfEven hleast) hunit.le
  · exact mul_le_mul_of_nonneg_right (by exact_mod_cast roundHalfEven_le hgreatest) hunit.le

theorem nearest53_pos (hx : 0 < x) : 0 < nearest53 x :=
  (twoPow_pos _).trans_le (nearest53_bounds hx).1

/-- Rounding a positive number to 53 bits keeps the order. -/
theorem nearest53_mono (hx : 0 < x) (h : x ≤ y) : nearest53 x ≤ nearest53 y := by
  have hexponent := binaryExponent_mono hx h
  rcases Int.lt_or_eq_of_le hexponent with hlt | heq
  · calc nearest53 x ≤ twoPow (binaryExponent x + 1) := (nearest53_bounds hx).2
      _ ≤ twoPow (binaryExponent y) := twoPow_le_iff.mpr hlt
      _ ≤ nearest53 y := (nearest53_bounds (hx.trans_le h)).1
  · have hunit := twoPow_pos (binaryExponent y - 52)
    have hquotient : x / twoPow (binaryExponent y - 52) ≤ y / twoPow (binaryExponent y - 52) :=
      div_le_div_of_nonneg_right h hunit.le
    unfold nearest53
    rw [heq]
    exact mul_le_mul_of_nonneg_right (by exact_mod_cast roundHalfEven_mono hquotient) hunit.le

theorem roundTo53_of_pos (hx : 0 < x) : roundTo53 x = nearest53 x := by
  rw [roundTo53_eq, if_neg hx.ne', if_neg (not_lt.mpr hx.le)]

theorem roundTo53_of_neg (hx : x < 0) : roundTo53 x = -nearest53 (-x) := by
  rw [roundTo53_eq, if_neg hx.ne, if_pos hx]

/-- Rounding to 53 bits keeps the order. -/
theorem roundTo53_mono : Monotone roundTo53 := by
  intro x y h
  rcases lt_trichotomy x 0 with hx | rfl | hx
  · have hnegative : roundTo53 x < 0 := by
      rw [roundTo53_of_neg hx]
      exact neg_neg_of_pos (nearest53_pos (neg_pos.mpr hx))
    rcases lt_trichotomy y 0 with hy | rfl | hy
    · rw [roundTo53_of_neg hx, roundTo53_of_neg hy]
      exact neg_le_neg (nearest53_mono (neg_pos.mpr hy) (neg_le_neg h))
    · exact hnegative.le
    · rw [roundTo53_of_pos hy]
      exact hnegative.le.trans (nearest53_pos hy).le
  · rcases h.eq_or_lt with rfl | hy
    · exact le_refl _
    · rw [roundTo53_of_pos hy]
      exact (nearest53_pos hy).le
  · rw [roundTo53_of_pos hx, roundTo53_of_pos (hx.trans_le h)]
    exact nearest53_mono hx h

end InstallerGateway
