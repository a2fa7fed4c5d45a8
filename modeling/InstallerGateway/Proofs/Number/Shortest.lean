import InstallerGateway.Number.Shortest
import InstallerGateway.Proofs.Number.Rounding

/-!
# The shortest decimal reads back

A number that differs from a double by less than one part in `2 ^ 54` is rounded to that double. On
the grid of seventeen decimal digits there is one, so that the search for the shortest decimal ends
with a hit, and a hit reads back as the double.
-/

namespace InstallerGateway

namespace Binary64

variable {x y : Rat} {m : Nat} {e : Int} {negative : Bool}

/-! ## Rounding to a double -/

/-- Mantissa and exponent of a finite double: the mantissa has 53 bits, or fewer under the least
exponent. -/
def IsCanonical (m : Nat) (e : Int) : Prop :=
  m < 2 ^ 53 ∧ leastExponent ≤ e ∧ e ≤ 971 ∧ (2 ^ 52 ≤ m ∨ e = leastExponent)

instance (m : Nat) (e : Int) : Decidable (IsCanonical m e) := inferInstanceAs (Decidable (_ ∧ _))

/-- The number is a finite double. -/
def isFinite : Binary64 → Bool
  | .finite _ m e => decide (IsCanonical m e)
  | _ => false

/-- The double of a positive number, with the exponent of its last bit: rounding up may take one bit
more. -/
theorem ofMagnitude_of_pos (hy : 0 < y) (he : max leastExponent (binaryExponent y - 52) = e) :
    ofMagnitude negative y =
      if roundHalfEven (y / twoPow e) = 2 ^ 53 then
        if 971 < e + 1 then .infinite negative else .finite negative (2 ^ 52) (e + 1)
      else
        if 971 < e then .infinite negative
        else .finite negative (roundHalfEven (y / twoPow e)) e := by
  unfold ofMagnitude
  rw [if_neg (not_le.mpr hy), he]
  dsimp only [Nat.pow_eq]
  split_ifs <;> rfl

/-- A number of less than half the least double is zero as a double. -/
theorem ofMagnitude_small (hy : 0 < y) (h : y < twoPow (-1075)) :
    ofMagnitude negative y = zero negative := by
  have hexponent : max leastExponent (binaryExponent y - 52) = leastExponent := by
    have hlt := twoPow_lt_iff.mp ((binaryExponent_spec hy).1.trans_lt h)
    unfold leastExponent
    omega
  have hhalf : twoPow (-1075) * 2 = twoPow leastExponent := by
    rw [mul_comm]
    exact (twoPow_succ (-1075)).symm
  have hpos := twoPow_pos leastExponent
  have hround : roundHalfEven (y / twoPow leastExponent) = 0 := by
    apply roundHalfEven_eq
    · have hquotient : 0 < y / twoPow leastExponent := div_pos hy hpos
      push_cast
      linarith
    · rw [div_lt_iff₀ hpos]
      push_cast
      linarith
  rw [ofMagnitude_of_pos hy hexponent, hround]
  rfl

theorem ofMagnitude_large (h : twoPow 1024 ≤ y) : ofMagnitude negative y = .infinite negative := by
  have hy : 0 < y := (twoPow_pos _).trans_le h
  have hexponent : 971 < max leastExponent (binaryExponent y - 52) := by
    have hlt := twoPow_lt_iff.mp (h.trans_lt (binaryExponent_spec hy).2)
    omega
  rw [ofMagnitude_of_pos hy rfl]
  split_ifs <;> first | rfl | omega

/-- Below one half under a power of two, a quotient is not rounded to that power. -/
theorem roundHalfEven_eq_twoPow53_iff (h : x < 2 ^ 53) :
    roundHalfEven x = 2 ^ 53 ↔ 2 ^ 53 - 1 / 2 ≤ x := by
  constructor
  · intro hround
    by_contra hlt
    have hbelow : roundHalfEven x ≤ 2 ^ 53 - 1 := by
      by_cases hx : x ≤ (2 ^ 53 - 1 : Nat)
      · exact roundHalfEven_le hx
      · have heq : roundHalfEven x = 2 ^ 53 - 1 := by
          apply roundHalfEven_eq <;> push_cast at hx hlt ⊢ <;> linarith
        exact heq.le
    omega
  · intro hge
    have htie : roundHalfEven (2 ^ 53 - 1 / 2) = 2 ^ 53 := by decide +kernel
    have hlow : 2 ^ 53 ≤ roundHalfEven x := htie ▸ roundHalfEven_mono hge
    have hhigh : roundHalfEven x ≤ 2 ^ 53 := roundHalfEven_le (by push_cast; exact h.le)
    omega

/-- Below half the least power of two out of range, a number has a double. -/
theorem ofMagnitude_ne_infinite (hy : 0 < y) (h : y < twoPow 1023) :
    ofMagnitude negative y ≠ .infinite negative := by
  have hexponent : max leastExponent (binaryExponent y - 52) ≤ 970 := by
    have hlt := twoPow_lt_iff.mp ((binaryExponent_spec hy).1.trans_lt h)
    unfold leastExponent
    omega
  rw [ofMagnitude_of_pos hy rfl]
  split_ifs
  · omega
  · nofun
  · omega
  · nofun

/-- Under the greatest exponent of all, a number has no double exactly if it is rounded up to the
least power of two out of range. -/
theorem ofMagnitude_eq_infinite_iff_of_top (hlow : twoPow 1023 ≤ y) (hhigh : y < twoPow 1024) :
    ofMagnitude negative y = .infinite negative ↔ twoPow 1024 - twoPow 970 ≤ y := by
  have hunit := twoPow_pos 971
  have hhalf : twoPow 971 = 2 * twoPow 970 := twoPow_succ 970
  have htop : twoPow 1024 = 2 ^ 53 * twoPow 971 := by
    rw [show (1024 : Int) = (53 : Nat) + 971 from rfl, twoPow_add, twoPow_natCast]
  have hexponent : max leastExponent (binaryExponent y - 52) = 971 := by
    rw [binaryExponent_eq hlow hhigh]
    decide
  have hquotient : y / twoPow 971 < 2 ^ 53 := (div_lt_iff₀ hunit).mpr (hhigh.trans_eq htop)
  have hround : roundHalfEven (y / twoPow 971) = 2 ^ 53 ↔ twoPow 1024 - twoPow 970 ≤ y := by
    rw [roundHalfEven_eq_twoPow53_iff hquotient, le_div_iff₀ hunit, sub_mul, ← htop, hhalf]
    ring_nf
  rw [ofMagnitude_of_pos ((twoPow_pos _).trans_le hlow) hexponent, ← hround]
  by_cases h : roundHalfEven (y / twoPow 971) = 2 ^ 53
  · rw [if_pos h, if_pos (by decide)]
    exact iff_of_true rfl h
  · rw [if_neg h, if_neg (by decide)]
    exact iff_of_false nofun h

/-- A number is out of the range of doubles if it is no less than what is halfway between the
greatest double and the next power of two. -/
theorem ofMagnitude_eq_infinite_iff (hy : 0 ≤ y) :
    ofMagnitude negative y = .infinite negative ↔ twoPow 1024 - twoPow 970 ≤ y := by
  have hgap : twoPow 1023 ≤ twoPow 1024 - twoPow 970 := by
    have hdouble : twoPow 1024 = 2 * twoPow 1023 := twoPow_succ 1023
    have hle : twoPow 970 ≤ twoPow 1023 := twoPow_le_iff.mpr (by norm_num)
    linarith
  have hpos := twoPow_pos 1023
  rcases lt_or_ge y (twoPow 1023) with hless | hlow
  · refine iff_of_false ?_ (by linarith)
    rcases hy.eq_or_lt with rfl | hy
    · simp [ofMagnitude, zero]
    · exact ofMagnitude_ne_infinite hy hless
  · rcases lt_or_ge y (twoPow 1024) with hhigh | hlarge
    · exact ofMagnitude_eq_infinite_iff_of_top hlow hhigh
    · have hunit := twoPow_pos 970
      exact iff_of_true (ofMagnitude_large hlarge) (by linarith)

/-- A number has no double exactly if it is out of their range. -/
theorem toRat?_ofRat_eq_none_iff (x : Rat) :
    (ofRat x).toRat? = none ↔ twoPow 1024 - twoPow 970 ≤ |x| := by
  have hfinite (negative : Bool) (y : Rat) :
      (ofMagnitude negative y).toRat? = none ↔ ofMagnitude negative y = .infinite negative := by
    unfold ofMagnitude zero
    dsimp only
    split_ifs <;> simp [toRat?]
  unfold ofRat
  split_ifs with h
  · rw [hfinite, ofMagnitude_eq_infinite_iff (by linarith), abs_of_neg h]
  · rw [hfinite, ofMagnitude_eq_infinite_iff (by linarith), abs_of_nonneg (by linarith)]

theorem ofMagnitude_neg (y : Rat) : ofMagnitude true y = (ofMagnitude false y).neg := by
  unfold ofMagnitude
  dsimp only
  split_ifs <;> rfl

/-- A number that differs from a double by less than one part in `2 ^ 54` is rounded to it. -/
theorem ofMagnitude_of_near (h : IsCanonical m e) (hm : 0 < m)
    (hnear : |y - m * twoPow e| * 2 ^ 54 < m * twoPow e) :
    ofMagnitude false y = .finite false m e := by
  obtain ⟨hmantissa, hleast, hgreatest, hfull⟩ := h
  have hunit := twoPow_pos e
  obtain ⟨q, rfl⟩ : ∃ q, y = q * twoPow e := ⟨y / twoPow e, (div_mul_cancel₀ y hunit.ne').symm⟩
  have hquotient : |q - m| * 2 ^ 54 < m := by
    rw [← sub_mul, abs_mul, abs_of_pos hunit, mul_right_comm] at hnear
    exact lt_of_mul_lt_mul_right hnear hunit.le
  have hmle : (m : Rat) ≤ 2 ^ 53 - 1 := by
    rw [le_sub_iff_add_le]
    exact_mod_cast hmantissa
  have hmpos : (1 : Rat) ≤ m := by exact_mod_cast hm
  obtain ⟨hlow, hhigh⟩ := abs_lt.mp (show |q - m| < m / 2 ^ 54 by
    rw [lt_div_iff₀ (by positivity)]
    exact hquotient)
  have hq : 0 < q := by linarith
  have hy : 0 < q * twoPow e := mul_pos hq hunit
  have hpow (n : Nat) : twoPow (e + n) = 2 ^ n * twoPow e := by
    rw [twoPow_add, twoPow_natCast, mul_comm]
  have htop : q * twoPow e < twoPow (e + 52 + 1) := by
    rw [add_assoc]
    refine (mul_lt_mul_of_pos_right ?_ hunit).trans_eq (hpow 53).symm
    linarith
  by_cases hbottom : q < 2 ^ 52 ∧ e ≠ leastExponent
  · -- just below a power of two the doubles are twice as dense
    have hm52 : m = 2 ^ 52 := by
      have hle : 2 ^ 52 ≤ m := hfull.resolve_right hbottom.2
      have hlt : (m : Rat) < 2 ^ 52 + 1 := by linarith
      have hlt' : m < 2 ^ 52 + 1 := by exact_mod_cast hlt
      omega
    subst hm52
    push_cast at hlow hhigh
    have hdouble : twoPow e = 2 * twoPow (e - 1) := by
      rw [← twoPow_succ, sub_add_cancel]
    have hbinary : binaryExponent (q * twoPow e) = e + 51 := by
      apply binaryExponent_eq
      · rw [show e + 51 = e + (51 : Nat) from rfl, hpow]
        exact mul_le_mul_of_nonneg_right (by linarith) hunit.le
      · rw [show e + 51 + 1 = e + (52 : Nat) by push_cast; ring, hpow]
        exact mul_lt_mul_of_pos_right hbottom.1 hunit
    have hexponent : max leastExponent (binaryExponent (q * twoPow e) - 52) = e - 1 := by
      rw [hbinary]
      have hne := hbottom.2
      omega
    have hround : roundHalfEven (q * twoPow e / twoPow (e - 1)) = 2 ^ 53 := by
      rw [hdouble, ← mul_assoc, mul_div_cancel_right₀ _ (twoPow_pos _).ne']
      apply roundHalfEven_eq <;> push_cast <;> linarith
    rw [ofMagnitude_of_pos hy hexponent, if_pos hround, sub_add_cancel,
      if_neg (not_lt.mpr hgreatest)]
  · have hexponent : max leastExponent (binaryExponent (q * twoPow e) - 52) = e := by
      obtain ⟨hbelow, habove⟩ := binaryExponent_spec hy
      have hle := twoPow_lt_iff.mp (hbelow.trans_lt htop)
      by_cases hleastq : e = leastExponent
      · omega
      · have hge : twoPow (e + 52) ≤ q * twoPow e := by
          have hq52 : 2 ^ 52 ≤ q := not_lt.mp fun hlt => hbottom ⟨hlt, hleastq⟩
          exact (hpow 52).trans_le (mul_le_mul_of_nonneg_right hq52 hunit.le)
        have hge' := twoPow_lt_iff.mp (hge.trans_lt habove)
        omega
    have hround : roundHalfEven (q * twoPow e / twoPow e) = m := by
      rw [mul_div_cancel_right₀ _ hunit.ne']
      apply roundHalfEven_eq <;> linarith
    rw [ofMagnitude_of_pos hy hexponent, hround, if_neg hmantissa.ne,
      if_neg (not_lt.mpr hgreatest)]

/-- The exponents of doubles are bounded. -/
theorem binaryExponent_canonical (h : IsCanonical m e) (hm : 0 < m) :
    -1074 ≤ binaryExponent (m * twoPow e) ∧ binaryExponent (m * twoPow e) ≤ 1023 := by
  obtain ⟨hmantissa, hleast, hgreatest, -⟩ := h
  have hunit := twoPow_pos e
  have hmpos : (1 : Rat) ≤ m := by exact_mod_cast hm
  have hmlt : (m : Rat) < twoPow 53 := by
    rw [show twoPow 53 = 2 ^ 53 from twoPow_natCast 53]
    exact_mod_cast hmantissa
  obtain ⟨hlow, hhigh⟩ := binaryExponent_spec (x := m * twoPow e) (by positivity)
  have hbelow : twoPow e < twoPow (binaryExponent (m * twoPow e) + 1) :=
    (le_mul_of_one_le_left hunit.le hmpos).trans_lt hhigh
  have habove : twoPow (binaryExponent (m * twoPow e)) < twoPow (53 + e) := by
    rw [twoPow_add]
    exact hlow.trans_lt (mul_lt_mul_of_pos_right hmlt hunit)
  have hge := twoPow_lt_iff.mp hbelow
  have hle := twoPow_lt_iff.mp habove
  unfold leastExponent at hleast
  omega

end Binary64

namespace Shortest

open Binary64

variable {x : Rat} {m n d : Nat} {e k t : Int} {target : Binary64} {found : Decimal}

/-! ## Powers of ten -/

theorem tenPow_eq_zpow (e : Int) : tenPow e = (10 : Rat) ^ e := by
  cases e with
  | ofNat n => exact (zpow_natCast 10 n).symm
  | negSucc n => rw [zpow_negSucc, ← one_div]; rfl

theorem tenPow_pos (e : Int) : 0 < tenPow e := by
  rw [tenPow_eq_zpow]
  exact zpow_pos (by norm_num) e

theorem tenPow_add (e f : Int) : tenPow (e + f) = tenPow e * tenPow f := by
  simp only [tenPow_eq_zpow]
  exact zpow_add₀ (by norm_num) e f

theorem tenPow_natCast (n : Nat) : tenPow n = 10 ^ n := rfl

theorem tenPow_le_iff {f : Int} : tenPow e ≤ tenPow f ↔ e ≤ f := by
  simp only [tenPow_eq_zpow]
  exact zpow_le_zpow_iff_right₀ (by norm_num)

/-- Powers of ten and of two are compared by way of a power of each. -/
theorem tenPow_le_twoPow {p q : Nat} (hq : q ≠ 0) (h : k * q ≤ p * e)
    (hpower : ((10 : Rat) ^ p) ^ e ≤ (2 ^ q) ^ e) : tenPow k ≤ twoPow e := by
  rw [tenPow_eq_zpow, twoPow_eq_zpow]
  apply le_of_pow_le_pow_left₀ hq (zpow_nonneg (by norm_num) e)
  calc ((10 : Rat) ^ k) ^ q = 10 ^ (k * q) := by rw [zpow_mul, zpow_natCast]
    _ ≤ 10 ^ (p * e) := zpow_le_zpow_right₀ (by norm_num) h
    _ = (10 ^ p) ^ e := by rw [zpow_mul, zpow_natCast]
    _ ≤ (2 ^ q) ^ e := hpower
    _ = (2 ^ e) ^ q := by
      rw [← zpow_natCast, ← zpow_natCast, ← zpow_mul, ← zpow_mul, mul_comm]

/-- The estimate from the binary exponent is at most one too high. -/
theorem tenPow_estimate_le (hlow : -1074 ≤ e) (hhigh : e ≤ 1023) :
    tenPow ((e * 30103).fdiv 100000 - 1) ≤ twoPow e := by
  have hestimate : (e * 30103).fdiv 100000 * 100000 ≤ e * 30103 := by
    rw [Int.fdiv_eq_ediv_of_nonneg _ (by norm_num)]
    omega
  by_cases he : 0 ≤ e
  · have hpower : ((10 : Rat) ^ 59) ^ e ≤ (2 ^ 196) ^ e :=
      zpow_le_zpow_left₀ he (by positivity) (by norm_num)
    exact tenPow_le_twoPow (by omega) (by push_cast; omega) hpower
  · have hpower : ((10 : Rat) ^ 28) ^ e ≤ (2 ^ 93) ^ e := by
      obtain ⟨i, rfl⟩ : ∃ i : Nat, e = -i := ⟨(-e).toNat, by omega⟩
      rw [zpow_neg, zpow_neg]
      exact inv_anti₀ (by positivity) (zpow_le_zpow_left₀ (by omega) (by positivity) (by norm_num))
    exact tenPow_le_twoPow (by omega) (by push_cast; omega) hpower

theorem tenPow_decimalExponent_le (hx : 0 < x) (hlow : -1074 ≤ binaryExponent x)
    (hhigh : binaryExponent x ≤ 1023) : tenPow (decimalExponent x) ≤ x := by
  unfold decimalExponent
  dsimp only
  split_ifs with hless hmore
  · exact (tenPow_estimate_le hlow hhigh).trans (binaryExponent_spec hx).1
  · exact hmore
  · exact not_lt.mp hless

/-! ## The search -/

/-- What is found on a decimal grid reads as the double. -/
theorem onGrid_reads (h : onGrid target x t = some d) :
    Binary64.ofMagnitude false (d * tenPow t) = target := by
  unfold onGrid at h
  dsimp only at h
  split at h
  · cases h
  · rename_i hbelow _
    cases h
    exact eq_of_beq hbelow
  · rename_i _ habove
    cases h
    exact eq_of_beq habove
  · -- both read back, whichever of them is nearer
    rename_i hbelow habove
    split_ifs at h <;> cases h
    · exact eq_of_beq hbelow
    · exact eq_of_beq habove
    · exact eq_of_beq hbelow
    · exact eq_of_beq habove

/-- Something is found on a decimal grid if one of the two points beside the number reads as the
double. -/
theorem onGrid_isSome
    (h : Binary64.ofMagnitude false ((x / tenPow t).floor.toNat * tenPow t) = target ∨
      Binary64.ofMagnitude false (((x / tenPow t).floor.toNat + 1 : Nat) * tenPow t) = target) :
    (onGrid target x t).isSome = true := by
  unfold onGrid
  dsimp only
  split
  · rename_i hbelow habove
    rcases h with h | h
    · exact absurd h (by simpa using hbelow)
    · exact absurd h (by simpa using habove)
  · rfl
  · rfl
  · split_ifs <;> rfl

/-- On a grid that is as fine as `10 ^ 16` parts of a double, one of the two next multiples reads
back as it. -/
theorem onGrid_isSome_of_fine (h : IsCanonical m e) (hm : 0 < m)
    (hfine : tenPow t * 10 ^ 16 ≤ m * twoPow e) :
    (onGrid (.finite false m e) (m * twoPow e) t).isSome = true := by
  apply onGrid_isSome
  have hunit := tenPow_pos t
  have hx : 0 ≤ m * twoPow e / tenPow t :=
    div_nonneg (mul_nonneg (by positivity) (twoPow_pos e).le) hunit.le
  generalize hb : (m * twoPow e / tenPow t).floor.toNat = b
  have hfloor := floor_toNat hx
  rw [hb] at hfloor
  have hlow : b * tenPow t ≤ m * twoPow e := by
    rw [← le_div_iff₀ hunit, hfloor]
    exact Rat.floor_le _
  have hhigh : m * twoPow e < (b + 1) * tenPow t := by
    rw [← div_lt_iff₀ hunit, hfloor]
    exact_mod_cast Rat.lt_floor_add_one _
  by_cases hhalf : m * twoPow e - b * tenPow t ≤ tenPow t / 2
  · refine .inl (ofMagnitude_of_near h hm ?_)
    rw [abs_of_nonpos (by linarith)]
    linarith
  · refine .inr (ofMagnitude_of_near h hm ?_)
    push_cast
    rw [abs_of_nonneg (by linarith)]
    linarith

/-- What the search for the shortest digits finds reads as the double. -/
theorem search_reads (h : search target x n t = some found) :
    Binary64.ofMagnitude false (found.digits * tenPow found.exponent) = target := by
  induction n generalizing t with
  | zero => cases h
  | succ n ih =>
    rw [search] at h
    split at h
    · rename_i d hd
      cases h
      exact onGrid_reads hd
    · exact ih h

/-- The search for the shortest digits succeeds if one of the grids has a point for it. -/
theorem search_isSome {i : Nat} (hi : i < n) (h : (onGrid target x (t - i)).isSome = true) :
    (search target x n t).isSome = true := by
  induction n generalizing t i with
  | zero => omega
  | succ n ih =>
    rw [search]
    split
    · rfl
    · rename_i hnone
      cases i with
      | zero =>
        rw [Nat.cast_zero, sub_zero, hnone] at h
        cases h
      | succ i =>
        refine ih (Nat.lt_of_succ_lt_succ hi) ?_
        rwa [Nat.cast_succ, add_comm, ← sub_sub] at h

/-- The shortest decimal of a double is rounded to that double. -/
theorem ofMagnitude_reads (h : IsCanonical m e) (hm : 0 < m) :
    Binary64.ofMagnitude false ((ofMagnitude m e).digits * tenPow (ofMagnitude m e).exponent) =
      .finite false m e := by
  have hx : 0 < (m : Rat) * twoPow e := mul_pos (by exact_mod_cast hm) (twoPow_pos e)
  obtain ⟨hlow, hhigh⟩ := binaryExponent_canonical h hm
  have hexponent := tenPow_decimalExponent_le hx hlow hhigh
  have hfine : tenPow (decimalExponent (m * twoPow e) - (16 : Nat)) * 10 ^ 16 ≤ m * twoPow e := by
    rw [← tenPow_natCast, ← tenPow_add, sub_add_cancel]
    exact hexponent
  have hsome := search_isSome (n := 17) (by omega) (onGrid_isSome_of_fine h hm hfine)
  obtain ⟨found, hfound⟩ := Option.isSome_iff_exists.mp hsome
  have heq : ofMagnitude m e = found := by
    unfold ofMagnitude
    dsimp only
    rw [hfound, Option.getD_some]
  rw [heq]
  exact search_reads hfound

end Shortest

end InstallerGateway
