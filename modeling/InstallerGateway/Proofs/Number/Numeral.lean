import InstallerGateway.Number.Numeral
import InstallerGateway.Proofs.Text.Strip
import Mathlib.Algebra.Group.Nat.Defs
import Mathlib.Data.List.Basic
import Mathlib.Tactic.SplitIfs

/-!
# Decimal digits

A text of decimal digits is read as the number that they write, which is zero exactly if every digit
is. The digits of a number begin with a zero only if the number is zero. An integer is written, and
read from its digits again, exactly if they are not too many.
-/

namespace InstallerGateway

variable {c : Char} {cs : List Char}

/-! ## The digits of a number -/

theorem isDigit_of_mem_repr {n : Nat} (h : c ∈ (toString n).toList) : c.isDigit = true := by
  have hdigits : c ∈ Nat.toDigits 10 n := by
    rw [← Nat.toList_repr]
    exact h
  exact Nat.isDigit_of_mem_toDigits (by decide) (by decide) hdigits

theorem toNat_of_isDigit (h : c.isDigit = true) : 48 ≤ c.toNat ∧ c.toNat ≤ 57 :=
  Char.isDigit_iff_toNat.mp h

theorem ne_of_isDigit {d : Char} (hd : d.isDigit = false) (h : c.isDigit = true) : c ≠ d := by
  rintro rfl
  exact Bool.false_ne_true (hd.symm.trans h)

theorem isBlank_of_isDigit (h : c.isDigit = true) : isBlank c = false := by
  obtain ⟨hlower, hupper⟩ := toNat_of_isDigit h
  unfold isBlank
  simp only [Bool.or_eq_false_iff, Bool.and_eq_false_iff, decide_eq_false_iff_not,
    beq_eq_false_iff_ne]
  omega

theorem isSome_asciiDigit? (c : Char) : (asciiDigit? c).isSome = c.isDigit := by
  rw [Bool.eq_iff_iff, Char.isDigit_iff_toNat]
  have hzero : '0'.toNat = 48 := rfl
  have hnine : '9'.toNat = 57 := rfl
  unfold asciiDigit?
  dsimp only
  rw [Option.isSome_ite, Bool.and_eq_true, decide_eq_true_eq, decide_eq_true_eq, hzero, hnine]

/-- Digits are taken up to the first character that is none. -/
theorem takeWhile_digits {rest : List Char} (h : ∀ c ∈ cs, c.isDigit = true)
    (hrest : ∀ c, rest.head? = some c → c.isDigit = false) :
    (cs ++ rest).takeWhile (fun c => (asciiDigit? c).isSome) = cs := by
  simp only [isSome_asciiDigit?]
  rw [List.takeWhile_append_of_pos h, takeWhile_of_head? hrest, List.append_nil]

theorem dropWhile_digits {rest : List Char} (h : ∀ c ∈ cs, c.isDigit = true)
    (hrest : ∀ c, rest.head? = some c → c.isDigit = false) :
    (cs ++ rest).dropWhile (fun c => (asciiDigit? c).isSome) = rest := by
  simp only [isSome_asciiDigit?]
  rw [List.dropWhile_append_of_pos h, dropWhile_of_head? hrest]

theorem toLower_of_isDigit (h : c.isDigit = true) : c.toLower = c := by
  have hsmall : ¬ (c.val ≥ 'A'.val ∧ c.val ≤ 'Z'.val) := by
    intro hcapital
    have hletter : 65 ≤ c.toNat := hcapital.1
    have hupper := (toNat_of_isDigit h).2
    omega
  unfold Char.toLower
  exact dif_neg hsmall

namespace Numeral

theorem ofDigitChars_toString (n : Nat) : Nat.ofDigitChars 10 (toString n).toList 0 = n := by
  have hlist : (toString n).toList = Nat.toDigits 10 n := Nat.toList_repr
  rw [hlist]
  exact Nat.ofDigitChars_toDigits (by decide) (by decide)

theorem toDigits_of_head? (n : Nat) (h : (Nat.toDigits 10 n).head? = some '0') :
    Nat.toDigits 10 n = ['0'] := by
  induction n using Nat.strongRecOn with
  | ind n ih =>
    rw [Nat.toDigits_eq_if (by decide)] at h ⊢
    split_ifs at h ⊢ with hsmall
    · rw [Option.some.inj h]
    · -- the first digit is that of the tenth part, which is not zero
      rw [List.head?_append_of_ne_nil _ Nat.toDigits_ne_nil] at h
      have htenth : n / 10 = 0 := by
        have hzero := Nat.ofDigitChars_toDigits (b := 10) (n := n / 10) (by decide) (by decide)
        rw [ih (n / 10) (by omega) h] at hzero
        exact hzero.symm
      omega

/-! ## Digits that are read -/

theorem digit?_of_isDigit (h : c.isDigit = true) : digit? 10 c = some (c.toNat - '0'.toNat) := by
  obtain ⟨hlower, hupper⟩ := Char.isDigit_iff_toNat.mp h
  have hzero : '0'.toNat = 48 := rfl
  have hnine : '9'.toNat = 57 := rfl
  unfold digit? hexDigit?
  dsimp only
  rw [if_pos (by simpa [← hzero, ← hnine] using ⟨hlower, hupper⟩), hzero]
  exact Option.filter_some_pos (decide_eq_true (by omega))

/-- Digits are read from left to right. -/
theorem foldlM_digits (h : ∀ c ∈ cs, c.isDigit = true) (n : Nat) :
    cs.foldlM (fun n c => (digit? 10 c).map (n * 10 + ·)) n = some (Nat.ofDigitChars 10 cs n) := by
  induction cs generalizing n with
  | nil => rfl
  | cons c rest ih =>
    have hrest : ∀ d ∈ rest, d.isDigit = true := fun d hd => h d (List.mem_cons_of_mem _ hd)
    rw [List.foldlM_cons, digit?_of_isDigit (h c List.mem_cons_self), Nat.ofDigitChars_cons,
      ← ih hrest, Nat.mul_comm]
    rfl

/-- Digits are read as the number that they write. -/
theorem natural?_digits (hne : cs ≠ []) (h : ∀ c ∈ cs, c.isDigit = true) :
    natural? 10 cs = some (Nat.ofDigitChars 10 cs 0) := by
  unfold natural?
  rw [if_neg (by simpa using hne)]
  exact foldlM_digits h 0

/-- Digits write zero if each of them is zero. -/
theorem ofDigitChars_eq_zero_iff (h : ∀ c ∈ cs, c.isDigit = true) (n : Nat) :
    Nat.ofDigitChars 10 cs n = 0 ↔ n = 0 ∧ ∀ c ∈ cs, c = '0' := by
  induction cs generalizing n with
  | nil => simp
  | cons c rest ih =>
    obtain ⟨hlower, -⟩ := Char.isDigit_iff_toNat.mp (h c List.mem_cons_self)
    have hzero : c = '0' ↔ c.toNat - '0'.toNat = 0 := by
      rw [← Char.toNat_inj]
      omega
    rw [Nat.ofDigitChars_cons, ih fun d hd => h d (List.mem_cons_of_mem _ hd), List.forall_mem_cons,
      hzero, ← and_assoc]
    refine and_congr_left fun _ => ?_
    omega

/-! ## Integers that are read -/

theorem asciiDigits_of_ascii (h : ∀ c ∈ cs, c.toNat < 0x80) : asciiDigits cs = cs := by
  refine (List.map_congr_left fun c hc => ?_).trans (List.map_id cs)
  unfold digitValue?
  dsimp only
  rw [if_pos (h c hc)]
  by_cases hdigit : 0x30 ≤ c.toNat ∧ c.toNat ≤ 0x39
  · rw [if_pos (by simpa using hdigit)]
    dsimp only
    rw [Nat.sub_add_cancel hdigit.1, Char.ofNat_toNat]
    rfl
  · rw [if_neg (by simpa using hdigit)]
    rfl

theorem dropUnderscores_of_not_mem {isDigit : Char → Bool} (h : '_' ∉ cs) (last : Option Char) :
    dropUnderscores isDigit last cs = some cs := by
  induction cs generalizing last with
  | nil => rfl
  | cons c rest ih =>
    obtain ⟨hne, hrest⟩ := List.ne_and_not_mem_of_not_mem_cons h
    rw [dropUnderscores, ih hrest, Option.map_some]
    simpa using Ne.symm hne

theorem dropUnderscores_digits {isDigit : Char → Bool} (h : ∀ c ∈ cs, c.isDigit = true)
    (last : Option Char) : dropUnderscores isDigit last cs = some cs :=
  dropUnderscores_of_not_mem (fun hmem => absurd (h '_' hmem) (by decide)) last

theorem afterMark_ten (cs : List Char) : afterMark 10 cs = cs := by
  unfold afterMark baseMark
  split <;> simp

/-- Digits, with a minus sign in front of them if they are those of a negative number. -/
def signed (negative : Bool) (digits : List Char) : List Char :=
  if negative then '-' :: digits else digits

/-- The integer that such digits write. -/
def signedValue (negative : Bool) (digits : List Char) : Int :=
  if negative then -(Nat.ofDigitChars 10 digits 0 : Int) else Nat.ofDigitChars 10 digits 0

variable {negative : Bool}

theorem eq_minus_or_isDigit (h : ∀ c ∈ cs, c.isDigit = true) (hc : c ∈ signed negative cs) :
    c = '-' ∨ c.isDigit = true := by
  cases negative with
  | true => exact (List.mem_cons.mp hc).imp_right (h c)
  | false => exact .inr (h c hc)

theorem sign_signed_cons {rest : List Char} (hc : c.isDigit = true) :
    sign (signed negative (c :: rest)) = (negative, c :: rest) := by
  cases negative with
  | true => rfl
  | false =>
    show sign (c :: rest) = _
    unfold sign
    split <;> simp_all

theorem sign_signed (hne : cs ≠ []) (h : ∀ c ∈ cs, c.isDigit = true) :
    sign (signed negative cs) = (negative, cs) := by
  obtain ⟨c, rest, rfl⟩ := List.exists_cons_of_ne_nil hne
  exact sign_signed_cons (h c List.mem_cons_self)

/-- Digits, with a minus sign or without one, are read as the integer that they write. -/
theorem int?_signed (negative : Bool) (hne : cs ≠ []) (h : ∀ c ∈ cs, c.isDigit = true) :
    int? 10 (signed negative cs) = some (signedValue negative cs) := by
  have hblank : ∀ c ∈ signed negative cs, isBlank c = false := by
    intro c hc
    rcases eq_minus_or_isDigit h hc with rfl | hdigit
    · decide
    · exact isBlank_of_isDigit hdigit
  have hascii : ∀ c ∈ signed negative cs, c.toNat < 0x80 := by
    intro c hc
    rcases eq_minus_or_isDigit h hc with rfl | hdigit
    · decide
    · have hupper := (toNat_of_isDigit hdigit).2
      omega
  unfold int?
  rw [stripBy_of_forall hblank, asciiDigits_of_ascii hascii, sign_signed hne h]
  dsimp only
  rw [afterMark_ten, dropUnderscores_digits h]
  dsimp only [Option.bind_eq_bind, Option.bind_some]
  rw [natural?_digits hne h]
  cases negative <;> rfl

/-- The numeral of an integer is a sign and digits. -/
theorem toString_spec (n : Int) : ∃ negative c cs, (toString n).toList = signed negative (c :: cs) ∧
    signedValue negative (c :: cs) = n ∧ (∀ d ∈ c :: cs, d.isDigit = true) ∧
    ((c :: cs).head? = some '0' → c :: cs = ['0']) ∧ c :: cs = Nat.toDigits 10 n.natAbs := by
  have hnatural (k : Nat) : ∃ c cs, (toString k).toList = c :: cs ∧
      Nat.ofDigitChars 10 (c :: cs) 0 = k ∧ (∀ d ∈ c :: cs, d.isDigit = true) ∧
      ((c :: cs).head? = some '0' → c :: cs = ['0']) ∧ c :: cs = Nat.toDigits 10 k := by
    have hlist : (toString k).toList = Nat.toDigits 10 k := Nat.toList_repr
    obtain ⟨c, cs, hcs⟩ := List.exists_cons_of_ne_nil (hlist ▸ Nat.toDigits_ne_nil)
    refine ⟨c, cs, hcs, ?_, fun d hd => isDigit_of_mem_repr (hcs ▸ hd), fun hfirst => ?_,
      hcs.symm.trans hlist⟩
    · rw [← hcs]
      exact ofDigitChars_toString k
    · rw [← hcs, hlist] at hfirst ⊢
      exact toDigits_of_head? k hfirst
  cases n with
  | ofNat k =>
    obtain ⟨c, cs, hcs, hvalue, hrest⟩ := hnatural k
    refine ⟨false, c, cs, hcs, ?_, hrest⟩
    unfold signedValue
    rw [hvalue]
    rfl
  | negSucc k =>
    obtain ⟨c, cs, hcs, hvalue, hrest⟩ := hnatural (k + 1)
    have hsign : (toString (Int.negSucc k)).toList = '-' :: (toString (k + 1)).toList :=
      String.toList_append ..
    refine ⟨true, c, cs, hsign.trans (congrArg _ hcs), ?_, hrest⟩
    unfold signedValue
    rw [hvalue]
    rfl

/-! ## The limit on digits -/

theorem isSome_digitValue? (h : c.isDigit = true) : (digitValue? c).isSome = true := by
  obtain ⟨hlower, hupper⟩ := toNat_of_isDigit h
  unfold digitValue?
  dsimp only
  rw [if_pos (by omega), if_pos (by simpa using ⟨hlower, hupper⟩)]
  rfl

/-- The sign of a numeral is not counted among its digits. -/
theorem digitCount_signed (negative : Bool) (h : ∀ c ∈ cs, c.isDigit = true) :
    digitCount (signed negative cs) = cs.length := by
  have hdigits : digitCount cs = cs.length :=
    List.countP_eq_length.mpr fun c hc => isSome_digitValue? (h c hc)
  cases negative with
  | false => exact hdigits
  | true =>
    unfold digitCount at hdigits ⊢
    unfold signed
    rw [if_pos rfl, List.countP_cons_of_neg (by decide), hdigits]

/-- Digits, with a minus sign or without one, are read as the integer that they write unless they
are too many. -/
theorem decimal_signed (negative : Bool) (hne : cs ≠ []) (h : ∀ c ∈ cs, c.isDigit = true) :
    decimal (signed negative cs) =
      if maxDigits < cs.length then .error (.tooLong cs.length)
      else .ok (signedValue negative cs) := by
  unfold decimal
  rw [int?_signed negative hne h, digitCount_signed negative h]

theorem text?_eq_some_iff {n : Int} {s : String} :
    text? n = some s ↔ (Nat.toDigits 10 n.natAbs).length ≤ maxDigits ∧ toString n = s := by
  unfold text?
  rw [Option.ite_none_right_eq_some, Option.some_inj]

/-- The integers that are written are those of few digits. -/
theorem isSome_text?_iff {n : Int} : (text? n).isSome = true ↔ n.natAbs < 10 ^ maxDigits := by
  unfold text?
  rw [Option.isSome_ite]
  exact Nat.length_toDigits_le_iff (by decide) (by decide)

end Numeral

end InstallerGateway
