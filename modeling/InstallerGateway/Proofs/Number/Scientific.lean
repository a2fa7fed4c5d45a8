import InstallerGateway.Number.Numeral
import InstallerGateway.Proofs.Number.Numeral
import InstallerGateway.Proofs.Number.Shortest

/-!
# Numerals of doubles

A numeral with a point or an exponent is read as the double nearest to what it writes. The text of a
finite double is such a numeral, and it is read as that double.
-/

namespace InstallerGateway

open Shortest (tenPow)

namespace Numeral

variable {negative : Bool} {cs rest whole fraction : List Char} {e : Int}

/-! ## What digits are worth -/

theorem tenPow_lt_least : tenPow (-400) < Binary64.twoPow (-1075) := by
  have hpower : ((10 : Rat) ^ 1) ^ (-1076 : Int) ≤ (2 ^ 3) ^ (-1076 : Int) := by
    rw [zpow_neg, zpow_neg]
    exact inv_anti₀ (by positivity)
      (zpow_le_zpow_left₀ (by norm_num) (by norm_num) (by norm_num))
  exact (Shortest.tenPow_le_twoPow (by norm_num) (by norm_num) hpower).trans_lt
    (Binary64.twoPow_lt_iff.mpr (by norm_num))

theorem twoPow_le_tenPow : Binary64.twoPow 1024 ≤ tenPow 400 := by
  calc Binary64.twoPow 1024 ≤ Binary64.twoPow (3 * 400 : Nat) :=
        Binary64.twoPow_le_iff.mpr (by norm_num)
    _ = (2 ^ 3) ^ 400 := by rw [Binary64.twoPow_natCast, pow_mul]
    _ ≤ 10 ^ 400 := pow_le_pow_left₀ (by norm_num) (by norm_num) 400
    _ = tenPow 400 := (Shortest.tenPow_natCast 400).symm

/-- A number is at least as great as the power of ten of its length less one. -/
theorem tenPow_le_natCast {n : Nat} (hn : n ≠ 0) :
    tenPow (((Nat.toDigits 10 n).length : Int) - 1) ≤ n := by
  have hpos : 0 < (Nat.toDigits 10 n).length := Nat.length_toDigits_pos
  generalize hl : (Nat.toDigits 10 n).length = l at hpos ⊢
  obtain ⟨k, rfl⟩ : ∃ k, l = k + 1 := ⟨l - 1, by omega⟩
  rw [Nat.cast_add, Nat.cast_one, add_sub_cancel_right, Shortest.tenPow_natCast]
  rcases Nat.eq_zero_or_pos k with rfl | hk
  · rw [pow_zero]
    exact_mod_cast Nat.one_le_iff_ne_zero.mpr hn
  · have hlength : ¬ (Nat.toDigits 10 n).length ≤ k := by omega
    rw [Nat.length_toDigits_le_iff (by norm_num) hk, not_lt] at hlength
    exact_mod_cast hlength

theorem natCast_lt_tenPow (n : Nat) : (n : Rat) < tenPow (Nat.toDigits 10 n).length := by
  rw [Shortest.tenPow_natCast]
  exact_mod_cast (Nat.length_toDigits_le_iff (by norm_num) Nat.length_toDigits_pos).mp (le_refl _)

/-- Numbers out of range are told by the number of their digits, and are what rounding gives for
them. -/
theorem scaled_eq (negative : Bool) (e : Int) (hne : whole ++ fraction ≠ [])
    (h : ∀ c ∈ whole ++ fraction, c.isDigit = true) :
    scaled negative whole fraction e = Binary64.ofMagnitude negative
      (Nat.ofDigitChars 10 (whole ++ fraction) 0 * tenPow (e - fraction.length)) := by
  unfold scaled
  rw [natural?_digits hne h, Option.getD_some]
  dsimp only
  generalize Nat.ofDigitChars 10 (whole ++ fraction) 0 = n
  generalize e - fraction.length = f
  by_cases hn : n = 0
  · subst hn
    rw [Nat.cast_zero, zero_mul]
    rfl
  have hpos : 0 < (n : Rat) * tenPow f :=
    mul_pos (by exact_mod_cast Nat.pos_of_ne_zero hn) (Shortest.tenPow_pos f)
  split_ifs with hsmall hlarge
  · have hbelow : n * tenPow f < tenPow (-400) := by
      have hsize := of_decide_eq_true
        ((Bool.or_eq_true _ _).mp hsmall |>.resolve_left (by simpa using hn))
      calc n * tenPow f < tenPow (Nat.toDigits 10 n).length * tenPow f :=
            mul_lt_mul_of_pos_right (natCast_lt_tenPow n) (Shortest.tenPow_pos f)
        _ = tenPow ((Nat.toDigits 10 n).length + f) := (Shortest.tenPow_add _ _).symm
        _ ≤ tenPow (-400) := Shortest.tenPow_le_iff.mpr (by omega)
    exact (Binary64.ofMagnitude_small hpos (hbelow.trans tenPow_lt_least)).symm
  · have habove : tenPow 400 ≤ n * tenPow f := by
      calc tenPow 400 ≤ tenPow ((Nat.toDigits 10 n).length - 1 + f) :=
            Shortest.tenPow_le_iff.mpr (by omega)
        _ = tenPow ((Nat.toDigits 10 n).length - 1) * tenPow f := Shortest.tenPow_add _ _
        _ ≤ n * tenPow f :=
            mul_le_mul_of_nonneg_right (tenPow_le_natCast hn) (Shortest.tenPow_pos f).le
    exact (Binary64.ofMagnitude_large (twoPow_le_tenPow.trans habove)).symm
  · cases f with
    | ofNat k => rfl
    | negSucc k =>
      show Binary64.ofMagnitude negative (n / (10 : Rat) ^ (k + 1)) =
        Binary64.ofMagnitude negative (n * (1 / (10 : Rat) ^ (k + 1)))
      rw [mul_one_div]

/-! ## Numerals with a point or an exponent -/

/-- A numeral with a point, an exponent or both. -/
structure Scientific where
  /-- A minus sign stands in front. -/
  negative : Bool
  /-- The digits before the point. -/
  whole : List Char
  /-- The digits after the point; without any there is no point. -/
  fraction : List Char
  /-- The sign and the digits of the exponent. -/
  power : Option (Bool × List Char)
  whole_ne_nil : whole ≠ []
  whole_digits : ∀ c ∈ whole, c.isDigit = true
  whole_first : whole.head? = some '0' → whole = ['0']
  fraction_digits : ∀ c ∈ fraction, c.isDigit = true
  power_digits : ∀ p ∈ power, p.2 ≠ [] ∧ ∀ c ∈ p.2, c.isDigit = true
  isMarked : fraction ≠ [] ∨ power ≠ none

namespace Scientific

/-- A point and the digits after it. -/
def pointed : List Char → List Char
  | [] => []
  | c :: rest => '.' :: c :: rest

/-- The exponent as it is written. -/
def raised : Option (Bool × List Char) → List Char
  | none => []
  | some (negative, digits) => 'e' :: (if negative then '-' else '+') :: digits

/-- The exponent as a number. -/
def raisedValue : Option (Bool × List Char) → Int
  | none => 0
  | some (negative, digits) => signedValue negative digits

theorem raisedValue_none : raisedValue none = 0 := rfl

theorem raisedValue_some (negative : Bool) (digits : List Char) :
    raisedValue (some (negative, digits)) = signedValue negative digits := rfl

variable (s : Scientific)

/-- The numeral without its sign. -/
def body : List Char := s.whole ++ (pointed s.fraction ++ raised s.power)

/-- The numeral. -/
def chars : List Char := signed s.negative s.body

/-- The double nearest to what the numeral writes. -/
def toDouble : Binary64 :=
  Binary64.ofMagnitude s.negative
    (Nat.ofDigitChars 10 (s.whole ++ s.fraction) 0 *
      tenPow (raisedValue s.power - s.fraction.length))

theorem body_cons : ∃ c rest, s.body = c :: rest ∧ c.isDigit = true := by
  obtain ⟨c, rest, hwhole⟩ := List.exists_cons_of_ne_nil s.whole_ne_nil
  refine ⟨c, rest ++ (pointed s.fraction ++ raised s.power), ?_, ?_⟩
  · rw [body, hwhole, List.cons_append]
  · exact s.whole_digits c (hwhole ▸ List.mem_cons_self)

/-- A character of a numeral that is no digit. -/
def IsMark (c : Char) : Prop := c = '-' ∨ c = '.' ∨ c = 'e' ∨ c = '+'

/-- A numeral consists of digits and marks. -/
theorem isDigit_or_isMark {c : Char} (h : c ∈ s.chars) : c.isDigit = true ∨ IsMark c := by
  have hbody : ∀ c ∈ s.body, c.isDigit = true ∨ IsMark c := by
    intro c hc
    rcases List.mem_append.mp hc with hwhole | hrest
    · exact .inl (s.whole_digits c hwhole)
    rcases List.mem_append.mp hrest with hfraction | hpower
    · have hdigits := s.fraction_digits
      cases hf : s.fraction with
      | nil =>
        rw [hf] at hfraction
        cases hfraction
      | cons d ds =>
        rw [hf] at hfraction hdigits
        rcases List.mem_cons.mp hfraction with hpoint | hmem
        · exact .inr (.inr (.inl hpoint))
        · exact .inl (hdigits c hmem)
    · have hdigits := s.power_digits
      cases hp : s.power with
      | none =>
        rw [hp] at hpower
        cases hpower
      | some p =>
        rw [hp] at hpower hdigits
        rcases List.mem_cons.mp hpower with he | hmem
        · exact .inr (.inr (.inr (.inl he)))
        rcases List.mem_cons.mp hmem with hsign | hmem
        · refine .inr ?_
          split at hsign
          · exact .inl hsign
          · exact .inr (.inr (.inr hsign))
        · exact .inl ((hdigits p rfl).2 c hmem)
  unfold chars signed at h
  split at h
  · rcases List.mem_cons.mp h with hminus | hmem
    · exact .inr (.inl hminus)
    · exact hbody c hmem
  · exact hbody c h

theorem pointed_of_ne_nil {cs : List Char} (h : cs ≠ []) : pointed cs = '.' :: cs := by
  obtain ⟨c, rest, rfl⟩ := List.exists_cons_of_ne_nil h
  rfl

theorem head?_raised {p : Option (Bool × List Char)} {c : Char}
    (h : (raised p).head? = some c) : c = 'e' := by
  cases p with
  | none => cases h
  | some p => exact (Option.some.inj h).symm

theorem head?_pointed_append {cs rest : List Char} {c : Char}
    (h : (pointed cs ++ rest).head? = some c) : c = '.' ∨ rest.head? = some c := by
  cases cs with
  | nil => exact .inr h
  | cons d ds => exact .inl (Option.some.inj h).symm

/-- The exponent of a numeral is read as it is written. -/
theorem exponent?_raised : exponent? (raised s.power) = some (raisedValue s.power) := by
  have hdigits := s.power_digits
  cases hp : s.power with
  | none => rfl
  | some p =>
    obtain ⟨negative, ds⟩ := p
    obtain ⟨hne, hds⟩ := hdigits _ hp
    have hnatural := natural?_digits hne hds
    cases negative with
    | true =>
      show (natural? 10 ds).map (fun n : Nat => -(n : Int)) = _
      rw [hnatural]
      rfl
    | false =>
      show (natural? 10 ds).map (fun n : Nat => (n : Int)) = _
      rw [hnatural]
      rfl

theorem isAscii_of_mem_chars {c : Char} (h : c ∈ s.chars) :
    isBlank c = false ∧ c.toNat < 0x80 ∧ c ≠ '_' := by
  rcases s.isDigit_or_isMark h with hdigit | rfl | rfl | rfl | rfl
  · have hupper := (toNat_of_isDigit hdigit).2
    exact ⟨isBlank_of_isDigit hdigit, by omega, ne_of_isDigit rfl hdigit⟩
  all_goals decide

/-- A numeral begins with a digit, so it is no name, whatever the case of its letters. -/
theorem map_toLower_body_ne {d : Char} {ds : List Char} (hd : d.isDigit = false) :
    s.body.map Char.toLower ≠ d :: ds := by
  intro heq
  obtain ⟨c, more, hbody, hdigit⟩ := s.body_cons
  rw [hbody, List.map_cons, toLower_of_isDigit hdigit] at heq
  exact ne_of_isDigit hd hdigit (List.cons.inj heq).1

/-- A numeral is read as the double nearest to what it writes. -/
theorem double?_chars : double? s.chars = some s.toDouble := by
  have hsign : sign s.chars = (s.negative, s.body) := by
    obtain ⟨c, more, hbody, hdigit⟩ := s.body_cons
    rw [chars, hbody]
    exact sign_signed_cons hdigit
  have hinf (ds : List Char) : s.body.map Char.toLower ≠ 'i' :: ds := s.map_toLower_body_ne rfl
  have hnan (ds : List Char) : s.body.map Char.toLower ≠ 'n' :: ds := s.map_toLower_body_ne rfl
  have hrest : ∀ c, (pointed s.fraction ++ raised s.power).head? = some c → c.isDigit = false := by
    intro c hc
    rcases head?_pointed_append hc with rfl | hpower
    · rfl
    · rw [head?_raised hpower]
      rfl
  have hwhole := takeWhile_digits s.whole_digits hrest
  have hafter := dropWhile_digits s.whole_digits hrest
  have hscaled := scaled_eq s.negative (raisedValue s.power)
    (List.append_ne_nil_of_left_ne_nil s.whole_ne_nil s.fraction)
    (fun c hc => (List.mem_append.mp hc).elim (s.whole_digits c) (s.fraction_digits c))
  unfold double?
  rw [stripBy_of_forall fun c hc => (s.isAscii_of_mem_chars hc).1,
    asciiDigits_of_ascii fun c hc => (s.isAscii_of_mem_chars hc).2.1]
  dsimp only
  rw [dropUnderscores_of_not_mem fun hmem => (s.isAscii_of_mem_chars hmem).2.2 rfl]
  dsimp only [Option.bind_eq_bind, Option.bind_some]
  rw [hsign]
  dsimp only
  rw [if_neg (by simp [hinf]), if_neg (hnan _)]
  unfold body
  rw [hwhole, hafter, toDouble, ← hscaled]
  have hexponent := s.exponent?_raised
  have hwhole' : s.whole.isEmpty = false := by simpa using s.whole_ne_nil
  cases hf : s.fraction with
  | nil =>
    cases hp : s.power with
    | none => exact (s.isMarked.elim (· hf) (· hp)).elim
    | some p =>
      have hraised : raised (some p) = 'e' :: (if p.1 then '-' else '+') :: p.2 := rfl
      rw [hp] at hexponent
      rw [hraised] at hexponent ⊢
      simp [pointed, hexponent, hwhole']
  | cons d ds =>
    have hdigits := s.fraction_digits
    rw [hf] at hdigits
    have hmark : ∀ c, (raised s.power).head? = some c → c.isDigit = false := by
      intro c hc
      rw [head?_raised hc]
      rfl
    have htaken := takeWhile_digits hdigits hmark
    have hdropped := dropWhile_digits hdigits hmark
    rw [List.cons_append] at htaken hdropped
    simp only [pointed, List.cons_append, htaken, hdropped, hexponent, hwhole', Bool.false_and,
      Bool.false_eq_true, reduceIte, Option.bind_some]
    rfl

end Scientific

end Numeral

/-! ## Doubles as numerals -/

namespace Shortest

open Numeral (Scientific signed signedValue)

variable {n : Nat} {c : Char} {cs : List Char}

theorem digitsOf_one (n : Nat) : digitsOf 10 1 n = Nat.toDigits 10 n := by
  have hpos : 0 < (Nat.toDigits 10 n).length := Nat.length_toDigits_pos
  unfold digitsOf
  dsimp only
  rw [Nat.sub_eq_zero_of_le hpos]
  rfl

theorem isDigit_of_mem_zeros {zeros : Nat} (h : c ∈ List.replicate zeros '0') :
    c.isDigit = true := by
  rw [List.eq_of_mem_replicate h]
  rfl

theorem isDigit_of_mem_digitsOf {width : Nat} (h : c ∈ digitsOf 10 width n) :
    c.isDigit = true := by
  rcases List.mem_append.mp h with hzero | hdigit
  · exact isDigit_of_mem_zeros hzero
  · exact Nat.isDigit_of_mem_toDigits (by decide) (by decide) hdigit

theorem ofDigitChars_digitsOf (width n : Nat) :
    Nat.ofDigitChars 10 (digitsOf 10 width n) 0 = n := by
  unfold digitsOf
  dsimp only
  rw [Nat.ofDigitChars_append, Nat.ofDigitChars_replicate_zero, Nat.mul_zero]
  exact Nat.ofDigitChars_toDigits (by decide) (by decide)

/-- The zeros at the end of a number follow its significant digits. -/
theorem significant_spec (hn : 0 < n) : ∃ c rest zeros, significant n = c :: rest ∧ c ≠ '0' ∧
    Nat.toDigits 10 n = c :: rest ++ List.replicate zeros '0' := by
  let ds := Nat.toDigits 10 n
  have hsplit : ds = significant.stripped ds ++ (ds.reverse.takeWhile (· == '0')).reverse := by
    unfold significant.stripped
    rw [← List.reverse_append, List.takeWhile_append_dropWhile, List.reverse_reverse]
  have hzeros : ∀ c ∈ (ds.reverse.takeWhile (· == '0')).reverse, c = '0' := by
    intro c hc
    have hall := List.all_eq_true.mp (List.all_takeWhile (p := (· == '0')) (l := ds.reverse))
    exact eq_of_beq (hall c (List.mem_reverse.mp hc))
  rw [List.eq_replicate_of_mem hzeros] at hsplit
  cases hs : significant.stripped ds with
  | nil =>
    have hvalue : Nat.ofDigitChars 10 ds 0 = n :=
      Nat.ofDigitChars_toDigits (by decide) (by decide)
    rw [hsplit, hs, List.nil_append, Nat.ofDigitChars_replicate_zero, Nat.mul_zero] at hvalue
    omega
  | cons c rest =>
    rw [hs] at hsplit
    refine ⟨c, rest, _, ?_, ?_, hsplit⟩
    · unfold significant
      rw [digitsOf_one, hs]
    · rintro rfl
      have hhead : ds = ['0'] := Numeral.toDigits_of_head? n (by
        show ds.head? = some '0'
        rw [hsplit]
        rfl)
      have hvalue : Nat.ofDigitChars 10 ds 0 = n :=
        Nat.ofDigitChars_toDigits (by decide) (by decide)
      rw [hhead] at hvalue
      exact hn.ne hvalue

/-- Each zero behind digits multiplies their number by ten. -/
theorem ofDigitChars_append_zeros (cs : List Char) (zeros : Nat) :
    (Nat.ofDigitChars 10 (cs ++ List.replicate zeros '0') 0 : Rat) =
      Nat.ofDigitChars 10 cs 0 * tenPow zeros := by
  rw [Nat.ofDigitChars_append, Nat.ofDigitChars_replicate_zero, tenPow_natCast]
  push_cast
  ring

/-- What digits write if the first of them stands at the place `10 ^ first`. -/
def worth (cs : List Char) (first : Int) : Rat :=
  Nat.ofDigitChars 10 cs 0 * tenPow (first + 1 - cs.length)

section Forms

variable {rest : List Char} {first : Int}

/-- Digits that begin behind the point are laid out as a numeral. -/
theorem exists_below_one (hall : ∀ a ∈ cs, a.isDigit = true) (hne : cs ≠ []) (hsmall : first < 0)
    (negative : Bool) : ∃ s : Scientific,
      s.chars = signed negative ('0' :: '.' :: List.replicate (-first - 1).toNat '0' ++ cs) ∧
        s.toDouble = Binary64.ofMagnitude negative (worth cs first) := by
  refine ⟨⟨negative, ['0'], List.replicate (-first - 1).toNat '0' ++ cs, none,
    List.cons_ne_nil _ _, by simp, fun _ => rfl, ?_, by simp, .inl (by simp [hne])⟩, ?_, ?_⟩
  · intro a ha
    exact (List.mem_append.mp ha).elim isDigit_of_mem_zeros (hall a)
  · unfold Scientific.chars Scientific.body
    rw [Scientific.pointed_of_ne_nil (by simp [hne])]
    simp [Scientific.raised]
  · have hvalue : Nat.ofDigitChars 10 (['0'] ++ (List.replicate (-first - 1).toNat '0' ++ cs)) 0 =
        Nat.ofDigitChars 10 cs 0 := by
      rw [Nat.ofDigitChars_append, Nat.ofDigitChars_append, Nat.ofDigitChars_replicate_zero]
      rfl
    unfold Scientific.toDouble worth
    rw [hvalue, List.length_append, List.length_replicate]
    congr 3
    rw [Scientific.raisedValue_none]
    push_cast
    omega

/-- Digits that end before the point are laid out as a numeral. -/
theorem exists_integer (hall : ∀ a ∈ c :: rest, a.isDigit = true) (hfirst : c ≠ '0')
    (hplace : 0 ≤ first) (hlength : (c :: rest).length ≤ first.toNat + 1) (negative : Bool) :
    ∃ s : Scientific,
      s.chars = signed negative (c :: rest ++
        List.replicate (first.toNat + 1 - (c :: rest).length) '0' ++ ['.', '0']) ∧
        s.toDouble = Binary64.ofMagnitude negative (worth (c :: rest) first) := by
  refine ⟨⟨negative, c :: rest ++ List.replicate (first.toNat + 1 - (c :: rest).length) '0',
    ['0'], none, by simp, ?_, ?_, by simp, by simp, .inl (by simp)⟩, ?_, ?_⟩
  · intro a ha
    exact (List.mem_append.mp ha).elim (hall a) isDigit_of_mem_zeros
  · intro hzero
    exact absurd (Option.some.inj hzero) hfirst
  · simp [Scientific.chars, Scientific.body, Scientific.pointed, Scientific.raised]
  · unfold Scientific.toDouble worth
    have hzeros : List.replicate (first.toNat + 1 - (c :: rest).length) '0' ++ ['0'] =
        List.replicate (first.toNat + 1 - (c :: rest).length + 1) '0' :=
      List.replicate_succ'.symm
    dsimp only
    rw [List.append_assoc, hzeros, ofDigitChars_append_zeros, mul_assoc, ← tenPow_add]
    congr 3
    rw [Scientific.raisedValue_none, List.length_singleton]
    omega

/-- Digits with the point between them are laid out as a numeral. -/
theorem exists_pointed (hall : ∀ a ∈ c :: rest, a.isDigit = true) (hfirst : c ≠ '0')
    (hplace : 0 ≤ first) (hlength : first.toNat + 1 < (c :: rest).length) (negative : Bool) :
    ∃ s : Scientific,
      s.chars = signed negative ((c :: rest).take (first.toNat + 1) ++ '.' ::
        (c :: rest).drop (first.toNat + 1)) ∧
        s.toDouble = Binary64.ofMagnitude negative (worth (c :: rest) first) := by
  have hne : (c :: rest).drop (first.toNat + 1) ≠ [] := by
    simpa [List.drop_eq_nil_iff] using hlength
  refine ⟨⟨negative, (c :: rest).take (first.toNat + 1), (c :: rest).drop (first.toNat + 1), none,
    by simp, fun a ha => hall a (List.mem_of_mem_take ha), ?_,
    fun a ha => hall a (List.mem_of_mem_drop ha), by simp, .inl hne⟩, ?_, ?_⟩
  · intro hzero
    exact absurd (Option.some.inj hzero) hfirst
  · unfold Scientific.chars Scientific.body
    rw [Scientific.pointed_of_ne_nil hne]
    simp [Scientific.raised]
  · unfold Scientific.toDouble worth
    dsimp only
    rw [List.take_append_drop, List.length_drop]
    congr 3
    rw [Scientific.raisedValue_none]
    omega

/-- Digits with an exponent are laid out as a numeral. -/
theorem exists_raised (hall : ∀ a ∈ c :: rest, a.isDigit = true) (hfirst : c ≠ '0')
    (first : Int) (width : Nat) (negative : Bool) : ∃ s : Scientific,
      s.chars = signed negative ((match c :: rest with
          | [] => []
          | [c] => [c]
          | c :: rest => c :: '.' :: rest) ++
        'e' :: (if first < 0 then '-' else '+') :: digitsOf 10 width first.natAbs) ∧
        s.toDouble = Binary64.ofMagnitude negative (worth (c :: rest) first) := by
  refine ⟨⟨negative, [c], rest, some (decide (first < 0), digitsOf 10 width first.natAbs),
    List.cons_ne_nil _ _, ?_, ?_, fun a ha => hall a (List.mem_cons_of_mem _ ha), ?_,
    .inr (by simp)⟩, ?_, ?_⟩
  · simpa using hall c List.mem_cons_self
  · intro hzero
    exact absurd (Option.some.inj hzero) hfirst
  · intro p hp
    rw [← Option.some.inj hp]
    exact ⟨by simp [digitsOf, Nat.toDigits_ne_nil], fun a => isDigit_of_mem_digitsOf⟩
  · cases rest <;>
      simp [Scientific.chars, Scientific.body, Scientific.pointed, Scientific.raised]
  · have hexponent : Scientific.raisedValue
        (some (decide (first < 0), digitsOf 10 width first.natAbs)) = first := by
      rw [Scientific.raisedValue_some, signedValue, ofDigitChars_digitsOf]
      by_cases hsmall : first < 0
      · rw [if_pos (decide_eq_true hsmall)]
        omega
      · rw [if_neg (by simpa using hsmall)]
        omega
    unfold Scientific.toDouble worth
    dsimp only
    rw [hexponent, List.singleton_append, List.length_cons]
    congr 3
    omega

end Forms

/-- A positive decimal is laid out as a numeral that writes it. -/
theorem layOut_spec {l : Layout} (hend : l.integerEnd = ['.', '0']) {d : Decimal}
    (hd : 0 < d.digits) (negative : Bool) : ∃ s : Scientific,
      s.chars = signed negative (layOut l d) ∧
        s.toDouble = Binary64.ofMagnitude negative (d.digits * tenPow d.exponent) := by
  obtain ⟨c, rest, zeros, hsignificant, hfirst, hdigits⟩ := significant_spec hd
  have hall : ∀ a ∈ c :: rest, a.isDigit = true := by
    intro a ha
    refine Nat.isDigit_of_mem_toDigits (b := 10) (n := d.digits) (by decide) (by decide) ?_
    rw [hdigits]
    exact List.mem_append_left _ ha
  generalize hplace : d.exponent + (Nat.toDigits 10 d.digits).length - 1 = first
  have hworth : (d.digits : Rat) * tenPow d.exponent = worth (c :: rest) first := by
    have hread : Nat.ofDigitChars 10 (Nat.toDigits 10 d.digits) 0 = d.digits :=
      Nat.ofDigitChars_toDigits (by decide) (by decide)
    unfold worth
    rw [← hread, hdigits, ofDigitChars_append_zeros, mul_assoc, ← tenPow_add, ← hplace, hdigits,
      List.length_append, List.length_replicate]
    congr 2
    push_cast
    ring
  rw [hworth]
  unfold layOut
  dsimp only
  rw [digitsOf_one, hplace, hsignificant]
  split_ifs with hplain hsmall hlength hsmall
  · exact exists_below_one hall (List.cons_ne_nil _ _) hsmall negative
  · rw [hend]
    exact exists_integer hall hfirst (not_lt.mp hsmall) hlength negative
  · exact exists_pointed hall hfirst (not_lt.mp hsmall) (not_le.mp hlength) negative
  · have hraised := exists_raised hall hfirst first l.exponentWidth negative
    rwa [if_pos hsmall] at hraised
  · have hraised := exists_raised hall hfirst first l.exponentWidth negative
    rwa [if_neg hsmall] at hraised

theorem chars_finite (l : Layout) (negative : Bool) (m : Nat) (e : Int) :
    chars l (.finite negative m e) =
      signed negative (if m = 0 then '0' :: l.integerEnd else layOut l (ofMagnitude m e)) := rfl

/-- The text of a finite double is a numeral of it. -/
theorem chars_spec {l : Layout} (hend : l.integerEnd = ['.', '0']) {x : Binary64}
    (hx : x.isFinite = true) : ∃ s : Scientific, s.chars = chars l x ∧ s.toDouble = x := by
  cases x with
  | nan => cases hx
  | infinite negative => cases hx
  | finite negative m e =>
    have hcanonical : Binary64.IsCanonical m e := of_decide_eq_true hx
    by_cases hm : m = 0
    · subst hm
      have he : e = Binary64.leastExponent := by
        have hfull := hcanonical.2.2.2
        omega
      subst he
      refine ⟨⟨negative, ['0'], ['0'], none, by simp, by simp, fun _ => rfl, by simp, by simp,
        .inl (by simp)⟩, ?_, ?_⟩
      · rw [chars_finite, if_pos rfl, hend]
        rfl
      · have hvalue : Nat.ofDigitChars 10 (['0'] ++ ['0']) 0 = 0 := rfl
        unfold Scientific.toDouble
        rw [hvalue, Nat.cast_zero, zero_mul]
        rfl
    · have hreads := ofMagnitude_reads hcanonical (Nat.pos_of_ne_zero hm)
      generalize hd : ofMagnitude m e = d at hreads
      have hdigits : 0 < d.digits := by
        by_contra hzero
        rw [Nat.eq_zero_of_not_pos hzero, Nat.cast_zero, zero_mul] at hreads
        exact hm (Binary64.finite.inj hreads).2.1.symm
      obtain ⟨s, hchars, hdouble⟩ := layOut_spec hend hdigits negative
      refine ⟨s, ?_, ?_⟩
      · rw [hchars, chars_finite, if_neg hm, hd]
      · rw [hdouble]
        cases negative with
        | false => exact hreads
        | true =>
          rw [Binary64.ofMagnitude_neg, hreads]
          rfl

end Shortest

end InstallerGateway
