import InstallerGateway.Json.Reader
import InstallerGateway.Proofs.Number.Numeral
import InstallerGateway.Proofs.Text.Strip
import Mathlib.Data.List.TakeWhile

/-!
# Texts that are JSON

A text is no JSON if its first character that is no white space begins no value. The numeral of an
integer is JSON, white space around it or not, unless it has too many digits to be read.
-/

namespace InstallerGateway.Json

open Numeral (signed signedValue)

variable {c : Char} {cs rest : List Char} {text : String}

/-! ## What values begin with -/

/-- A value may begin with the character. -/
def BeginsValue (c : Char) : Prop :=
  c ∈ ['"', '[', '\x7b', 'n', 't', 'f', 'N', 'I', '-'] ∨ c.isDigit = true

instance (c : Char) : Decidable (BeginsValue c) := inferInstanceAs (Decidable (_ ∨ _))

theorem not_beginsValue_of_isSpace (h : isSpace c = true) : ¬ BeginsValue c := by
  simp only [isSpace, Bool.or_eq_true, beq_iff_eq] at h
  rcases h with ((rfl | rfl) | rfl) | rfl <;> decide

theorem number_of_not_isDigit (h : c.isDigit = false) (hminus : c ≠ '-') :
    number (c :: rest) = .error .malformed := by
  have hdigits : digits? (c :: rest) = none := by
    unfold digits?
    simp [isSome_asciiDigit?, h]
  have hwhole : whole? (c :: rest) = none := by
    unfold whole?
    split
    · rename_i heq
      obtain ⟨rfl, -⟩ := List.cons.inj heq
      exact absurd h (by decide)
    · exact hdigits
  have hsign : minus (c :: rest) = ([], c :: rest) := by
    simp [minus, hminus]
  unfold number
  rw [hsign]
  dsimp only
  rw [hwhole]
  rfl

/-- A text is no value unless a value begins with its first character. -/
theorem value_of_not_beginsValue (h : ¬ BeginsValue c) (fuel : Nat) :
    value fuel (c :: rest) = .error .malformed := by
  cases fuel with
  | zero => rw [value]
  | succ fuel =>
    obtain ⟨hmarks, hdigit⟩ := not_or.mp h
    simp only [List.mem_cons, List.not_mem_nil, or_false, not_or] at hmarks
    obtain ⟨hquote, hbracket, hbrace, hnull, htrue, hfalse, hnan, hinfinity, hminus⟩ := hmarks
    have hword : afterWord? "-Infinity".toList (c :: rest) = none := if_neg (Ne.symm hminus)
    rw [value.eq_def]
    simp only [if_neg hquote, if_neg hbracket, if_neg hbrace, if_neg hnull, if_neg htrue,
      if_neg hfalse, if_neg hnan, if_neg hinfinity, hword]
    exact number_of_not_isDigit (by simpa using hdigit) hminus

/-- A text that begins with no value is no JSON. -/
theorem parse_of_not_beginsValue
    (h : ∀ c, (skipSpace text.toList).head? = some c → ¬ BeginsValue c) :
    parse text = .error .malformed := by
  have hvalue : value (text.toList.length + 1) (skipSpace text.toList) = .error .malformed := by
    cases hskip : skipSpace text.toList with
    | nil => rw [value]
    | cons c rest => exact value_of_not_beginsValue (h c (by rw [hskip]; rfl)) _
  unfold parse
  dsimp only
  rw [hvalue]
  rfl

/-! ## Integers -/

theorem ne_of_isSpace {d : Char} (hc : isSpace c = true) (hd : isSpace d = false) : c ≠ d := by
  rintro rfl
  exact Bool.false_ne_true (hd.symm.trans hc)

/-- What follows a numeral does not continue it. -/
def EndsNumeral (rest : List Char) : Prop :=
  ∀ c, rest.head? = some c → c.isDigit = false ∧ c ≠ '.' ∧ c ≠ 'e' ∧ c ≠ 'E'

theorem endsNumeral_of_isSpace (h : ∀ c ∈ rest, isSpace c = true) : EndsNumeral rest := by
  intro c hc
  have hspace := h c (List.mem_of_mem_head? hc)
  have hbegins := not_beginsValue_of_isSpace hspace
  exact ⟨Bool.eq_false_iff.mpr fun hd => hbegins (.inr hd), ne_of_isSpace hspace rfl,
    ne_of_isSpace hspace rfl, ne_of_isSpace hspace rfl⟩

/-- Digits are taken up to the first other character. -/
theorem digits?_append (hne : cs ≠ []) (h : ∀ c ∈ cs, c.isDigit = true)
    (hrest : ∀ c, rest.head? = some c → c.isDigit = false) :
    digits? (cs ++ rest) = some (cs, rest) := by
  unfold digits?
  dsimp only
  rw [takeWhile_digits h hrest, dropWhile_digits h hrest]
  split
  · contradiction
  · rfl

theorem fraction_of_head? (h : ∀ c, rest.head? = some c → c ≠ '.') :
    fraction rest = ([], rest) := by
  cases rest with
  | nil => rfl
  | cons c rest =>
    unfold fraction
    simp [h c rfl]

theorem exponent_of_head? (h : ∀ c, rest.head? = some c → c ≠ 'e' ∧ c ≠ 'E') :
    exponent rest = ([], rest) := by
  cases rest with
  | nil => rfl
  | cons c rest =>
    obtain ⟨hsmall, hcapital⟩ := h c rfl
    unfold exponent
    simp [hsmall, hcapital]

theorem signed_append (negative : Bool) (cs rest : List Char) :
    signed negative cs ++ rest = signed negative (cs ++ rest) := by
  cases negative <;> rfl

theorem minus_signed (negative : Bool) (h : c.isDigit = true) :
    minus (signed negative (c :: cs)) = (signed negative [], c :: cs) := by
  cases negative with
  | true => rfl
  | false => simp [minus, signed, ne_of_isDigit (d := '-') rfl h]

/-- A zero in front ends the integer part, so it has to be the only digit. -/
theorem whole?_append (hne : cs ≠ []) (h : ∀ c ∈ cs, c.isDigit = true)
    (hfirst : cs.head? = some '0' → cs = ['0'])
    (hrest : ∀ c, rest.head? = some c → c.isDigit = false) :
    whole? (cs ++ rest) = some (cs, rest) := by
  have hdigits := digits?_append hne h hrest
  obtain ⟨c, cs', rfl⟩ := List.exists_cons_of_ne_nil hne
  by_cases hzero : c = '0'
  · subst hzero
    rw [hfirst rfl]
    rfl
  · rw [← hdigits]
    simp [whole?, hzero]

/-- Sign and digits are followed by a fraction and an exponent, or else they are an integer. -/
theorem number_append (negative : Bool) (hne : cs ≠ []) (h : ∀ c ∈ cs, c.isDigit = true)
    (hfirst : cs.head? = some '0' → cs = ['0'])
    (hrest : ∀ c, rest.head? = some c → c.isDigit = false) {frac exp more end' : List Char}
    (hfraction : fraction rest = (frac, more)) (hexponent : exponent more = (exp, end')) :
    number (signed negative cs ++ rest) =
      if frac.isEmpty && exp.isEmpty then
        (integer (signed negative cs)).map fun n => (.int n, end')
      else
        (expected (Numeral.double? (signed negative cs ++ frac ++ exp))).map
          fun x => (.float x, end') := by
  have hwhole := whole?_append hne h hfirst hrest
  obtain ⟨c, cs', rfl⟩ := List.exists_cons_of_ne_nil hne
  unfold number
  rw [signed_append, List.cons_append, minus_signed negative (h c List.mem_cons_self)]
  dsimp only
  rw [← List.cons_append, hwhole]
  show (if (fraction rest).1.isEmpty && (exponent (fraction rest).2).1.isEmpty then _ else _) = _
  rw [hfraction]
  dsimp only
  rw [hexponent, signed_append]
  rfl

/-- An integer is read from its numeral, unless that is too long. -/
theorem number_signed (negative : Bool) (hne : cs ≠ []) (h : ∀ c ∈ cs, c.isDigit = true)
    (hfirst : cs.head? = some '0' → cs = ['0']) (hrest : EndsNumeral rest) :
    number (signed negative cs ++ rest) =
      if Numeral.maxDigits < cs.length then .error .tooLong
      else .ok (.int (signedValue negative cs), rest) := by
  have hfraction : fraction rest = ([], rest) :=
    fraction_of_head? fun c hc => (hrest c hc).2.1
  have hexponent : exponent rest = ([], rest) :=
    exponent_of_head? fun c hc => (hrest c hc).2.2
  rw [number_append negative hne h hfirst (fun c hc => (hrest c hc).1) hfraction hexponent]
  show (integer (signed negative cs)).map _ = _
  unfold integer
  rw [Numeral.decimal_signed negative hne h]
  split_ifs <;> rfl

/-- What begins with a sign or a digit, and is not minus infinity, is read as a number. -/
theorem value_eq_number (hc : c = '-' ∨ c.isDigit = true)
    (hword : afterWord? "-Infinity".toList (c :: rest) = none) (fuel : Nat) :
    value (fuel + 1) (c :: rest) = number (c :: rest) := by
  have hne {d : Char} (hd : d ≠ '-' ∧ d.isDigit = false) : c ≠ d := by
    rintro rfl
    rcases hc with hminus | hdigit
    · exact hd.1 hminus
    · exact Bool.false_ne_true (hd.2.symm.trans hdigit)
  rw [value.eq_def]
  simp only [if_neg (hne (d := '"') (by decide)), if_neg (hne (d := '[') (by decide)),
    if_neg (hne (d := '\x7b') (by decide)), if_neg (hne (d := 'n') (by decide)),
    if_neg (hne (d := 't') (by decide)), if_neg (hne (d := 'f') (by decide)),
    if_neg (hne (d := 'N') (by decide)), if_neg (hne (d := 'I') (by decide)), hword]

/-- A sign and a digit begin a number and nothing else. -/
theorem value_signed_cons (negative : Bool) (hdigit : c.isDigit = true) (fuel : Nat) :
    value (fuel + 1) (signed negative (c :: rest)) = number (signed negative (c :: rest)) := by
  have hother {d : Char} (hd : d.isDigit = false) : d ≠ c := by
    rintro rfl
    exact Bool.false_ne_true (hd.symm.trans hdigit)
  cases negative with
  | true =>
    have hword : afterWord? "-Infinity".toList ('-' :: c :: rest) = none := by
      simp [afterWord?, hother (d := 'I') (by decide)]
    exact value_eq_number (.inl rfl) hword fuel
  | false =>
    have hword : afterWord? "-Infinity".toList (c :: rest) = none := by
      simp [afterWord?, hother (d := '-') (by decide)]
    exact value_eq_number (.inr hdigit) hword fuel

theorem beginsValue_signed (negative : Bool) (hdigit : c.isDigit = true) :
    ∃ d more, signed negative (c :: rest) = d :: more ∧ BeginsValue d := by
  cases negative with
  | true => exact ⟨'-', c :: rest, rfl, by decide⟩
  | false => exact ⟨c, rest, rfl, .inr hdigit⟩

/-- The numeral of an integer is read unless it has too many digits. -/
theorem value_toString (n : Int) (hrest : EndsNumeral rest) (fuel : Nat) :
    value (fuel + 1) ((toString n).toList ++ rest) =
      if Numeral.maxDigits < (Nat.toDigits 10 n.natAbs).length then .error .tooLong
      else .ok (.int n, rest) := by
  obtain ⟨negative, c, cs, hcs, hvalue, hdigits, hfirst, hlist⟩ := Numeral.toString_spec n
  have hnumber := number_signed negative (List.cons_ne_nil _ _) hdigits hfirst hrest
  rw [hvalue, hlist, ← hlist, signed_append] at hnumber
  rw [hcs, ← hlist, signed_append]
  exact (value_signed_cons negative (hdigits c List.mem_cons_self) fuel).trans hnumber

theorem beginsValue_toString (n : Int) :
    ∃ c more, (toString n).toList = c :: more ∧ BeginsValue c := by
  obtain ⟨negative, c, cs, hcs, -, hdigits, -⟩ := Numeral.toString_spec n
  rw [hcs]
  exact beginsValue_signed negative (hdigits c List.mem_cons_self)

/-! ## Whole texts -/

/-- White space is skipped up to where a value begins. -/
theorem skipSpace_enclosed {before after : List Char} (hbefore : ∀ c ∈ before, isSpace c = true)
    (hbegins : ∃ c more, cs = c :: more ∧ BeginsValue c) :
    skipSpace (before ++ cs ++ after) = cs ++ after := by
  unfold skipSpace
  rw [List.append_assoc, List.dropWhile_append_of_pos hbefore]
  refine dropWhile_of_head? fun c hc => ?_
  obtain ⟨d, more, rfl, hd⟩ := hbegins
  rw [List.cons_append, List.head?_cons] at hc
  exact Bool.eq_false_iff.mpr fun hspace =>
    not_beginsValue_of_isSpace hspace (Option.some.inj hc ▸ hd)

/-- White space around a value does not matter. -/
theorem parse_of_value {before after : List Char} {d : Datum}
    (htext : text.toList = before ++ cs ++ after) (hbefore : ∀ c ∈ before, isSpace c = true)
    (hafter : ∀ c ∈ after, isSpace c = true) (hbegins : ∃ c more, cs = c :: more ∧ BeginsValue c)
    (hvalue : value (text.toList.length + 1) (cs ++ after) = .ok (d, after)) :
    parse text = .ok d := by
  have hskip : skipSpace text.toList = cs ++ after := by
    rw [htext, skipSpace_enclosed hbefore hbegins]
  have hend : skipSpace after = [] := List.dropWhile_eq_nil_iff.mpr hafter
  unfold parse
  dsimp only
  rw [hskip, hvalue]
  show (if (skipSpace after).isEmpty then _ else _) = _
  rw [hend]
  rfl

/-- The text is the numeral of the integer, with white space around it. -/
def IsNumeral (text : String) (n : Int) : Prop :=
  ∃ before after, text.toList = before ++ (toString n).toList ++ after ∧
    (∀ c ∈ before, isSpace c = true) ∧ ∀ c ∈ after, isSpace c = true

/-- The numeral of an integer is JSON, and is read unless it has too many digits. -/
theorem IsNumeral.parse {n : Int} (h : IsNumeral text n) :
    parse text =
      if Numeral.maxDigits < (Nat.toDigits 10 n.natAbs).length then .error .tooLong
      else .ok (.int n) := by
  obtain ⟨before, after, htext, hbefore, hafter⟩ := h
  have hbegins := beginsValue_toString n
  have hvalue := value_toString n (endsNumeral_of_isSpace hafter) text.toList.length
  split_ifs at hvalue ⊢ with hlong
  · have hskip : skipSpace text.toList = (toString n).toList ++ after := by
      rw [htext, skipSpace_enclosed hbefore hbegins]
    unfold Json.parse
    dsimp only
    rw [hskip, hvalue]
    rfl
  · exact parse_of_value htext hbefore hafter hbegins hvalue

end InstallerGateway.Json
