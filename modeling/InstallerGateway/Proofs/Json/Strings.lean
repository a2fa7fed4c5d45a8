import InstallerGateway.Json.Reader
import InstallerGateway.Json.Writer
import Mathlib.Data.List.Basic
import Mathlib.Tactic.SplitIfs

/-!
# Strings in JSON

A text is written as a string of printable ASCII characters, whatever it holds, and the string is
read as the text again.
-/

namespace InstallerGateway

/-! ## Hexadecimal digits -/

/-- The last digit of at least two stands after the digits of the rest. -/
theorem digitsOf_succ {base : Nat} (hbase : 1 < base) (width n : Nat) :
    digitsOf base (width + 2) n =
      digitsOf base (width + 1) (n / base) ++ [(n % base).digitChar] := by
  unfold digitsOf
  dsimp only
  by_cases h : n < base
  · rw [Nat.toDigits_of_lt_base h, Nat.div_eq_of_lt h, Nat.mod_eq_of_lt h, Nat.toDigits_zero,
      List.length_singleton, List.length_singleton]
    simp [List.replicate_succ']
  · have hwidth (length : Nat) : width + 2 - (length + 1) = width + 1 - length := by omega
    rw [Nat.toDigits_of_base_le hbase (Nat.le_of_not_lt h), List.length_append,
      List.length_singleton, hwidth, List.append_assoc]

theorem digitsOf_four {n : Nat} (h : n < 0x10000) : digitsOf 16 4 n =
    [(n / 16 / 16 / 16).digitChar, (n / 16 / 16 % 16).digitChar, (n / 16 % 16).digitChar,
      (n % 16).digitChar] := by
  have hfirst : digitsOf 16 1 (n / 16 / 16 / 16) = [(n / 16 / 16 / 16).digitChar] := by
    unfold digitsOf
    rw [Nat.toDigits_of_lt_base (by omega)]
    rfl
  rw [digitsOf_succ (by decide), digitsOf_succ (by decide), digitsOf_succ (by decide), hfirst]
  rfl

theorem hexDigit?_digitChar : ∀ d < 16, hexDigit? d.digitChar = some d := by decide

namespace Json

variable {c : Char} {n : Nat} {rest : List Char}

/-- Four hexadecimal digits are read as the number that they write. -/
theorem hex4?_digitsOf (h : n < 0x10000) (rest : List Char) :
    hex4? (digitsOf 16 4 n ++ rest) = some (n, rest) := by
  rw [digitsOf_four h]
  simp only [List.cons_append, List.nil_append, hex4?]
  rw [hexDigit?_digitChar _ (by omega), hexDigit?_digitChar _ (by omega),
    hexDigit?_digitChar _ (by omega), hexDigit?_digitChar _ (by omega)]
  have hvalue :
      ((n / 16 / 16 / 16 * 16 + n / 16 / 16 % 16) * 16 + n / 16 % 16) * 16 + n % 16 = n := by
    omega
  simp [hvalue]

/-! ## Printable characters -/

/-- The character is a printable one of ASCII. -/
def IsPrintable (c : Char) : Prop := 0x20 ≤ c.toNat ∧ c.toNat < 0x7F

instance (c : Char) : Decidable (IsPrintable c) := inferInstanceAs (Decidable (_ ∧ _))

/-- The escape of a UTF-16 unit is printable. -/
theorem isPrintable_of_mem_unit (h : n < 0x10000) (hc : c ∈ unit n) : IsPrintable c := by
  have hdigit : ∀ d < 16, IsPrintable d.digitChar := by decide
  unfold unit at hc
  rw [digitsOf_four h] at hc
  simp only [List.mem_cons, List.not_mem_nil, or_false] at hc
  rcases hc with rfl | rfl | rfl | rfl | rfl | rfl
  · decide
  · decide
  all_goals exact hdigit _ (by omega)

/-! ## Escapes -/

/-- How a character is written inside a string. -/
inductive IsEscape (c : Char) : List Char → Prop where
  /-- By a backslash and a character that stands for it. -/
  | short (e : Char) (h : shortEscape? e = some c) (he : IsPrintable e) : IsEscape c ['\\', e]
  /-- As it is. -/
  | plain (hc : IsPrintable c) (hquote : c ≠ '"') (hbackslash : c ≠ '\\') : IsEscape c [c]
  /-- By its number. -/
  | unit (h : c.toNat < 0x10000) : IsEscape c (unit c.toNat)
  /-- By the numbers of two surrogates. -/
  | pair (h : 0x10000 ≤ c.toNat) :
    IsEscape c (Json.unit (0xD800 + (c.toNat - 0x10000) / 0x400) ++
      Json.unit (0xDC00 + (c.toNat - 0x10000) % 0x400))

/-- A character is escaped in one of the four ways. -/
theorem escape_spec (c : Char) : IsEscape c (escape c) := by
  have hback : c.toNat = 0x08 → c = '\x08' := fun h => Char.toNat_inj.mp h
  have hfeed : c.toNat = 0x0C → c = '\x0c' := fun h => Char.toNat_inj.mp h
  unfold escape
  dsimp only
  split_ifs with hquote hbackslash hline hreturn htab height htwelve hprintable hsmall
  · subst hquote
    exact .short '"' rfl (by decide)
  · subst hbackslash
    exact .short '\\' rfl (by decide)
  · subst hline
    exact .short 'n' rfl (by decide)
  · subst hreturn
    exact .short 'r' rfl (by decide)
  · subst htab
    exact .short 't' rfl (by decide)
  · rw [hback height]
    exact .short 'b' rfl (by decide)
  · rw [hfeed htwelve]
    exact .short 'f' rfl (by decide)
  · exact .plain (by simpa [IsPrintable] using hprintable) hquote hbackslash
  · exact .unit hsmall
  · exact .pair (Nat.le_of_not_lt hsmall)

theorem toNat_lt_and_not_surrogate (c : Char) :
    c.toNat < 0xD800 ∨ 0xDFFF < c.toNat ∧ c.toNat < 0x110000 :=
  c.valid

theorem escape_ne_nil (c : Char) : escape c ≠ [] := by
  have hescape := escape_spec c
  generalize escape c = cs at hescape
  cases hescape with
  | short => exact List.cons_ne_nil _ _
  | plain => exact List.cons_ne_nil _ _
  | unit => exact List.cons_ne_nil _ _
  | pair => exact List.append_ne_nil_of_left_ne_nil (List.cons_ne_nil _ _) _

/-- What a character is escaped to is printable. -/
theorem isPrintable_of_mem_escape {d : Char} (h : d ∈ escape c) : IsPrintable d := by
  have hrange := toNat_lt_and_not_surrogate c
  have hescape := escape_spec c
  generalize escape c = cs at hescape h
  cases hescape with
  | short e _ he =>
    simp only [List.mem_cons, List.not_mem_nil, or_false] at h
    rcases h with rfl | rfl
    · decide
    · exact he
  | plain hc => exact List.mem_singleton.mp h ▸ hc
  | unit hsmall => exact isPrintable_of_mem_unit hsmall h
  | pair =>
    rcases List.mem_append.mp h with hhigh | hlow
    · exact isPrintable_of_mem_unit (by omega) hhigh
    · exact isPrintable_of_mem_unit (by omega) hlow

/-! ## Strings that are read -/

/-- The escape of a unit that begins no pair is read as a character. -/
theorem string?_unit (fuel : Nat) (h : n < 0x10000) (hhigh : Utf16.isHigh n = false) :
    string? (fuel + 1) (unit n ++ rest) =
      (string? fuel rest).map fun r =>
        ((if Utf16.isLow n then '\ufffd' else Char.ofNat n) :: r.1, r.2) := by
  have hdigits := hex4?_digitsOf h rest
  unfold unit
  cases hread : string? fuel rest <;> simp [string?, hdigits, hhigh, hread]

/-- The escapes of a pair of units are read as one character. -/
theorem string?_pair (fuel : Nat) {high low : Nat} (hhigh : Utf16.isHigh high = true)
    (hlow : Utf16.isLow low = true) :
    string? (fuel + 1) (unit high ++ (unit low ++ rest)) =
      (string? fuel rest).map fun r => (Utf16.pair high low :: r.1, r.2) := by
  have hhigh' := hhigh
  have hlow' := hlow
  simp only [Utf16.isHigh, Utf16.isLow, Bool.and_eq_true, decide_eq_true_eq] at hhigh' hlow'
  have hfirst := hex4?_digitsOf (n := high) (by omega) (unit low ++ rest)
  have hsecond := hex4?_digitsOf (n := low) (by omega) rest
  unfold unit at hfirst ⊢
  simp only [List.cons_append] at hfirst ⊢
  cases hread : string? fuel rest <;> simp [string?, hfirst, hsecond, hhigh, hlow, hread]

/-- A character inside a string is read back. -/
theorem string?_escape (fuel : Nat) (c : Char) (rest : List Char) :
    string? (fuel + 1) (escape c ++ rest) =
      (string? fuel rest).map fun r => (c :: r.1, r.2) := by
  have hrange := toNat_lt_and_not_surrogate c
  have hescape := escape_spec c
  generalize escape c = cs at hescape
  cases hescape with
  | short e h _ =>
    have hne : e ≠ 'u' := by
      rintro rfl
      cases h
    cases hread : string? fuel rest <;> simp [string?, h, hread]
  | plain hc hquote hbackslash =>
    have hcontrol : ¬ c.toNat < 0x20 := Nat.not_lt.mpr hc.1
    cases hread : string? fuel rest <;> simp [string?, hquote, hbackslash, hcontrol, hread]
  | unit h =>
    have hhigh : Utf16.isHigh c.toNat = false := by
      simp [Utf16.isHigh]
      omega
    have hlow : Utf16.isLow c.toNat = false := by
      simp [Utf16.isLow]
      omega
    rw [string?_unit fuel h hhigh, hlow, Char.ofNat_toNat]
    rfl
  | pair h =>
    have hhigh : Utf16.isHigh (0xD800 + (c.toNat - 0x10000) / 0x400) = true := by
      simp [Utf16.isHigh]
      omega
    have hlow : Utf16.isLow (0xDC00 + (c.toNat - 0x10000) % 0x400) = true := by
      simp [Utf16.isLow]
      omega
    have hpair : Utf16.pair (0xD800 + (c.toNat - 0x10000) / 0x400)
        (0xDC00 + (c.toNat - 0x10000) % 0x400) = c := by
      have hnumber : 0x10000 + (0xD800 + (c.toNat - 0x10000) / 0x400 - 0xD800) * 0x400 +
          (0xDC00 + (c.toNat - 0x10000) % 0x400 - 0xDC00) = c.toNat := by
        omega
      unfold Utf16.pair
      rw [hnumber, Char.ofNat_toNat]
    rw [List.append_assoc, string?_pair fuel hhigh hlow, hpair]

theorem length_le_flatMap_escape (cs : List Char) : cs.length ≤ (cs.flatMap escape).length := by
  induction cs with
  | nil => exact Nat.le_refl 0
  | cons c cs ih =>
    have hpos : 0 < (escape c).length := List.length_pos_iff.mpr (escape_ne_nil c)
    rw [List.flatMap_cons, List.length_append, List.length_cons]
    omega

/-- Escaped characters are read up to the quote that ends them. -/
theorem string?_of_length_lt {fuel : Nat} {cs : List Char} (h : cs.length < fuel)
    (rest : List Char) : string? fuel (cs.flatMap escape ++ '"' :: rest) = some (cs, rest) := by
  induction cs generalizing fuel with
  | nil =>
    obtain ⟨fuel, rfl⟩ : ∃ k, fuel = k + 1 := ⟨fuel - 1, by omega⟩
    rfl
  | cons c cs ih =>
    obtain ⟨fuel, rfl⟩ : ∃ k, fuel = k + 1 := ⟨fuel - 1, by omega⟩
    rw [List.flatMap_cons, List.append_assoc, string?_escape, ih (Nat.lt_of_succ_lt_succ h)]
    rfl

theorem string?_flatMap_escape (cs rest : List Char) :
    string? ((cs.flatMap escape ++ '"' :: rest).length + 1) (cs.flatMap escape ++ '"' :: rest) =
      some (cs, rest) := by
  have hlength := length_le_flatMap_escape cs
  refine string?_of_length_lt ?_ rest
  rw [List.length_append]
  omega

/-- A text is printable when it is quoted. -/
theorem isPrintable_of_mem_quoted {s : String} (h : c ∈ quoted s) : IsPrintable c := by
  have hquote : IsPrintable '"' := by decide
  unfold quoted at h
  rcases List.mem_append.mp h with hopen | hclose
  · rcases List.mem_cons.mp hopen with rfl | hinside
    · exact hquote
    · obtain ⟨d, -, hd⟩ := List.mem_flatMap.mp hinside
      exact isPrintable_of_mem_escape hd
  · exact List.mem_singleton.mp hclose ▸ hquote

/-- Printable characters other than quotes and backslashes are written as they are. -/
theorem quoted_of_plain {s : String}
    (h : ∀ c ∈ s.toList, IsPrintable c ∧ c ≠ '"' ∧ c ≠ '\\') :
    quoted s = '"' :: s.toList ++ ['"'] := by
  have hescape : ∀ c ∈ s.toList, escape c = [c] := by
    intro c hc
    obtain ⟨hprintable, hquote, hbackslash⟩ := h c hc
    have hne {d : Char} (hd : ¬ IsPrintable d) : c ≠ d := by
      rintro rfl
      exact hd hprintable
    have hback : c.toNat ≠ 0x08 := fun heq => hne (d := '\x08') (by decide) (Char.toNat_inj.mp heq)
    have hfeed : c.toNat ≠ 0x0C := fun heq => hne (d := '\x0c') (by decide) (Char.toNat_inj.mp heq)
    obtain ⟨hlow, hhigh⟩ := hprintable
    simp [escape, hquote, hbackslash, hne (d := '\n') (by decide), hne (d := '\r') (by decide),
      hne (d := '\t') (by decide), hback, hfeed, hlow, hhigh]
  unfold quoted
  rw [List.flatMap_congr hescape, List.flatMap_singleton']

end Json

end InstallerGateway
