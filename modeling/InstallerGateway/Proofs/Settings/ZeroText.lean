import InstallerGateway.Proofs.Number.Numeral
import InstallerGateway.Proofs.Text.Split
import InstallerGateway.Proofs.Text.Strip
import InstallerGateway.Settings.Coercion

/-!
# How zero is written

A setting that is an integer may come as text. The texts that stand for zero have one form: zeros,
between which single underscores may stand, with a sign before them, a fraction of zeros after them,
and white space around all this.
-/

namespace InstallerGateway.Settings

variable {cs body : List Char} {text : String}

/-- Zeros, between which single underscores may stand. -/
inductive IsZeros : List Char → Prop where
  | single : IsZeros ['0']
  | cons {cs : List Char} : IsZeros cs → IsZeros ('0' :: cs)
  | apart {cs : List Char} : IsZeros cs → IsZeros ('0' :: '_' :: cs)

/-- No fraction, or one of zeros. -/
def IsZeroFraction (cs : List Char) : Prop :=
  cs = [] ∨ ∃ zeros, cs = '.' :: zeros ∧ zeros ≠ [] ∧ ∀ c ∈ zeros, c = '0'

/-- The text writes zero. -/
def IsZeroText (text : String) : Prop :=
  ∃ before sign zeros fraction after,
    text.toList = before ++ (sign ++ (zeros ++ fraction)) ++ after ∧
    (∀ c ∈ before, isSpace c = true) ∧ (∀ c ∈ after, isSpace c = true) ∧
    (sign = [] ∨ sign = ['+'] ∨ sign = ['-']) ∧ IsZeros zeros ∧ IsZeroFraction fraction

/-! ## Digits that are joined -/

theorem IsZeros.head? (h : IsZeros cs) : cs.head? = some '0' := by
  cases h <;> rfl

theorem IsZeros.getLast? (h : IsZeros cs) : cs.getLast? = some '0' := by
  induction h with
  | single => rfl
  | cons _ ih => rw [List.getLast?_cons, ih, Option.getD_some]
  | apart _ ih =>
    rw [List.getLast?_cons, List.getLast?_cons, ih, Option.getD_some, Option.getD_some]

theorem IsZeros.mem (h : IsZeros cs) : ∀ c ∈ cs, c = '0' ∨ c = '_' := by
  induction h with
  | single => simp
  | cons _ ih => simpa using ih
  | apart _ ih => simpa using ih

theorem IsZeros.getLast?_append {fraction : List Char} (h : IsZeros cs)
    (hfraction : IsZeroFraction fraction) : (cs ++ fraction).getLast? = some '0' := by
  rcases hfraction with rfl | ⟨zeros, rfl, hne, hzeros⟩
  · rw [List.append_nil, h.getLast?]
  · have hlast : (cs ++ '.' :: zeros).getLast? = some (zeros.getLast hne) := by
      rw [List.getLast?_append, List.getLast?_cons, List.getLast?_eq_some_getLast hne,
        Option.getD_some, Option.some_or]
    rw [hlast, hzeros _ (List.getLast_mem hne)]

/-- Two underscores that stand side by side are found at the start or later. -/
theorem firstFound?_underscores_cons (c : Char) (cs : List Char) :
    (firstFound? (afterWord? ['_', '_']) (c :: cs)).isSome = true ↔
      (c = '_' ∧ cs.head? = some '_') ∨ (firstFound? (afterWord? ['_', '_']) cs).isSome = true := by
  show ((afterWord? ['_', '_'] (c :: cs)).or
    (firstFound? (afterWord? ['_', '_']) cs)).isSome = true ↔ _
  rw [Option.isSome_or, Bool.or_eq_true]
  refine or_congr_left ?_
  cases cs with
  | nil => simp [afterWord?]
  | cons d rest =>
    by_cases hc : c = '_'
    · by_cases hd : d = '_'
      · simp [afterWord?, hc, hd]
      · simp [afterWord?, hc, hd, Ne.symm hd]
    · simp [afterWord?, hc, Ne.symm hc]

theorem IsZeros.not_doubled (h : IsZeros cs) :
    ¬ (firstFound? (afterWord? ['_', '_']) cs).isSome = true := by
  induction h with
  | single => decide
  | cons _ ih => simpa [firstFound?_underscores_cons] using ih
  | apart h ih => simpa [firstFound?_underscores_cons, h.head?] using ih

theorem isZeros_zero_cons (hmem : ∀ c ∈ cs, c = '0' ∨ c = '_')
    (hlast : ('0' :: cs).getLast? ≠ some '_')
    (hdoubled : ¬ (firstFound? (afterWord? ['_', '_']) cs).isSome = true) :
    IsZeros ('0' :: cs) := by
  induction cs with
  | nil => exact .single
  | cons c rest ih =>
    obtain ⟨hc, hrest⟩ := List.forall_mem_cons.mp hmem
    rw [firstFound?_underscores_cons, not_or] at hdoubled
    obtain ⟨hapart, hlater⟩ := hdoubled
    cases rest with
    | nil =>
      rcases hc with rfl | rfl
      · exact .cons .single
      · exact absurd rfl hlast
    | cons d rest =>
      have hzeros : IsZeros ('0' :: d :: rest) := ih hrest (by simpa using hlast) hlater
      rcases hc with rfl | rfl
      · exact .cons hzeros
      · -- what follows an underscore is no other one
        obtain rfl : d = '0' := by
          rcases hrest d List.mem_cons_self with hd | rfl
          · exact hd
          · exact absurd ⟨rfl, rfl⟩ hapart
        cases hzeros with
        | cons hzeros => exact .apart hzeros

/-- Zeros and underscores are well formed if no underscore is at an end or follows another. -/
theorem isZeros_of_not_doubled (hmem : ∀ c ∈ cs, c = '0' ∨ c = '_') (hhead : cs.head? ≠ some '_')
    (hlast : cs.getLast? ≠ some '_')
    (hdoubled : ¬ (firstFound? (afterWord? ['_', '_']) cs).isSome = true) (hne : cs ≠ []) :
    IsZeros cs := by
  obtain ⟨c, rest, rfl⟩ := List.exists_cons_of_ne_nil hne
  obtain ⟨hc, hrest⟩ := List.forall_mem_cons.mp hmem
  obtain rfl : c = '0' := by
    rcases hc with hc | rfl
    · exact hc
    · exact absurd rfl hhead
  rw [firstFound?_underscores_cons, not_or] at hdoubled
  exact isZeros_zero_cons hrest hlast hdoubled.2

/-- The digits that are left without the underscores are zeros exactly if the text is. -/
theorem isZeros_iff : IsZeros cs ↔
    ∃ digits, joinDigits? cs = some digits ∧ digits ≠ [] ∧ ∀ c ∈ digits, c = '0' := by
  unfold joinDigits?
  dsimp only
  constructor
  · intro h
    refine ⟨cs.filter (· != '_'), if_neg ?_, ?_, ?_⟩
    · simp [h.head?, h.getLast?, h.not_doubled]
    · have hzero : '0' ∈ cs := List.mem_of_head? h.head?
      exact List.ne_nil_of_mem (List.mem_filter.mpr ⟨hzero, by decide⟩)
    · intro c hc
      obtain ⟨hmem, hne⟩ := List.mem_filter.mp hc
      exact (h.mem c hmem).resolve_right (by simpa using hne)
  · rintro ⟨digits, hjoin, hne, hzeros⟩
    split at hjoin
    · cases hjoin
    · rename_i hends
      cases hjoin
      simp only [Bool.or_eq_true, decide_eq_true_eq, not_or] at hends
      obtain ⟨⟨hhead, hlast⟩, hdoubled⟩ := hends
      have hmem : ∀ c ∈ cs, c = '0' ∨ c = '_' := by
        intro c hc
        by_cases hunderscore : c = '_'
        · exact .inr hunderscore
        · exact .inl (hzeros c (List.mem_filter.mpr ⟨hc, by simpa using hunderscore⟩))
      have hcs : cs ≠ [] := by
        rintro rfl
        exact hne rfl
      exact isZeros_of_not_doubled hmem hhead hlast hdoubled hcs

/-! ## Around the digits -/

/-- Zeros are left without the fraction if the body is zeros with a fraction of zeros. -/
theorem isZeros_dropZeroFraction_iff : IsZeros (dropZeroFraction body) ↔
    ∃ zeros fraction, body = zeros ++ fraction ∧ IsZeros zeros ∧ IsZeroFraction fraction := by
  have hpoint {zeros : List Char} (h : IsZeros zeros) : '.' ∉ zeros := fun hmem => by
    rcases h.mem '.' hmem with hc | hc <;> cases hc
  constructor
  · intro h
    unfold dropZeroFraction at h
    split at h
    · rename_i whole fraction hsplit
      obtain ⟨hbody, -⟩ := splitLast_eq_some_iff.mp hsplit
      split at h
      · rename_i hzeros
        rw [Bool.and_eq_true, Bool.not_eq_true', List.isEmpty_eq_false_iff,
          List.all_eq_true] at hzeros
        refine ⟨whole, '.' :: fraction, hbody, h, .inr ⟨fraction, rfl, hzeros.1, ?_⟩⟩
        exact fun c hc => eq_of_beq (hzeros.2 c hc)
      · exact ⟨body, [], (List.append_nil body).symm, h, .inl rfl⟩
    · exact ⟨body, [], (List.append_nil body).symm, h, .inl rfl⟩
  · rintro ⟨zeros, fraction, rfl, hzeros, rfl | ⟨more, rfl, hne, hmore⟩⟩
    · unfold dropZeroFraction
      rw [List.append_nil, splitLast_eq_none_iff.mpr (hpoint hzeros)]
      exact hzeros
    · have hafter : '.' ∉ more := fun hmem => by cases hmore '.' hmem
      have hall : (!more.isEmpty && more.all (· == '0')) = true := by simpa [hne] using hmore
      unfold dropZeroFraction
      rw [splitLast_append_cons hafter]
      dsimp only
      rwa [if_pos hall]

theorem exists_sign (cs : List Char) : ∃ sign, cs = sign ++ (Numeral.sign cs).2 ∧
    (sign = [] ∨ sign = ['+'] ∨ sign = ['-']) := by
  unfold Numeral.sign
  split
  · exact ⟨['-'], rfl, by simp⟩
  · exact ⟨['+'], rfl, by simp⟩
  · exact ⟨[], rfl, by simp⟩

theorem sign_append {sign : List Char} (hsign : sign = [] ∨ sign = ['+'] ∨ sign = ['-'])
    (hbody : body.head? = some '0') : (Numeral.sign (sign ++ body)).2 = body := by
  obtain ⟨rest, rfl⟩ : ∃ rest, body = '0' :: rest := List.head?_eq_some_iff.mp hbody
  rcases hsign with rfl | rfl | rfl <;> rfl

/-- A text stands for zero exactly if its digits, without sign and fraction, are zeros. -/
theorem intOfText?_eq_zero_iff_isZeros : intOfText? text = some 0 ↔
    IsZeros (dropZeroFraction (Numeral.sign (stripBy isSpace text.toList)).2) := by
  rw [isZeros_iff]
  unfold intOfText?
  obtain ⟨negative, body⟩ := Numeral.sign (stripBy isSpace text.toList)
  dsimp only
  constructor
  · intro h
    obtain ⟨digits, hjoin, h⟩ := Option.bind_eq_some_iff.mp h
    split at h
    · rename_i hdigits
      unfold isDigits at hdigits
      rw [Bool.and_eq_true, Bool.not_eq_true', List.isEmpty_eq_false_iff,
        List.all_eq_true] at hdigits
      obtain ⟨hne, hall⟩ := hdigits
      rw [Numeral.natural?_digits hne hall, Option.getD_some] at h
      have hzero : Nat.ofDigitChars 10 digits 0 = 0 := by
        have hvalue := Option.some.inj h
        split at hvalue <;> omega
      exact ⟨digits, hjoin, hne, ((Numeral.ofDigitChars_eq_zero_iff hall 0).mp hzero).2⟩
    · cases h
  · rintro ⟨digits, hjoin, hne, hzeros⟩
    have hall : ∀ c ∈ digits, c.isDigit = true := fun c hc => hzeros c hc ▸ rfl
    have hdigits : isDigits digits = true := by
      unfold isDigits
      rw [Bool.and_eq_true, Bool.not_eq_true', List.isEmpty_eq_false_iff, List.all_eq_true]
      exact ⟨hne, hall⟩
    have hzero : Nat.ofDigitChars 10 digits 0 = 0 :=
      (Numeral.ofDigitChars_eq_zero_iff hall 0).mpr ⟨rfl, hzeros⟩
    rw [hjoin, Option.bind_eq_bind, Option.bind_some, if_pos hdigits,
      Numeral.natural?_digits hne hall, Option.getD_some, hzero]
    cases negative <;> rfl

/-- A text stands for zero exactly if it writes zero. -/
theorem intOfText?_eq_zero_iff : intOfText? text = some 0 ↔ IsZeroText text := by
  rw [intOfText?_eq_zero_iff_isZeros, isZeros_dropZeroFraction_iff]
  constructor
  · rintro ⟨zeros, fraction, hbody, hzeros, hfraction⟩
    obtain ⟨before, after, htext, hbefore, hafter⟩ := exists_stripBy isSpace text.toList
    obtain ⟨sign, hsigned, hsign⟩ := exists_sign (stripBy isSpace text.toList)
    refine ⟨before, sign, zeros, fraction, after, ?_, hbefore, hafter, hsign, hzeros, hfraction⟩
    rw [← hbody, ← hsigned]
    exact htext
  · rintro ⟨before, sign, zeros, fraction, after, htext, hbefore, hafter, hsign, hzeros, hfraction⟩
    have hhead : (zeros ++ fraction).head? = some '0' := by
      rw [List.head?_append, hzeros.head?, Option.some_or]
    have hlast : (sign ++ (zeros ++ fraction)).getLast? = some '0' := by
      rw [List.getLast?_append, hzeros.getLast?_append hfraction, Option.some_or]
    have hsigned : ∀ c, (sign ++ (zeros ++ fraction)).head? = some c → isSpace c = false := by
      intro c hc
      rw [List.head?_append, hhead] at hc
      rcases hsign with rfl | rfl | rfl <;> (cases hc; decide)
    have hstrip : stripBy isSpace text.toList = sign ++ (zeros ++ fraction) := by
      rw [htext]
      refine stripBy_enclosed ?_ hbefore hafter hsigned fun c hc => ?_
      · exact fun hnil => by simp [hnil] at hlast
      · cases hlast.symm.trans hc
        decide
    rw [hstrip, sign_append hsign hhead]
    exact ⟨zeros, fraction, rfl, hzeros, hfraction⟩

end InstallerGateway.Settings
