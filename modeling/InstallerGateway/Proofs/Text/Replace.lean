import InstallerGateway.Text.Split
import Mathlib.Data.List.Infix

/-!
# The first place of a word

A text is taken apart at the first place of a word, if the word occurs in it at all. To replace the
first occurrence of the word is to put something else at this place and to leave the rest alone.
-/

namespace InstallerGateway

variable {word replacement cs before after : List Char}

theorem afterWord?_eq_some_iff : afterWord? word cs = some after ↔ cs = word ++ after := by
  induction word generalizing cs with
  | nil => simp [afterWord?, eq_comm]
  | cons w word ih =>
    cases cs with
    | nil => simp [afterWord?]
    | cons c cs =>
      unfold afterWord?
      by_cases hc : w = c
      · rw [if_pos hc, ih, hc]
        simp
      · rw [if_neg hc]
        simp [Ne.symm hc]

/-- The word stands between the two parts of the text, and nowhere before. -/
structure IsFirstPlace (word before after cs : List Char) : Prop where
  split : cs = before ++ word ++ after
  first : ∀ before' after', cs = before' ++ word ++ after' → before.length ≤ before'.length

/-- The first place of a word is the one before which it stands nowhere. -/
theorem isFirstPlace_iff : IsFirstPlace word before after cs ↔
    cs = before ++ word ++ after ∧ ∀ k < before.length, ¬ word <+: cs.drop k := by
  constructor
  · rintro ⟨hsplit, hfirst⟩
    refine ⟨hsplit, fun k hk ⟨after', hafter'⟩ => ?_⟩
    have hplace : cs = cs.take k ++ word ++ after' := by
      rw [List.append_assoc, hafter', List.take_append_drop]
    have hle := hfirst _ _ hplace
    rw [List.length_take] at hle
    omega
  · rintro ⟨hsplit, hnot⟩
    refine ⟨hsplit, fun before' after' hplace => ?_⟩
    by_contra hlt
    refine hnot before'.length (Nat.lt_of_not_le hlt) ⟨after', ?_⟩
    rw [hplace, List.append_assoc, List.drop_left]

instance : Decidable (IsFirstPlace word before after cs) := decidable_of_iff' _ isFirstPlace_iff

/-- If the text does not begin with the word, the first place lies behind its first character. -/
theorem IsFirstPlace.cons {c : Char} (hnot : ¬ word <+: c :: cs)
    (h : IsFirstPlace word before after cs) : IsFirstPlace word (c :: before) after (c :: cs) := by
  refine ⟨by rw [h.split]; rfl, fun before' after' hsplit => ?_⟩
  cases before' with
  | nil => exact absurd ⟨after', by simpa using hsplit.symm⟩ hnot
  | cons x before' =>
    have hrest : cs = before' ++ word ++ after' := (List.cons.inj hsplit).2
    exact Nat.succ_le_succ (h.first before' after' hrest)

/-- A word that stands in a text has a first place there. -/
theorem exists_isFirstPlace (h : word <:+: cs) :
    ∃ before after, IsFirstPlace word before after cs := by
  induction cs with
  | nil =>
    obtain rfl : word = [] := List.infix_nil.mp h
    exact ⟨[], [], rfl, fun _ _ _ => Nat.zero_le _⟩
  | cons c cs ih =>
    by_cases hbegin : word <+: c :: cs
    · obtain ⟨after, hafter⟩ := hbegin
      exact ⟨[], after, hafter.symm, fun _ _ _ => Nat.zero_le _⟩
    · have hlater : word <:+: cs := (List.infix_cons_iff.mp h).resolve_left hbegin
      obtain ⟨before, after, hplace⟩ := ih hlater
      exact ⟨c :: before, after, hplace.cons hbegin⟩

/-- The first place of a word is the one at which it is replaced. -/
theorem replaceFirst_of_isFirstPlace (h : IsFirstPlace word before after cs) :
    replaceFirst word replacement cs = before ++ replacement ++ after := by
  induction cs generalizing before with
  | nil =>
    obtain ⟨⟨rfl, rfl⟩, rfl⟩ : (before = [] ∧ word = []) ∧ after = [] := by
      simpa [and_assoc] using h.split
    simp [replaceFirst, afterWord?]
  | cons c cs ih =>
    unfold replaceFirst
    cases hword : afterWord? word (c :: cs) with
    | some rest =>
      have hbegin : c :: cs = [] ++ word ++ rest := afterWord?_eq_some_iff.mp hword
      obtain rfl : before = [] :=
        List.length_eq_zero_iff.mp (Nat.le_zero.mp (h.first [] rest hbegin))
      have hrest : after = rest := by simpa [h.split] using hbegin
      rw [hrest]
      rfl
    | none =>
      cases before with
      | nil =>
        have hbegin := afterWord?_eq_some_iff.mpr h.split
        cases hword.symm.trans hbegin
      | cons x before =>
        obtain ⟨rfl, hsplit⟩ := List.cons.inj h.split
        have hlater : IsFirstPlace word before after cs := by
          refine ⟨hsplit, fun before' after' h' => ?_⟩
          exact Nat.le_of_succ_le_succ (h.first (c :: before') after' (congrArg (c :: ·) h'))
        dsimp only
        rw [ih hlater]
        rfl

end InstallerGateway
