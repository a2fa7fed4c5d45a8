import InstallerGateway.Text.Split

/-!
# Places of separators

A text is split at the first place of a separator exactly if the separator does not occur before it,
at the last place exactly if it does not occur after it, and cannot be split exactly if the
separator does not occur at all. To split it at every place is what `List.splitOn` does.
-/

namespace InstallerGateway

variable {c : Char} {cs before after : List Char}

theorem splitLast_eq_none_iff : splitLast c cs = none ↔ c ∉ cs := by
  induction cs with
  | nil => simp [splitLast]
  | cons x rest ih =>
    unfold splitLast
    cases h : splitLast c rest with
    | some p =>
      have hmem : c ∈ rest := by
        by_cases hc : c ∈ rest
        · exact hc
        · rw [ih.mpr hc] at h
          cases h
      simp [hmem]
    | none =>
      have hnot : c ∉ rest := ih.mp h
      by_cases hx : x = c
      · simp [hx]
      · simp [hx, hnot, Ne.symm hx]

theorem splitFirst_eq_none (h : c ∉ cs) : splitFirst c cs = none := by
  induction cs with
  | nil => rfl
  | cons x rest ih =>
    have hx : x ≠ c := fun heq => h (by simp [heq])
    have hrest : c ∉ rest := fun hmem => h (List.mem_cons_of_mem x hmem)
    simp [splitFirst, hx, ih hrest]

theorem splitFirst_append_cons (h : c ∉ before) :
    splitFirst c (before ++ c :: after) = some (before, after) := by
  induction before with
  | nil => simp [splitFirst]
  | cons x rest ih =>
    have hx : x ≠ c := fun heq => h (by simp [heq])
    have hrest : c ∉ rest := fun hmem => h (List.mem_cons_of_mem x hmem)
    simp [splitFirst, hx, ih hrest]

/-- A text is split at a separator that does not stand before that place. -/
theorem splitFirst_eq_some_iff :
    splitFirst c cs = some (before, after) ↔ cs = before ++ c :: after ∧ c ∉ before := by
  constructor
  · intro h
    induction cs generalizing before with
    | nil => cases h
    | cons x rest ih =>
      unfold splitFirst at h
      split at h
      · rename_i hx
        cases h
        exact ⟨by rw [hx]; rfl, List.not_mem_nil⟩
      · rename_i hx
        obtain ⟨⟨_, _⟩, hr, he⟩ := Option.map_eq_some_iff.mp h
        cases he
        obtain ⟨hrest, hnot⟩ := ih hr
        exact ⟨congrArg (x :: ·) hrest, by simp [Ne.symm hx, hnot]⟩
  · rintro ⟨rfl, hnot⟩
    exact splitFirst_append_cons hnot

/-- What lies after some place of a separator also lies after its first place. -/
theorem suffix_of_first {before' after' : List Char} (hfirst : c ∉ before)
    (h : before ++ c :: after = before' ++ c :: after') : after' <:+ after := by
  induction before' generalizing before with
  | nil =>
    cases before with
    | nil => exact ⟨[], (List.cons.inj h).2.symm⟩
    | cons x before => exact absurd (by simp [(List.cons.inj h).1]) hfirst
  | cons y before' ih =>
    cases before with
    | nil => exact ⟨before' ++ [c], by simp [(List.cons.inj h).2]⟩
    | cons x before =>
      exact ih (fun hmem => hfirst (List.mem_cons_of_mem x hmem)) (List.cons.inj h).2

theorem splitLast_append_cons (h : c ∉ after) :
    splitLast c (before ++ c :: after) = some (before, after) := by
  induction before with
  | nil =>
    show splitLast c (c :: after) = some ([], after)
    unfold splitLast
    rw [splitLast_eq_none_iff.mpr h]
    exact if_pos rfl
  | cons x rest ih =>
    show splitLast c (x :: (rest ++ c :: after)) = some (x :: rest, after)
    unfold splitLast
    rw [ih]

/-- A text is split at a separator that does not stand behind that place. -/
theorem splitLast_eq_some_iff :
    splitLast c cs = some (before, after) ↔ cs = before ++ c :: after ∧ c ∉ after := by
  constructor
  · intro h
    induction cs generalizing before with
    | nil => cases h
    | cons x rest ih =>
      unfold splitLast at h
      cases hr : splitLast c rest with
      | some p =>
        rw [hr] at h
        cases h
        obtain ⟨hrest, hnot⟩ := ih hr
        exact ⟨congrArg (x :: ·) hrest, hnot⟩
      | none =>
        rw [hr] at h
        dsimp only at h
        split at h
        · rename_i hx
          cases h
          exact ⟨by rw [hx]; rfl, splitLast_eq_none_iff.mp hr⟩
        · cases h
  · rintro ⟨rfl, hnot⟩
    exact splitLast_append_cons hnot

/-- Splitting at every separator is that of lists. -/
theorem splitAll_eq_splitOn (c : Char) (cs : List Char) : splitAll c cs = cs.splitOn c := by
  induction cs with
  | nil => rfl
  | cons x rest ih =>
    rw [List.splitOn_cons_eq_if_modifyHead]
    unfold splitAll
    rw [ih]
    by_cases hx : x = c
    · simp [hx]
    · cases hrest : rest.splitOn c with
      | nil => exact absurd hrest (List.splitOn_ne_nil c rest)
      | cons part parts => simp [hx]

end InstallerGateway
