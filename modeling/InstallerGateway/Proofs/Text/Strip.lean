import InstallerGateway.Text.Character

/-!
# Texts with other characters around them

A text is what is stripped from its ends around the stripped text. A text that neither begins nor
ends with such a character is found again between them.
-/

namespace InstallerGateway

variable {p : Char → Bool} {before text after : List Char}

/-- What is stripped from the ends of a text satisfies the predicate. -/
theorem exists_stripBy (p : Char → Bool) (cs : List Char) : ∃ before after,
    cs = before ++ stripBy p cs ++ after ∧
      (∀ c ∈ before, p c = true) ∧ ∀ c ∈ after, p c = true := by
  have htaken (ds : List Char) : ∀ c ∈ ds.takeWhile p, p c = true :=
    List.all_eq_true.mp List.all_takeWhile
  refine ⟨cs.takeWhile p, ((cs.dropWhile p).reverse.takeWhile p).reverse, ?_, htaken cs,
    fun c hc => htaken _ c (List.mem_reverse.mp hc)⟩
  unfold stripBy
  rw [List.append_assoc, ← List.reverse_append, List.takeWhile_append_dropWhile,
    List.reverse_reverse, List.takeWhile_append_dropWhile]

/-- Characters that are not stripped remain. -/
theorem mem_strip_iff {c : Char} {s : String} (h : isBlank c = false) :
    c ∈ (strip s).toList ↔ c ∈ s.toList := by
  obtain ⟨before, after, htext, hbefore, hafter⟩ := exists_stripBy isBlank s.toList
  have hother {cs : List Char} (hcs : ∀ d ∈ cs, isBlank d = true) : c ∉ cs := fun hc =>
    Bool.false_ne_true (h.symm.trans (hcs c hc))
  unfold strip
  rw [String.toList_ofList]
  constructor
  · intro hc
    rw [htext]
    exact List.mem_append_left _ (List.mem_append_right _ hc)
  · intro hc
    rw [htext, List.mem_append, List.mem_append] at hc
    exact (hc.resolve_right (hother hafter)).resolve_left (hother hbefore)

theorem dropWhile_of_head? (h : ∀ c, text.head? = some c → p c = false) :
    text.dropWhile p = text := by
  cases text with
  | nil => rfl
  | cons c rest => exact List.dropWhile_cons_of_neg (Bool.not_eq_true _ ▸ h c rfl)

theorem takeWhile_of_head? (h : ∀ c, text.head? = some c → p c = false) :
    text.takeWhile p = [] := by
  cases text with
  | nil => rfl
  | cons c rest => exact List.takeWhile_cons_of_neg (Bool.not_eq_true _ ▸ h c rfl)

theorem stripBy_of_forall (h : ∀ c ∈ text, p c = false) : stripBy p text = text := by
  unfold stripBy
  rw [dropWhile_of_head? fun c hc => h c (List.mem_of_mem_head? hc),
    dropWhile_of_head? fun c hc => h c (List.mem_reverse.mp (List.mem_of_mem_head? hc)),
    List.reverse_reverse]

/-- A text is what remains when others around it are stripped. -/
theorem stripBy_enclosed (hne : text ≠ []) (hbefore : ∀ c ∈ before, p c = true)
    (hafter : ∀ c ∈ after, p c = true) (hhead : ∀ c, text.head? = some c → p c = false)
    (hlast : ∀ c, text.getLast? = some c → p c = false) :
    stripBy p (before ++ text ++ after) = text := by
  have hfront : (before ++ (text ++ after)).dropWhile p = text ++ after := by
    rw [List.dropWhile_append_of_pos hbefore]
    obtain ⟨first, rest, rfl⟩ := List.exists_cons_of_ne_nil hne
    exact dropWhile_of_head? hhead
  have hback : (after.reverse ++ text.reverse).dropWhile p = text.reverse := by
    rw [List.dropWhile_append_of_pos fun c hc => hafter c (List.mem_reverse.mp hc)]
    exact dropWhile_of_head? fun c hc => hlast c (List.head?_reverse ▸ hc)
  unfold stripBy
  rw [List.append_assoc, hfront, List.reverse_append, hback, List.reverse_reverse]

end InstallerGateway
