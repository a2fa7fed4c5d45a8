import InstallerGateway.Proofs.Pattern.Literal
import InstallerGateway.Proofs.Text.Split

/-!
# What greedy patterns find

A set of characters that is repeated takes as many of them as it can, and gives them back one by one
as long as what follows fails. If all characters but one are repeated, and this one follows, nothing
is to be given back: they are taken up to its first place.
-/

namespace InstallerGateway.Pattern

variable {p : Pattern} {set : CharSet} {k : Continuation} {c d : Char} {least fuel : Nat}
  {before after : List Char} {groups : List (Nat × List Char)}

/-! ## Fixed texts -/

theorem single_holds_iff : (CharSet.single false c.toNat).holds d = true ↔ c = d := by
  rw [← Char.toNat_inj]
  simp [CharSet.single, CharSet.holds, CharSet.itemHolds]
  omega

/-- A letter matches where it stands next. -/
theorem run_letter (c : Char) (k : Continuation) :
    run (letter c) k ⟨before, after, groups⟩ =
      (afterWord? [c] after).bind fun rest => k ⟨c :: before, rest, groups⟩ := by
  cases after with
  | nil => rfl
  | cons d rest =>
    show (if (CharSet.single false c.toNat).holds d then _ else _) = _
    by_cases h : c = d
    · rw [if_pos (single_holds_iff.mpr h), ← h]
      simp [afterWord?]
    · rw [if_neg (fun hd => h (single_holds_iff.mp hd))]
      simp [afterWord?, h]

/-- A pattern behind a text matches behind it. -/
theorem run_literal (w : List Char) (p : Pattern) (k : Continuation) :
    run (literal w p) k ⟨before, after, groups⟩ =
      (afterWord? w after).bind fun rest => run p k ⟨w.reverse ++ before, rest, groups⟩ := by
  induction w generalizing before after with
  | nil => rfl
  | cons c w ih =>
    show run (letter c) (run (literal w p) k) _ = _
    rw [run_letter]
    cases after with
    | nil => rfl
    | cons d rest =>
      by_cases h : c = d
      · simp [afterWord?, h, ih]
      · simp [afterWord?, h]

/-- A text matches where it stands next. -/
theorem run_word (w : List Char) (k : Continuation) :
    run (word w) k ⟨before, after, groups⟩ =
      (afterWord? w after).bind fun rest => k ⟨w.reverse ++ before, rest, groups⟩ := by
  have hliteral (w : List Char) : run (word w) k = run (literal w .empty) k := by
    induction w with
    | nil => rfl
    | cons c w ih =>
      cases w with
      | nil => rfl
      | cons d w =>
        show run (letter c) (run (word (d :: w)) k) = run (letter c) _
        rw [ih]
        rfl
  rw [hliteral, run_literal]
  rfl

/-! ## Repetition -/

/-- As many characters of the set are taken as there are, then fewer and fewer until what follows
succeeds, but not fewer than `least`. -/
def longest (set : CharSet) (k : Continuation) (groups : List (Nat × List Char)) :
    Nat → List Char → List Char → Option Spot
  | least, before, [] => if least = 0 then k ⟨before, [], groups⟩ else none
  | least, before, c :: rest =>
    (if set.holds c then longest set k groups (least - 1) (c :: before) rest else none).or
      (if least = 0 then k ⟨before, c :: rest, groups⟩ else none)

/-- Repeating a character without bound takes the longest run of it and gives back one at a time. -/
theorem iterate_char (hfuel : least + after.length < fuel) :
    iterate (run (.char set)) false fuel least none k ⟨before, after, groups⟩ =
      longest set k groups least before after := by
  induction fuel generalizing least before after with
  | zero => exact absurd hfuel (Nat.not_lt_zero _)
  | succ fuel ih =>
    cases after with
    | nil =>
      unfold iterate longest
      cases least with
      | zero => rfl
      | succ least => rfl
    | cons c rest =>
      have hmore : (least - 1) + rest.length < fuel := by
        rw [List.length_cons] at hfuel
        omega
      have hagain : run (.char set) (fun t =>
          if least = 0 && t.before.length = before.length then k t
          else iterate (run (.char set)) false fuel (least - 1) none k t)
            ⟨before, c :: rest, groups⟩ =
          if set.holds c then longest set k groups (least - 1) (c :: before) rest else none := by
        show (if set.holds c then _ else _) = _
        rw [← ih hmore]
        simp
      unfold iterate longest
      dsimp only
      rw [if_neg (Option.some_ne_none 0).symm, Option.map_none, hagain]
      cases least with
      | zero => exact Option.orElse_eq_or ..
      | succ least => exact Option.or_none.symm

/-- A pattern that repeats a character takes the longest run of it and gives back one at a time. -/
theorem run_many (set : CharSet) (least : Nat) (k : Continuation) :
    run (.many (.char set) least none false) k ⟨before, after, groups⟩ =
      longest set k groups least before after := iterate_char (Nat.lt_succ_self _)

/-- All characters but one. -/
def but (c : Char) : CharSet := ⟨[.between c.toNat c.toNat], true, false⟩

theorem but_holds_iff : (but c).holds d = true ↔ d ≠ c := by
  have hnot : (but c).holds d = !(CharSet.single false c.toNat).holds d := by
    simp [but, CharSet.single, CharSet.holds]
  rw [hnot, Bool.not_eq_true', Bool.eq_false_iff, Ne, single_holds_iff, Ne, eq_comm]

/-- What can only be followed by a separator is taken up to the first one. -/
theorem longest_but
    (hk : ∀ before rest, rest.head? ≠ some c → k ⟨before, rest, groups⟩ = none) :
    longest (but c) k groups least before after =
      (splitFirst c after).bind fun parts =>
        if least ≤ parts.1.length then k ⟨parts.1.reverse ++ before, c :: parts.2, groups⟩
        else none := by
  induction after generalizing least before with
  | nil =>
    unfold longest
    rw [hk before [] (by simp)]
    simp [splitFirst]
  | cons d rest ih =>
    unfold longest splitFirst
    by_cases hd : d = c
    · rw [if_neg (fun h => but_holds_iff.mp h hd), if_pos hd, hd]
      simp
    · rw [if_pos (but_holds_iff.mpr hd), if_neg hd, ih, hk before (d :: rest) (by simpa using hd)]
      cases splitFirst c rest with
      | none => simp
      | some parts => simp

/-- A part of a text that holds one character or more, but not the separator that follows it, is
remembered under a number. -/
def field (number : Nat) (c : Char) (p : Pattern) : Pattern :=
  .seq (.group number (.many (.char (but c)) 1 none false)) (.seq (letter c) p)

theorem run_letter_of_ne (h : after.head? ≠ some c) (k : Continuation) :
    run (letter c) k ⟨before, after, groups⟩ = none := by
  rw [run_letter]
  cases after with
  | nil => rfl
  | cons d rest =>
    have hd : c ≠ d := by simpa [eq_comm] using h
    simp [afterWord?, hd]

/-- The text that is remembered is the one between the two places. -/
theorem remember_eq {number : Nat} {cs rest : List Char} {groups' : List (Nat × List Char)}
    (h : after = cs ++ rest) :
    Spot.remember number ⟨before, after, groups⟩ ⟨cs.reverse ++ before, rest, groups'⟩ =
      ⟨cs.reverse ++ before, rest, (number, cs) :: groups'⟩ := by
  unfold Spot.remember
  simp [h]

/-- A part without a separator in it ends at the first separator. -/
theorem run_field (number : Nat) (c : Char) (p : Pattern) (k : Continuation) :
    run (field number c p) k ⟨before, after, groups⟩ =
      (splitFirst c after).bind fun parts =>
        if parts.1 = [] then none
        else run p k ⟨c :: (parts.1.reverse ++ before), parts.2, (number, parts.1) :: groups⟩ := by
  show run (.many (.char (but c)) 1 none false)
    (fun t => run (letter c) (run p k) (Spot.remember number ⟨before, after, groups⟩ t)) _ = _
  have hseparator (before' rest : List Char) (h : rest.head? ≠ some c) : run (letter c) (run p k)
      (Spot.remember number ⟨before, after, groups⟩ ⟨before', rest, groups⟩) = none :=
    run_letter_of_ne h _
  rw [run_many, longest_but hseparator]
  cases hsplit : splitFirst c after with
  | none => rfl
  | some parts =>
    obtain ⟨word, rest⟩ := parts
    obtain ⟨hafter, -⟩ := splitFirst_eq_some_iff.mp hsplit
    show (if 1 ≤ word.length then run (letter c) (run p k) (Spot.remember number
      ⟨before, after, groups⟩ ⟨word.reverse ++ before, c :: rest, groups⟩) else none) = _
    rw [remember_eq hafter, run_letter]
    cases word with
    | nil => rfl
    | cons d word => simp [afterWord?]

/-! ## Searching -/

/-- The first place in the text from which the pattern matches, and what it remembers there. -/
def searchFrom (p : Pattern) : List Char → List Char → Option Spot
  | before, [] => run p some ⟨before, [], []⟩
  | before, c :: rest => (run p some ⟨before, c :: rest, []⟩).or (searchFrom p (c :: before) rest)

theorem foundFrom_eq_isSome (p : Pattern) (before cs : List Char) :
    foundFrom p before cs = (searchFrom p before cs).isSome := by
  induction cs generalizing before with
  | nil => rfl
  | cons c rest ih =>
    unfold foundFrom searchFrom
    rw [ih, Option.isSome_or]

/-- If a reader finds at every place what the pattern remembers there, it finds in a text what the
search does. -/
theorem searchFrom_eq_firstFound? {α : Type} {f : List Char → Option α} {read : Spot → α}
    (h : ∀ before cs, (run p some ⟨before, cs, []⟩).map read = f cs) (before cs : List Char) :
    (searchFrom p before cs).map read = firstFound? f cs := by
  induction cs generalizing before with
  | nil => exact h before []
  | cons c rest ih =>
    unfold searchFrom firstFound?
    rw [Option.map_or, h, ih]

end InstallerGateway.Pattern
