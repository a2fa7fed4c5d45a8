import InstallerGateway.Datum.Literal
import InstallerGateway.Proofs.Number.Numeral
import Mathlib.Tactic.SplitIfs

/-!
# Values as text

A value has a text if no integer in the document has too many digits. A reference leads to a
container or to nothing, so what a document holds in some place, written as a text, is empty only if
it is the empty text itself.
-/

namespace InstallerGateway

/-! ## Numbers -/

theorem toList_toString_ne_nil (n : Int) : (toString n).toList ≠ [] := by
  cases n with
  | ofNat n =>
    have hdigits : (toString (Int.ofNat n)).toList = Nat.toDigits 10 n := Nat.toList_repr
    rw [hdigits]
    exact Nat.toDigits_ne_nil
  | negSucc n =>
    have hsign : toString (Int.negSucc n) = "-" ++ toString (n + 1) := rfl
    simp [hsign]

namespace Shortest

theorem significant_ne_nil (n : Nat) : significant n ≠ [] := by
  unfold significant
  split
  · exact List.cons_ne_nil _ _
  · assumption

theorem layOut_ne_nil (l : Layout) (d : Decimal) : layOut l d ≠ [] := by
  have hdigits := significant_ne_nil d.digits
  unfold layOut
  dsimp only
  split_ifs <;> simp [hdigits]

/-- No double is written as the empty text. -/
theorem chars_plain_ne_nil (x : Binary64) : chars plain x ≠ [] := by
  cases x with
  | nan => decide
  | infinite negative => cases negative <;> decide
  | finite negative m e =>
    unfold chars
    cases negative with
    | true => simp
    | false =>
      by_cases hzero : m = 0
      · simp [hzero]
      · simp [hzero, layOut_ne_nil]

end Shortest

/-! ## References -/

namespace Datum

/-- The value is a reference to a container around it. -/
def IsReference : Datum → Prop
  | .enclosing _ => True
  | _ => False

variable {place : Nat} {found : Datum}

mutual

/-- What is found at a place is a container. -/
theorem not_isReference_of_find? : ∀ {root : Datum}, find? place root = some found →
    ¬ found.IsReference
  | .list p items, h => by
    unfold find? at h
    split_ifs at h
    · cases h
      exact id
    · exact not_isReference_of_findAmong? h
  | .tuple items, h => by
    unfold find? at h
    exact not_isReference_of_findAmong? h
  | .map p entries, h => by
    unfold find? at h
    split_ifs at h
    · cases h
      exact id
    · exact not_isReference_of_findInEntries? h
  | .null, h | .bool _, h | .int _, h | .float _, h | .text _, h | .bytes _, h | .date _, h
  | .moment _, h | .set _, h | .enclosing _, h => by simp [find?] at h

theorem not_isReference_of_findAmong? : ∀ {items : List Datum},
    findAmong? place items = some found → ¬ found.IsReference
  | [], h => by simp [findAmong?] at h
  | d :: rest, h => by
    unfold findAmong? at h
    rcases Option.or_eq_some_iff.mp h with hfirst | ⟨-, hrest⟩
    · exact not_isReference_of_find? hfirst
    · exact not_isReference_of_findAmong? hrest

theorem not_isReference_of_findInEntries? : ∀ {entries : List (Datum × Datum)},
    findInEntries? place entries = some found → ¬ found.IsReference
  | [], h => by simp [findInEntries?] at h
  | (_, v) :: rest, h => by
    unfold findInEntries? at h
    rcases Option.or_eq_some_iff.mp h with hfirst | ⟨-, hrest⟩
    · exact not_isReference_of_find? hfirst
    · exact not_isReference_of_findInEntries? hrest

end

/-- What a reference is replaced by is no reference. -/
theorem not_isReference_resolve (root d : Datum) : ¬ (resolve root d).IsReference := by
  cases d with
  | enclosing place =>
    show ¬ ((find? place root).getD .null).IsReference
    cases hfind : find? place root with
    | none => exact id
    | some found => exact not_isReference_of_find? hfind
  | _ => exact id

/-! ## Integers of few digits -/

mutual

/-- No integer in the value has too many digits. -/
def isShort : Datum → Bool
  | .int n => (Numeral.text? n).isSome
  | .list _ items => areShort items
  | .tuple items => areShort items
  | .set members => areShort members
  | .map _ entries => entriesShort entries
  | _ => true

/-- No integer in the values has too many digits. -/
def areShort : List Datum → Bool
  | [] => true
  | d :: rest => isShort d && areShort rest

/-- No integer in the entries has too many digits. -/
def entriesShort : List (Datum × Datum) → Bool
  | [] => true
  | (k, v) :: rest => isShort k && isShort v && entriesShort rest

end

theorem entriesShort_cons {k v : Datum} {entries : List (Datum × Datum)} :
    entriesShort ((k, v) :: entries) = true ↔
      k.isShort = true ∧ v.isShort = true ∧ entriesShort entries = true := by
  rw [entriesShort, Bool.and_eq_true, Bool.and_eq_true, and_assoc]

theorem isShort_of_mem_entries {place : Nat} {entries : List (Datum × Datum)}
    (h : (Datum.map place entries).isShort = true) {entry : Datum × Datum}
    (hmem : entry ∈ entries) : entry.1.isShort = true ∧ entry.2.isShort = true := by
  rw [isShort] at h
  induction entries with
  | nil => cases hmem
  | cons head rest ih =>
    obtain ⟨hkey, hvalue, hrest⟩ := entriesShort_cons.mp h
    rcases List.mem_cons.mp hmem with rfl | hmem
    · exact ⟨hkey, hvalue⟩
    · exact ih hrest hmem

mutual

/-- What is found at a place of a document has no integer of too many digits if the document has
none. -/
theorem isShort_of_find? : ∀ {root : Datum}, root.isShort = true →
    find? place root = some found → found.isShort = true
  | .list p items, hroot, h => by
    unfold find? at h
    split_ifs at h
    · cases h
      exact hroot
    · exact isShort_of_findAmong? hroot h
  | .tuple items, hroot, h => by
    unfold find? at h
    exact isShort_of_findAmong? hroot h
  | .map p entries, hroot, h => by
    unfold find? at h
    split_ifs at h
    · cases h
      exact hroot
    · exact isShort_of_findInEntries? hroot h
  | .null, _, h | .bool _, _, h | .int _, _, h | .float _, _, h | .text _, _, h | .bytes _, _, h
  | .date _, _, h | .moment _, _, h | .set _, _, h | .enclosing _, _, h => by simp [find?] at h

theorem isShort_of_findAmong? : ∀ {items : List Datum}, areShort items = true →
    findAmong? place items = some found → found.isShort = true
  | [], _, h => by simp [findAmong?] at h
  | d :: rest, hitems, h => by
    obtain ⟨hd, hrest⟩ := (Bool.and_eq_true _ _).mp hitems
    unfold findAmong? at h
    rcases Option.or_eq_some_iff.mp h with hfirst | ⟨-, hlater⟩
    · exact isShort_of_find? hd hfirst
    · exact isShort_of_findAmong? hrest hlater

theorem isShort_of_findInEntries? : ∀ {entries : List (Datum × Datum)},
    entriesShort entries = true → findInEntries? place entries = some found →
    found.isShort = true
  | [], _, h => by simp [findInEntries?] at h
  | (_, v) :: rest, hentries, h => by
    obtain ⟨-, hv, hrest⟩ := entriesShort_cons.mp hentries
    unfold findInEntries? at h
    rcases Option.or_eq_some_iff.mp h with hfirst | ⟨-, hlater⟩
    · exact isShort_of_find? hv hfirst
    · exact isShort_of_findInEntries? hrest hlater

end

/-- What a value leads to has no integer of too many digits if neither it nor the document has one.
-/
theorem isShort_resolve {root d : Datum} (hroot : root.isShort = true) (hd : d.isShort = true) :
    (resolve root d).isShort = true := by
  cases d with
  | enclosing place =>
    show ((find? place root).getD .null).isShort = true
    cases hfind : find? place root with
    | none => rfl
    | some found => exact isShort_of_find? hroot hfind
  | _ => exact hd

theorem isShort_field? {entries : List (Datum × Datum)} (h : entriesShort entries = true)
    (name : String) : ((field? name entries).getD .null).isShort = true := by
  induction entries with
  | nil => rfl
  | cons e rest ih =>
    obtain ⟨k, v⟩ := e
    obtain ⟨-, hv, hrest⟩ := entriesShort_cons.mp h
    unfold field?
    split
    · contradiction
    · rename_i heq
      cases heq
      split_ifs
      · exact hv
      · exact ih hrest
    · rename_i heq
      cases heq
      exact ih hrest

end Datum

/-! ## Texts -/

namespace Literal

variable {d : Datum} {cs : List Char}

section Short

variable {refer : List Nat → Nat → Option (List Char)}

mutual

/-- A value without an integer of too many digits has a text, if what its references lead to does.
-/
theorem isSome_chars? (hrefer : ∀ within place, (refer within place).isSome = true) :
    ∀ {d : Datum} (within : List Nat),
      d.isShort = true → (chars? refer within d).isSome = true := by
  intro d within hd
  cases d with
  | null | bool | float | text | bytes | date | moment => rfl
  | int n =>
    unfold chars? scalar?
    rw [Option.isSome_map]
    exact hd
  | list place items =>
    unfold chars?
    split_ifs
    · rfl
    · rw [Option.isSome_map]
      exact isSome_charsOfItems? hrefer _ hd
  | tuple items =>
    unfold chars?
    rw [Option.isSome_map]
    exact isSome_charsOfItems? hrefer _ hd
  | set members =>
    unfold chars?
    split
    · rfl
    · rw [Option.isSome_map]
      exact isSome_charsOfItems? hrefer _ hd
  | map place entries =>
    unfold chars?
    split_ifs
    · rfl
    · rw [Option.isSome_map]
      exact isSome_charsOfEntries? hrefer _ hd
  | enclosing place => exact hrefer within place

theorem isSome_charsOfItems? (hrefer : ∀ within place, (refer within place).isSome = true) :
    ∀ {items : List Datum} (within : List Nat), Datum.areShort items = true →
      (charsOfItems? refer within items).isSome = true
  | [], _, _ => rfl
  | d :: rest, within, h => by
    obtain ⟨hd, hrest⟩ := (Bool.and_eq_true _ _).mp h
    obtain ⟨x, hx⟩ := Option.isSome_iff_exists.mp (isSome_chars? hrefer within hd)
    obtain ⟨xs, hxs⟩ := Option.isSome_iff_exists.mp (isSome_charsOfItems? hrefer within hrest)
    rw [charsOfItems?, hx, hxs]
    rfl

theorem isSome_charsOfEntries? (hrefer : ∀ within place, (refer within place).isSome = true) :
    ∀ {entries : List (Datum × Datum)} (within : List Nat), Datum.entriesShort entries = true →
      (charsOfEntries? refer within entries).isSome = true
  | [], _, _ => rfl
  | (k, v) :: rest, within, h => by
    obtain ⟨hk, hv, hrest⟩ := Datum.entriesShort_cons.mp h
    obtain ⟨key, hkey⟩ := Option.isSome_iff_exists.mp (isSome_chars? hrefer within hk)
    obtain ⟨value, hvalue⟩ := Option.isSome_iff_exists.mp (isSome_chars? hrefer within hv)
    obtain ⟨xs, hxs⟩ := Option.isSome_iff_exists.mp (isSome_charsOfEntries? hrefer within hrest)
    rw [charsOfEntries?, hkey, hvalue, hxs]
    rfl

end

/-- Every reference has a text in a document without an integer of too many digits. -/
theorem isSome_reference? {root : Datum} (hroot : root.isShort = true) (depth : Nat)
    (within : List Nat) (place : Nat) : (reference? root depth within place).isSome = true := by
  induction depth generalizing within place with
  | zero => rfl
  | succ depth ih =>
    unfold reference?
    split
    · rename_i found hfind
      exact isSome_chars? ih _ (Datum.isShort_of_find? hroot hfind)
    · rfl

theorem isSome_literal? {root : Datum} (hroot : root.isShort = true) (hd : d.isShort = true) :
    (literal? root d).isSome = true := by
  unfold literal?
  rw [Option.isSome_map]
  exact isSome_chars? (isSome_reference? hroot _) _ hd

/-- A value of a document has a text if no integer in them has too many digits. -/
theorem isSome_display? {root : Datum} (hroot : root.isShort = true) (hd : d.isShort = true) :
    (display? root d).isSome = true := by
  have hliteral := isSome_literal? hroot hd
  cases d with
  | text | date | moment => rfl
  | _ => exact hliteral

/-- An integer has a text unless it has too many digits. -/
theorem display?_int_eq_none_iff {root : Datum} {n : Int} :
    display? root (.int n) = none ↔ 10 ^ Numeral.maxDigits ≤ n.natAbs := by
  rw [← Option.not_isSome_iff_eq_none, ← Nat.not_lt, ← Numeral.isSome_text?_iff]
  show ¬ (literal? root (.int n)).isSome = true ↔ _
  unfold literal? chars? scalar?
  rw [Option.isSome_map, Option.isSome_map]

end Short

/-- Every value but a reference is written with some character. -/
theorem chars?_ne_nil {refer : List Nat → Nat → Option (List Char)} {within : List Nat}
    (hreference : ¬ d.IsReference) (h : chars? refer within d = some cs) : cs ≠ [] := by
  have happend {front rest : List Char} (hfront : front ≠ []) : front ++ rest ≠ [] := by
    simp [hfront]
  cases d with
  | enclosing place => exact absurd trivial hreference
  | list place items =>
    unfold chars? at h
    split_ifs at h
    · cases h
      decide
    · obtain ⟨xs, -, rfl⟩ := Option.map_eq_some_iff.mp h
      exact List.cons_ne_nil _ _
  | map place entries =>
    unfold chars? at h
    split_ifs at h
    · cases h
      decide
    · obtain ⟨xs, -, rfl⟩ := Option.map_eq_some_iff.mp h
      exact List.cons_ne_nil _ _
  | tuple items =>
    unfold chars? at h
    obtain ⟨xs, -, hxs⟩ := Option.map_eq_some_iff.mp h
    split at hxs <;> exact hxs ▸ List.cons_ne_nil _ _
  | set members =>
    unfold chars? at h
    split at h
    · cases h
      decide
    · obtain ⟨xs, -, rfl⟩ := Option.map_eq_some_iff.mp h
      exact List.cons_ne_nil _ _
  | null =>
    cases h
    decide
  | bool b =>
    cases h
    cases b <;> decide
  | int n =>
    unfold chars? scalar? at h
    obtain ⟨s, hs, rfl⟩ := Option.map_eq_some_iff.mp h
    obtain ⟨-, rfl⟩ := Numeral.text?_eq_some_iff.mp hs
    exact toList_toString_ne_nil n
  | float x =>
    cases h
    exact Shortest.chars_plain_ne_nil x
  | text s =>
    cases h
    simp [Quoted.text, Quoted.enclose]
  | bytes b =>
    cases h
    simp [Quoted.bytes]
  | date d =>
    cases h
    exact happend (happend (by decide))
  | moment t =>
    cases h
    exact happend (happend (by decide))

/-- Of all values but references only the empty text is written as the empty text. -/
theorem display?_ne_empty {root : Datum} {text : String} (hreference : ¬ d.IsReference)
    (hempty : d ≠ .text "") (h : display? root d = some text) : text ≠ "" := by
  have hliteral (hliteral : literal? root d = some text) : text ≠ "" := by
    obtain ⟨cs, hcs, rfl⟩ := Option.map_eq_some_iff.mp hliteral
    simpa using chars?_ne_nil hreference hcs
  cases d with
  | text s =>
    cases h
    simpa using hempty
  | date d =>
    cases h
    simp [Date.iso]
  | moment t =>
    cases h
    simp [Moment.iso]
  | _ => exact hliteral h

end Literal

end InstallerGateway
