import InstallerGateway.Proofs.Datum.Display
import InstallerGateway.Proofs.Json.Recognizing
import InstallerGateway.Proofs.Json.Strings
import InstallerGateway.Proofs.Number.Scientific

/-!
# JSON that is written

The JSON text of a value without infinities and NaN is made of printable ASCII characters. Its first
character begins a value, and a floating point number in it is a numeral of that number. What has a
JSON text has a text of its own.
-/

namespace InstallerGateway

namespace Datum

mutual

/-- No infinity and no NaN occurs in the value. -/
def isFinite : Datum → Bool
  | .float x => x.isFinite
  | .list _ items => areFinite items
  | .tuple items => areFinite items
  | .set members => areFinite members
  | .map _ entries => entriesFinite entries
  | _ => true

/-- No infinity and no NaN occurs in the values. -/
def areFinite : List Datum → Bool
  | [] => true
  | d :: rest => isFinite d && areFinite rest

/-- No infinity and no NaN occurs in the entries. -/
def entriesFinite : List (Datum × Datum) → Bool
  | [] => true
  | (k, v) :: rest => isFinite k && isFinite v && entriesFinite rest

end

end Datum

namespace Json

open Numeral (Scientific signed)

variable {w : Spacing} {c : Char} {cs : List Char}

/-! ## Numbers -/

theorem beginsValue_scientific (s : Scientific) :
    ∃ c more, s.chars = c :: more ∧ BeginsValue c := by
  obtain ⟨c, more, hbody, hdigit⟩ := s.body_cons
  unfold Scientific.chars
  rw [hbody]
  exact beginsValue_signed s.negative hdigit

theorem isPrintable_of_isDigit (h : c.isDigit = true) : IsPrintable c := by
  obtain ⟨hlower, hupper⟩ := toNat_of_isDigit h
  exact ⟨by omega, by omega⟩

theorem isPlain_of_mem_scientific {s : Scientific} (h : c ∈ s.chars) :
    IsPrintable c ∧ c ≠ '"' ∧ c ≠ '\\' := by
  rcases s.isDigit_or_isMark h with hdigit | rfl | rfl | rfl | rfl
  · exact ⟨isPrintable_of_isDigit hdigit, ne_of_isDigit rfl hdigit, ne_of_isDigit rfl hdigit⟩
  all_goals decide

theorem exists_numeral {x : Binary64} (hx : x.isFinite = true) :
    ∃ s : Scientific, Shortest.chars numbers x = s.chars ∧ s.toDouble = x := by
  obtain ⟨s, hchars, hdouble⟩ := Shortest.chars_spec (l := numbers) rfl hx
  exact ⟨s, hchars.symm, hdouble⟩

/-- An integer that is written is written as its numeral. -/
theorem chars?_int {n : Int} (h : chars? w (.int n) = some cs) :
    (Nat.toDigits 10 n.natAbs).length ≤ Numeral.maxDigits ∧ cs = (toString n).toList := by
  unfold chars? at h
  obtain ⟨text, htext, rfl⟩ := Option.map_eq_some_iff.mp h
  obtain ⟨hfew, rfl⟩ := Numeral.text?_eq_some_iff.mp htext
  exact ⟨hfew, rfl⟩

/-! ## Names -/

/-- The name of an entry as a text. -/
def nameText : Datum → String
  | .text s => s
  | .null => "null"
  | .bool b => if b then "true" else "false"
  | .int n => toString n
  | .float x => String.ofList (Shortest.chars numbers x)
  | _ => ""

/-- A name is written as its text, in quotes. -/
theorem name?_eq_quoted {k : Datum} (hk : k.isFinite = true) (h : name? k = some cs) :
    cs = quoted (nameText k) := by
  cases k with
  | text s => exact (Option.some.inj h).symm
  | null => exact (Option.some.inj h).symm
  | bool b => exact (Option.some.inj h).symm
  | int n =>
    obtain ⟨text, htext, rfl⟩ := Option.map_eq_some_iff.mp h
    obtain ⟨-, rfl⟩ := Numeral.text?_eq_some_iff.mp htext
    rfl
  | float x =>
    obtain ⟨s, hchars, -⟩ := exists_numeral hk
    unfold nameText
    rw [quoted_of_plain, String.toList_ofList]
    · exact (Option.some.inj h).symm
    · rw [String.toList_ofList, hchars]
      exact fun c => isPlain_of_mem_scientific
  | _ => cases h

/-! ## What is written first -/

/-- What is written begins as a value does. -/
theorem beginsValue_of_chars? {d : Datum} (hd : d.isFinite = true) (h : chars? w d = some cs) :
    ∃ c more, cs = c :: more ∧ BeginsValue c := by
  have hcons {c : Char} {more : List Char} (hc : BeginsValue c) (heq : c :: more = cs) :
      ∃ c more, cs = c :: more ∧ BeginsValue c := ⟨c, more, heq.symm, hc⟩
  cases d with
  | null => exact hcons (by decide) (Option.some.inj h)
  | bool b => cases b <;> exact hcons (by decide) (Option.some.inj h)
  | int n => exact (chars?_int h).2 ▸ beginsValue_toString n
  | float x =>
    obtain ⟨s, hchars, -⟩ := exists_numeral hd
    unfold chars? at h
    rw [← Option.some.inj h, hchars]
    exact beginsValue_scientific s
  | text s => exact hcons (by decide) (Option.some.inj h)
  | list p items =>
    unfold chars? at h
    obtain ⟨xs, -, hxs⟩ := Option.map_eq_some_iff.mp h
    exact hcons (by decide) hxs
  | tuple items =>
    unfold chars? at h
    obtain ⟨xs, -, hxs⟩ := Option.map_eq_some_iff.mp h
    exact hcons (by decide) hxs
  | map p entries =>
    unfold chars? at h
    obtain ⟨xs, -, hxs⟩ := Option.map_eq_some_iff.mp h
    exact hcons (by decide) hxs
  | bytes | date | moment | set | enclosing =>
    unfold chars? at h
    cases h

theorem length_pos_of_chars? {d : Datum} (hd : d.isFinite = true) (h : chars? w d = some cs) :
    0 < cs.length := by
  obtain ⟨c, more, rfl, -⟩ := beginsValue_of_chars? hd h
  exact Nat.succ_pos _

theorem separated_cons_cons (comma x y : List Char) (ys : List (List Char)) :
    separated comma (x :: y :: ys) = x ++ (comma ++ separated comma (y :: ys)) :=
  List.append_assoc ..

theorem separated_cons (comma x : List Char) (xs : List (List Char)) :
    ∃ more, separated comma (x :: xs) = x ++ more := by
  cases xs with
  | nil => exact ⟨[], (List.append_nil x).symm⟩
  | cons y ys => exact ⟨_, separated_cons_cons comma x y ys⟩

section

variable {d k v : Datum} {items : List Datum} {entries : List (Datum × Datum)}
  {xs : List (List Char)}

theorem itemChars?_cons (h : itemChars? w (d :: items) = some xs) :
    ∃ x ys, chars? w d = some x ∧ itemChars? w items = some ys ∧ xs = x :: ys := by
  unfold itemChars? at h
  obtain ⟨x, hx, h⟩ := Option.bind_eq_some_iff.mp h
  obtain ⟨ys, hys, h⟩ := Option.bind_eq_some_iff.mp h
  exact ⟨x, ys, hx, hys, (Option.some.inj h).symm⟩

theorem beginsValue_of_itemChars? (hfinite : Datum.areFinite (d :: items) = true)
    (h : itemChars? w (d :: items) = some xs) (rest : List Char) :
    ∃ c more, separated w.comma xs ++ rest = c :: more ∧ BeginsValue c := by
  obtain ⟨x, ys, hx, -, rfl⟩ := itemChars?_cons h
  obtain ⟨c, more, rfl, hc⟩ := beginsValue_of_chars? ((Bool.and_eq_true _ _).mp hfinite).1 hx
  obtain ⟨others, hsep⟩ := separated_cons w.comma (c :: more) ys
  exact ⟨c, more ++ others ++ rest, by rw [hsep, List.cons_append, List.cons_append], hc⟩

/-- Entries have texts if name and value of the first one do and the others do. -/
theorem entryChars?_cons (h : entryChars? w ((k, v) :: entries) = some xs) :
    ∃ n x ys, name? k = some n ∧ chars? w v = some x ∧ entryChars? w entries = some ys ∧
      xs = (n ++ (w.colon ++ x)) :: ys := by
  unfold entryChars? at h
  obtain ⟨n, hn, h⟩ := Option.bind_eq_some_iff.mp h
  obtain ⟨x, hx, h⟩ := Option.bind_eq_some_iff.mp h
  obtain ⟨ys, hys, h⟩ := Option.bind_eq_some_iff.mp h
  rw [List.append_assoc] at h
  exact ⟨n, x, ys, hn, hx, hys, (Option.some.inj h).symm⟩

theorem entriesFinite_cons (h : Datum.entriesFinite ((k, v) :: entries) = true) :
    k.isFinite = true ∧ v.isFinite = true ∧ Datum.entriesFinite entries = true := by
  obtain ⟨hfirst, hentries⟩ := (Bool.and_eq_true _ _).mp h
  obtain ⟨hk, hv⟩ := (Bool.and_eq_true _ _).mp hfirst
  exact ⟨hk, hv, hentries⟩

/-- Entries begin with a quote. -/
theorem exists_quote_of_entryChars? (hfinite : Datum.entriesFinite ((k, v) :: entries) = true)
    (h : entryChars? w ((k, v) :: entries) = some xs) (rest : List Char) :
    ∃ more, separated w.comma xs ++ rest = '"' :: more := by
  obtain ⟨n, x, ys, hn, -, -, rfl⟩ := entryChars?_cons h
  obtain ⟨others, hsep⟩ := separated_cons w.comma (n ++ (w.colon ++ x)) ys
  rw [hsep, name?_eq_quoted (entriesFinite_cons hfinite).1 hn]
  exact ⟨_, rfl⟩

end

/-- A comma and a colon, each with nothing but spaces behind it. -/
structure Spacing.IsSeparating (w : Spacing) : Prop where
  comma : ∃ spaces, w.comma = ',' :: spaces ∧ ∀ c ∈ spaces, c = ' '
  colon : ∃ spaces, w.colon = ':' :: spaces ∧ ∀ c ∈ spaces, c = ' '

theorem spaced_isSeparating : spaced.IsSeparating :=
  ⟨⟨[' '], rfl, fun _ => List.mem_singleton.mp⟩, ⟨[' '], rfl, fun _ => List.mem_singleton.mp⟩⟩

/-! ## Printable texts -/

theorem isPrintable_of_all (h : cs.all (fun c => decide (IsPrintable c)) = true) :
    ∀ c ∈ cs, IsPrintable c :=
  fun c hc => of_decide_eq_true (List.all_eq_true.mp h c hc)

theorem isPrintable_of_mem_separated {comma : List Char} {xs : List (List Char)}
    (hcomma : ∀ c ∈ comma, IsPrintable c) (hxs : ∀ x ∈ xs, ∀ c ∈ x, IsPrintable c) :
    ∀ c ∈ separated comma xs, IsPrintable c := by
  induction xs with
  | nil => exact List.forall_mem_nil _
  | cons x ys ih =>
    obtain ⟨hx, hys⟩ := List.forall_mem_cons.mp hxs
    cases ys with
    | nil => exact hx
    | cons y zs =>
      intro c hc
      rw [separated_cons_cons, List.mem_append, List.mem_append] at hc
      exact hc.elim (hx c) fun hc => hc.elim (hcomma c) (ih hys c)

theorem isPrintable_of_mem_enclosed {opening closing : Char} (hopening : IsPrintable opening)
    (hclosing : IsPrintable closing) (h : ∀ c ∈ cs, IsPrintable c) :
    ∀ c ∈ opening :: cs ++ [closing], IsPrintable c := by
  intro c hc
  rcases List.mem_append.mp hc with hfront | hend
  · exact (List.mem_cons.mp hfront).elim (· ▸ hopening) (h c)
  · exact List.mem_singleton.mp hend ▸ hclosing

theorem Spacing.IsSeparating.isPrintable (hw : w.IsSeparating) :
    (∀ c ∈ w.comma, IsPrintable c) ∧ ∀ c ∈ w.colon, IsPrintable c := by
  have hmark {mark : Char} {spaces : List Char} (hmark : IsPrintable mark)
      (hspaces : ∀ c ∈ spaces, c = ' ') : ∀ c ∈ mark :: spaces, IsPrintable c := by
    refine List.forall_mem_cons.mpr ⟨hmark, fun c hc => ?_⟩
    rw [hspaces c hc]
    decide
  obtain ⟨⟨_, hcomma, hspaces⟩, ⟨_, hcolon, hspaces'⟩⟩ := hw
  rw [hcomma, hcolon]
  exact ⟨hmark (by decide) hspaces, hmark (by decide) hspaces'⟩

mutual

/-- What is written of a value is printable. -/
theorem isPrintable_of_mem_chars? (hw : w.IsSeparating) : ∀ {d : Datum} {cs : List Char},
    d.isFinite = true → chars? w d = some cs → ∀ c ∈ cs, IsPrintable c := by
  intro d cs hd h
  cases d with
  | null =>
    unfold chars? at h
    rw [← Option.some.inj h]
    exact isPrintable_of_all rfl
  | bool b =>
    unfold chars? at h
    rw [← Option.some.inj h]
    cases b <;> exact isPrintable_of_all rfl
  | int n =>
    obtain ⟨negative, c, ds, hds, -, hdigits, -⟩ := Numeral.toString_spec n
    rw [(chars?_int h).2, hds]
    intro a ha
    rcases Numeral.eq_minus_or_isDigit hdigits ha with rfl | hdigit
    · decide
    · exact isPrintable_of_isDigit hdigit
  | float x =>
    obtain ⟨s, hchars, -⟩ := exists_numeral hd
    unfold chars? at h
    rw [← Option.some.inj h, hchars]
    exact fun c hc => (isPlain_of_mem_scientific hc).1
  | text s =>
    unfold chars? at h
    rw [← Option.some.inj h]
    exact fun c => isPrintable_of_mem_quoted
  | list p items =>
    unfold chars? at h
    obtain ⟨xs, hxs, rfl⟩ := Option.map_eq_some_iff.mp h
    exact isPrintable_of_mem_enclosed (by decide) (by decide)
      (isPrintable_of_mem_separated hw.isPrintable.1 (isPrintable_of_mem_itemChars? hw hd hxs))
  | tuple items =>
    unfold chars? at h
    obtain ⟨xs, hxs, rfl⟩ := Option.map_eq_some_iff.mp h
    exact isPrintable_of_mem_enclosed (by decide) (by decide)
      (isPrintable_of_mem_separated hw.isPrintable.1 (isPrintable_of_mem_itemChars? hw hd hxs))
  | map p entries =>
    unfold chars? at h
    obtain ⟨xs, hxs, rfl⟩ := Option.map_eq_some_iff.mp h
    exact isPrintable_of_mem_enclosed (by decide) (by decide)
      (isPrintable_of_mem_separated hw.isPrintable.1 (isPrintable_of_mem_entryChars? hw hd hxs))
  | bytes | date | moment | set | enclosing =>
    unfold chars? at h
    cases h

theorem isPrintable_of_mem_itemChars? (hw : w.IsSeparating) : ∀ {items : List Datum}
    {xs : List (List Char)}, Datum.areFinite items = true → itemChars? w items = some xs →
    ∀ x ∈ xs, ∀ c ∈ x, IsPrintable c
  | [], xs, _, h => by
    unfold itemChars? at h
    cases h
    exact List.forall_mem_nil _
  | d :: items, xs, hfinite, h => by
    obtain ⟨x, ys, hx, hys, rfl⟩ := itemChars?_cons h
    obtain ⟨hd, hitems⟩ := (Bool.and_eq_true _ _).mp hfinite
    exact List.forall_mem_cons.mpr
      ⟨isPrintable_of_mem_chars? hw hd hx, isPrintable_of_mem_itemChars? hw hitems hys⟩

theorem isPrintable_of_mem_entryChars? (hw : w.IsSeparating) :
    ∀ {entries : List (Datum × Datum)} {xs : List (List Char)}, Datum.entriesFinite entries = true →
    entryChars? w entries = some xs → ∀ x ∈ xs, ∀ c ∈ x, IsPrintable c
  | [], xs, _, h => by
    unfold entryChars? at h
    cases h
    exact List.forall_mem_nil _
  | (k, v) :: entries, xs, hfinite, h => by
    obtain ⟨n, x, ys, hn, hx, hys, rfl⟩ := entryChars?_cons h
    obtain ⟨hk, hv, hentries⟩ := entriesFinite_cons hfinite
    refine List.forall_mem_cons.mpr ⟨fun c hc => ?_, isPrintable_of_mem_entryChars? hw hentries hys⟩
    rw [name?_eq_quoted hk hn, List.mem_append, List.mem_append] at hc
    exact hc.elim isPrintable_of_mem_quoted fun hc =>
      hc.elim (hw.isPrintable.2 c) (isPrintable_of_mem_chars? hw hv hx c)

end

theorem isPrintable_of_mem_text? {d : Datum} {t : String} (hw : w.IsSeparating)
    (hd : d.isFinite = true) (h : text? w d = some t) : ∀ c ∈ t.toList, IsPrintable c := by
  obtain ⟨cs, hcs, rfl⟩ := Option.map_eq_some_iff.mp h
  rw [String.toList_ofList]
  exact isPrintable_of_mem_chars? hw hd hcs

/-! ## Integers of few digits -/

theorem isShort_of_name? {k : Datum} (h : name? k = some cs) : k.isShort = true := by
  cases k with
  | int n =>
    obtain ⟨text, htext, -⟩ := Option.map_eq_some_iff.mp h
    exact Option.isSome_of_eq_some htext
  | null | bool | float | text => rfl
  | bytes | date | moment | list | tuple | set | map | enclosing => cases h

mutual

/-- No integer in what can be written as JSON has too many digits. -/
theorem isShort_of_chars? : ∀ {d : Datum} {cs : List Char}, chars? w d = some cs →
    d.isShort = true := by
  intro d cs h
  cases d with
  | null | bool | float | text => rfl
  | int n =>
    unfold chars? at h
    obtain ⟨text, htext, -⟩ := Option.map_eq_some_iff.mp h
    exact Option.isSome_of_eq_some htext
  | list place items =>
    unfold chars? at h
    obtain ⟨xs, hxs, -⟩ := Option.map_eq_some_iff.mp h
    exact areShort_of_itemChars? hxs
  | tuple items =>
    unfold chars? at h
    obtain ⟨xs, hxs, -⟩ := Option.map_eq_some_iff.mp h
    exact areShort_of_itemChars? hxs
  | map place entries =>
    unfold chars? at h
    obtain ⟨xs, hxs, -⟩ := Option.map_eq_some_iff.mp h
    exact entriesShort_of_entryChars? hxs
  | bytes | date | moment | set | enclosing =>
    unfold chars? at h
    cases h

/-- Items that are written have no integers of too many digits. -/
theorem areShort_of_itemChars? : ∀ {items : List Datum} {xs : List (List Char)},
    itemChars? w items = some xs → Datum.areShort items = true
  | [], _, _ => rfl
  | d :: rest, xs, h => by
    obtain ⟨x, ys, hx, hys, -⟩ := itemChars?_cons h
    exact (Bool.and_eq_true _ _).mpr ⟨isShort_of_chars? hx, areShort_of_itemChars? hys⟩

/-- Entries that are written have no integers of too many digits. -/
theorem entriesShort_of_entryChars? : ∀ {entries : List (Datum × Datum)} {xs : List (List Char)},
    entryChars? w entries = some xs → Datum.entriesShort entries = true
  | [], _, _ => rfl
  | (k, v) :: rest, xs, h => by
    obtain ⟨n, x, ys, hn, hx, hys, -⟩ := entryChars?_cons h
    exact Datum.entriesShort_cons.mpr
      ⟨isShort_of_name? hn, isShort_of_chars? hx, entriesShort_of_entryChars? hys⟩

end

/-- What has a JSON text has a text. -/
theorem isSome_display?_of_text? {d : Datum} {t : String} (h : text? w d = some t) :
    (Literal.display? d d).isSome = true := by
  obtain ⟨cs, hcs, -⟩ := Option.map_eq_some_iff.mp h
  exact Literal.isSome_display? (isShort_of_chars? hcs) (isShort_of_chars? hcs)

end Json

end InstallerGateway
