import InstallerGateway.Proofs.Json.Writing

/-!
# JSON that is written is read back

The JSON text of a value without infinities and NaN is read as that value, up to what JSON has no
words for: a row is read as a list, names are read as texts, and of two entries with one name the
last value counts.
-/

namespace InstallerGateway

namespace Json

open Numeral (Scientific signed)

variable {w : Spacing} {c : Char} {cs rest : List Char}

mutual

/-- What the JSON text of a value says. -/
def meaning : Datum → Datum
  | .list _ items => .array (meanings items)
  | .tuple items => .array (meanings items)
  | .map _ entries => .map 0 (entryMeanings [] entries)
  | d => d

/-- What the JSON texts of items say. -/
def meanings : List Datum → List Datum
  | [] => []
  | d :: rest => meaning d :: meanings rest

/-- What the JSON texts of entries say, after those before. -/
def entryMeanings (before : List (Datum × Datum)) : List (Datum × Datum) → List (Datum × Datum)
  | [] => before
  | (k, v) :: rest => entryMeanings (Datum.assign (.text (nameText k)) (meaning v) before) rest

end

/-! ## Floating point numbers -/

/-- The fraction of a numeral is read as it was written. -/
theorem fraction_pointed (h : ∀ c ∈ cs, c.isDigit = true)
    (hrest : ∀ c, rest.head? = some c → c.isDigit = false ∧ c ≠ '.') :
    fraction (Scientific.pointed cs ++ rest) = (Scientific.pointed cs, rest) := by
  cases cs with
  | nil => exact fraction_of_head? fun c hc => (hrest c hc).2
  | cons d ds =>
    have hdigits := digits?_append (List.cons_ne_nil d ds) h fun c hc => (hrest c hc).1
    rw [List.cons_append] at hdigits
    simp only [Scientific.pointed, List.cons_append, fraction, hdigits]

/-- The exponent of a numeral is read as it was written. -/
theorem exponent_raised {p : Option (Bool × List Char)}
    (h : ∀ q ∈ p, q.2 ≠ [] ∧ ∀ c ∈ q.2, c.isDigit = true) (hrest : EndsNumeral rest) :
    exponent (Scientific.raised p ++ rest) = (Scientific.raised p, rest) := by
  cases p with
  | none =>
    exact exponent_of_head? fun c hc => (hrest c hc).2.2
  | some q =>
    obtain ⟨negative, ds⟩ := q
    obtain ⟨hne, hds⟩ := h _ rfl
    have hdigits := digits?_append hne hds fun c hc => (hrest c hc).1
    cases negative <;> simp [Scientific.raised, exponent, hdigits]

/-- A numeral with a fraction or an exponent is read as its double. -/
theorem number_scientific (s : Scientific) (hrest : EndsNumeral rest) :
    number (s.chars ++ rest) = .ok (.float s.toDouble, rest) := by
  have hraised : ∀ c, (Scientific.raised s.power ++ rest).head? = some c →
      c.isDigit = false ∧ c ≠ '.' := by
    intro c hc
    cases hp : s.power with
    | none =>
      rw [hp] at hc
      obtain ⟨hdigit, hpoint, -⟩ := hrest c hc
      exact ⟨hdigit, hpoint⟩
    | some p =>
      rw [hp] at hc
      rw [← Option.some.inj hc]
      decide
  have hpointed : ∀ c,
      (Scientific.pointed s.fraction ++ (Scientific.raised s.power ++ rest)).head? = some c →
        c.isDigit = false := by
    intro c hc
    rcases Scientific.head?_pointed_append hc with rfl | hc
    · rfl
    · exact (hraised c hc).1
  have hsplit : s.chars ++ rest = signed s.negative s.whole ++
      (Scientific.pointed s.fraction ++ (Scientific.raised s.power ++ rest)) := by
    unfold Scientific.chars Scientific.body
    rw [← signed_append]
    simp only [List.append_assoc]
  have hjoin : signed s.negative s.whole ++ Scientific.pointed s.fraction ++
      Scientific.raised s.power = s.chars := by
    unfold Scientific.chars Scientific.body
    rw [← signed_append, List.append_assoc]
  have hmarked : ((Scientific.pointed s.fraction).isEmpty &&
      (Scientific.raised s.power).isEmpty) = false := by
    rcases s.isMarked with hfraction | hpower
    · rw [Scientific.pointed_of_ne_nil hfraction]
      rfl
    · obtain ⟨p, hp⟩ := Option.ne_none_iff_exists'.mp hpower
      rw [hp, Bool.and_comm]
      rfl
  rw [hsplit, number_append s.negative s.whole_ne_nil s.whole_digits s.whole_first hpointed
    (fraction_pointed s.fraction_digits hraised) (exponent_raised s.power_digits hrest), hjoin,
    s.double?_chars, hmarked]
  rfl

theorem value_scientific (s : Scientific) (hrest : EndsNumeral rest) (fuel : Nat) :
    value (fuel + 1) (s.chars ++ rest) = .ok (.float s.toDouble, rest) := by
  have hnumber := number_scientific s hrest
  obtain ⟨c, more, hbody, hdigit⟩ := s.body_cons
  unfold Scientific.chars at hnumber ⊢
  rw [hbody, signed_append] at hnumber ⊢
  exact (value_signed_cons s.negative hdigit fuel).trans hnumber

/-! ## Values that are read -/

/-- A value that is a text is read from its quoted form. -/
theorem value_quoted (s : String) (rest : List Char) (fuel : Nat) :
    value (fuel + 1) (quoted s ++ rest) = .ok (.text s, rest) := by
  have hsplit : quoted s ++ rest = '"' :: (s.toList.flatMap escape ++ '"' :: rest) := by
    simp [quoted]
  have hstring := string?_flatMap_escape s.toList rest
  rw [hsplit, value.eq_def]
  simp only [reduceIte]
  rw [hstring]
  show Except.ok (Datum.text (String.ofList s.toList), rest) = _
  rw [String.ofList_toList]

theorem value_null (rest : List Char) (fuel : Nat) :
    value (fuel + 1) ("null".toList ++ rest) = .ok (.null, rest) := by
  rw [value.eq_def]
  rfl

theorem value_bool (b : Bool) (rest : List Char) (fuel : Nat) :
    value (fuel + 1) ((if b then "true" else "false").toList ++ rest) = .ok (.bool b, rest) := by
  rw [value.eq_def]
  cases b <;> rfl

/-! ## Containers that are read -/

theorem skipSpace_append {spaces : List Char} (hspaces : ∀ c ∈ spaces, c = ' ')
    (hc : BeginsValue c) : skipSpace (spaces ++ c :: rest) = c :: rest := by
  have hspace : ∀ c ∈ spaces, isSpace c = true := fun c hc => hspaces c hc ▸ rfl
  unfold skipSpace
  rw [List.dropWhile_append_of_pos hspace]
  refine dropWhile_of_head? fun d hd => ?_
  rw [← Option.some.inj hd]
  exact Bool.eq_false_iff.mpr fun hspace => not_beginsValue_of_isSpace hspace hc

theorem skipSpace_of_beginsValue (hc : BeginsValue c) : skipSpace (c :: rest) = c :: rest :=
  skipSpace_append (List.forall_mem_nil _) hc

theorem endsNumeral_cons (h : c.isDigit = false ∧ c ≠ '.' ∧ c ≠ 'e' ∧ c ≠ 'E') :
    EndsNumeral (c :: rest) :=
  fun _ hd => Option.some.inj hd ▸ h

theorem Spacing.IsSeparating.exists_comma (hw : w.IsSeparating) (hc : BeginsValue c)
    (rest : List Char) :
    ∃ after, w.comma ++ c :: rest = ',' :: after ∧ skipSpace after = c :: rest := by
  obtain ⟨spaces, hcomma, hspaces⟩ := hw.comma
  exact ⟨spaces ++ c :: rest, by rw [hcomma, List.cons_append], skipSpace_append hspaces hc⟩

theorem Spacing.IsSeparating.exists_colon (hw : w.IsSeparating) (hc : BeginsValue c)
    (rest : List Char) :
    ∃ after, w.colon ++ c :: rest = ':' :: after ∧ skipSpace after = c :: rest := by
  obtain ⟨spaces, hcolon, hspaces⟩ := hw.colon
  exact ⟨spaces ++ c :: rest, by rw [hcolon, List.cons_append], skipSpace_append hspaces hc⟩

/-! ### Items -/

section Items

variable {d : Datum} {ds : List Datum} {xs : List (List Char)} {fuel : Nat}

/-- The last item of an array ends it. -/
theorem items_last {x : List Char}
    (hvalue : value fuel (x ++ ']' :: rest) = .ok (d, ']' :: rest)) :
    items (fuel + 1) (x ++ ']' :: rest) = .ok ([d], rest) := by
  rw [items, hvalue]
  rfl

/-- An item of an array with a comma behind it is followed by others. -/
theorem items_comma {x after : List Char}
    (hvalue : value fuel (x ++ ',' :: after) = .ok (d, ',' :: after))
    (hitems : items fuel (skipSpace after) = .ok (ds, rest)) :
    items (fuel + 1) (x ++ ',' :: after) = .ok (d :: ds, rest) := by
  rw [items, hvalue]
  show (items fuel (skipSpace after)).bind (fun r => .ok (d :: r.1, r.2)) = _
  rw [hitems]
  rfl

/-- An array is read from its items. -/
theorem value_array (hfinite : Datum.areFinite ds = true) (h : itemChars? w ds = some xs)
    (hitems : ds ≠ [] →
      items fuel (separated w.comma xs ++ ']' :: rest) = .ok (meanings ds, rest)) :
    value (fuel + 1) ('[' :: separated w.comma xs ++ [']'] ++ rest) =
      .ok (.array (meanings ds), rest) := by
  rw [List.cons_append, List.cons_append, List.append_assoc, List.singleton_append]
  cases ds with
  | nil =>
    unfold itemChars? at h
    cases h
    rw [value.eq_def]
    rfl
  | cons d ds =>
    obtain ⟨c, more, hbegin, hc⟩ := beginsValue_of_itemChars? hfinite h (']' :: rest)
    have hread := hitems (List.cons_ne_nil _ _)
    have hclose : c ≠ ']' := by
      rintro rfl
      exact absurd hc (by decide)
    rw [hbegin] at hread ⊢
    rw [value.eq_def]
    simp only [Char.reduceEq, reduceIte]
    rw [skipSpace_of_beginsValue hc]
    split
    · rename_i heq
      exact absurd (List.cons.inj heq).1 hclose
    · rw [hread]
      rfl

end Items

/-! ### Entries -/

section Entries

variable {k v : Datum} {before es : List (Datum × Datum)} {xs : List (List Char)} {fuel : Nat}

/-- A name and its value are read, and what follows tells whether there are more. -/
theorem entries_entry (hw : w.IsSeparating) {x : List Char} {d : Datum} (s : String)
    (hbegins : ∃ c more, x = c :: more ∧ BeginsValue c)
    (hvalue : value fuel (x ++ rest) = .ok (d, rest)) :
    entries (fuel + 1) before (quoted s ++ (w.colon ++ x) ++ rest) =
      match skipSpace rest with
      | '\x7d' :: after => .ok (Datum.assign (.text s) d before, after)
      | ',' :: after => entries fuel (Datum.assign (.text s) d before) (skipSpace after)
      | _ => .error .malformed := by
  obtain ⟨c, more, rfl, hc⟩ := hbegins
  obtain ⟨after, hcolon, hafter⟩ := hw.exists_colon hc (more ++ rest)
  have hstring := string?_flatMap_escape s.toList (':' :: after)
  have hsplit : quoted s ++ (w.colon ++ c :: more) ++ rest =
      '"' :: (s.toList.flatMap escape ++ '"' :: ':' :: after) := by
    rw [← hcolon]
    simp [quoted]
  rw [List.cons_append, ← hafter] at hvalue
  rw [hsplit, entries, hstring]
  show (value fuel (skipSpace after)).bind _ = _
  rw [hvalue, String.ofList_toList]
  rfl

/-- An object is read from its entries. -/
theorem value_object (hfinite : Datum.entriesFinite es = true)
    (h : entryChars? w es = some xs)
    (hentries : es ≠ [] → entries fuel [] (separated w.comma xs ++ '\x7d' :: rest) =
      .ok (entryMeanings [] es, rest)) :
    value (fuel + 1) ('\x7b' :: separated w.comma xs ++ ['\x7d'] ++ rest) =
      .ok (.map 0 (entryMeanings [] es), rest) := by
  rw [List.cons_append, List.cons_append, List.append_assoc, List.singleton_append]
  cases es with
  | nil =>
    unfold entryChars? at h
    cases h
    rw [value.eq_def]
    rfl
  | cons e es =>
    obtain ⟨more, hbegin⟩ := exists_quote_of_entryChars? hfinite h ('\x7d' :: rest)
    have hread := hentries (List.cons_ne_nil _ _)
    rw [hbegin] at hread ⊢
    rw [value.eq_def]
    simp only [Char.reduceEq, reduceIte]
    rw [skipSpace_of_beginsValue (by decide)]
    split
    · rename_i heq
      exact absurd (List.cons.inj heq).1 (by decide)
    · rw [hread]
      rfl

end Entries

mutual

/-- What is written is read, whatever follows it, unless it continues a numeral. Every value takes a
character, so fuel for the length of its text is enough for its depth. -/
theorem value_chars? (hw : w.IsSeparating) : ∀ {d : Datum} {cs rest : List Char} {fuel : Nat},
    d.isFinite = true → chars? w d = some cs → cs.length ≤ fuel → EndsNumeral rest →
    value fuel (cs ++ rest) = .ok (meaning d, rest) := by
  intro d cs rest fuel hd h hfuel hrest
  have hpos := length_pos_of_chars? hd h
  obtain ⟨fuel, rfl⟩ : ∃ k, fuel = k + 1 := ⟨fuel - 1, by omega⟩
  cases d with
  | null =>
    unfold chars? at h
    rw [← Option.some.inj h]
    exact value_null rest fuel
  | bool b =>
    unfold chars? at h
    rw [← Option.some.inj h]
    exact value_bool b rest fuel
  | int n =>
    obtain ⟨hfew, rfl⟩ := chars?_int h
    rw [value_toString n hrest fuel, if_neg (Nat.not_lt.mpr hfew)]
    rfl
  | float x =>
    obtain ⟨s, hchars, hdouble⟩ := exists_numeral hd
    unfold chars? at h
    rw [← Option.some.inj h, hchars, value_scientific s hrest fuel, hdouble]
    rfl
  | text s =>
    unfold chars? at h
    rw [← Option.some.inj h]
    exact value_quoted s rest fuel
  | list p ds =>
    unfold chars? at h
    obtain ⟨xs, hxs, rfl⟩ := Option.map_eq_some_iff.mp h
    rw [List.length_append, List.length_cons, List.length_singleton] at hfuel
    exact value_array hd hxs fun hne => items_itemChars? hw hne hd hxs (by omega)
  | tuple ds =>
    unfold chars? at h
    obtain ⟨xs, hxs, rfl⟩ := Option.map_eq_some_iff.mp h
    rw [List.length_append, List.length_cons, List.length_singleton] at hfuel
    exact value_array hd hxs fun hne => items_itemChars? hw hne hd hxs (by omega)
  | map p es =>
    unfold chars? at h
    obtain ⟨xs, hxs, rfl⟩ := Option.map_eq_some_iff.mp h
    rw [List.length_append, List.length_cons, List.length_singleton] at hfuel
    exact value_object hd hxs fun hne => entries_entryChars? hw hne hd hxs (by omega)
  | bytes | date | moment | set | enclosing =>
    unfold chars? at h
    cases h

/-- The items of an array are read as they were written. -/
theorem items_itemChars? (hw : w.IsSeparating) : ∀ {ds : List Datum} {xs : List (List Char)}
    {rest : List Char} {fuel : Nat}, ds ≠ [] → Datum.areFinite ds = true →
    itemChars? w ds = some xs → (separated w.comma xs).length < fuel →
    items fuel (separated w.comma xs ++ ']' :: rest) = .ok (meanings ds, rest)
  | [], _, _, _, hne, _, _, _ => absurd rfl hne
  | d :: ds, xs, rest, fuel, _, hfinite, h, hfuel => by
    obtain ⟨x, ys, hx, hys, rfl⟩ := itemChars?_cons h
    obtain ⟨hd, hitems⟩ := (Bool.and_eq_true _ _).mp hfinite
    obtain ⟨fuel, rfl⟩ : ∃ k, fuel = k + 1 := ⟨fuel - 1, by omega⟩
    cases ds with
    | nil =>
      unfold itemChars? at hys
      cases hys
      rw [separated] at hfuel ⊢
      exact items_last (value_chars? hw hd hx (by omega) (endsNumeral_cons (by decide)))
    | cons e ds =>
      obtain ⟨c, more, hbegin, hc⟩ := beginsValue_of_itemChars? hitems hys (']' :: rest)
      obtain ⟨after, hcomma, hafter⟩ := hw.exists_comma hc more
      obtain ⟨y, zs, -, -, rfl⟩ := itemChars?_cons hys
      rw [separated_cons_cons] at hfuel ⊢
      rw [List.length_append, List.length_append] at hfuel
      have hpos := length_pos_of_chars? hd hx
      have hread : items fuel (separated w.comma (y :: zs) ++ ']' :: rest) =
          .ok (meanings (e :: ds), rest) :=
        items_itemChars? hw (List.cons_ne_nil e ds) hitems hys (by omega)
      rw [List.append_assoc, List.append_assoc, hbegin, hcomma]
      rw [hbegin, ← hafter] at hread
      exact items_comma (value_chars? hw hd hx (by omega) (endsNumeral_cons (by decide))) hread

/-- The entries of an object are read as they were written, behind those that were read before. -/
theorem entries_entryChars? (hw : w.IsSeparating) : ∀ {es : List (Datum × Datum)}
    {before : List (Datum × Datum)} {xs : List (List Char)} {rest : List Char} {fuel : Nat},
    es ≠ [] → Datum.entriesFinite es = true → entryChars? w es = some xs →
    (separated w.comma xs).length < fuel →
    entries fuel before (separated w.comma xs ++ '\x7d' :: rest) =
      .ok (entryMeanings before es, rest)
  | [], _, _, _, _, hne, _, _, _ => absurd rfl hne
  | (k, v) :: es, before, xs, rest, fuel, _, hfinite, h, hfuel => by
    obtain ⟨n, x, ys, hn, hx, hys, rfl⟩ := entryChars?_cons h
    obtain ⟨hk, hv, hentries⟩ := entriesFinite_cons hfinite
    have hbegins := beginsValue_of_chars? hv hx
    have hpos := length_pos_of_chars? hv hx
    obtain ⟨fuel, rfl⟩ : ∃ k, fuel = k + 1 := ⟨fuel - 1, by omega⟩
    rw [name?_eq_quoted hk hn] at hfuel ⊢
    cases es with
    | nil =>
      unfold entryChars? at hys
      cases hys
      rw [separated, List.length_append, List.length_append] at hfuel
      rw [separated, entries_entry hw _ hbegins
        (value_chars? hw hv hx (by omega) (endsNumeral_cons (by decide)))]
      rfl
    | cons e es =>
      obtain ⟨more, hbegin⟩ := exists_quote_of_entryChars? hentries hys ('\x7d' :: rest)
      obtain ⟨after, hcomma, hafter⟩ := hw.exists_comma (c := '"') (by decide) more
      obtain ⟨m, y, zs, -, -, -, rfl⟩ := entryChars?_cons hys
      rw [separated_cons_cons] at hfuel ⊢
      rw [List.length_append, List.length_append, List.length_append, List.length_append] at hfuel
      have hread : entries fuel (Datum.assign (.text (nameText k)) (meaning v) before)
          (separated w.comma ((m ++ (w.colon ++ y)) :: zs) ++ '\x7d' :: rest) =
            .ok (entryMeanings before ((k, v) :: e :: es), rest) :=
        entries_entryChars? hw (List.cons_ne_nil e es) hentries hys (by omega)
      have hrest : w.comma ++ separated w.comma ((m ++ (w.colon ++ y)) :: zs) ++ '\x7d' :: rest =
          ',' :: after := by
        rw [List.append_assoc, hbegin, hcomma]
      rw [hbegin, ← hafter] at hread
      rw [List.append_assoc, hrest, entries_entry hw _ hbegins
        (value_chars? hw hv hx (by omega) (endsNumeral_cons (by decide)))]
      exact hread

end

/-- The JSON text of a value is read as what it says. -/
theorem parse_text? {d : Datum} {t : String} (hw : w.IsSeparating) (hd : d.isFinite = true)
    (h : text? w d = some t) : parse t = .ok (meaning d) := by
  obtain ⟨cs, hcs, rfl⟩ := Option.map_eq_some_iff.mp h
  have htext : (String.ofList cs).toList = [] ++ cs ++ [] := by
    rw [String.toList_ofList, List.nil_append, List.append_nil]
  refine parse_of_value htext (List.forall_mem_nil _) (List.forall_mem_nil _)
    (beginsValue_of_chars? hd hcs) ?_
  refine value_chars? hw hd hcs ?_ fun c hc => (Option.some_ne_none c hc.symm).elim
  rw [String.toList_ofList]
  exact Nat.le_succ _

/-! ## Objects -/

section Objects

variable {fields : List (String × Datum)}

/-- An object has a text if all of its values do. -/
theorem isSome_text?_object (h : ∀ f ∈ fields, (text? w f.2).isSome = true) :
    (text? w (.object fields)).isSome = true := by
  have hentries : (entryChars? w (fields.map fun f => (.text f.1, f.2))).isSome = true := by
    induction fields with
    | nil => rfl
    | cons f fields ih =>
      obtain ⟨hf, hfields⟩ := List.forall_mem_cons.mp h
      unfold text? at hf
      rw [Option.isSome_map] at hf
      obtain ⟨x, hx⟩ := Option.isSome_iff_exists.mp hf
      obtain ⟨xs, hxs⟩ := Option.isSome_iff_exists.mp (ih hfields)
      rw [List.map_cons, entryChars?, hx, hxs]
      rfl
  unfold text? Datum.object chars?
  rw [Option.isSome_map, Option.isSome_map]
  exact hentries

theorem isFinite_object (h : ∀ f ∈ fields, f.2.isFinite = true) :
    (Datum.object fields).isFinite = true := by
  show Datum.entriesFinite (fields.map fun f => (.text f.1, f.2)) = true
  induction fields with
  | nil => rfl
  | cons f fields ih =>
    obtain ⟨hf, hfields⟩ := List.forall_mem_cons.mp h
    rw [List.map_cons, Datum.entriesFinite, hf, ih hfields]
    rfl

/-- Assigning to a name that is not there adds an entry at the end. -/
theorem assign_of_not_mem {name : String} (h : name ∉ fields.map Prod.fst) (d : Datum) :
    Datum.assign (.text name) d (fields.map fun f => (.text f.1, f.2)) =
      (fields ++ [(name, d)]).map fun f => (.text f.1, f.2) := by
  induction fields with
  | nil => rfl
  | cons f fields ih =>
    obtain ⟨hne, hrest⟩ := List.ne_and_not_mem_of_not_mem_cons h
    have hother : (Datum.text f.1).sameKey (.text name) = false := beq_eq_false_iff_ne.mpr hne.symm
    rw [List.map_cons, Datum.assign, if_neg (Bool.eq_false_iff.mp hother), ih hrest]
    rfl

/-- Entries whose names are apart are read one by one. -/
theorem entryMeanings_object (before : List (String × Datum))
    (h : ((before ++ fields).map Prod.fst).Nodup) :
    entryMeanings (before.map fun f => (.text f.1, f.2)) (fields.map fun f => (.text f.1, f.2)) =
      (before ++ fields.map fun f => (f.1, meaning f.2)).map fun f => (.text f.1, f.2) := by
  induction fields generalizing before with
  | nil => rw [List.map_nil, List.map_nil, List.append_nil, entryMeanings]
  | cons f fields ih =>
    have hnew : f.1 ∉ before.map Prod.fst := by
      rw [List.map_append, List.map_cons, List.nodup_middle, List.nodup_cons] at h
      exact fun hmem => h.1 (List.mem_append_left _ hmem)
    have hrest : (((before ++ [(f.1, meaning f.2)]) ++ fields).map Prod.fst).Nodup := by
      rw [List.append_assoc]
      simpa using h
    rw [List.map_cons, entryMeanings, nameText, assign_of_not_mem hnew, ih _ hrest]
    rw [List.append_assoc]
    rfl

/-- An object with each name once is read with its names, and what its values say. -/
theorem meaning_object (h : (fields.map Prod.fst).Nodup) :
    meaning (.object fields) = .object (fields.map fun f => (f.1, meaning f.2)) := by
  rw [Datum.object, meaning]
  exact congrArg _ (entryMeanings_object [] h)

end Objects

end Json

end InstallerGateway
