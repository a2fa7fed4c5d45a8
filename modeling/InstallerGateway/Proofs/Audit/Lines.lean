import InstallerGateway.Audit.Record
import InstallerGateway.Proofs.Json.RoundTrip

/-!
# Lines of the audit log

The line of a record is one object of printable characters. It tells what the record says of itself,
whatever the further values are named, and each further value under its name. There is no line if a
further value hides how the message is told, or can be told neither as JSON nor as a text.
-/

namespace InstallerGateway

namespace Dictionary

variable {α β : Type} {name : String} {d e : Dictionary α}

theorem find?_append : find? name (d ++ e) = (find? name d).or (find? name e) := by
  induction d with
  | nil => rfl
  | cons f d ih =>
    obtain ⟨k, v⟩ := f
    by_cases hk : k = name
    · simp [find?, hk]
    · simp [find?, hk, ih]

theorem find?_map (f : α → β) (d : Dictionary α) :
    find? name (d.map fun e => (e.1, f e.2)) = (find? name d).map f := by
  induction d with
  | nil => rfl
  | cons e d ih =>
    obtain ⟨k, v⟩ := e
    by_cases hk : k = name
    · simp [find?, hk]
    · simpa [find?, hk] using ih

/-- A map that is defined on every value does not change which value is found. -/
theorem find?_filterMap {f : α → Option β} {d : Dictionary α} (h : ∀ e ∈ d, (f e.2).isSome = true) :
    find? name (d.filterMap fun e => (f e.2).map fun v => (e.1, v)) =
      (find? name d).bind f := by
  induction d with
  | nil => rfl
  | cons e d ih =>
    obtain ⟨k, v⟩ := e
    obtain ⟨hfirst, hrest⟩ := List.forall_mem_cons.mp h
    obtain ⟨u, hu⟩ := Option.isSome_iff_exists.mp hfirst
    rw [List.filterMap_cons]
    by_cases hk : k = name
    · simp [find?, hk, hu]
    · simp [find?, hk, hu, ih hrest]

theorem find?_filter (p : String → Bool) (d : Dictionary α) (name : String) :
    find? name (d.filter fun e => p e.1) = if p name then find? name d else none := by
  induction d with
  | nil => simp
  | cons e d ih =>
    obtain ⟨k, v⟩ := e
    by_cases hp : p k = true
    · by_cases hk : k = name
      · subst hk
        simp [find?, hp]
      · simpa [find?, hp, hk] using ih
    · by_cases hk : k = name
      · subst hk
        simpa [hp] using ih
      · simpa [find?, hp, hk] using ih

theorem find?_of_not_mem (h : name ∉ d.map Prod.fst) : find? name d = none := by
  induction d with
  | nil => rfl
  | cons e d ih =>
    obtain ⟨hne, hrest⟩ := List.ne_and_not_mem_of_not_mem_cons h
    rw [find?, if_neg hne.symm, ih hrest]

/-- The entries of a dictionary with some names, in the order of the names. -/
def select (names : List String) (d : Dictionary α) : Dictionary α :=
  names.filterMap fun name => (find? name d).map fun v => (name, v)

theorem find?_of_mem_select {names : List String} {f : String × α} (h : f ∈ select names d) :
    f.1 ∈ names ∧ find? f.1 d = some f.2 := by
  obtain ⟨n, hn, hf⟩ := List.mem_filterMap.mp h
  obtain ⟨v, hv, rfl⟩ := Option.map_eq_some_iff.mp hf
  exact ⟨hn, hv⟩

/-- What is found among selected entries is what is found among all, if its name is selected. -/
theorem find?_select (names : List String) (d : Dictionary α) :
    find? name (select names d) = if name ∈ names then find? name d else none := by
  induction names with
  | nil => rfl
  | cons n names ih =>
    unfold select at ih ⊢
    rw [List.filterMap_cons]
    cases hfind : find? n d with
    | none =>
      by_cases hn : name = n
      · subst hn
        simp [ih, hfind]
      · simp [ih, hn]
    | some v =>
      by_cases hn : name = n
      · subst hn
        simp [find?, hfind]
      · simp [find?, ih, hn, Ne.symm hn]

theorem map_fst_select (names : List String) (d : Dictionary α) :
    (select names d).map Prod.fst = names.filter fun name => (find? name d).isSome := by
  induction names with
  | nil => rfl
  | cons n names ih =>
    unfold select at ih ⊢
    rw [List.filterMap_cons]
    cases hfind : find? n d with
    | none => simp [ih, hfind]
    | some v => simp [ih, hfind]

/-- Putting a value adds its name at the end, unless it is there already. -/
theorem map_fst_put (name : String) (v : α) (d : Dictionary α) :
    (put name v d).map Prod.fst =
      if name ∈ d.map Prod.fst then d.map Prod.fst else d.map Prod.fst ++ [name] := by
  induction d with
  | nil => rfl
  | cons e d ih =>
    obtain ⟨k, u⟩ := e
    by_cases hk : k = name
    · simp [put, hk]
    · rw [put, if_neg hk, List.map_cons, ih]
      by_cases hmem : name ∈ d.map Prod.fst
      · simp [hmem]
      · simp [hmem, Ne.symm hk]

end Dictionary

namespace AuditRecord

open Json (spaced)

/-- What a record says of itself, by name. -/
def coreNames : List String := ["ts", "level", "logger", "message"]

/-- A further value as the line of a record tells it: what its JSON text says, or else its text, if
it has one. -/
def told? (d : Datum) : Option Datum :=
  if (Json.text? spaced d).isSome then some (Json.meaning d)
  else (Literal.display? d d).map .text

/-- The further values of which the line of a record tells neither before the others nor under a
name of its own. -/
def further (r : AuditRecord) : Dictionary Datum :=
  r.extras.filter fun e => !coreNames.contains e.1 && !leadingNames.contains e.1

/-- The further values of a record have different names, none of them one that belongs to the record
itself. -/
structure IsWellNamed (r : AuditRecord) : Prop where
  nodup : (r.extras.map Prod.fst).Nodup
  free : ∀ name ∈ r.extras.map Prod.fst, name ∉ ownNames

/-- What is reported as it is can be written as JSON, and no infinity and no NaN is reported. -/
structure IsWritable (r : AuditRecord) : Prop where
  level : (Json.text? spaced r.level).isSome = true
  logger : (Json.text? spaced r.logger).isSome = true
  leading : ∀ name ∈ leadingNames, ∀ d ∈ r.extras.find? name, (Json.text? spaced d).isSome = true
  levelFinite : r.level.isFinite = true
  loggerFinite : r.logger.isFinite = true
  extrasFinite : ∀ e ∈ r.extras, e.2.isFinite = true

variable {r : AuditRecord} {now : Instant} {text name : String} {d : Datum}

/-- Adding a further value keeps the names apart from each other and from those of the record. -/
theorem IsWellNamed.withExtra (h : r.IsWellNamed) (name : String) (value : Datum) :
    (r.withExtra name value).IsWellNamed := by
  unfold AuditRecord.withExtra
  split_ifs with hlogger hmessage hlevel hown
  · exact ⟨h.nodup, h.free⟩
  · exact ⟨h.nodup, h.free⟩
  · exact ⟨h.nodup, h.free⟩
  · exact h
  · have hfree : name ∉ ownNames := by simpa using hown
    by_cases hmem : name ∈ r.extras.map Prod.fst
    · refine ⟨?_, ?_⟩
      · rw [Dictionary.map_fst_put, if_pos hmem]
        exact h.nodup
      · rw [Dictionary.map_fst_put, if_pos hmem]
        exact h.free
    · refine ⟨?_, ?_⟩
      · rw [Dictionary.map_fst_put, if_neg hmem]
        exact List.nodup_append.mpr ⟨h.nodup, List.nodup_singleton _, fun a ha b hb hab =>
          hmem (List.mem_singleton.mp hb ▸ hab ▸ ha)⟩
      · rw [Dictionary.map_fst_put, if_neg hmem]
        exact List.forall_mem_append.mpr ⟨h.free, List.forall_mem_singleton.mpr hfree⟩

/-! ## Values that are reported -/

theorem isSome_text?_of_reportable? {e : Datum} (h : reportable? d = some e) :
    (Json.text? spaced e).isSome = true := by
  unfold reportable? at h
  split_ifs at h with hjson
  · rw [← Option.some.inj h]
    exact hjson
  · obtain ⟨text, -, rfl⟩ := Option.map_eq_some_iff.mp h
    rfl

theorem isFinite_of_reportable? {e : Datum} (hd : d.isFinite = true) (h : reportable? d = some e) :
    e.isFinite = true := by
  unfold reportable? at h
  split_ifs at h
  · rw [← Option.some.inj h]
    exact hd
  · obtain ⟨text, -, rfl⟩ := Option.map_eq_some_iff.mp h
    rfl

/-- What the JSON text of a reported value says is what the line tells of it. -/
theorem map_meaning_reportable? (d : Datum) : (reportable? d).map Json.meaning = told? d := by
  unfold reportable? told?
  split_ifs
  · rfl
  · cases Literal.display? d d <;> rfl

/-- A value can be told exactly if it has a text. -/
theorem isSome_told? (d : Datum) : (told? d).isSome = (Literal.display? d d).isSome := by
  unfold told?
  split_ifs with h
  · obtain ⟨text, htext⟩ := Option.isSome_iff_exists.mp h
    rw [Json.isSome_display?_of_text? htext]
    rfl
  · exact Option.isSome_map

theorem isSome_reportable? (d : Datum) : (reportable? d).isSome = (told? d).isSome := by
  rw [← map_meaning_reportable?, Option.isSome_map]

/-- Values are reported one by one, in order, unless one of them cannot be. -/
theorem reported_eq (extras : Dictionary Datum) :
    reported extras =
      if ∀ e ∈ extras, (told? e.2).isSome = true then
        .ok (extras.filterMap fun e => (reportable? e.2).map fun d => (e.1, d))
      else .error .tooLong := by
  induction extras with
  | nil => rfl
  | cons e extras ih =>
    obtain ⟨name, d⟩ := e
    rw [reported, ih, List.filterMap_cons]
    have htold := isSome_reportable? d
    cases hreport : reportable? d with
    | none =>
      rw [hreport] at htold
      simp [← htold]
    | some e =>
      rw [hreport] at htold
      have hall : (∀ e ∈ (name, d) :: extras, (told? e.2).isSome = true) ↔
          ∀ e ∈ extras, (told? e.2).isSome = true := by
        rw [List.forall_mem_cons]
        exact and_iff_right htold.symm
      simp only [hall]
      split_ifs <;> rfl

/-- What a record says of itself. -/
def coreFields (now : Instant) (r : AuditRecord) (text : String) : Dictionary Datum :=
  [("ts", .int (milliseconds now)), ("level", r.level), ("logger", r.logger),
    ("message", .text text)]

/-- The further values that do not come first, as they are reported. -/
def furtherFields (r : AuditRecord) : Dictionary Datum :=
  r.further.filterMap fun e => (reportable? e.2).map fun d => (e.1, d)

/-- What a record tells with a message. -/
def allFields (now : Instant) (r : AuditRecord) (text : String) : Dictionary Datum :=
  coreFields now r text ++ r.extras.select leadingNames ++ r.furtherFields

/-- Nothing is told if the message is hidden or a further value cannot be told. -/
theorem fields_eq (h : r.filled = .ok text) :
    r.fields now =
      if (r.extras.find? messageTeller).isSome then .error .hiddenMessage
      else if ∀ e ∈ r.further, (told? e.2).isSome = true then .ok (allFields now r text)
      else .error .tooLong := by
  have hown (name : String) :
      (coreFields now r text).any (·.1 == name) = coreNames.contains name := by
    simp [coreFields, coreNames, Bool.beq_comm (b := name), Bool.beq_eq_decide_eq]
  have hfurther : (r.extras.filter fun e => !(coreFields now r text).any (·.1 == e.1) &&
      !leadingNames.contains e.1) = r.further := by
    unfold further
    simp only [hown]
  unfold fields messageText
  rw [h]
  by_cases hhidden : (r.extras.find? messageTeller).isSome = true
  · rw [if_pos hhidden, if_pos hhidden]
    rfl
  · rw [if_neg hhidden, if_neg hhidden]
    show (reported (r.extras.filter fun e => !(coreFields now r text).any (·.1 == e.1) &&
      !leadingNames.contains e.1)).bind _ = _
    rw [hfurther, reported_eq]
    split_ifs <;> rfl

/-- The further values of a record have all names but those that come first. -/
theorem map_fst_further (r : AuditRecord) : r.further.map Prod.fst =
    (r.extras.map Prod.fst).filter
      fun name => !coreNames.contains name && !leadingNames.contains name := by
  unfold further
  rw [List.filter_map]
  rfl

theorem map_fst_furtherFields_sublist (r : AuditRecord) :
    (r.furtherFields.map Prod.fst).Sublist (r.further.map Prod.fst) := by
  unfold furtherFields
  generalize r.further = extras
  induction extras with
  | nil => exact List.Sublist.refl _
  | cons e extras ih =>
    rw [List.filterMap_cons]
    cases reportable? e.2 with
    | none => exact ih.cons _
    | some d => exact ih.cons_cons _

/-- No name occurs twice in a line. -/
theorem nodup_allFields (h : r.IsWellNamed) (now : Instant) (text : String) :
    ((allFields now r text).map Prod.fst).Nodup := by
  have hcore : (coreFields now r text).map Prod.fst = coreNames := rfl
  have hapart : ∀ a ∈ coreNames, ∀ b ∈ leadingNames, a ≠ b := by decide
  have hfurther : (r.further.map Prod.fst).Nodup := by
    rw [map_fst_further]
    exact h.nodup.filter _
  unfold allFields
  rw [List.map_append, List.map_append, hcore, Dictionary.map_fst_select,
    List.nodup_append, List.nodup_append]
  refine ⟨⟨by decide, List.Nodup.filter _ (by decide), ?_⟩,
    hfurther.sublist r.map_fst_furtherFields_sublist, ?_⟩
  · intro a ha b hb
    exact hapart a ha b (List.mem_filter.mp hb).1
  · intro a ha b hb hab
    subst hab
    have hmem := r.map_fst_furtherFields_sublist.subset hb
    rw [map_fst_further] at hmem
    have hother := (List.mem_filter.mp hmem).2
    rw [Bool.and_eq_true, Bool.not_eq_true', Bool.not_eq_true'] at hother
    rcases List.mem_append.mp ha with hcore | hleading
    · exact Bool.false_ne_true (hother.1.symm.trans (List.contains_iff_mem.mpr hcore))
    · have hname := (List.mem_filter.mp hleading).1
      exact Bool.false_ne_true (hother.2.symm.trans (List.contains_iff_mem.mpr hname))

/-- What holds of the values of a record as they are reported holds of all that is told. -/
theorem forall_mem_allFields {P : Datum → Prop} (hcore : ∀ f ∈ coreFields now r text, P f.2)
    (hleading : ∀ name ∈ leadingNames, ∀ d ∈ r.extras.find? name, P d)
    (hfurther : ∀ e ∈ r.extras, ∀ d, reportable? e.2 = some d → P d) :
    ∀ f ∈ allFields now r text, P f.2 := by
  intro f hf
  rcases List.mem_append.mp hf with hf | hf
  · rcases List.mem_append.mp hf with hf | hf
    · exact hcore f hf
    · obtain ⟨hname, hvalue⟩ := Dictionary.find?_of_mem_select hf
      exact hleading f.1 hname f.2 hvalue
  · obtain ⟨e, he, hreport⟩ := List.mem_filterMap.mp hf
    obtain ⟨d, hd, rfl⟩ := Option.map_eq_some_iff.mp hreport
    exact hfurther e (List.mem_filter.mp he).1 d hd

/-- The instant can be written in milliseconds. -/
def IsTold (now : Instant) : Prop := (Numeral.text? (milliseconds now)).isSome = true

theorem isSome_text?_allFields (h : r.IsWritable) (hnow : IsTold now) (text : String) :
    ∀ f ∈ allFields now r text, (Json.text? spaced f.2).isSome = true := by
  have hinstant : (Json.text? spaced (.int (milliseconds now))).isSome = true := by
    unfold Json.text? Json.chars?
    rw [Option.isSome_map, Option.isSome_map]
    exact hnow
  refine forall_mem_allFields ?_ h.leading fun e _ d => isSome_text?_of_reportable?
  simpa [coreFields] using ⟨hinstant, h.level, h.logger, rfl⟩

theorem isFinite_allFields (h : r.IsWritable) (now : Instant) (text : String) :
    ∀ f ∈ allFields now r text, f.2.isFinite = true := by
  refine forall_mem_allFields (P := fun d => d.isFinite = true) ?_ ?_
    fun e he d => isFinite_of_reportable? (h.extrasFinite e he)
  · simpa [coreFields] using ⟨rfl, h.levelFinite, h.loggerFinite, rfl⟩
  · exact fun name _ d hd => h.extrasFinite _ (Dictionary.mem_of_find? hd)

/-- A value is told under its name, unless the record tells something of itself under it. -/
theorem find?_allFields (h : r.IsWritable) (hfurther : ∀ e ∈ r.further, (told? e.2).isSome = true)
    (now : Instant) (text : String) {name : String} (hname : name ∉ coreNames) :
    Dictionary.find? name (allFields now r text) = (r.extras.find? name).bind reportable? := by
  have hcore : Dictionary.find? name (coreFields now r text) = none :=
    Dictionary.find?_of_not_mem hname
  have hcore' : coreNames.contains name = false := by simpa using hname
  have hreported : ∀ e ∈ r.further, (reportable? e.2).isSome = true := fun e he =>
    (isSome_reportable? e.2).trans (hfurther e he)
  have hfind : Dictionary.find? name r.furtherFields =
      (Dictionary.find? name r.further).bind reportable? := Dictionary.find?_filterMap hreported
  have hfilter : Dictionary.find? name r.further = _ := Dictionary.find?_filter
    (fun name => !coreNames.contains name && !leadingNames.contains name) r.extras name
  unfold allFields
  rw [Dictionary.find?_append, Dictionary.find?_append, hcore, Dictionary.find?_select,
    hfind, hfilter, hcore', Option.none_or]
  by_cases hleading : name ∈ leadingNames
  · have hleading' : leadingNames.contains name = true := List.contains_iff_mem.mpr hleading
    rw [if_pos hleading, hleading', if_neg (by decide), Option.bind_none, Option.or_none]
    cases hfind : r.extras.find? name with
    | none => rfl
    | some d =>
      have hwritable := h.leading name hleading d hfind
      unfold reportable?
      rw [Option.bind_some, if_pos hwritable]
  · have hleading' : leadingNames.contains name = false := by simpa using hleading
    rw [if_neg hleading, hleading', if_pos (by decide), Option.none_or]

/-! ## Lines -/

/-- A line is one object, with each name once, that tells the fields of its record. -/
theorem exists_line (hnamed : r.IsWellNamed) (hwritable : r.IsWritable) (hnow : IsTold now)
    (hfields : r.fields now = .ok (allFields now r text)) :
    ∃ line, ∃ written read : Dictionary Datum,
      r.line? now = .ok (some line) ∧ (∀ c ∈ line.toList, Json.IsPrintable c) ∧
      Json.text? spaced (.object written) = some line ∧ Json.parse line = .ok (.object read) ∧
      written.map Prod.fst = read.map Prod.fst ∧ (read.map Prod.fst).Nodup ∧
      ∀ name, read.find? name =
        (Dictionary.find? name (allFields now r text)).map Json.meaning := by
  have hnodup := nodup_allFields hnamed now text
  have hfinite := Json.isFinite_object (isFinite_allFields hwritable now text)
  obtain ⟨line, hline⟩ := Option.isSome_iff_exists.mp
    (Json.isSome_text?_object (isSome_text?_allFields hwritable hnow text))
  have hread := Json.parse_text? Json.spaced_isSeparating hfinite hline
  rw [Json.meaning_object hnodup] at hread
  have hnames : ((allFields now r text).map fun f => (f.1, Json.meaning f.2)).map Prod.fst =
      (allFields now r text).map Prod.fst := by
    rw [List.map_map]
    rfl
  refine ⟨line, allFields now r text, (allFields now r text).map fun f => (f.1, Json.meaning f.2),
    ?_, Json.isPrintable_of_mem_text? Json.spaced_isSeparating hfinite hline, hline, hread,
    hnames.symm, hnames ▸ hnodup, fun name => Dictionary.find?_map _ _⟩
  unfold line?
  rw [hfields]
  exact congrArg Except.ok hline

theorem line?_of_error {f : Fault} (h : r.fields now = .error f) : r.line? now = .error f := by
  unfold line?
  rw [h]
  rfl

/-- An instant of too many digits is written in no line. -/
theorem line?_of_not_isTold (h : r.fields now = .ok (allFields now r text)) (hnow : ¬ IsTold now) :
    r.line? now = .ok none := by
  have hinstant : Numeral.text? (milliseconds now) = none := by simpa [IsTold] using hnow
  have hentries : Json.text? spaced (.object (allFields now r text)) = none := by
    simp [Json.text?, Datum.object, Json.chars?, allFields, coreFields, Json.entryChars?, hinstant,
      Json.name?]
  unfold line?
  rw [h]
  exact congrArg Except.ok hentries

/-- The line of a record is one object, with each name once. It tells the instant, the level, the
reporter and the message, and under every other name the further value of that name, if there is
one. There is no line if a further value stands in the place of what tells the message or has no
text, or the instant has too many digits. -/
theorem line_tells_each_value (hnamed : r.IsWellNamed) (hwritable : r.IsWritable)
    (hmessage : r.filled = .ok text) (now : Instant) :
    (r.extras.find? messageTeller ≠ none → r.line? now = .error .hiddenMessage) ∧
    (r.extras.find? messageTeller = none →
      (∃ e ∈ r.further, Literal.display? e.2 e.2 = none) → r.line? now = .error .tooLong) ∧
    (r.extras.find? messageTeller = none →
      (∀ e ∈ r.further, Literal.display? e.2 e.2 ≠ none) → ¬ IsTold now →
        r.line? now = .ok none) ∧
    (r.extras.find? messageTeller = none →
      (∀ e ∈ r.further, Literal.display? e.2 e.2 ≠ none) → IsTold now →
        ∃ line, ∃ written read : Dictionary Datum,
          r.line? now = .ok (some line) ∧ (∀ c ∈ line.toList, Json.IsPrintable c) ∧
          Json.text? spaced (.object written) = some line ∧
          Json.parse line = .ok (.object read) ∧
          written.map Prod.fst = read.map Prod.fst ∧ (read.map Prod.fst).Nodup ∧
          read.find? "ts" = some (.int (milliseconds now)) ∧
          read.find? "level" = some (Json.meaning r.level) ∧
          read.find? "logger" = some (Json.meaning r.logger) ∧
          read.find? "message" = some (.text text) ∧
          (∀ name ∉ coreNames, read.find? name = (r.extras.find? name).bind told?) ∧
          ∀ e ∈ r.extras, ∀ t, Json.text? spaced e.2 = some t →
            ∃ d, told? e.2 = some d ∧ Json.parse t = .ok d) := by
  have hfields : r.fields now = _ := fields_eq hmessage
  have htold (e : String × Datum) :
      (told? e.2).isSome = true ↔ Literal.display? e.2 e.2 ≠ none := by
    rw [isSome_told?]
    exact Option.isSome_iff_ne_none
  have hshown (h : r.extras.find? messageTeller = none) :
      (r.extras.find? messageTeller).isSome = false := by rw [h]; rfl
  have hall (hhidden : r.extras.find? messageTeller = none)
      (htext : ∀ e ∈ r.further, Literal.display? e.2 e.2 ≠ none) :
      r.fields now = .ok (allFields now r text) := by
    rw [hshown hhidden, if_neg (by decide), if_pos fun e he => (htold e).mpr (htext e he)]
      at hfields
    exact hfields
  refine ⟨fun hhidden => ?_, fun hhidden htext => ?_, fun hhidden htext hnow => ?_,
    fun hhidden htext hnow => ?_⟩
  · rw [if_pos (Option.isSome_iff_ne_none.mpr hhidden)] at hfields
    exact line?_of_error hfields
  · obtain ⟨e, he, hnone⟩ := htext
    rw [hshown hhidden, if_neg (by decide), if_neg fun h => (htold e).mp (h e he) hnone] at hfields
    exact line?_of_error hfields
  · exact line?_of_not_isTold (hall hhidden htext) hnow
  · obtain ⟨line, written, read, hline, hprintable, hwritten, hread, hnames, hnodup, hfind⟩ :=
      exists_line hnamed hwritable hnow (hall hhidden htext)
    refine ⟨line, written, read, hline, hprintable, hwritten, hread, hnames, hnodup, hfind "ts",
      hfind "level", hfind "logger", hfind "message", fun name hname => ?_, fun e he t ht => ?_⟩
    · have hfurther : ∀ e ∈ r.further, (told? e.2).isSome = true :=
        fun e he => (htold e).mpr (htext e he)
      rw [hfind, find?_allFields hwritable hfurther now text hname, Option.map_bind]
      exact congrArg (Option.bind _) (funext map_meaning_reportable?)
    · refine ⟨Json.meaning e.2, ?_,
        Json.parse_text? Json.spaced_isSeparating (hwritable.extrasFinite e he) ht⟩
      unfold told?
      rw [ht, Option.isSome_some, if_pos rfl]

/-- A record with a further value named like the instant, one that closes the string around it, one
that is no JSON, and a number under a name with a line feed. -/
def forgingRecord : AuditRecord :=
  ((((⟨.text "INFO", .text "audit", .text "got %s", [.text "a\nb"], []⟩ : AuditRecord).withExtra
    "ts" (.int 7)).withExtra "key" (.text "x\", \"alert\": \"")).withExtra
    "raw" (.bytes "\n".toUTF8)).withExtra "took\n" (.float (.finite false 7205759403792794 (-56)))

/-- The line of that record: the instant is its own, and the text that would forge a field is one
value. -/
theorem line_of_forgingRecord :
    forgingRecord.IsWellNamed ∧ forgingRecord.IsWritable ∧
      forgingRecord.filled = .ok "got a\nb" ∧ forgingRecord.extras.find? messageTeller = none ∧
      (∀ e ∈ forgingRecord.further, Literal.display? e.2 e.2 ≠ none) ∧ IsTold 2 ∧
      ∃ line, ∃ read : Dictionary Datum, forgingRecord.line? 2 = .ok (some line) ∧
        (∀ c ∈ line.toList, Json.IsPrintable c) ∧ Json.parse line = .ok (.object read) ∧
        read.find? "ts" = some (.int 2000) ∧ read.find? "message" = some (.text "got a\nb") ∧
        read.find? "key" = some (.text "x\", \"alert\": \"") ∧ read.find? "alert" = none ∧
        read.find? "raw" = some (.text "b'\\n'") ∧
        read.find? "took\n" = some (.float (.finite false 7205759403792794 (-56))) := by
  have hnamed : forgingRecord.IsWellNamed := by
    have hstart : (⟨.text "INFO", .text "audit", .text "got %s", [.text "a\nb"], []⟩ :
        AuditRecord).IsWellNamed := ⟨List.nodup_nil, List.forall_mem_nil _⟩
    exact (((hstart.withExtra _ _).withExtra _ _).withExtra _ _).withExtra _ _
  have hwritable : forgingRecord.IsWritable := by
    refine ⟨rfl, rfl, by decide +kernel, rfl, rfl, by decide +kernel⟩
  have hmessage : forgingRecord.filled = .ok "got a\nb" := by decide +kernel
  have hshown : forgingRecord.extras.find? messageTeller = none := by decide +kernel
  have htext : ∀ e ∈ forgingRecord.further, Literal.display? e.2 e.2 ≠ none := by decide +kernel
  have hts : milliseconds 2 = 2000 := by decide +kernel
  have hnow : IsTold 2 := by
    unfold IsTold
    rw [hts]
    decide +kernel
  obtain ⟨-, -, -, hlines⟩ := line_tells_each_value hnamed hwritable hmessage 2
  obtain ⟨line, _, read, hline, hprintable, -, hread, -, -, hinstant, -, -, hsaid, hother, -⟩ :=
    hlines hshown htext hnow
  refine ⟨hnamed, hwritable, hmessage, hshown, htext, hnow, line, read, hline, hprintable, hread,
    hts ▸ hinstant, hsaid, ?_, ?_, ?_, ?_⟩
  · rw [hother "key" (by decide)]
    rfl
  · rw [hother "alert" (by decide)]
    rfl
  · have hdisplay : Literal.display? (.bytes "\n".toUTF8) (.bytes "\n".toUTF8) =
        some "b'\\n'" := by decide +kernel
    rw [hother "raw" (by decide)]
    exact congrArg (Option.map Datum.text) hdisplay
  · rw [hother "took\n" (by decide)]
    rfl

/-- A record whose further value stands in the place of what tells its message. -/
def hidingRecord : AuditRecord :=
  (⟨.text "INFO", .text "audit", .text "hello", [], []⟩ : AuditRecord).withExtra messageTeller
    (.text "x")

/-- Records whose message can be filled in, and whose further values are all that they may be, do
not all have a line: neither does one that hides its message, nor one with a value of too many
digits. -/
theorem line_of_hidingRecord :
    hidingRecord.IsWellNamed ∧ hidingRecord.IsWritable ∧ hidingRecord.filled = .ok "hello" ∧
      IsTold 1700000000 ∧ hidingRecord.line? 1700000000 = .error .hiddenMessage ∧
      ∀ n : Int, 10 ^ Numeral.maxDigits ≤ n.natAbs →
        (⟨.text "INFO", .text "audit", .text "hello", [], [("size", .int n)]⟩ : AuditRecord).line?
          1700000000 = .error .tooLong := by
  have hts : milliseconds 1700000000 = 1700000000000 := by decide +kernel
  refine ⟨⟨by decide, by decide⟩, ⟨rfl, rfl, by decide +kernel, rfl, rfl, by decide +kernel⟩, rfl,
    ?_, rfl, fun n hn => ?_⟩
  · unfold IsTold
    rw [hts]
    decide +kernel
  · have hnone : reportable? (.int n) = none := by
      rw [← Option.not_isSome_iff_eq_none, isSome_reportable?, isSome_told?,
        Literal.display?_int_eq_none_iff.mpr hn]
      decide
    have hfields : (⟨.text "INFO", .text "audit", .text "hello", [], [("size", .int n)]⟩ :
        AuditRecord).fields 1700000000 = .error .tooLong := by
      show (reported [("size", .int n)]).bind _ = _
      rw [reported, hnone]
      rfl
    exact line?_of_error hfields

end AuditRecord

end InstallerGateway
