import InstallerGateway.Proofs.World.Keeping

/-!
# Trouble with the table

Whatever the table does, asking for a resolved key succeeds. If the table refuses a request, or
answers with an item from which no value can be read, memory stands in for it, as if there were no
table, and one alert is reported. Otherwise memory is left alone, and there is no alert. Keeping a
key fails in one case only: the table refuses it, and memory cannot keep it either, since the clock
tells doubles and the time to keep it is out of their range.
-/

namespace InstallerGateway

namespace TableItem

variable {now : Instant} {place : Nat} {entries : List (Datum × Datum)} {item : Datum}

/-- The second at which the time of a mapping is over; if it does not say, this is 0. -/
def expiry (entries : List (Datum × Datum)) : Except String Int :=
  integer ((Datum.field? "expires_at" entries).getD (.int 0))

/-- There is an item at an instant, but no value can be read from it. -/
inductive IsMalformed (now : Instant) : Datum → Prop
  /-- It is no mapping. -/
  | kind {item : Datum} (htruthy : item.isTruthy = true)
      (hkind : ∀ place entries, item ≠ .map place entries) : IsMalformed now item
  /-- What it says about its time is no integer. -/
  | time {place : Nat} {entries : List (Datum × Datum)} {reason : String}
      (htime : expiry entries = .error reason) : IsMalformed now (.map place entries)
  /-- Its time is not over, and it holds no value. -/
  | value {place : Nat} {entries : List (Datum × Datum)} {n : Int} (hentries : entries ≠ [])
      (htime : expiry entries = .ok n) (hnow : truncate now < n)
      (hvalue : Datum.field? "value" entries = none) : IsMalformed now (.map place entries)
  /-- Its time is not over, and it holds a value that has no text. -/
  | text {place : Nat} {entries : List (Datum × Datum)} {n : Int} {value : Datum}
      (htime : expiry entries = .ok n) (hnow : truncate now < n)
      (hvalue : Datum.field? "value" entries = some value)
      (htext : Literal.display? value value = none) : IsMalformed now (.map place entries)

/-- What is read from an item that holds something: its time comes first, then its value, then the
text of that. -/
theorem value?_map (hentries : entries ≠ []) : value? now (.map place entries) =
    (expiry entries).bind fun n =>
      if n ≤ truncate now then .ok none
      else (Datum.field? "value" entries).elim (.error "'value'") fun d =>
        (Literal.display? d d).elim (.error (tooManyDigits "")) fun value =>
          .ok (some value) := by
  have htruthy : (Datum.map place entries).isTruthy = true := by simp [Datum.isTruthy, hentries]
  unfold value?
  rw [htruthy]
  show Except.bind (expiry entries) _ = _
  congr 1
  funext n
  show (if n ≤ truncate now then _ else _ : Except String (Option String)) = _
  congr 1
  cases Datum.field? "value" entries with
  | none => rfl
  | some d =>
    rw [Option.elim_some]
    cases htext : Literal.display? d d with
    | none =>
      simp only [htext, Option.elim_none]
      rfl
    | some value =>
      simp only [htext, Option.elim_some]
      rfl

/-- A mapping that holds something is malformed exactly if what is read from it fails. -/
theorem value?_map_fails_iff (hentries : entries ≠ []) :
    (∃ reason, value? now (.map place entries) = .error reason) ↔
      IsMalformed now (.map place entries) := by
  rw [value?_map hentries]
  cases htime : expiry entries with
  | error reason => exact iff_of_true ⟨reason, rfl⟩ (.time htime)
  | ok n =>
    change (∃ reason, (if n ≤ truncate now then _ else _) = Except.error reason) ↔ _
    by_cases hover : n ≤ truncate now
    · rw [if_pos hover]
      refine iff_of_false nofun fun h => ?_
      cases h with
      | kind _ hkind => exact hkind _ _ rfl
      | time htime' => cases htime.symm.trans htime'
      | value _ htime' hnow | text htime' hnow =>
        cases htime.symm.trans htime'
        exact absurd hover (not_le.mpr hnow)
    · have hnow : truncate now < n := not_le.mp hover
      rw [if_neg hover]
      cases hvalue : Datum.field? "value" entries with
      | none => exact iff_of_true ⟨_, rfl⟩ (.value hentries htime hnow hvalue)
      | some d =>
        rw [Option.elim_some]
        cases htext : Literal.display? d d with
        | none => exact iff_of_true ⟨_, rfl⟩ (.text htime hnow hvalue htext)
        | some value =>
          refine iff_of_false nofun fun h => ?_
          cases h with
          | kind _ hkind => exact hkind _ _ rfl
          | time htime' => cases htime.symm.trans htime'
          | value _ _ _ hvalue' => cases hvalue.symm.trans hvalue'
          | text _ _ hvalue' htext' =>
            cases hvalue.symm.trans hvalue'
            cases htext.symm.trans htext'

/-- A mapping that holds nothing stands for no item, and is not malformed. -/
theorem not_isMalformed_nil : ¬ IsMalformed now (.map place []) := by
  intro h
  cases h with
  | kind htruthy => cases htruthy
  | time htime => cases htime
  | value hentries => exact hentries rfl
  | text _ _ hvalue => cases hvalue

/-- A value cannot be read from an item exactly if the item is malformed. An item whose time is over
is not read any further, so a missing value does no harm then. -/
theorem value?_fails_iff :
    (∃ reason, value? now item = .error reason) ↔ IsMalformed now item := by
  by_cases hmap : ∃ place entries, item = .map place entries
  · obtain ⟨place, entries, rfl⟩ := hmap
    by_cases hentries : entries = []
    · rw [hentries]
      exact iff_of_false nofun not_isMalformed_nil
    · exact value?_map_fails_iff hentries
  · have hkind (place : Nat) (entries : List (Datum × Datum)) : item ≠ .map place entries :=
      fun h => hmap ⟨place, entries, h⟩
    unfold value?
    cases htruthy : item.isTruthy with
    | false =>
      refine iff_of_false nofun fun h => ?_
      cases h with
      | kind htruthy' => cases htruthy.symm.trans htruthy'
      | time | value | text => exact hkind _ _ rfl
    | true =>
      refine iff_of_true ?_ (.kind htruthy hkind)
      cases item with
      | map place entries => exact absurd rfl (hkind place entries)
      | _ => exact ⟨_, rfl⟩

end TableItem

/-- The world in which resolved keys are kept in a table, or in memory alone. -/
@[simps]
def World.keptIn (table : Option String) (w : World) : World :=
  { w with cache := { w.cache with table := table } }

namespace Caching

open Act

variable {α : Type} {a : Act α} {w : World} {token : String}

/-- Asking the table for the item of a token fails. -/
inductive GetFails (token : String) (w : World) : Prop
  /-- The table refuses to answer. -/
  | refused {reason : String} (h : w.table.get (TableItem.partition token) = .error reason)
  /-- The table answers with an item from which no value can be read. -/
  | malformed {item : Datum} (h : w.table.get (TableItem.partition token) = .ok item)
      (hitem : TableItem.IsMalformed w.clock item)

/-- The table refuses to keep items. -/
def PutFails (w : World) : Prop := ∃ reason, w.table.failures.put = some reason

/-- The table fails to answer exactly if a request to it fails or its item cannot be read. -/
theorem tableAnswer_fails_iff :
    (∃ reason, tableAnswer token w = .error reason) ↔ GetFails token w := by
  unfold tableAnswer
  constructor
  · rintro ⟨reason, h⟩
    cases hget : w.table.get (TableItem.partition token) with
    | error reason => exact .refused hget
    | ok item =>
      rw [hget] at h
      exact .malformed hget (TableItem.value?_fails_iff.mp ⟨reason, h⟩)
  · intro h
    cases h with
    | refused h =>
      rw [h]
      exact ⟨_, rfl⟩
    | malformed h hitem =>
      obtain ⟨reason, hvalue⟩ := TableItem.value?_fails_iff.mpr hitem
      rw [h]
      exact ⟨reason, hvalue⟩

/-- Memory stands in for the table: the action comes to what it comes to without a table, does to
memory what it does then, leaves the table as it is, and reports one alert. -/
structure StandsIn (a : Act α) (alert : String → AuditRecord) (w : World) : Prop where
  result : result a w = result a (w.keptIn none)
  memory : (after a w).cache.memory = (after a (w.keptIn none)).cache.memory
  table : (after a w).table = w.table
  alerts : ∃ reason, alerts (noted a w) = [alert reason]

/-- The action succeeds, memory is left alone, and no alert is reported. -/
structure SparesMemory (a : Act α) (w : World) : Prop where
  succeeds : ∃ x, Act.result a w = .ok x
  memory : (after a w).cache.memory = w.cache.memory
  alerts : alerts (noted a w) = []

theorem noted_of_perform {w' : World} {x : Except Fault α} {events : List Event}
    (h : perform a w = (x, w'.noting events)) (htrace : w'.trace = w.trace) :
    noted a w = events := by
  refine noted_eq ?_
  rw [after_eq h, World.noting_trace, htrace]

/-- What an action comes to with a table and without one tells whether memory stands in for it. -/
theorem standsIn_of_perform {w₁ w₂ : World} {x : Except Fault α} {events events' : List Event}
    {alert : String → AuditRecord} {reason : String} (h : perform a w = (x, w₁.noting events))
    (halone : perform a (w.keptIn none) = (x, w₂.noting events'))
    (hmemory : w₁.cache.memory = w₂.cache.memory) (htable : w₁.table = w.table)
    (htrace : w₁.trace = w.trace) (halerts : alerts events = [alert reason]) :
    StandsIn a alert w where
  result := (result_eq h).trans (result_eq halone).symm
  memory := by
    rw [after_eq h, after_eq halone]
    exact hmemory
  table := by
    rw [after_eq h]
    exact htable
  alerts := ⟨reason, by rw [noted_of_perform h htrace, halerts]⟩

/-- If the table fails to answer, memory answers. -/
theorem get_standsIn {table : String} (htable : w.cache.table = some table)
    (h : GetFails token w) :
    StandsIn (get token) (tableAlert "dynamodb_cache_get_failed" table token) w := by
  obtain ⟨reason, hanswer⟩ := tableAnswer_fails_iff.mpr h
  obtain ⟨events, halerts, hp⟩ := get_unanswered htable hanswer
  have halone := get_inMemory (w := w.keptIn none) rfl token
  exact standsIn_of_perform hp halone rfl rfl rfl halerts

/-- If the table answers, memory is not asked. -/
theorem get_sparesMemory {table : String} (htable : w.cache.table = some table)
    (h : ¬GetFails token w) : SparesMemory (get token) w := by
  cases hanswer : tableAnswer token w with
  | error reason => exact absurd (tableAnswer_fails_iff.mp ⟨reason, hanswer⟩) h
  | ok found =>
    obtain ⟨events, halerts, hp⟩ := get_answered htable hanswer
    refine ⟨⟨found, result_eq hp⟩, ?_, ?_⟩
    · rw [after_eq hp]
      rfl
    · rw [noted_of_perform hp rfl, halerts]

/-- If the table refuses a value, memory takes it. -/
theorem put_standsIn {table : String} (htable : w.cache.table = some table) (h : PutFails w)
    (token value : String) (seconds : Int) : StandsIn (put token value (.int seconds))
      (tableAlert "dynamodb_cache_put_failed" table token) w := by
  obtain ⟨reason, hfails⟩ := h
  cases hcounts : w.cache.counts seconds with
  | true =>
    obtain ⟨events, halerts, hp⟩ := put_refused htable hfails token value hcounts
    have halone := put_inMemory (w := w.keptIn none) rfl token value hcounts
    exact standsIn_of_perform hp halone rfl rfl rfl halerts
  | false =>
    obtain ⟨events, halerts, hp⟩ := put_endless_refused htable hfails token value hcounts
    have halone := put_endless_inMemory (w := w.keptIn none) rfl token value hcounts
    exact standsIn_of_perform hp halone rfl rfl rfl halerts

/-- If the table accepts a value, memory is left alone. -/
theorem put_sparesMemory {table : String} (htable : w.cache.table = some table) (h : ¬PutFails w)
    (token value : String) (seconds : Int) :
    SparesMemory (put token value (.int seconds)) w := by
  have hfails : w.table.failures.put = none := by
    simpa [PutFails, ← Option.ne_none_iff_exists'] using h
  obtain ⟨events, halerts, hp⟩ := put_accepted htable hfails token value seconds
  refine ⟨⟨(), result_eq hp⟩, ?_, ?_⟩
  · rw [after_eq hp]
    rfl
  · rw [noted_of_perform hp rfl, halerts]

/-- Keeping a key over a table fails exactly if the table refuses it and the time to keep it cannot
be added to what the clock tells. -/
theorem put_eq_error_iff {table : String} (htable : w.cache.table = some table)
    (token value : String) (seconds : Int) (f : Fault) :
    result (put token value (.int seconds)) w = .error f ↔
      f = .endlessDuration ∧ PutFails w ∧ w.cache.inDoubles = true ∧
        Binary64.twoPow 1024 - Binary64.twoPow 970 ≤ |(seconds : Rat)| := by
  obtain ⟨memory, kept, events, hp⟩ := put_perform token value seconds w
  rw [result_eq hp, ← counts_eq_false_iff]
  have hover : overruns seconds w = true ↔ PutFails w ∧ w.cache.counts seconds = false := by
    simp [overruns, PutFails, htable, Option.isSome_iff_exists]
  by_cases h : overruns seconds w = true
  · rw [if_pos h]
    simp [hover.mp h, eq_comm]
  · rw [if_neg h]
    simp [← hover, h]

end Caching

end InstallerGateway
