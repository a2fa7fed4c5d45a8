import InstallerGateway.Proofs.Cache.Table
import InstallerGateway.Proofs.Number.Shortest
import InstallerGateway.Proofs.World.Acting
import InstallerGateway.World.Caching

/-!
# Looking up and keeping resolved keys

Whatever the table of resolved keys does, looking up succeeds, and so does keeping unless a value is
to be kept in memory beyond what the clock can tell. Looking up changes nothing but the values in
memory, and keeping nothing but these and the table. Without a table, values in memory are all there
is.
-/

namespace InstallerGateway

/-- The world in which the table has one more item. -/
def World.withItem (partition : String) (item : Datum) (w : World) : World :=
  { w with table := { w.table with items := w.table.items.put partition item } }

/-- The world in which the clock tells exact instants. -/
@[simps]
def World.exact (w : World) : World := { w with cache := { w.cache with inDoubles := false } }

namespace Caching

open Act

variable {w : World}

/-- What is found in memory is what it holds, and asking may drop it. -/
theorem fromMemory_perform (token : String) (w : World) :
    perform (fromMemory token) w = (.ok (w.cache.memory.get w.clock token).1,
      w.withMemory (w.cache.memory.get w.clock token).2) := rfl

/-- What is remembered is put in memory. -/
theorem remember_perform (token value : String) {seconds : Int}
    (h : w.cache.counts seconds = true) :
    perform (remember token value (.int seconds)) w = (.ok (),
      w.withMemory (w.cache.memory.put w.clock token value seconds)) := by
  unfold remember
  rw [perform_bind_ok (perform_get _)]
  dsimp only [Datum.number?]
  rw [if_pos h]
  rfl

/-- A time that cannot be added to what the clock tells is refused, and nothing is kept. -/
theorem remember_endless (token value : String) {seconds : Int}
    (h : w.cache.counts seconds = false) :
    perform (remember token value (.int seconds)) w = (.error .endlessDuration, w) := by
  unfold remember
  rw [perform_bind_ok (perform_get _)]
  dsimp only [Datum.number?]
  rw [if_neg (by simp [h])]
  rfl

/-- Without a table, what is in memory is found. -/
theorem get_inMemory (h : w.cache.table = none) (token : String) :
    perform (get token) w = (.ok (w.cache.memory.get w.clock token).1,
      (w.withMemory (w.cache.memory.get w.clock token).2).noting [.cacheGet token]) := by
  unfold get
  rw [perform_bind_ok (perform_note _ _), perform_bind_ok (perform_get _)]
  simp only [World.noting_cache, h]
  rw [fromMemory_perform]
  rfl

/-- Without a table, a value is kept in memory. -/
theorem put_inMemory (h : w.cache.table = none) (token value : String) {seconds : Int}
    (hcounts : w.cache.counts seconds = true) :
    perform (put token value (.int seconds)) w = (.ok (),
      (w.withMemory (w.cache.memory.put w.clock token value seconds)).noting
        [.cachePut token]) := by
  unfold put
  rw [perform_bind_ok (perform_note _ _), perform_bind_ok (perform_get _)]
  simp only [World.noting_cache, h]
  exact remember_perform (w := w.noting [.cachePut token]) token value hcounts

/-- Without a table, a value is not kept beyond what the clock can tell. -/
theorem put_endless_inMemory (h : w.cache.table = none) (token value : String) {seconds : Int}
    (hcounts : w.cache.counts seconds = false) :
    perform (put token value (.int seconds)) w =
      (.error .endlessDuration, w.noting [.cachePut token]) := by
  unfold put
  rw [perform_bind_ok (perform_note _ _), perform_bind_ok (perform_get _)]
  simp only [World.noting_cache, h]
  exact remember_endless _ _ hcounts

/-! ## With a table -/

section OverTable

variable {table token reason : String} {found : Option String}

/-- What the table tells about a token; an error if it refuses, or if the item is not what it should
be. -/
def tableAnswer (token : String) (w : World) : Except String (Option String) :=
  (w.table.get (TableItem.partition token)).bind (TableItem.value? w.clock)

/-- If the table answers, memory is left alone, and there is no alert. -/
theorem get_answered (h : w.cache.table = some table) (ha : tableAnswer token w = .ok found) :
    ∃ events, alerts events = [] ∧ perform (get token) w = (.ok found, w.noting events) := by
  unfold tableAnswer at ha
  unfold get
  rw [perform_bind_ok (perform_note _ _), perform_bind_ok (perform_get _)]
  simp only [World.noting_cache, World.noting_table, World.noting_clock, h]
  rw [perform_bind_ok (perform_note _ _)]
  generalize w.table.get (TableItem.partition token) = answer at ha ⊢
  cases answer with
  | error _ => cases ha
  | ok item =>
    have hv : TableItem.value? w.clock item = .ok found := ha
    dsimp only
    rw [perform_bind_ok (perform_report _ _), hv]
    exact ⟨.audit w.clock _ :: [.tableGet (TableItem.partition token), .cacheGet token], rfl, rfl⟩

/-- If the table does not answer, what is in memory is found, and there is one alert. -/
theorem get_unanswered (h : w.cache.table = some table) (ha : tableAnswer token w = .error reason) :
    ∃ events, alerts events = [tableAlert "dynamodb_cache_get_failed" table token reason] ∧
      perform (get token) w = (.ok (w.cache.memory.get w.clock token).1,
        (w.withMemory (w.cache.memory.get w.clock token).2).noting events) := by
  unfold tableAnswer at ha
  have hfailed (events : List Event) (halerts : alerts events = []) (reason : String) : ∃ more,
      alerts more = [tableAlert "dynamodb_cache_get_failed" table token reason] ∧
      perform (report (tableAlert "dynamodb_cache_get_failed" table token reason) >>=
        fun _ => fromMemory token) (w.noting events) =
          (.ok (w.cache.memory.get w.clock token).1,
            (w.withMemory (w.cache.memory.get w.clock token).2).noting more) := by
    rw [perform_bind_ok (perform_report _ _), World.noting_noting, fromMemory_perform]
    exact ⟨_, by rw [alerts_append, halerts]; rfl, rfl⟩
  unfold get
  rw [perform_bind_ok (perform_note _ _), perform_bind_ok (perform_get _)]
  simp only [World.noting_cache, World.noting_table, World.noting_clock, h]
  rw [perform_bind_ok (perform_note _ _), World.noting_noting]
  generalize w.table.get (TableItem.partition token) = answer at ha ⊢
  cases answer with
  | error message =>
    cases (Except.error.inj ha : message = reason)
    exact hfailed _ rfl _
  | ok item =>
    have hv : TableItem.value? w.clock item = .error reason := ha
    dsimp only
    rw [perform_bind_ok (perform_report _ _), World.noting_noting, hv]
    exact hfailed _ rfl _

/-- A table that accepts an item keeps it, nothing is kept in memory, and there is no alert. -/
theorem put_accepted (h : w.cache.table = some table) (hf : w.table.failures.put = none)
    (token value : String) (seconds : Int) :
    ∃ events, alerts events = [] ∧ perform (put token value (.int seconds)) w = (.ok (),
      (w.withItem (TableItem.partition token)
        (TableItem.holding token value (truncate w.clock + seconds))).noting events) := by
  unfold put
  rw [perform_bind_ok (perform_note _ _), perform_bind_ok (perform_get _)]
  simp only [World.noting_cache, World.noting_table, World.noting_clock, h,
    TableItem.make_int, Table.put, hf]
  rw [perform_bind_ok (perform_note _ _), perform_bind_ok (perform_modify _ _), perform_report]
  exact ⟨.audit w.clock _ :: [.tablePut _, .cachePut token], rfl, rfl⟩

/-- If a table refuses an item, there is one alert, and what is left to do is to keep the value in
memory instead. -/
theorem put_refused_eq (h : w.cache.table = some table) (hf : w.table.failures.put = some reason)
    (token value : String) (seconds : Int) :
    ∃ events, alerts events = [tableAlert "dynamodb_cache_put_failed" table token reason] ∧
      perform (put token value (.int seconds)) w =
        perform (remember token value (.int seconds)) (w.noting events) := by
  unfold put
  rw [perform_bind_ok (perform_note _ _), perform_bind_ok (perform_get _)]
  simp only [World.noting_cache, World.noting_table, World.noting_clock, h,
    TableItem.make_int, Table.put, hf]
  rw [perform_bind_ok (perform_note _ _), perform_bind_ok (perform_report _ _)]
  exact ⟨.audit w.clock _ :: [.tablePut _, .cachePut token], rfl, rfl⟩

/-- What a table refuses is put in memory, with an alert. -/
theorem put_refused (h : w.cache.table = some table) (hf : w.table.failures.put = some reason)
    (token value : String) {seconds : Int} (hcounts : w.cache.counts seconds = true) :
    ∃ events, alerts events = [tableAlert "dynamodb_cache_put_failed" table token reason] ∧
      perform (put token value (.int seconds)) w = (.ok (),
        (w.withMemory (w.cache.memory.put w.clock token value seconds)).noting events) := by
  obtain ⟨events, halerts, hp⟩ := put_refused_eq h hf token value seconds
  have hnoted : (w.noting events).cache.counts seconds = true := hcounts
  exact ⟨events, halerts, hp.trans (remember_perform _ _ hnoted)⟩

/-- What a table refuses for a time that cannot be counted is kept nowhere, with an alert. -/
theorem put_endless_refused (h : w.cache.table = some table)
    (hf : w.table.failures.put = some reason) (token value : String) {seconds : Int}
    (hcounts : w.cache.counts seconds = false) :
    ∃ events, alerts events = [tableAlert "dynamodb_cache_put_failed" table token reason] ∧
      perform (put token value (.int seconds)) w = (.error .endlessDuration, w.noting events) := by
  obtain ⟨events, halerts, hp⟩ := put_refused_eq h hf token value seconds
  have hnoted : (w.noting events).cache.counts seconds = false := hcounts
  exact ⟨events, halerts, hp.trans (remember_endless _ _ hnoted)⟩

end OverTable

/-! ## With or without a table -/

/-- Asking for a value succeeds, and changes memory and the trace at most. -/
theorem get_perform (token : String) (w : World) : ∃ value memory events,
    perform (get token) w = (.ok value, (w.withMemory memory).noting events) := by
  cases h : w.cache.table with
  | none => exact ⟨_, _, [.cacheGet token], get_inMemory h token⟩
  | some table =>
    cases ha : tableAnswer token w with
    | ok found =>
      obtain ⟨events, -, hp⟩ := get_answered h ha
      exact ⟨found, w.cache.memory, events, hp⟩
    | error reason =>
      obtain ⟨events, -, hp⟩ := get_unanswered h ha
      exact ⟨_, _, events, hp⟩

theorem lookup_perform (extension : String) (w : World) : ∃ value memory events,
    perform (lookup extension) w = (.ok value, (w.withMemory memory).noting events) := by
  obtain ⟨value, memory, events, h⟩ := get_perform extension w
  refine ⟨value.filter fun v => !v.isEmpty, memory, events, ?_⟩
  unfold lookup
  rw [perform_bind_ok h, perform_pure]

theorem lookup_sameMoment (extension : String) (w : World) :
    w.SameMoment (after (lookup extension) w) := by
  obtain ⟨value, memory, events, h⟩ := lookup_perform extension w
  rw [after_eq h]
  exact (w.sameMoment_withMemory memory).trans (World.sameMoment_noting events _)

/-- A value would be kept in memory, and the clock cannot tell when its time is over. -/
def overruns (seconds : Rat) (w : World) : Bool :=
  (w.cache.table.isNone || w.table.failures.put.isSome) && !w.cache.counts seconds

theorem counts_of_exact {c : LatestCache} (h : c.inDoubles = false) (seconds : Rat) :
    c.counts seconds = true := by
  simp [LatestCache.counts, h]

/-- A time cannot be added to what the clock tells exactly if it is out of the range of doubles. -/
theorem counts_eq_false_iff {c : LatestCache} {seconds : Rat} : c.counts seconds = false ↔
    c.inDoubles = true ∧ Binary64.twoPow 1024 - Binary64.twoPow 970 ≤ |seconds| := by
  rw [← Binary64.toRat?_ofRat_eq_none_iff]
  simp [LatestCache.counts]

theorem overruns_of_exact (h : w.cache.inDoubles = false) (seconds : Rat) :
    overruns seconds w = false := by
  simp [overruns, counts_of_exact h]

/-- Keeping a value fails if it overruns, and succeeds otherwise. -/
theorem put_perform (token value : String) (seconds : Int) (w : World) : ∃ memory table events,
    perform (put token value (.int seconds)) w =
      (if overruns seconds w then .error .endlessDuration else .ok (),
        ({ w with table := table }.withMemory memory).noting events) := by
  cases hcounts : w.cache.counts seconds with
  | true =>
    have hlasts : overruns seconds w = false := by simp [overruns, hcounts]
    rw [hlasts]
    cases h : w.cache.table with
    | none => exact ⟨_, w.table, [.cachePut token], put_inMemory h token value hcounts⟩
    | some table =>
      cases hf : w.table.failures.put with
      | none =>
        obtain ⟨events, -, hp⟩ := put_accepted h hf token value seconds
        exact ⟨w.cache.memory, (w.withItem _ _).table, events, hp⟩
      | some reason =>
        obtain ⟨events, -, hp⟩ := put_refused h hf token value hcounts
        exact ⟨_, w.table, events, hp⟩
  | false =>
    cases h : w.cache.table with
    | none =>
      have hover : overruns seconds w = true := by simp [overruns, hcounts, h]
      rw [hover]
      exact ⟨w.cache.memory, w.table, [.cachePut token], put_endless_inMemory h token value hcounts⟩
    | some table =>
      cases hf : w.table.failures.put with
      | none =>
        have hlasts : overruns seconds w = false := by simp [overruns, h, hf]
        rw [hlasts]
        obtain ⟨events, -, hp⟩ := put_accepted h hf token value seconds
        exact ⟨w.cache.memory, (w.withItem _ _).table, events, hp⟩
      | some reason =>
        have hover : overruns seconds w = true := by simp [overruns, hcounts, hf]
        rw [hover]
        obtain ⟨events, -, hp⟩ := put_endless_refused h hf token value hcounts
        exact ⟨w.cache.memory, w.table, events, hp⟩

/-- Storing a key fails exactly if its time overruns, and changes memory, table and trace at most.
-/
theorem store_perform (usual : Int) (extension value : String) (w : World) :
    ∃ memory table events, perform (store (.int usual) extension value .null) w =
      (if overruns usual w then .error .endlessDuration else .ok (),
        ({ w with table := table }.withMemory memory).noting events) :=
  put_perform extension value usual w

theorem store_sameMoment (usual : Int) (extension value : String) (w : World) :
    w.SameMoment (after (store (.int usual) extension value .null) w) := by
  obtain ⟨memory, table, events, h⟩ := store_perform usual extension value w
  rw [after_eq h]
  exact ⟨⟨rfl, rfl, rfl, rfl⟩, rfl⟩

/-! ## Without a table -/

/-- In the world `w'` values are kept in memory alone, and those that were not there in `w` are new
ones in a certain sense. -/
def AddsOnly (isNew : String → Kept → Prop) (w w' : World) : Prop :=
  w'.cache.table = none ∧ ∀ extension kept,
    Dictionary.find? extension w'.cache.memory = some kept →
      Dictionary.find? extension w.cache.memory = some kept ∨ isNew extension kept

theorem addsOnly_of_cache_eq {isNew : String → Kept → Prop} {w w' : World}
    (h : w.cache.table = none) (hc : w'.cache = w.cache) : AddsOnly isNew w w' := by
  unfold AddsOnly
  rw [hc]
  exact ⟨h, fun _ _ hk => .inl hk⟩

/-- The value in memory that is found for an extension, if it is not empty. -/
def kept? (w : World) (extension : String) : Option String :=
  (w.cache.memory.get w.clock extension).1.filter fun v => !v.isEmpty

/-- Without a table, looking up a key finds what is in memory, and drops it if its time is over. -/
theorem lookup_memory (h : w.cache.table = none) (extension : String) :
    perform (lookup extension) w = (.ok (kept? w extension),
      (w.withMemory (w.cache.memory.get w.clock extension).2).noting [.cacheGet extension]) := by
  unfold lookup kept?
  rw [perform_bind_ok (get_inMemory h extension), perform_pure]

/-- Without a table, a resolved key is kept in memory for the usual time. -/
theorem store_memory (h : w.cache.table = none) {usual : Int} (extension value : String)
    (hcounts : w.cache.counts usual = true) :
    perform (store (.int usual) extension value .null) w = (.ok (),
      (w.withMemory (w.cache.memory.put w.clock extension value usual)).noting
        [.cachePut extension]) :=
  put_inMemory h extension value hcounts

/-- In memory, a key whose time cannot be counted is not kept. -/
theorem store_endless (h : w.cache.table = none) {usual : Int} (extension value : String)
    (hcounts : w.cache.counts usual = false) :
    perform (store (.int usual) extension value .null) w =
      (.error .endlessDuration, w.noting [.cachePut extension]) :=
  put_endless_inMemory h extension value hcounts

end Caching

end InstallerGateway
