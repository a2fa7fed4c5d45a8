import InstallerGateway.Proofs.Cache.Log
import InstallerGateway.Proofs.Cache.Memory

/-!
# A table that fails, and memory

Over a table, a key is kept in the table if the table accepts it and in memory if it refuses, and it
is looked for in the table if the table answers and in memory if it refuses. So there are two
layers, each of which knows only a part of what was put. In both, what is stored under a token is
the last thing that was put into this layer, unless its time is over: the table counts whole
seconds, memory counts exactly, and either may have dropped a value whose time is over.
-/

namespace InstallerGateway.Caching

open Act

/-! ## One layer -/

section Holding

variable {β : Type} {stored : Option β} {form : Put → β} {isLive : Put → Bool} {last : Option Put}

/-- What is stored is the last value that was put, unless its time is over. -/
def Holds (stored : Option β) (form : Put → β) (isLive : Put → Bool) (last : Option Put) : Prop :=
  stored = last.map form ∨ stored = none ∧ ∀ p ∈ last, isLive p = false

theorem Holds.later {isLive' : Put → Bool} (h : Holds stored form isLive last)
    (hlive : ∀ p, isLive p = false → isLive' p = false) : Holds stored form isLive' last :=
  h.imp_right fun h => ⟨h.1, fun p hp => hlive p (h.2 p hp)⟩

/-- What is over may be dropped. -/
theorem Holds.filter {keeps : β → Bool} (h : Holds stored form isLive last)
    (hkeeps : ∀ p, keeps (form p) = false → isLive p = false) :
    Holds (stored.filter keeps) form isLive last := by
  rcases h with rfl | ⟨rfl, hover⟩
  · cases last with
    | none => exact .inl rfl
    | some p =>
      rw [Option.map_some]
      cases hk : keeps (form p) with
      | true => exact .inl (Option.filter_some_pos hk)
      | false =>
        refine .inr ⟨Option.filter_some_neg (by simp [hk]), ?_⟩
        rintro _ ⟨⟩
        exact hkeeps p hk
  · exact .inr ⟨rfl, hover⟩

theorem filter_eq_none_of_over (hover : ∀ p ∈ last, isLive p = false) :
    last.filter isLive = none :=
  Option.filter_eq_none_iff.mpr fun p hp => by simp [hover p hp]

/-- What is found is the last value that was put, unless its time is over. -/
theorem Holds.found {value : β → String} {isFound : β → Bool}
    (h : Holds stored form isLive last) (hlive : ∀ p, isFound (form p) = isLive p)
    (hvalue : ∀ p, value (form p) = p.value) :
    (stored.filter isFound).map value = (last.filter isLive).map (·.value) := by
  rcases h with rfl | ⟨rfl, hover⟩
  · rw [Option.filter_map, Option.map_map]
    simp only [Function.comp_def, hlive, hvalue]
  · rw [filter_eq_none_of_over hover]
    rfl

end Holding

/-! ## Memory and the table -/

section

variable {w : World} {token other : String} {last : Option Put}

/-- In memory, the last value of a token is the one that was put. -/
def MemoryHolds (token : String) (last : Option Put) (w : World) : Prop :=
  Holds (Dictionary.find? token w.cache.memory) Put.kept (·.isInMemory w.clock) last

/-- In the table, the last value of a token is the one that was put. -/
def TableHolds (token : String) (last : Option Put) (w : World) : Prop :=
  Holds (w.table.items.find? (TableItem.partition token)) Put.item (·.isInTable w.clock) last

/-- What is found in memory is the last value that it holds, if that is live. -/
theorem MemoryHolds.found (h : MemoryHolds token last w) :
    (w.cache.memory.get w.clock token).1 =
      (last.filter (·.isInMemory w.clock)).map (·.value) := by
  rw [MemoryCache.get_fst]
  exact Holds.found h (fun _ => rfl) (fun _ => rfl)

/-- What the table answers is the last value that it holds, if that is live. -/
theorem TableHolds.tableAnswer (h : TableHolds token last w) (hf : w.table.failures.get = none) :
    tableAnswer token w = .ok ((last.filter (·.isInTable w.clock)).map (·.value)) := by
  unfold Caching.tableAnswer Table.get
  rw [hf]
  show TableItem.value? w.clock ((w.table.items.find? (TableItem.partition token)).getD .null) = _
  rcases h with hstored | ⟨hstored, hover⟩
  · rw [hstored]
    cases last with
    | none => rfl
    | some p => exact p.value?_item w.clock
  · rw [hstored, filter_eq_none_of_over hover]
    rfl

theorem MemoryHolds.wait (h : MemoryHolds token last w) (seconds : NNRat) :
    MemoryHolds token last (w.advance seconds) := by
  refine Holds.later h fun p hp => ?_
  simp only [Put.isInMemory, decide_eq_false_iff_not, not_lt] at hp ⊢
  exact hp.trans (le_add_of_nonneg_right seconds.2)

theorem TableHolds.wait (h : TableHolds token last w) (seconds : NNRat) :
    TableHolds token last (w.advance seconds) := by
  refine Holds.later h fun p hp => ?_
  simp only [Put.isInTable, decide_eq_false_iff_not, not_lt] at hp ⊢
  exact hp.trans (truncate_mono (le_add_of_nonneg_right seconds.2))

/-- Asking drops a value from memory only if its time is over. -/
theorem MemoryHolds.asked (h : MemoryHolds token last w) (other : String) :
    MemoryHolds token last (w.withMemory (w.cache.memory.get w.clock other).2) := by
  show Holds (Dictionary.find? token (w.cache.memory.get w.clock other).2) _ _ _
  by_cases hne : token = other
  · subst hne
    rw [MemoryCache.find?_get]
    exact Holds.filter h fun p hp => hp
  · rw [MemoryCache.find?_get_of_ne hne]
    exact h

/-- The table drops an item only if its time is over. -/
theorem TableHolds.drop (h : TableHolds token last w) (partition : String) :
    TableHolds token last { w with table := w.table.drop w.clock partition } := by
  show Holds ((w.table.drop w.clock partition).items.find? _) _ _ _
  by_cases hne : TableItem.partition token = partition
  · subst hne
    rw [Table.find?_drop]
    refine Holds.filter h fun p hp => ?_
    simpa [Put.item, Put.isInTable, TableItem.expiresAt?_holding] using hp
  · rw [Table.find?_drop_of_ne hne]
    exact h

/-- What is put in memory is the last value that it holds under its token. -/
theorem memoryHolds_remembered (token value : String) (seconds : Int) (isRefused : Bool)
    (w : World) : MemoryHolds token (some ⟨token, value, seconds, w.clock, isRefused⟩)
      (w.withMemory (w.cache.memory.put w.clock token value seconds)) :=
  .inl (Dictionary.find?_put_self _ _ _)

/-- What is put in the table is the last value that it holds under its token. -/
theorem tableHolds_accepted (token value : String) (seconds : Int) (isRefused : Bool)
    (w : World) : TableHolds token (some ⟨token, value, seconds, w.clock, isRefused⟩)
      (w.withItem (TableItem.partition token)
        (TableItem.holding token value (truncate w.clock + seconds))) :=
  .inl (Dictionary.find?_put_self _ _ _)

/-- Putting a value in memory makes no difference under another token. -/
theorem MemoryHolds.remembered_other (h : MemoryHolds token last w) (hne : other ≠ token)
    (value : String) (seconds : Rat) : MemoryHolds token last
      (w.withMemory (w.cache.memory.put w.clock other value seconds)) := by
  show Holds (Dictionary.find? token (Dictionary.put _ _ w.cache.memory)) _ _ _
  rw [Dictionary.find?_put_of_ne hne]
  exact h

theorem TableHolds.accepted_other (h : TableHolds token last w) (hne : other ≠ token)
    (item : Datum) : TableHolds token last (w.withItem (TableItem.partition other) item) := by
  show Holds (Dictionary.find? _ (Dictionary.put _ _ w.table.items)) _ _ _
  rw [Dictionary.find?_put_of_ne fun h => hne (TableItem.partition_injective h)]
  exact h

end

/-! ## Both layers -/

/-- Both layers of a world hold what a log tells. -/
structure Layers (l : Log) (w : World) : Prop where
  clock : w.clock = l.now
  table : ∃ name, w.cache.table = some name
  isExact : w.cache.inDoubles = false
  memory : ∀ token, Holds (Dictionary.find? token w.cache.memory) Put.kept
    (·.isInMemory l.now) (l.last? token true)
  items : ∀ token, Holds (w.table.items.find? (TableItem.partition token)) Put.item
    (·.isInTable l.now) (l.last? token false)

variable {l : Log} {w : World}

theorem Layers.refusing (h : Layers l w) (failures : TableFailures) :
    Layers l (w.refusing failures) := ⟨h.clock, h.table, h.isExact, h.memory, h.items⟩

theorem Layers.noting (h : Layers l w) (events : List Event) : Layers l (w.noting events) :=
  ⟨h.clock, h.table, h.isExact, h.memory, h.items⟩

theorem Layers.memoryHolds (h : Layers l w) (token : String) :
    MemoryHolds token (l.last? token true) w := by
  unfold MemoryHolds
  rw [h.clock]
  exact h.memory token

theorem Layers.tableHolds (h : Layers l w) (token : String) :
    TableHolds token (l.last? token false) w := by
  unfold TableHolds
  rw [h.clock]
  exact h.items token

/-- Memory and table agree with a log if they do so under every token. -/
theorem layers_of_holds (hclock : w.clock = l.now) (htable : ∃ name, w.cache.table = some name)
    (hexact : w.cache.inDoubles = false)
    (hmemory : ∀ token, MemoryHolds token (l.last? token true) w)
    (hitems : ∀ token, TableHolds token (l.last? token false) w) : Layers l w := by
  unfold MemoryHolds at hmemory
  unfold TableHolds at hitems
  rw [hclock] at hmemory hitems
  exact ⟨hclock, htable, hexact, hmemory, hitems⟩

theorem Layers.memory_found (h : Layers l w) (token : String) :
    (w.cache.memory.get w.clock token).1 =
      ((l.last? token true).filter (·.isInMemory l.now)).map (·.value) := by
  rw [(h.memoryHolds token).found, h.clock]

theorem Layers.tableAnswer (h : Layers l w) (hf : w.table.failures.get = none) (token : String) :
    tableAnswer token w =
      .ok (((l.last? token false).filter (·.isInTable l.now)).map (·.value)) := by
  rw [(h.tableHolds token).tableAnswer hf, h.clock]

/-- In a world that agrees with a log, what is found is what the log says. -/
theorem Layers.result_get (h : Layers l w) (token : String) (refusal : Option String) :
    result (get token) (w.refusing ⟨refusal, none⟩) = .ok (l.found? token refusal) := by
  have h' := h.refusing ⟨refusal, none⟩
  obtain ⟨name, hname⟩ := h'.table
  cases refusal with
  | none =>
    obtain ⟨events, -, hp⟩ := get_answered hname (h'.tableAnswer rfl token)
    exact result_eq hp
  | some reason =>
    have ha : Caching.tableAnswer token (w.refusing ⟨some reason, none⟩) = .error reason := rfl
    obtain ⟨events, -, hp⟩ := get_unanswered hname ha
    rw [result_eq hp, h'.memory_found]
    rfl

/-! ## What a step leaves -/

theorem layers_overTable (name : String) (w : World) :
    Layers ⟨w.clock, []⟩ (w.overTable name) :=
  ⟨rfl, ⟨name, rfl⟩, rfl, fun _ => .inl rfl, fun _ => .inl rfl⟩

theorem Layers.wait (h : Layers l w) (seconds : NNRat) :
    Layers { l with now := l.now + seconds } (w.advance seconds) :=
  layers_of_holds (congrArg (· + (seconds : Rat)) h.clock) h.table h.isExact
    (fun token => (h.memoryHolds token).wait seconds)
    (fun token => (h.tableHolds token).wait seconds)

theorem Layers.drop (h : Layers l w) (partition : String) :
    Layers l { w with table := w.table.drop w.clock partition } :=
  layers_of_holds h.clock h.table h.isExact h.memoryHolds
    fun token => (h.tableHolds token).drop partition

theorem Layers.memory_asked (h : Layers l w) (token : String) :
    Layers l (w.withMemory (w.cache.memory.get w.clock token).2) :=
  layers_of_holds h.clock h.table h.isExact (fun other => (h.memoryHolds other).asked token)
    h.tableHolds

/-- Asking keeps the world in agreement with the log. -/
theorem Layers.after_get (h : Layers l w) (token : String) (refusal : Option String) :
    Layers l (after (Caching.get token) (w.refusing ⟨refusal, none⟩)) := by
  have h' := h.refusing ⟨refusal, none⟩
  obtain ⟨name, hname⟩ := h'.table
  cases refusal with
  | none =>
    obtain ⟨events, -, hp⟩ := get_answered hname (h'.tableAnswer rfl token)
    rw [after_eq hp]
    exact h'.noting events
  | some reason =>
    have ha : Caching.tableAnswer token (w.refusing ⟨some reason, none⟩) = .error reason := rfl
    obtain ⟨events, -, hp⟩ := get_unanswered hname ha
    rw [after_eq hp]
    exact (h'.memory_asked token).noting events

/-- Putting a value keeps the world in agreement with the log that has it. -/
theorem Layers.after_put (h : Layers l w) (token value : String) (seconds : Int)
    (refusal : Option String) :
    Layers (l.perform (.put token value seconds refusal))
      (after (Caching.put token value (.int seconds)) (w.refusing ⟨none, refusal⟩)) := by
  have h' := h.refusing ⟨none, refusal⟩
  obtain ⟨name, hname⟩ := h'.table
  have hunseen {other : String} {isRefused : Bool}
      (hne : token = other → refusal.isSome ≠ isRefused) :
      (l.perform (.put token value seconds refusal)).last? other isRefused =
        l.last? other isRefused := Log.last?_cons_of_ne hne
  have hseen (isRefused : Bool) (hr : refusal.isSome = isRefused) :
      (l.perform (.put token value seconds refusal)).last? token isRefused =
        some ⟨token, value, seconds, w.clock, isRefused⟩ := by
    rw [h.clock, ← hr]
    exact Log.last?_cons_self _ _ _
  cases refusal with
  | none =>
    obtain ⟨events, -, hp⟩ := put_accepted hname rfl token value seconds
    rw [after_eq hp]
    refine layers_of_holds h.clock h.table h.isExact (fun other => ?memory) (fun other => ?table)
    case memory =>
      rw [hunseen (by simp)]
      exact h'.memoryHolds other
    case table =>
      by_cases hne : token = other
      · subst hne
        rw [hseen false rfl]
        exact tableHolds_accepted token value seconds false _
      · rw [hunseen fun h => absurd h hne]
        exact (h'.tableHolds other).accepted_other hne _
  | some reason =>
    obtain ⟨events, -, hp⟩ := put_refused hname rfl token value
      (counts_of_exact h'.isExact seconds)
    rw [after_eq hp]
    refine layers_of_holds h.clock h.table h.isExact (fun other => ?memory) (fun other => ?table)
    case memory =>
      by_cases hne : token = other
      · subst hne
        rw [hseen true rfl]
        exact memoryHolds_remembered token value seconds true _
      · rw [hunseen fun h => absurd h hne]
        exact (h'.memoryHolds other).remembered_other hne value seconds
    case table =>
      rw [hunseen (by simp)]
      exact h'.tableHolds other

theorem Layers.perform (h : Layers l w) (s : Step) : Layers (l.perform s) (s.perform w) := by
  cases s with
  | put token value seconds refusal => exact h.after_put token value seconds refusal
  | get token refusal => exact h.after_get token refusal
  | wait seconds => exact h.wait seconds
  | drop partition => exact h.drop partition

theorem layers_run (name : String) (w : World) (steps : List Step) :
    Layers (log w.clock steps) (run (w.overTable name) steps) := by
  induction steps using List.reverseRecOn with
  | nil => exact layers_overTable name w
  | append_singleton steps s ih =>
    rw [log_snoc, run_snoc]
    exact ih.perform s

/-- What is found over a table, after any run: what the table accepted last if it answers, and what
it refused last if it does not, as long as its time is not over. Steps that are about other tokens
make no difference. -/
theorem get_over_table (name token : String) (w₀ : World) (steps : List Step)
    (refusal : Option String) :
    let found (steps : List Step) :=
      result (get token) ((run (w₀.overTable name) steps).refusing ⟨refusal, none⟩)
    found steps = .ok ((log w₀.clock steps).found? token refusal) ∧
      found (steps.filter (·.concerns token)) = found steps := by
  intro found
  have hfound (steps : List Step) :
      found steps = .ok ((log w₀.clock steps).found? token refusal) :=
    (layers_run name w₀ steps).result_get token refusal
  refine ⟨hfound steps, ?_⟩
  rw [hfound, hfound, (log_filter w₀.clock token steps).found? refusal]

end InstallerGateway.Caching
