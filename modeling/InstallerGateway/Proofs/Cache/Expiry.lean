import InstallerGateway.Proofs.Cache.Layers
import InstallerGateway.Proofs.Cache.Standby

/-!
# When a value is over

Memory compares exact instants: a value is over as soon as its seconds have passed. A table counts
whole seconds, at which both the instants of putting and of asking are cut off. So a value may be
over in the table less than a second too early, and never too late.
-/

namespace InstallerGateway

/-! ## Whole seconds -/

section

variable {s t : Instant} {seconds : Int}

theorem truncate_of_nonneg (h : 0 ≤ t) : truncate t = t.floor := if_neg (not_lt.mpr h)

/-- What is not over in whole seconds is not over. -/
theorem sub_lt_of_truncate_lt (hs : 0 ≤ s) (ht : 0 ≤ t)
    (h : truncate t < truncate s + seconds) : t - s < seconds := by
  rw [truncate_of_nonneg hs, truncate_of_nonneg ht, Rat.floor_lt_iff] at h
  push_cast at h
  have hfloor : (s.floor : Rat) ≤ s := Rat.floor_le s
  linarith

/-- What is not over for one more second is not over in whole seconds. -/
theorem truncate_lt_of_sub_le (hs : 0 ≤ s) (ht : 0 ≤ t) (h : t - s ≤ seconds - 1) :
    truncate t < truncate s + seconds := by
  rw [truncate_of_nonneg hs, truncate_of_nonneg ht, Rat.floor_lt_iff]
  push_cast
  have hfloor : s - 1 < s.floor := Rat.lt_floor
  linarith

theorem truncate_intCast (n : Int) : truncate (n : Rat) = n := by
  unfold truncate
  split_ifs
  · exact Rat.ceil_intCast n
  · exact Rat.floor_intCast n

/-- Between whole seconds nothing is cut off. -/
theorem truncate_lt_iff_of_integers {a b : Int} :
    truncate (b : Rat) < truncate (a : Rat) + seconds ↔ (b : Rat) - a < seconds := by
  rw [truncate_intCast, truncate_intCast, sub_lt_iff_lt_add']
  exact_mod_cast Iff.rfl

end

namespace Caching

open Act

variable {w : World} {token value table : String} {p : Put}

/-! ## Time that passes -/

/-- The seconds that pass in a step. -/
def Step.duration : Step → NNRat
  | .wait seconds => seconds
  | _ => 0

/-- The seconds that pass in a run. -/
def elapsed (steps : List Step) : NNRat := (steps.map Step.duration).sum

/-- A step takes the time that it waits. -/
theorem Step.perform_clock (s : Step) (w : World) :
    (s.perform w).clock = w.clock + s.duration := by
  cases s with
  | put token value seconds refusal =>
    obtain ⟨memory, table, events, hp⟩ :=
      put_perform token value seconds (w.refusing ⟨none, refusal⟩)
    have hafter := after_eq hp
    simp [Step.perform, Step.duration, hafter]
  | get token refusal =>
    obtain ⟨found, memory, events, hp⟩ := get_perform token (w.refusing ⟨refusal, none⟩)
    have hafter := after_eq hp
    simp [Step.perform, Step.duration, hafter]
  | wait seconds => rfl
  | drop partition => simp [Step.perform, Step.duration]

theorem run_clock (steps : List Step) (w : World) :
    (run w steps).clock = w.clock + elapsed steps := by
  induction steps generalizing w with
  | nil => simp [run, elapsed]
  | cons s rest ih =>
    have hrest := ih (s.perform w)
    rw [Step.perform_clock] at hrest
    simpa [run, elapsed, add_assoc] using hrest

/-! ## Runs in which a token is not put again -/

/-- The step puts a value under the token. -/
def Step.Puts (token : String) : Step → Prop
  | .put other _ _ _ => other = token
  | _ => False

/-- Without a table, memory holds the value. -/
structure Remembers (p : Put) (w : World) : Prop where
  table : w.cache.table = none
  isExact : w.cache.inDoubles = false
  memory : MemoryHolds p.token (some p) w

/-- There is a table, and it holds the value. -/
structure Stores (table : String) (p : Put) (w : World) : Prop where
  table : w.cache.table = some table
  isExact : w.cache.inDoubles = false
  items : TableHolds p.token (some p) w

/-- What memory remembers outlasts every step that puts nothing under its token. -/
theorem Remembers.perform {s : Step} (h : Remembers p w) (hs : ¬ s.Puts p.token) :
    Remembers p (s.perform w) := by
  cases s with
  | put other value seconds refusal =>
    have hp := put_inMemory (w := w.refusing ⟨none, refusal⟩) h.table other value
      (counts_of_exact h.isExact seconds)
    have hafter : (Step.put other value seconds refusal).perform w = _ := after_eq hp
    rw [hafter]
    exact ⟨h.table, h.isExact, h.memory.remembered_other hs value seconds⟩
  | get other refusal =>
    have hp := get_inMemory (w := w.refusing ⟨refusal, none⟩) h.table other
    have hafter : (Step.get other refusal).perform w = _ := after_eq hp
    rw [hafter]
    exact ⟨h.table, h.isExact, h.memory.asked other⟩
  | wait seconds => exact ⟨h.table, h.isExact, h.memory.wait seconds⟩
  | drop partition => exact ⟨h.table, h.isExact, h.memory⟩

/-- What a table stores outlasts every step that puts nothing under its token. -/
theorem Stores.perform {s : Step} (h : Stores table p w) (hs : ¬ s.Puts p.token) :
    Stores table p (s.perform w) := by
  cases s with
  | put other value seconds refusal =>
    cases refusal with
    | none =>
      obtain ⟨events, -, hp⟩ :=
        put_accepted (w := w.refusing ⟨none, none⟩) h.table rfl other value seconds
      have hafter : (Step.put other value seconds none).perform w = _ := after_eq hp
      rw [hafter]
      exact ⟨h.table, h.isExact, h.items.accepted_other hs _⟩
    | some reason =>
      obtain ⟨events, -, hp⟩ :=
        put_refused (w := w.refusing ⟨none, some reason⟩) h.table rfl other value
          (counts_of_exact h.isExact seconds)
      have hafter : (Step.put other value seconds (some reason)).perform w = _ := after_eq hp
      rw [hafter]
      exact ⟨h.table, h.isExact, h.items⟩
  | get other refusal =>
    obtain ⟨found, memory, events, hp⟩ := get_perform other (w.refusing ⟨refusal, none⟩)
    have hafter : (Step.get other refusal).perform w = _ := after_eq hp
    rw [hafter]
    exact ⟨h.table, h.isExact, h.items⟩
  | wait seconds => exact ⟨h.table, h.isExact, h.items.wait seconds⟩
  | drop partition => exact ⟨h.table, h.isExact, h.items.drop partition⟩

/-- What every step of a run preserves, the run preserves. -/
theorem run_preserves {holds : World → Prop} {steps : List Step}
    (hstep : ∀ s ∈ steps, ∀ w, holds w → holds (s.perform w)) (h : holds w) :
    holds (run w steps) := by
  induction steps generalizing w with
  | nil => exact h
  | cons s rest ih =>
    obtain ⟨hfirst, hrest⟩ := List.forall_mem_cons.mp hstep
    exact ih hrest (hfirst w h)

theorem Remembers.run {steps : List Step} (h : Remembers p w)
    (hsteps : ∀ s ∈ steps, ¬ s.Puts p.token) : Remembers p (run w steps) :=
  run_preserves (fun s hs _ h => h.perform (hsteps s hs)) h

theorem Stores.run {steps : List Step} (h : Stores table p w)
    (hsteps : ∀ s ∈ steps, ¬ s.Puts p.token) : Stores table p (run w steps) :=
  run_preserves (fun s hs _ h => h.perform (hsteps s hs)) h

/-! ## What is found -/

/-- What memory remembers is found as long as its seconds have not passed. -/
theorem Remembers.result_get (h : Remembers p w) : result (get p.token) w =
    .ok (if w.clock - p.since < p.seconds then some p.value else none) := by
  rw [result_eq (get_inMemory h.table p.token), h.memory.found]
  by_cases hlive : w.clock - p.since < p.seconds
  · have hkept : p.isInMemory w.clock = true := decide_eq_true (sub_lt_iff_lt_add'.mp hlive)
    rw [if_pos hlive, Option.filter_some_pos hkept, Option.map_some]
  · have hover : p.isInMemory w.clock = false :=
      decide_eq_false fun hkept => hlive (sub_lt_iff_lt_add'.mpr hkept)
    rw [if_neg hlive, Option.filter_some_neg hover, Option.map_none]

/-- What a table stores is found as long as its seconds, counted from whole instants, have not
passed. -/
theorem Stores.result_get (h : Stores table p w) (hanswers : w.table.failures.get = none) :
    result (get p.token) w =
      .ok (if truncate w.clock < truncate p.since + p.seconds then some p.value else none) := by
  obtain ⟨events, -, hp⟩ := get_answered h.table (h.items.tableAnswer hanswers)
  rw [result_eq hp]
  by_cases hlive : truncate w.clock < truncate p.since + p.seconds
  · have hkept : p.isInTable w.clock = true := decide_eq_true hlive
    rw [if_pos hlive, Option.filter_some_pos hkept, Option.map_some]
  · have hover : p.isInTable w.clock = false := decide_eq_false hlive
    rw [if_neg hlive, Option.filter_some_neg hover, Option.map_none]

/-- The world after a value is put, in memory or in a table, and some more steps. The clock tells
exact instants, and the table refuses neither to keep the value nor to answer afterwards. -/
def keptSince (mode : Option String) (token value : String) (seconds : Int)
    (between : List Step) (w : World) : World :=
  let start := w.exact.keptIn mode
  (run ((Step.put token value seconds none).perform start) between).refusing ⟨none, none⟩

section

variable {mode : Option String} {seconds : Int} {between : List Step} {s t : Instant}

theorem keptSince_clock : (keptSince mode token value seconds between w).clock =
    w.clock + elapsed between := by
  have hclock :=
    run_clock between ((Step.put token value seconds none).perform (w.exact.keptIn mode))
  rw [Step.perform_clock] at hclock
  simpa [keptSince, Step.duration] using hclock

/-- What is put in memory is remembered. -/
theorem remembers_keptSince (hbetween : ∀ s ∈ between, ¬ s.Puts token) :
    Remembers ⟨token, value, seconds, w.clock, false⟩
      (keptSince none token value seconds between w) := by
  have hp := put_inMemory (w := (w.exact.keptIn none).refusing ⟨none, none⟩) rfl token value
    (counts_of_exact rfl seconds)
  have hafter : (Step.put token value seconds none).perform (w.exact.keptIn none) = _ := after_eq hp
  have hkept : Remembers ⟨token, value, seconds, w.clock, false⟩
      ((Step.put token value seconds none).perform (w.exact.keptIn none)) := by
    rw [hafter]
    exact ⟨rfl, rfl, memoryHolds_remembered token value seconds false _⟩
  have hlater := hkept.run hbetween
  exact ⟨hlater.table, hlater.isExact, hlater.memory⟩

/-- What is put in a table is stored. -/
theorem stores_keptSince (hbetween : ∀ s ∈ between, ¬ s.Puts token) :
    Stores table ⟨token, value, seconds, w.clock, false⟩
      (keptSince (some table) token value seconds between w) := by
  obtain ⟨events, -, hp⟩ := put_accepted (w := (w.exact.keptIn (some table)).refusing ⟨none, none⟩)
    rfl rfl token value seconds
  have hafter : (Step.put token value seconds none).perform (w.exact.keptIn (some table)) = _ :=
    after_eq hp
  have hkept : Stores table ⟨token, value, seconds, w.clock, false⟩
      ((Step.put token value seconds none).perform (w.exact.keptIn (some table))) := by
    rw [hafter]
    exact ⟨rfl, rfl, tableHolds_accepted token value seconds false _⟩
  have hlater := hkept.run hbetween
  exact ⟨hlater.table, hlater.isExact, hlater.items⟩

/-- In memory a value is found as long as its seconds have not passed. -/
theorem result_get_inMemory (hbetween : ∀ s ∈ between, ¬ s.Puts token) (hput : w.clock = s)
    (hread : s + elapsed between = t) :
    result (get token) (keptSince none token value seconds between w) =
      .ok (if t - s < seconds then some value else none) := by
  have hkept : Remembers ⟨token, value, seconds, w.clock, false⟩
      (keptSince none token value seconds between w) := remembers_keptSince hbetween
  have hget := hkept.result_get
  rwa [keptSince_clock, hput, hread] at hget

/-- In a table a value is found as long as its seconds have not passed, counted in whole seconds. -/
theorem result_get_inTable (hbetween : ∀ s ∈ between, ¬ s.Puts token) (hput : w.clock = s)
    (hread : s + elapsed between = t) :
    result (get token) (keptSince (some table) token value seconds between w) =
      .ok (if truncate t < truncate s + seconds then some value else none) := by
  have hkept : Stores table ⟨token, value, seconds, w.clock, false⟩
      (keptSince (some table) token value seconds between w) := stores_keptSince hbetween
  have hget := hkept.result_get rfl
  rwa [keptSince_clock, hput, hread] at hget

/-- A value that is put at one instant and asked for at another, with no other value put under its
token in between, is found in memory exactly if its seconds have not passed. In a table it is found
only if memory would find it, and always if memory would find it for one more second; between whole
seconds both find the same. -/
theorem expiry_agrees (hs : 0 ≤ s) (hput : w.clock = s) (hread : s + elapsed between = t)
    (hbetween : ∀ s ∈ between, ¬ s.Puts token) : ∃ inMemory inTable,
      result (get token) (keptSince none token value seconds between w) = .ok inMemory ∧
      result (get token) (keptSince (some table) token value seconds between w) = .ok inTable ∧
      (inMemory = if t - s < seconds then some value else none) ∧
      (inTable = some value ∨ inTable = none) ∧
      (inTable = some value → inMemory = some value) ∧
      (inMemory = some value → t - s ≤ seconds - 1 → inTable = some value) ∧
      ((∃ a b : Int, s = a ∧ t = b) → inTable = inMemory) := by
  have ht : 0 ≤ t := hread ▸ add_nonneg hs (elapsed between).2
  refine ⟨_, _, result_get_inMemory hbetween hput hread, result_get_inTable hbetween hput hread,
    rfl, ?either, ?safe, ?close, ?whole⟩
  case either =>
    split_ifs
    · exact .inl rfl
    · exact .inr rfl
  case safe =>
    intro hfound
    have hlive : truncate t < truncate s + seconds := by
      by_contra hover
      simp [hover] at hfound
    exact if_pos (sub_lt_of_truncate_lt hs ht hlive)
  case close =>
    intro _ hsoon
    exact if_pos (truncate_lt_of_sub_le hs ht hsoon)
  case whole =>
    rintro ⟨a, b, rfl, rfl⟩
    simp only [truncate_lt_iff_of_integers]

/-- A value that is put shortly before a whole second for one second is over in a table at that
second, and in memory a second after it was put. -/
theorem expiry_agrees_fractional :
    let between := [.get "deb" none, .put "dmg" "other" 5 none, .wait (1 / 2)]
    let w := World.start (9 / 10)
    ∃ inMemory inTable,
      result (get "deb") (keptSince none "deb" "key" 1 between w) = .ok inMemory ∧
      result (get "deb") (keptSince (some "resolved") "deb" "key" 1 between w) = .ok inTable ∧
      inMemory = some "key" ∧ inTable = none ∧ (inTable = some "key" → inMemory = some "key") := by
  intro between w
  have hbetween : ∀ s ∈ between, ¬ s.Puts "deb" := by simp [between, Step.Puts]
  have hread : (9 / 10 : Rat) + elapsed between = 7 / 5 := by decide +kernel
  obtain ⟨inMemory, inTable, hmemory, htable, hkept, -, hsafe, -⟩ :=
    @expiry_agrees w "deb" "key" "resolved" 1 between (9 / 10) (7 / 5) (by norm_num) rfl hread
      hbetween
  have hover : result (get "deb") (keptSince (some "resolved") "deb" "key" 1 between w) =
      .ok none := by decide +kernel
  exact ⟨inMemory, inTable, hmemory, htable, hkept.trans (if_pos (by norm_num)),
    Except.ok.inj (htable.symm.trans hover), hsafe⟩

end

end Caching

end InstallerGateway
