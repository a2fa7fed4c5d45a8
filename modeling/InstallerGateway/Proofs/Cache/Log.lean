import InstallerGateway.Proofs.World.Keeping
import InstallerGateway.World.Basic
import Mathlib.Data.List.Induction
import Mathlib.Data.NNRat.Defs

/-!
# What was put over a table

In a run over a table, each request may be refused. The log of a run tells what was put, when, and
whether the table refused it, and nothing else.
-/

namespace InstallerGateway

namespace World

/-- The world with a table for resolved keys, a clock that tells exact instants, and nothing kept
yet. -/
def overTable (name : String) (w : World) : World :=
  { w with cache := ⟨[], some name, false⟩, table := .empty }

/-- The world in which the table refuses some requests. -/
@[simps]
def refusing (failures : TableFailures) (w : World) : World :=
  { w with table := { w.table with failures := failures } }

end World

namespace Caching

open Act

/-! ## Runs -/

/-- A step of a run: a request that the table refuses or not, time that passes, or the table that
drops an item whose time is over. -/
inductive Step where
  | put (token value : String) (seconds : Int) (refusal : Option String)
  | get (token : String) (refusal : Option String)
  | wait (seconds : NNRat)
  | drop (partition : String)

/-- The world after a step: the table answers or refuses as the step says, and no other request. -/
def Step.perform : Step → World → World
  | .put token value seconds refusal, w =>
    after (Caching.put token value (.int seconds)) (w.refusing ⟨none, refusal⟩)
  | .get token refusal, w => after (Caching.get token) (w.refusing ⟨refusal, none⟩)
  | .wait seconds, w => w.advance seconds
  | .drop partition, w => { w with table := w.table.drop w.clock partition }

/-- The world after the steps of a run. -/
def run (w : World) (steps : List Step) : World := steps.foldl (fun w s => s.perform w) w

theorem run_snoc (w : World) (steps : List Step) (s : Step) :
    run w (steps ++ [s]) = s.perform (run w steps) := by
  simp [run]

/-! ## What was put -/

/-- A value that was put. -/
structure Put where
  token : String
  value : String
  seconds : Int
  /-- When it was put. -/
  since : Instant
  /-- The table refused it. -/
  isRefused : Bool

namespace Put

/-- Memory still has the value: the time since it was put is not over. -/
def isInMemory (now : Instant) (p : Put) : Bool := now < p.since + p.seconds

/-- The table still has the value: the time since it was put, in whole seconds, is not over. -/
def isInTable (now : Instant) (p : Put) : Bool := truncate now < truncate p.since + p.seconds

/-- What memory holds if the table refused the value. -/
def kept (p : Put) : Kept := ⟨p.value, p.since + p.seconds⟩

/-- The item of the table if it accepted the value. -/
def item (p : Put) : Datum := TableItem.holding p.token p.value (truncate p.since + p.seconds)

theorem value?_item (now : Instant) (p : Put) :
    TableItem.value? now p.item = .ok (((some p).filter (·.isInTable now)).map (·.value)) := by
  unfold item
  rw [TableItem.value?_holding]
  by_cases hlive : truncate now < truncate p.since + p.seconds
  · rw [if_pos hlive, Option.filter_some_pos (by simpa [isInTable] using hlive), Option.map_some]
  · rw [if_neg hlive, Option.filter_some_neg (by simpa [isInTable] using hlive), Option.map_none]

end Put

/-- The present instant and what was put so far, the last value first. -/
structure Log where
  now : Instant
  puts : List Put

namespace Log

/-- The last value of a token that the table accepted, or refused. -/
def last? (token : String) (isRefused : Bool) (l : Log) : Option Put :=
  l.puts.find? fun p => p.token = token ∧ p.isRefused = isRefused

theorem last?_cons_self (now : Instant) (p : Put) (puts : List Put) :
    (Log.mk now (p :: puts)).last? p.token p.isRefused = some p := by
  simp [last?]

/-- A value under another token, or treated the other way, is passed over. -/
theorem last?_cons_of_ne {now : Instant} {token : String} {isRefused : Bool} {p : Put}
    {puts : List Put} (h : p.token = token → p.isRefused ≠ isRefused) :
    (Log.mk now (p :: puts)).last? token isRefused = (Log.mk now puts).last? token isRefused :=
  List.find?_cons_of_neg (by simpa using h)

/-- The log after a step: putting a value adds it, and only waiting moves the clock. -/
def perform : Step → Log → Log
  | .put token value seconds refusal, l =>
    { l with puts := ⟨token, value, seconds, l.now, refusal.isSome⟩ :: l.puts }
  | .wait seconds, l => { l with now := l.now + seconds }
  | _, l => l

/-- What is found under a token: the last value that the table accepted if it answers, and the last
one that it refused if it does not, each as long as its time is not over. -/
def found? (token : String) (refusal : Option String) (l : Log) : Option String :=
  match refusal with
  | none => ((l.last? token false).filter (·.isInTable l.now)).map (·.value)
  | some _ => ((l.last? token true).filter (·.isInMemory l.now)).map (·.value)

end Log

/-- The log of the steps of a run. -/
def log (now : Instant) (steps : List Step) : Log :=
  steps.foldl (fun l s => l.perform s) ⟨now, []⟩

theorem log_snoc (now : Instant) (steps : List Step) (s : Step) :
    log now (steps ++ [s]) = (log now steps).perform s := by
  simp [log]

/-! ## Other tokens -/

/-- The step is about a token, or time passes. -/
def Step.concerns (token : String) : Step → Bool
  | .put other _ _ _ => other = token
  | .get other _ => other = token
  | .wait _ => true
  | .drop partition => partition = TableItem.partition token

/-- Two logs tell the same about a token. -/
def Log.SameFor (token : String) (l l' : Log) : Prop :=
  l.now = l'.now ∧ ∀ isRefused, l.last? token isRefused = l'.last? token isRefused

/-- Logs that are the same for a token stay so under the same step. -/
theorem Log.SameFor.perform {token : String} {l l' : Log} (h : l.SameFor token l') (s : Step) :
    (l.perform s).SameFor token (l'.perform s) := by
  obtain ⟨hnow, hlast⟩ := h
  cases s with
  | put other value seconds refusal =>
    refine ⟨hnow, fun isRefused => ?_⟩
    show (Log.mk l.now (_ :: l.puts)).last? token isRefused =
      (Log.mk l'.now (_ :: l'.puts)).last? token isRefused
    rw [hnow]
    by_cases hp : other = token ∧ refusal.isSome = isRefused
    · obtain ⟨rfl, rfl⟩ := hp
      exact (last?_cons_self _ ⟨other, _, _, _, _⟩ _).trans (last?_cons_self _ _ _).symm
    · have hne : other = token → refusal.isSome ≠ isRefused := fun h h' => hp ⟨h, h'⟩
      rw [last?_cons_of_ne hne, last?_cons_of_ne hne]
      exact hlast isRefused
  | get other refusal => exact ⟨hnow, hlast⟩
  | wait seconds => exact ⟨congrArg (· + (seconds : Rat)) hnow, hlast⟩
  | drop partition => exact ⟨hnow, hlast⟩

/-- A step that does not concern a token leaves the log the same for it. -/
theorem Log.sameFor_perform {token : String} {s : Step} (hs : s.concerns token = false)
    (l : Log) : l.SameFor token (l.perform s) := by
  cases s with
  | put other value seconds refusal =>
    have hne : other ≠ token := by simpa [Step.concerns] using hs
    exact ⟨rfl, fun isRefused => (last?_cons_of_ne fun h => absurd h hne).symm⟩
  | get other refusal => exact ⟨rfl, fun _ => rfl⟩
  | wait seconds => cases hs
  | drop partition => exact ⟨rfl, fun _ => rfl⟩

/-- For a token, the log of the steps that concern it is the log of all. -/
theorem log_filter (now : Instant) (token : String) (steps : List Step) :
    (log now (steps.filter (·.concerns token))).SameFor token (log now steps) := by
  induction steps using List.reverseRecOn with
  | nil => exact ⟨rfl, fun _ => rfl⟩
  | append_singleton steps s ih =>
    rw [List.filter_append, log_snoc]
    cases hs : s.concerns token with
    | true =>
      rw [List.filter_singleton, hs]
      show (log now (_ ++ [s])).SameFor token _
      rw [log_snoc]
      exact ih.perform s
    | false =>
      rw [List.filter_singleton, hs]
      show (log now (_ ++ [])).SameFor token _
      have hsame := Log.sameFor_perform hs (log now steps)
      rw [List.append_nil]
      exact ⟨ih.1.trans hsame.1, fun isRefused => (ih.2 isRefused).trans (hsame.2 isRefused)⟩

theorem Log.SameFor.found? {token : String} {l l' : Log} (h : l.SameFor token l')
    (refusal : Option String) : l.found? token refusal = l'.found? token refusal := by
  obtain ⟨hnow, hlast⟩ := h
  unfold Log.found?
  rw [hnow, hlast, hlast]

end Caching

end InstallerGateway
