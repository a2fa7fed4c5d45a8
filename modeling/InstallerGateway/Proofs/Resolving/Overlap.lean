import InstallerGateway.Proofs.Cache.Contents
import InstallerGateway.Proofs.Cache.Log
import InstallerGateway.Proofs.Resolving.Transparency
import Mathlib.Logic.Function.Basic

/-!
# Resolutions that overlap

A resolution asks for what is kept, then for the manifest, and then keeps what it was told. Other
resolutions of the same key may come between these steps, time may pass, and the table may refuse
requests and accept them again. Nothing is locked: several resolutions may look in vain, and each
of them then keeps what it was told. They agree all the same, since the manifest tells all of them
the same key, and no other one is ever kept. A resolution that cannot keep its answer fails, but it
does not answer anything else.
-/

namespace InstallerGateway.Resolving

open Act

variable {usual : Int} {d : KeyDescriptor} {w w₀ : World}

/-! ## The steps of a resolution -/

/-- How far a resolution has come. -/
inductive Progress where
  | started
  /-- Nothing was found that is kept. -/
  | missed
  /-- The manifest told a key, or none. -/
  | fetched (found : Option String)
  | ended (outcome : Except Fault String)

namespace Progress

/-- The progress after it was asked for what is kept. -/
def ofLookup : Except Fault (Option String) → Progress
  | .ok (some key) => .ended (.ok key)
  | .ok none => .missed
  | .error f => .ended (.error f)

/-- The progress after the manifest was asked for. -/
def ofFetch : Except Fault (Option String) → Progress
  | .ok found => .fetched found
  | .error f => .ended (.error f)

/-- The next step of a resolution. Nothing comes in between while a step is taken. -/
def step (usual : Int) (d : KeyDescriptor) (w : World) : Progress → Progress × World
  | .started =>
    if d.isLatest then
      (ofLookup (result (Caching.lookup d.extension) w), after (Caching.lookup d.extension) w)
    else (.ended (.ok d.key), w)
  | .missed => (ofFetch (result (fetch d) w), after (fetch d) w)
  | .fetched found => (.ended (result (settle usual d found) w), after (settle usual d found) w)
  | .ended outcome => (.ended outcome, w)

/-- The number of steps that a resolution has behind it. If it has ended, there are none left of the
three. -/
def taken : Progress → Nat
  | .started => 0
  | .missed => 1
  | .fetched _ => 2
  | .ended _ => 3

theorem one_le_taken_ofLookup (found : Except Fault (Option String)) :
    1 ≤ (ofLookup found).taken := by
  rcases found with _ | _ | _ <;> simp [ofLookup, taken]

theorem two_le_taken_ofFetch (found : Except Fault (Option String)) :
    2 ≤ (ofFetch found).taken := by
  rcases found with _ | _ <;> simp [ofFetch, taken]

/-- A resolution that has not ended is a step further after each step. -/
theorem taken_step (usual : Int) (d : KeyDescriptor) (w : World) (p : Progress) :
    min 3 (p.taken + 1) ≤ (p.step usual d w).1.taken := by
  cases p with
  | started =>
    simp only [step]
    split
    · exact one_le_taken_ofLookup _
    · exact Nat.min_le_left _ _
  | missed => exact two_le_taken_ofFetch _
  | fetched found => exact Nat.min_le_left _ _
  | ended outcome => exact Nat.min_le_left _ _

/-- If nothing comes in between, three steps come to what the resolution comes to. -/
theorem steps_eq_resolve (usual : Int) (d : KeyDescriptor) (w : World) :
    let next (s : Progress × World) := s.1.step usual d s.2
    next (next (next (.started, w))) =
      (.ended (result (resolve usual d) w), after (resolve usual d) w) := by
  intro next
  have hended (outcome : Except Fault String) (w : World) :
      next (.ended outcome, w) = (.ended outcome, w) := rfl
  cases hd : d.isLatest with
  | false =>
    have hfirst : next (.started, w) = (.ended (.ok d.key), w) := if_neg (by simp [hd])
    have hp : Act.perform (resolve usual d) w = _ := resolve_unmarked hd
    rw [hfirst, hended, hended, result_eq hp, after_eq hp]
  | true =>
    have hfirst : next (.started, w) = (ofLookup (result (Caching.lookup d.extension) w),
      after (Caching.lookup d.extension) w) := if_pos hd
    obtain ⟨found, _, _, hl⟩ := Caching.lookup_perform d.extension w
    have hr : result (Caching.lookup d.extension) w = .ok found := result_eq hl
    rw [hfirst, hr]
    cases found with
    | some key =>
      have hp : Act.perform (resolve usual d) w = _ := resolve_kept hd hr
      rw [result_eq hp, after_eq hp]
      rfl
    | none =>
      have hp : Act.perform (resolve usual d) w = _ := resolve_missed hd hr
      generalize after (Caching.lookup d.extension) w = w' at hp
      have hsecond : next (ofLookup (.ok none), w') = (ofFetch (result (fetch d) w'),
        after (fetch d) w') := rfl
      rw [hsecond]
      cases hf : result (fetch d) w' with
      | error f =>
        have hp' := hp.trans (perform_bind_of_error hf)
        rw [result_eq hp', after_eq hp']
        rfl
      | ok found =>
        have hp' := hp.trans (perform_bind_of_ok hf)
        rw [result_eq hp', after_eq hp']
        rfl

end Progress

/-! ## A resolver that keeps nothing -/

theorem alone_of_unmarked (hd : d.isLatest = false) : alone usual w d = .ok d.key :=
  result_eq (resolve_unmarked hd)

/-- Without anything kept, a key is what the manifest tells, or itself, if the clock tells exact
instants. -/
theorem alone_of_fetch (hd : d.isLatest = true) :
    alone usual w.exact d = (result (fetch d) w).map (·.getD d.key) := by
  have hsources : w.SameSources w.exact.emptied := ⟨rfl, rfl, rfl, rfl⟩
  have hlasts : ¬ Caching.overruns usual w.exact.emptied = true := by
    rw [Caching.overruns_of_exact rfl]
    exact Bool.false_ne_true
  unfold alone
  rw [resolve_result rfl, if_neg (by simp [hd]), fetch_result_congr hsources]
  show (result (fetch d) w).bind (answerOf usual d w.exact.emptied) = _
  rcases result (fetch d) w with f | _ | v
  · rfl
  · rfl
  · simp [Except.bind, Except.map, answerOf, hlasts]

/-! ## Any number of resolutions of a key -/

/-- Resolutions of one key, as many as there are numbers, and the world in which they are made. -/
structure Overlap where
  world : World
  calls : Nat → Progress

/-- What happens next: one of the resolutions takes a step, time passes, or the table changes what
it refuses. -/
inductive Move where
  | proceed (call : Nat)
  | wait (seconds : NNRat)
  | refuse (failures : TableFailures)

/-- The resolution with a number takes a step. -/
def Move.isOf (call : Nat) : Move → Bool
  | .proceed i => i == call
  | _ => false

namespace Overlap

/-- None of the resolutions has taken a step. -/
def start (w : World) : Overlap := ⟨w, fun _ => .started⟩

/-- What the moves of a run do: one resolution takes its next step, or the world changes. -/
def perform (usual : Int) (d : KeyDescriptor) (s : Overlap) : Move → Overlap
  | .proceed i =>
    let (p, w) := (s.calls i).step usual d s.world
    ⟨w, Function.update s.calls i p⟩
  | .wait seconds => { s with world := s.world.advance seconds }
  | .refuse failures => { s with world := s.world.refusing failures }

section Proceed

variable (usual : Int) (d : KeyDescriptor) (s : Overlap)

theorem calls_proceed_self (i : Nat) :
    (s.perform usual d (.proceed i)).calls i = ((s.calls i).step usual d s.world).1 :=
  Function.update_self _ _ _

theorem calls_proceed_of_ne {i j : Nat} (h : j ≠ i) :
    (s.perform usual d (.proceed i)).calls j = s.calls j := Function.update_of_ne h _ _

end Proceed

/-- What has come of the resolutions after some moves. -/
def run (usual : Int) (d : KeyDescriptor) (w : World) (moves : List Move) : Overlap :=
  moves.foldl (Overlap.perform usual d) (start w)

theorem run_snoc (usual : Int) (d : KeyDescriptor) (w : World) (moves : List Move) (m : Move) :
    run usual d w (moves ++ [m]) = (run usual d w moves).perform usual d m := by
  simp [run]

/-- A resolution that has taken three steps has ended. -/
theorem taken_run (usual : Int) (d : KeyDescriptor) (w : World) (moves : List Move) (i : Nat) :
    min 3 (moves.countP (·.isOf i)) ≤ ((run usual d w moves).calls i).taken := by
  induction moves using List.reverseRecOn with
  | nil => exact Nat.min_le_right _ _
  | append_singleton moves m ih =>
    rw [run_snoc, List.countP_append]
    cases m with
    | proceed j =>
      by_cases hj : j = i
      · subst hj
        have hstep := Progress.taken_step usual d (run usual d w moves).world
          ((run usual d w moves).calls j)
        have hone : [Move.proceed j].countP (·.isOf j) = 1 := by simp [Move.isOf]
        rw [calls_proceed_self, hone]
        omega
      · rw [calls_proceed_of_ne _ _ _ (Ne.symm hj)]
        simpa [List.countP_singleton, Move.isOf, hj] using ih
    | wait seconds => exact ih
    | refuse failures => exact ih

end Overlap

/-- What a resolution answers is what one answers that keeps nothing, unless it fails since it
cannot keep its answer. -/
def Accords (usual : Int) (d : KeyDescriptor) (w₀ : World) (outcome : Except Fault String) : Prop :=
  outcome = alone usual w₀.exact d ∨
    outcome = .error .endlessDuration ∧ w₀.cache.counts usual = false

/-- What a resolution has found so far is what one finds that keeps nothing. -/
def Progress.Agrees (usual : Int) (d : KeyDescriptor) (w₀ : World) : Progress → Prop
  | .started => True
  | .missed => d.isLatest = true
  | .fetched found => d.isLatest = true ∧ result (fetch d) w₀ = .ok found
  | .ended outcome => Accords usual d w₀ outcome

/-- What is shared by the resolutions is still what it was at the start, and of what is kept for the
extension all is the answer of a resolver that keeps nothing. -/
structure Unspoilt (usual : Int) (d : KeyDescriptor) (w₀ w : World) : Prop where
  sources : w₀.SameSources w
  inDoubles : w.cache.inDoubles = w₀.cache.inDoubles
  kept : Caching.KeepsOnly (alone usual w₀.exact d = .ok ·) d.extension w

/-- All resolutions agree so far, and so does what is kept. -/
structure Overlap.Agrees (usual : Int) (d : KeyDescriptor) (w₀ : World) (s : Overlap) : Prop where
  world : Unspoilt usual d w₀ s.world
  calls : ∀ i, (s.calls i).Agrees usual d w₀

/-- What is looked up is the answer of a resolution alone. -/
theorem Unspoilt.lookup (h : Unspoilt usual d w₀ w) : ∃ found,
    result (Caching.lookup d.extension) w = .ok found ∧
      (∀ key ∈ found, alone usual w₀.exact d = .ok key) ∧
      Unspoilt usual d w₀ (after (Caching.lookup d.extension) w) := by
  obtain ⟨found, hr, hfound, hkept⟩ := h.kept.lookup
  obtain ⟨_, _, _, hp⟩ := Caching.lookup_perform d.extension w
  refine ⟨found, hr, hfound, ?_, ?_, hkept⟩
  · exact h.sources.trans (Caching.lookup_sameMoment d.extension w).toSameSources
  · rw [after_eq hp]
    exact h.inDoubles

theorem Unspoilt.fetch (h : Unspoilt usual d w₀ w) :
    Unspoilt usual d w₀ (after (fetch d) w) := by
  obtain ⟨-, events, hafter, -⟩ := fetch_spec d w
  rw [hafter]
  exact ⟨h.sources.trans (w.sameMoment_noting events).toSameSources, h.inDoubles,
    h.kept.of_same rfl rfl⟩

/-- Others may have kept something meanwhile; it is the same answer that is kept over theirs. -/
theorem Unspoilt.settle {found : Option String} (h : Unspoilt usual d w₀ w)
    (hd : d.isLatest = true) (hf : result (Resolving.fetch d) w₀ = .ok found) :
    Accords usual d w₀ (result (Resolving.settle usual d found) w) ∧
      Unspoilt usual d w₀ (after (Resolving.settle usual d found) w) := by
  have halone : alone usual w₀.exact d = .ok (found.getD d.key) := by
    rw [alone_of_fetch hd, hf]
    rfl
  cases found with
  | none => exact ⟨.inl halone.symm, h⟩
  | some v =>
    obtain ⟨hr, hkept⟩ := h.kept.store halone usual
    have hstored :
        Unspoilt usual d w₀ (after (Caching.store (.int usual) d.extension v .null) w) := by
      obtain ⟨_, _, _, hp⟩ := Caching.store_perform usual d.extension v w
      refine ⟨?_, ?_, hkept⟩
      · exact h.sources.trans (Caching.store_sameMoment usual d.extension v w).toSameSources
      · rw [after_eq hp]
        exact h.inDoubles
    by_cases hover : Caching.overruns usual w = true
    · rw [if_pos hover] at hr
      have hp : Act.perform (Resolving.settle usual d (some v)) w = _ := perform_bind_of_error hr
      have hendless : w₀.cache.counts usual = false := by
        have hcounts := (Bool.and_eq_true_iff.mp hover).2
        unfold LatestCache.counts at hcounts ⊢
        rw [← h.inDoubles]
        simpa using hcounts
      rw [result_eq hp, after_eq hp]
      exact ⟨.inr ⟨rfl, hendless⟩, hstored⟩
    · rw [if_neg hover] at hr
      have hp : Act.perform (Resolving.settle usual d (some v)) w =
        (.ok v, after (Caching.store (.int usual) d.extension v .null) w) := perform_bind_of_ok hr
      rw [result_eq hp, after_eq hp]
      exact ⟨.inl halone.symm, hstored⟩

/-- A step of a resolution that agrees leads to one that does, and what is kept is not spoilt: the
sources are still those of the start, so the manifest tells what it told then. -/
theorem Progress.Agrees.step {p : Progress} (h : p.Agrees usual d w₀)
    (hw : Unspoilt usual d w₀ w) :
    let (p', w') := p.step usual d w
    p'.Agrees usual d w₀ ∧ Unspoilt usual d w₀ w' := by
  cases p with
  | started =>
    cases hd : d.isLatest with
    | false =>
      have hstep : Progress.started.step usual d w = (.ended (.ok d.key), w) :=
        if_neg (by simp [hd])
      rw [hstep]
      exact ⟨.inl (alone_of_unmarked hd).symm, hw⟩
    | true =>
      have hstep : Progress.started.step usual d w =
        (ofLookup (result (Caching.lookup d.extension) w),
          after (Caching.lookup d.extension) w) := if_pos hd
      obtain ⟨found, hr, hfound, hw'⟩ := hw.lookup
      rw [hstep, hr]
      cases found with
      | none => exact ⟨hd, hw'⟩
      | some key => exact ⟨.inl (hfound key rfl).symm, hw'⟩
  | missed =>
    have hd : d.isLatest = true := h
    refine ⟨?_, hw.fetch⟩
    rw [fetch_result_congr hw.sources d]
    cases hf : result (fetch d) w₀ with
    | error f =>
      refine .inl ?_
      rw [alone_of_fetch hd, hf]
      rfl
    | ok found => exact ⟨hd, hf⟩
  | fetched found =>
    obtain ⟨hd, hf⟩ := h
    exact hw.settle hd hf
  | ended outcome => exact ⟨h, hw⟩

/-- Resolutions that agree do so after each move. -/
theorem Overlap.Agrees.perform {s : Overlap} (h : s.Agrees usual d w₀) (m : Move) :
    (s.perform usual d m).Agrees usual d w₀ := by
  cases m with
  | proceed i =>
    obtain ⟨hstep, hworld⟩ := (h.calls i).step h.world
    refine ⟨hworld, fun j => ?_⟩
    by_cases hj : j = i
    · subst hj
      rw [calls_proceed_self]
      exact hstep
    · rw [calls_proceed_of_ne _ _ _ hj]
      exact h.calls j
  | wait seconds =>
    exact ⟨⟨h.world.sources.trans ⟨rfl, rfl, rfl, rfl⟩, h.world.inDoubles,
      h.world.kept.of_same rfl rfl⟩, h.calls⟩
  | refuse failures =>
    exact ⟨⟨h.world.sources.trans ⟨rfl, rfl, rfl, rfl⟩, h.world.inDoubles,
      h.world.kept.of_same rfl rfl⟩, h.calls⟩

theorem Overlap.agrees_run (hstart : Caching.KeepsOnly (fun _ => False) d.extension w₀)
    (usual : Int) (moves : List Move) : (run usual d w₀ moves).Agrees usual d w₀ := by
  induction moves using List.reverseRecOn with
  | nil =>
    exact ⟨⟨⟨rfl, rfl, rfl, rfl⟩, rfl, hstart.mono fun _ h => h.elim⟩, fun _ => trivial⟩
  | append_singleton moves m ih =>
    rw [run_snoc]
    exact ih.perform m

/-- Any number of resolutions of one key, at first with nothing kept for its extension, whatever
comes between their steps: each that has ended is answered as a resolver that keeps nothing answers,
or it has failed since the usual time is beyond what the clock can tell; and each that has taken
three steps has ended. At every moment, whatever is kept for the extension is that answer. The three
steps of a resolution that is not disturbed come to what the resolution comes to. -/
theorem overlapping_agree (usual : Int) (d : KeyDescriptor) (w₀ : World) (moves : List Move)
    (hstart : Caching.KeepsOnly (fun _ => False) d.extension w₀) :
    let s := Overlap.run usual d w₀ moves
    (∀ i outcome, s.calls i = .ended outcome → outcome = alone usual w₀.exact d ∨
      outcome = .error .endlessDuration ∧ w₀.cache.counts usual = false) ∧
      (∀ i, 3 ≤ moves.countP (·.isOf i) → ∃ outcome, s.calls i = .ended outcome) ∧
      Caching.KeepsOnly (alone usual w₀.exact d = .ok ·) d.extension s.world ∧
      ∀ w, let next (s : Progress × World) := s.1.step usual d s.2
        next (next (next (.started, w))) =
          (.ended (result (resolve usual d) w), after (resolve usual d) w) := by
  intro s
  have hagrees := Overlap.agrees_run hstart usual moves
  refine ⟨fun i outcome h => ?_, fun i hi => ?_, hagrees.world.kept,
    Progress.steps_eq_resolve usual d⟩
  · have hcall := hagrees.calls i
    rwa [show (Overlap.run usual d w₀ moves).calls i = _ from h] at hcall
  · have htaken := Overlap.taken_run usual d w₀ moves i
    rw [Nat.min_eq_left hi] at htaken
    change 3 ≤ (s.calls i).taken at htaken
    cases hcall : s.calls i with
    | started => simp [hcall, Progress.taken] at htaken
    | missed => simp [hcall, Progress.taken] at htaken
    | fetched found => simp [hcall, Progress.taken] at htaken
    | ended outcome => exact ⟨outcome, rfl⟩

/-- Two resolutions look in vain and ask for the manifest one after the other; the first one keeps
its answer only when that of the second one is over. A third one looks after that. -/
theorem overlapping_agree_on_late_store :
    let d := KeyDescriptor.parse "desktop/app-latest_x64.deb"
    let w := linuxWorld "version: 1.2.3\npath: app-1.2.3.deb\n"
    let moves := [.proceed 0, .proceed 1, .proceed 1, .proceed 0, .proceed 1, .wait 301,
      .proceed 0, .proceed 2]
    let s := Overlap.run 300 d w moves
    Caching.KeepsOnly (fun _ => False) d.extension w ∧
      (∃ i, 3 ≤ moves.countP (·.isOf i)) ∧
      (∀ i outcome, s.calls i = .ended outcome → outcome = .ok "desktop/app-1.2.3.deb") ∧
      (∀ i, 3 ≤ moves.countP (·.isOf i) → s.calls i = .ended (.ok "desktop/app-1.2.3.deb")) ∧
      Caching.KeepsOnly (· = "desktop/app-1.2.3.deb") d.extension s.world := by
  intro d w moves s
  have hstart : Caching.KeepsOnly (fun _ => False) d.extension w := ⟨nofun, nofun⟩
  have halone : alone 300 w.exact d = .ok "desktop/app-1.2.3.deb" := by decide +kernel
  obtain ⟨hended, hthree, hkept, -⟩ := overlapping_agree 300 d w moves hstart
  have hanswer (i : Nat) (outcome : Except Fault String) (h : s.calls i = .ended outcome) :
      outcome = .ok "desktop/app-1.2.3.deb" := by
    rcases hended i outcome h with rfl | ⟨-, hendless⟩
    · exact halone
    · cases hendless
  refine ⟨hstart, ⟨0, by decide⟩, hanswer, fun i hi => ?_, hkept.mono fun key h => ?_⟩
  · obtain ⟨outcome, h⟩ := hthree i hi
    rw [← hanswer i outcome h]
    exact h
  · exact (Except.ok.inj (halone.symm.trans h)).symm

end InstallerGateway.Resolving
