import InstallerGateway.Pattern.Match
import Mathlib.Tactic.SplitIfs

/-!
# What patterns mean

A pattern leads from one place in a text to another, without regard to the order in which its
alternatives are tried and to what has to match after it. Whatever the matcher finds, the pattern
leads to.
-/

namespace InstallerGateway.Pattern

variable {p q : Pattern} {s t u : Spot} {cs : List Char} {k : Continuation}

/-! ## Places -/

/-- The text `cs` lies between one place and a later one. -/
def Spot.Passes (s : Spot) (cs : List Char) (t : Spot) : Prop :=
  s.after = cs ++ t.after ∧ t.before = cs.reverse ++ s.before

theorem Spot.Passes.trans {cs' : List Char} (h : s.Passes cs t) (h' : t.Passes cs' u) :
    s.Passes (cs ++ cs') u := by
  obtain ⟨ha, hb⟩ := h
  obtain ⟨ha', hb'⟩ := h'
  constructor
  · rw [ha, ha', List.append_assoc]
  · rw [hb', hb, List.reverse_append, List.append_assoc]

theorem Spot.passes_of_forward? {c : Char} (h : s.forward? = some (c, t)) : s.Passes [c] t := by
  unfold Spot.forward? at h
  split at h
  · cases h
  · rename_i rest ha
    cases h
    exact ⟨ha, rfl⟩

/-! ## The meaning -/

/-- `n` steps of a relation. -/
def Repeats (step : Spot → Spot → Prop) : Nat → Spot → Spot → Prop
  | 0, s, t => t = s
  | n + 1, s, t => ∃ u, step s u ∧ Repeats step n u t

/-- The first place that a condition on what lies before or after is tried at leads to. -/
def glimpse (width : Option Nat) (p : Pattern) (s : Spot) : Option Spot :=
  match width with
  | none => run p some s
  | some n => (s.back? n).bind (run p some)

/-- The pattern leads from one place to another. -/
def Leads : Pattern → Spot → Spot → Prop
  | .empty, s, t => t = s
  | .char set, s, t => ∃ c, s.forward? = some (c, t) ∧ set.holds c = true
  | .seq a b, s, t => ∃ u, Leads a s u ∧ Leads b u t
  | .either a b, s, t => Leads a s t ∨ Leads b s t
  | .many p least most _, s, t =>
    ∃ n, least ≤ n ∧ (∀ m, most = some m → n ≤ m) ∧ Repeats (Leads p) n s t
  | .anchor a, s, t => s.satisfies a = true ∧ t = s
  | .group number p, s, t => ∃ u, Leads p s u ∧ t = Spot.remember number s u
  | .backreference number ignoreCase, s, t =>
    ∃ text, s.group? number = some text ∧
      sameText ignoreCase text (s.after.take text.length) = true ∧ t = s.forwardBy text.length
  | .look width wanted p, s, t =>
    (wanted = true ∧ ∃ u, glimpse width p s = some u ∧ t = { s with groups := u.groups }) ∨
      (wanted = false ∧ glimpse width p s = none ∧ t = s)
  | .once p, s, t => run p some s = some t
  | .ifGroup number a b, s, t =>
    ((s.group? number).isSome = true ∧ Leads a s t) ∨
      ((s.group? number).isSome = false ∧ Leads b s t)

/-! ## Matching -/

/-- Repeating a step that passes characters passes characters. -/
theorem Repeats.passes {step : Spot → Spot → Prop} (hstep : ∀ s t, step s t → ∃ cs, s.Passes cs t)
    {n : Nat} (h : Repeats step n s t) : ∃ cs, s.Passes cs t := by
  induction n generalizing s with
  | zero =>
    cases h
    exact ⟨[], rfl, rfl⟩
  | succ n ih =>
    obtain ⟨u, hs, hn⟩ := h
    obtain ⟨cs, hcs⟩ := hstep s u hs
    obtain ⟨cs', hcs'⟩ := ih hn
    exact ⟨cs ++ cs', hcs.trans hcs'⟩

section

variable {once : Continuation → Continuation} {lazy : Bool} {fuel least : Nat} {most : Option Nat}

/-- One more match, if there may be one, and then the rest of the repetition. A match that takes
nothing up is the last one, unless more are needed. -/
def iterateAgain (once : Continuation → Continuation) (lazy : Bool) (fuel least : Nat)
    (most : Option Nat) (k : Continuation) (s : Spot) : Option Spot :=
  if most = some 0 then none
  else once (fun t =>
    if least = 0 && t.before.length = s.before.length then k t
    else iterate once lazy fuel (least - 1) (most.map (· - 1)) k t) s

/-- A repetition goes on as long as it needs to, and then goes on or stops, in the order that is
preferred. -/
theorem iterate_succ : iterate once lazy (fuel + 1) least most k s =
    if 0 < least then iterateAgain once lazy fuel least most k s
    else if lazy then (k s).or (iterateAgain once lazy fuel least most k s)
    else (iterateAgain once lazy fuel least most k s).or (k s) := by
  rw [iterate, Option.orElse_eq_or, Option.orElse_eq_or]
  rfl

theorem iterate_succ_eq_some (h : iterate once lazy (fuel + 1) least most k s = some u) :
    iterateAgain once lazy fuel least most k s = some u ∨ least = 0 ∧ k s = some u := by
  rw [iterate_succ] at h
  split_ifs at h with hneeded
  · exact .inl h
  · have hzero : least = 0 := Nat.eq_zero_of_not_pos hneeded
    rcases Option.or_eq_some_iff.mp h with hk | ⟨-, hagain⟩
    · exact .inr ⟨hzero, hk⟩
    · exact .inl hagain
  · have hzero : least = 0 := Nat.eq_zero_of_not_pos hneeded
    rcases Option.or_eq_some_iff.mp h with hagain | ⟨-, hk⟩
    · exact .inl hagain
    · exact .inr ⟨hzero, hk⟩

/-- A repetition that finds something has found as many matches as it needs. The bound on their
number is never reached, as all but the needed ones take up a part of the text. -/
theorem iterate_sound {step : Spot → Spot → Prop}
    (honce : ∀ k s u, once k s = some u → ∃ t, step s t ∧ k t = some u)
    (hstep : ∀ s t, step s t → ∃ cs, s.Passes cs t) (hfuel : least + s.after.length < fuel)
    (h : iterate once lazy fuel least most k s = some u) :
    ∃ n t, least ≤ n ∧ (∀ m, most = some m → n ≤ m) ∧ Repeats step n s t ∧ k t = some u := by
  induction fuel generalizing least most s with
  | zero => exact absurd hfuel (Nat.not_lt_zero _)
  | succ fuel ih =>
    rcases iterate_succ_eq_some h with hagain | ⟨hzero, hk⟩
    · unfold iterateAgain at hagain
      split_ifs at hagain with hmost
      have hpos (m : Nat) (hm : most = some m) : 1 ≤ m :=
        Nat.one_le_iff_ne_zero.mpr fun hz => hmost (hz ▸ hm)
      obtain ⟨t, hst, hk⟩ := honce _ _ _ hagain
      split_ifs at hk with hlast
      · simp only [Bool.and_eq_true, decide_eq_true_eq] at hlast
        exact ⟨1, t, by omega, hpos, ⟨t, hst, rfl⟩, hk⟩
      · have hmore : least - 1 + t.after.length < fuel := by
          obtain ⟨cs, hafter, hbefore⟩ := hstep s t hst
          have hlen := congrArg List.length hafter
          have hlen' := congrArg List.length hbefore
          simp only [List.length_append, List.length_reverse] at hlen hlen'
          simp only [Bool.and_eq_true, decide_eq_true_eq, not_and] at hlast
          by_cases hneeded : least = 0
          · have := hlast hneeded
            omega
          · omega
        obtain ⟨n, v, hn, hm, hrep, hv⟩ := ih hmore hk
        refine ⟨n + 1, v, by omega, ?_, ⟨t, hst, hrep⟩, hv⟩
        rintro m rfl
        have hlater := hm (m - 1) rfl
        have hfirst := hpos m rfl
        omega
    · exact ⟨0, s, Nat.le_of_eq hzero, fun _ _ => Nat.zero_le _, rfl, hk⟩

end

/-- Looking ahead takes nothing up. -/
theorem run_look (width : Option Nat) (wanted : Bool) (p : Pattern) (k : Continuation)
    (s : Spot) : run (.look width wanted p) k s =
      match glimpse width p s with
      | some t => if wanted then k { s with groups := t.groups } else none
      | none => if wanted then none else k s := by
  unfold run glimpse
  cases width <;> rfl

/-- Whatever the matcher finds, the pattern leads to, and what has to match after it does so from
there; and a pattern leads only onwards in the text. -/
theorem run_sound_and_passes (p : Pattern) :
    (∀ k s u, run p k s = some u → ∃ t, Leads p s t ∧ k t = some u) ∧
      ∀ s t, Leads p s t → ∃ cs, s.Passes cs t := by
  induction p with
  | empty => exact ⟨fun k s u h => ⟨s, rfl, h⟩, fun s t h => ⟨[], by cases h; exact ⟨rfl, rfl⟩⟩⟩
  | char set =>
    constructor
    · intro k s u h
      unfold run at h
      split at h
      · rename_i c t hf
        split at h
        · rename_i hc
          exact ⟨t, ⟨c, hf, hc⟩, h⟩
        · cases h
      · cases h
    · rintro s t ⟨c, hf, -⟩
      exact ⟨[c], Spot.passes_of_forward? hf⟩
  | seq a b iha ihb =>
    constructor
    · intro k s u h
      obtain ⟨t, ha, hb⟩ := iha.1 (run b k) s u h
      obtain ⟨v, hb', hk⟩ := ihb.1 k t u hb
      exact ⟨v, ⟨t, ha, hb'⟩, hk⟩
    · rintro s t ⟨u, ha, hb⟩
      obtain ⟨cs, hcs⟩ := iha.2 s u ha
      obtain ⟨cs', hcs'⟩ := ihb.2 u t hb
      exact ⟨cs ++ cs', hcs.trans hcs'⟩
  | either a b iha ihb =>
    constructor
    · intro k s u h
      unfold run at h
      cases ha : run a k s with
      | some v =>
        rw [ha] at h
        obtain ⟨t, hl, hk⟩ := iha.1 k s u (ha.trans h)
        exact ⟨t, .inl hl, hk⟩
      | none =>
        rw [ha] at h
        obtain ⟨t, hl, hk⟩ := ihb.1 k s u h
        exact ⟨t, .inr hl, hk⟩
    · rintro s t (h | h)
      · exact iha.2 s t h
      · exact ihb.2 s t h
  | many p least most lazy ih =>
    constructor
    · intro k s u h
      unfold run at h
      obtain ⟨n, t, hn, hm, hrep, hk⟩ :=
        iterate_sound ih.1 ih.2 (Nat.lt_succ_self _) h
      exact ⟨t, ⟨n, hn, hm, hrep⟩, hk⟩
    · rintro s t ⟨n, -, -, hrep⟩
      exact hrep.passes ih.2
  | anchor a =>
    constructor
    · intro k s u h
      unfold run at h
      split at h
      · rename_i ha
        exact ⟨s, ⟨ha, rfl⟩, h⟩
      · cases h
    · rintro s t ⟨-, rfl⟩
      exact ⟨[], rfl, rfl⟩
  | group number p ih =>
    constructor
    · intro k s u h
      obtain ⟨t, hl, hk⟩ := ih.1 _ s u h
      exact ⟨_, ⟨t, hl, rfl⟩, hk⟩
    · rintro s t ⟨u, hl, rfl⟩
      exact ih.2 s u hl
  | backreference number ignoreCase =>
    constructor
    · intro k s u h
      unfold run at h
      split at h
      · rename_i text hg
        split at h
        · rename_i hsame
          exact ⟨_, ⟨text, hg, hsame, rfl⟩, h⟩
        · cases h
      · cases h
    · rintro s t ⟨text, -, -, rfl⟩
      exact ⟨s.after.take text.length, (List.take_append_drop _ _).symm, rfl⟩
  | look width wanted p ih =>
    constructor
    · intro k s u h
      rw [run_look] at h
      cases hg : glimpse width p s with
      | some t =>
        rw [hg] at h
        cases wanted with
        | true => exact ⟨_, .inl ⟨rfl, t, hg, rfl⟩, h⟩
        | false => cases h
      | none =>
        rw [hg] at h
        cases wanted with
        | true => cases h
        | false => exact ⟨s, .inr ⟨rfl, hg, rfl⟩, h⟩
    · rintro s t (⟨-, u, -, rfl⟩ | ⟨-, -, rfl⟩)
      · exact ⟨[], rfl, rfl⟩
      · exact ⟨[], rfl, rfl⟩
  | once p ih =>
    constructor
    · intro k s u h
      exact Option.bind_eq_some_iff.mp h
    · intro s t h
      obtain ⟨v, hl, hv⟩ := ih.1 some s t h
      cases hv
      exact ih.2 s _ hl
  | ifGroup number a b iha ihb =>
    constructor
    · intro k s u h
      unfold run at h
      split at h
      · rename_i hg
        obtain ⟨t, hl, hk⟩ := iha.1 k s u h
        exact ⟨t, .inl ⟨hg, hl⟩, hk⟩
      · rename_i hg
        obtain ⟨t, hl, hk⟩ := ihb.1 k s u h
        exact ⟨t, .inr ⟨by simpa using hg, hl⟩, hk⟩
    · rintro s t (⟨-, h⟩ | ⟨-, h⟩)
      · exact iha.2 s t h
      · exact ihb.2 s t h

/-- A pattern that is found in a text leads on from some place there. -/
theorem leads_of_foundIn {text : String} (h : p.foundIn text = true) :
    ∃ before after t, text.toList = before ++ after ∧ Leads p ⟨before.reverse, after, []⟩ t := by
  have hfrom (cs before : List Char) (h : foundFrom p before cs = true) :
      ∃ skipped after t, cs = skipped ++ after ∧
        Leads p ⟨skipped.reverse ++ before, after, []⟩ t := by
    induction cs generalizing before with
    | nil =>
      unfold foundFrom at h
      obtain ⟨u, hu⟩ := Option.isSome_iff_exists.mp h
      obtain ⟨t, ht, -⟩ := (run_sound_and_passes p).1 some _ u hu
      exact ⟨[], [], t, rfl, ht⟩
    | cons c rest ih =>
      unfold foundFrom at h
      rcases Bool.or_eq_true_iff.mp h with h | h
      · obtain ⟨u, hu⟩ := Option.isSome_iff_exists.mp h
        obtain ⟨t, ht, -⟩ := (run_sound_and_passes p).1 some _ u hu
        exact ⟨[], c :: rest, t, rfl, ht⟩
      · obtain ⟨skipped, after, t, hrest, ht⟩ := ih (c :: before) h
        refine ⟨c :: skipped, after, t, congrArg (c :: ·) hrest, ?_⟩
        simpa using ht
  obtain ⟨before, after, t, htext, ht⟩ := hfrom text.toList [] h
  exact ⟨before, after, t, htext, by simpa using ht⟩

end InstallerGateway.Pattern
