import InstallerGateway.Proofs.Pattern.Meaning

/-!
# What patterns find

A pattern that takes up a part of the text each time it is repeated finds something wherever it
leads to something. So it is found in a text exactly if it leads on from some place there.
-/

namespace InstallerGateway.Pattern

variable {p : Pattern} {s t : Spot} {k : Continuation}

/-! ## Progress -/

/-- The pattern takes up at least one character wherever it matches. -/
def takesUp : Pattern → Bool
  | .char _ => true
  | .seq a b => a.takesUp || b.takesUp
  | .either a b => a.takesUp && b.takesUp
  | .many p least _ _ => p.takesUp && 0 < least
  | .group _ p | .once p => p.takesUp
  | .ifGroup _ a b => a.takesUp && b.takesUp
  | .empty | .anchor _ | .backreference .. | .look .. => false

/-- Whatever the pattern repeats takes up a part of the text each time. -/
def isSteady : Pattern → Bool
  | .seq a b | .either a b | .ifGroup _ a b => a.isSteady && b.isSteady
  | .many p _ _ _ => p.isSteady && p.takesUp
  | .group _ p => p.isSteady
  | .empty | .char _ | .anchor _ | .backreference .. | .look .. | .once _ => true

theorem Leads.length_le (h : Leads p s t) : t.after.length ≤ s.after.length := by
  obtain ⟨cs, hafter, -⟩ := (run_sound_and_passes p).2 s t h
  rw [hafter, List.length_append]
  exact Nat.le_add_left _ _

/-- Repeating a step that takes something up takes something up. -/
theorem Repeats.length_lt {step : Spot → Spot → Prop}
    (hstep : ∀ s t, step s t → t.after.length < s.after.length) {n : Nat} (hn : 0 < n)
    (h : Repeats step n s t) : t.after.length < s.after.length := by
  induction n generalizing s with
  | zero => exact absurd hn (Nat.lt_irrefl 0)
  | succ n ih =>
    obtain ⟨u, hs, hrest⟩ := h
    have hlt := hstep s u hs
    cases n with
    | zero =>
      cases hrest
      exact hlt
    | succ n => exact Nat.lt_trans (ih (Nat.succ_pos n) hrest) hlt

/-- A pattern that takes something up leaves less of the text. -/
theorem Leads.length_lt (hp : p.takesUp = true) (h : Leads p s t) :
    t.after.length < s.after.length := by
  induction p generalizing s t with
  | char set =>
    obtain ⟨c, hf, -⟩ := h
    obtain ⟨hafter, -⟩ := Spot.passes_of_forward? hf
    rw [hafter]
    exact Nat.lt_succ_self _
  | seq a b iha ihb =>
    obtain ⟨u, ha, hb⟩ := h
    rcases Bool.or_eq_true_iff.mp hp with hp | hp
    · exact Nat.lt_of_le_of_lt hb.length_le (iha hp ha)
    · exact Nat.lt_of_lt_of_le (ihb hp hb) ha.length_le
  | either a b iha ihb =>
    obtain ⟨hpa, hpb⟩ := Bool.and_eq_true_iff.mp hp
    rcases h with h | h
    · exact iha hpa h
    · exact ihb hpb h
  | many p least most lazy ih =>
    obtain ⟨hp, hleast⟩ := Bool.and_eq_true_iff.mp hp
    obtain ⟨n, hn, -, hrep⟩ := h
    have hpos : 0 < n := Nat.lt_of_lt_of_le (of_decide_eq_true hleast) hn
    exact hrep.length_lt (fun _ _ => ih hp) hpos
  | group number p ih =>
    obtain ⟨u, hu, rfl⟩ := h
    show u.after.length < s.after.length
    exact ih hp hu
  | once p ih =>
    obtain ⟨u, hu, hsome⟩ := (run_sound_and_passes p).1 some s t h
    cases hsome
    exact ih hp hu
  | ifGroup number a b iha ihb =>
    obtain ⟨hpa, hpb⟩ := Bool.and_eq_true_iff.mp hp
    rcases h with ⟨-, h⟩ | ⟨-, h⟩
    · exact iha hpa h
    · exact ihb hpb h
  | empty | anchor | backreference | look => cases hp

/-! ## Finding -/

theorem isSome_orElse {a : Option Spot} {b : Unit → Option Spot}
    (h : a.isSome = true ∨ (b ()).isSome = true) : (a.orElse b).isSome = true := by
  cases a with
  | some v => rfl
  | none => exact h.resolve_left Bool.false_ne_true

section

variable {once : Continuation → Continuation} {lazy : Bool} {fuel least : Nat} {most : Option Nat}

/-- A repetition finds something if it does so by going on, or may stop and what follows does. -/
theorem isSome_iterate_succ_iff : (iterate once lazy (fuel + 1) least most k s).isSome = true ↔
    (iterateAgain once lazy fuel least most k s).isSome = true ∨
      least = 0 ∧ (k s).isSome = true := by
  rw [iterate_succ]
  split_ifs with hneeded hlazy
  · simp [Nat.ne_of_gt hneeded]
  · simp [Nat.eq_zero_of_not_pos hneeded, or_comm]
  · simp [Nat.eq_zero_of_not_pos hneeded]

/-- A repetition that can go on as often as it needs finds something. As each match takes up a part
of the text, none of them is taken for the last one. -/
theorem iterate_complete {step : Spot → Spot → Prop}
    (honce : ∀ k s t, step s t → (k t).isSome = true → (once k s).isSome = true)
    (hstep : ∀ s t, step s t → t.after.length < s.after.length ∧ t.before.length ≠ s.before.length)
    {n : Nat} (hleast : least ≤ n) (hmost : ∀ m, most = some m → n ≤ m)
    (hfuel : least + s.after.length < fuel) (h : Repeats step n s t)
    (hk : (k t).isSome = true) : (iterate once lazy fuel least most k s).isSome = true := by
  induction n generalizing fuel least most s with
  | zero =>
    cases h
    cases fuel with
    | zero => exact hk
    | succ fuel => exact isSome_iterate_succ_iff.mpr (.inr ⟨Nat.le_zero.mp hleast, hk⟩)
  | succ n ih =>
    obtain ⟨u, hs, hrest⟩ := h
    obtain ⟨hless, hmoved⟩ := hstep s u hs
    cases fuel with
    | zero => exact absurd hfuel (Nat.not_lt_zero _)
    | succ fuel =>
      have hmore : most ≠ some 0 := fun he => absurd (hmost 0 he) (Nat.not_succ_le_zero n)
      have hmost' (m : Nat) (hm : most.map (· - 1) = some m) : n ≤ m := by
        obtain ⟨m', hm', rfl⟩ := Option.map_eq_some_iff.mp hm
        exact Nat.le_sub_one_of_lt (hmost m' hm')
      refine isSome_iterate_succ_iff.mpr (.inl ?_)
      unfold iterateAgain
      rw [if_neg hmore]
      refine honce _ s u hs ?_
      rw [if_neg (by simp [hmoved])]
      exact ih (by omega) hmost' (by omega) hrest

end

/-- If a pattern leads to a place from which what has to match after it does so, the matcher finds
a place. -/
theorem run_complete (hp : p.isSteady = true) (h : Leads p s t) (hk : (k t).isSome = true) :
    (run p k s).isSome = true := by
  induction p generalizing k s t with
  | empty =>
    cases h
    exact hk
  | char set =>
    obtain ⟨c, hf, hc⟩ := h
    unfold run
    rw [hf]
    dsimp only
    rw [if_pos hc]
    exact hk
  | seq a b iha ihb =>
    obtain ⟨hpa, hpb⟩ := Bool.and_eq_true_iff.mp hp
    obtain ⟨u, ha, hb⟩ := h
    exact iha hpa ha (ihb hpb hb hk)
  | either a b iha ihb =>
    obtain ⟨hpa, hpb⟩ := Bool.and_eq_true_iff.mp hp
    rcases h with h | h
    · exact isSome_orElse (.inl (iha hpa h hk))
    · exact isSome_orElse (.inr (ihb hpb h hk))
  | many p least most lazy ih =>
    obtain ⟨hp, htakes⟩ := Bool.and_eq_true_iff.mp hp
    obtain ⟨n, hn, hm, hrep⟩ := h
    have hstep (s t : Spot) (hl : Leads p s t) :
        t.after.length < s.after.length ∧ t.before.length ≠ s.before.length := by
      have hless := hl.length_lt htakes
      obtain ⟨cs, hafter, hbefore⟩ := (run_sound_and_passes p).2 s t hl
      have hlen := congrArg List.length hafter
      have hlen' := congrArg List.length hbefore
      simp only [List.length_append, List.length_reverse] at hlen hlen'
      omega
    have hfinds (k : Continuation) (s t : Spot) (hl : Leads p s t) (hk : (k t).isSome = true) :
        (run p k s).isSome = true := ih hp hl hk
    exact iterate_complete hfinds hstep hn hm (Nat.lt_succ_self _) hrep hk
  | anchor a =>
    obtain ⟨ha, rfl⟩ := h
    unfold run
    rw [if_pos ha]
    exact hk
  | group number p ih =>
    obtain ⟨u, hu, rfl⟩ := h
    exact ih hp hu hk
  | backreference number ignoreCase =>
    obtain ⟨text, hg, hsame, rfl⟩ := h
    unfold run
    rw [hg]
    dsimp only
    rw [if_pos hsame]
    exact hk
  | look width wanted p ih =>
    rw [run_look]
    rcases h with ⟨rfl, u, hu, rfl⟩ | ⟨rfl, hnone, rfl⟩
    · rw [hu]
      exact hk
    · rw [hnone]
      exact hk
  | once p ih =>
    have hfirst : run p some s = some t := h
    unfold run
    rw [hfirst]
    exact hk
  | ifGroup number a b iha ihb =>
    obtain ⟨hpa, hpb⟩ := Bool.and_eq_true_iff.mp hp
    unfold run
    rcases h with ⟨hg, h⟩ | ⟨hg, h⟩
    · rw [if_pos hg]
      exact iha hpa h hk
    · rw [if_neg (by simp [hg])]
      exact ihb hpb h hk

/-- A steady pattern is found in a text exactly if it leads on from some place there. -/
theorem foundIn_iff {text : String} (hp : p.isSteady = true) : p.foundIn text = true ↔
    ∃ before after t, text.toList = before ++ after ∧ Leads p ⟨before.reverse, after, []⟩ t := by
  have hfrom (skipped cs before : List Char) (t : Spot)
      (h : Leads p ⟨skipped.reverse ++ before, cs, []⟩ t) :
      foundFrom p before (skipped ++ cs) = true := by
    induction skipped generalizing before with
    | nil =>
      have hfound : (run p some ⟨before, cs, []⟩).isSome = true := run_complete hp h rfl
      cases cs with
      | nil => exact hfound
      | cons c rest =>
        show (_ || _) = true
        rw [hfound]
        rfl
    | cons c skipped ih =>
      have hlater : foundFrom p (c :: before) (skipped ++ cs) = true :=
        ih (c :: before) (by simpa using h)
      show (_ || foundFrom p (c :: before) (skipped ++ cs)) = true
      rw [hlater, Bool.or_true]
  constructor
  · exact leads_of_foundIn
  · rintro ⟨before, after, t, htext, ht⟩
    unfold foundIn
    rw [htext]
    exact hfrom before after [] t (by simpa using ht)

end InstallerGateway.Pattern
