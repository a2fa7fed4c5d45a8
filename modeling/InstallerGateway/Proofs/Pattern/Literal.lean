import InstallerGateway.Proofs.Pattern.Finding

/-!
# Simple patterns

Patterns that stand for fixed texts, for one of several texts and for the segments of a path, and
what lies between the places that they lead from and to. Whatever may lie there, they lead over it.
-/

namespace InstallerGateway.Pattern

variable {p : Pattern} {s t : Spot} {c : Char} {cs : List Char}

deriving instance DecidableEq for Pattern

/-- A single character. -/
def letter (c : Char) : Pattern := .char (.single false c.toNat)

/-- A text, after which a pattern has to match. -/
def literal (cs : List Char) (p : Pattern) : Pattern := cs.foldr (fun c q => .seq (letter c) q) p

/-- A text, as the reader of patterns builds it from its characters. -/
def word : List Char → Pattern
  | [] => .empty
  | [c] => letter c
  | c :: d :: cs => .seq (letter c) (word (d :: cs))

/-- One of several texts, the first one first. -/
def oneOf (w : List Char) : List (List Char) → Pattern
  | [] => word w
  | v :: ws => .either (word w) (oneOf v ws)

/-- One or more characters, none of which is a slash. -/
def segment : Pattern := .many (.char ⟨[.between 0x2F 0x2F], true, false⟩) 1 none false

/-- A pattern, or nothing. -/
def optional (p : Pattern) : Pattern := .many p 0 (some 1) false

theorem passes_of_letter (h : Leads (letter c) s t) : s.Passes [c] t := by
  obtain ⟨c', hf, hc⟩ := h
  have hn : c'.toNat = c.toNat := by
    simp [CharSet.single, CharSet.holds, CharSet.itemHolds] at hc
    omega
  have he : c' = c := Char.toNat_inj.mp hn
  exact he ▸ Spot.passes_of_forward? hf

theorem passes_of_literal (h : Leads (literal cs p) s t) : ∃ u, s.Passes cs u ∧ Leads p u t := by
  induction cs generalizing s with
  | nil => exact ⟨s, ⟨rfl, rfl⟩, h⟩
  | cons c cs ih =>
    obtain ⟨v, hc, hrest⟩ := h
    obtain ⟨u, hu, hp⟩ := ih hrest
    exact ⟨u, (passes_of_letter hc).trans hu, hp⟩

/-- What matches a text passes it. -/
theorem passes_of_word (h : Leads (word cs) s t) : s.Passes cs t := by
  induction cs generalizing s with
  | nil =>
    cases h
    exact ⟨rfl, rfl⟩
  | cons c cs ih =>
    cases cs with
    | nil => exact passes_of_letter h
    | cons d cs =>
      obtain ⟨u, hc, hrest⟩ := h
      exact (passes_of_letter hc).trans (ih hrest)

/-- What matches one of several texts passes one of them. -/
theorem passes_of_oneOf {w : List Char} {ws : List (List Char)} (h : Leads (oneOf w ws) s t) :
    ∃ v ∈ w :: ws, s.Passes v t := by
  induction ws generalizing w with
  | nil => exact ⟨w, by simp, passes_of_word h⟩
  | cons v ws ih =>
    rcases h with h | h
    · exact ⟨w, by simp, passes_of_word h⟩
    · obtain ⟨x, hx, hp⟩ := ih h
      exact ⟨x, List.mem_cons_of_mem _ hx, hp⟩

/-- Between the ends of a repeated set of characters lie characters of the set. -/
theorem passes_of_repeats {set : CharSet} {n : Nat} (h : Repeats (Leads (.char set)) n s t) :
    ∃ cs, cs.length = n ∧ (∀ c ∈ cs, set.holds c = true) ∧ s.Passes cs t := by
  induction n generalizing s with
  | zero =>
    cases h
    exact ⟨[], rfl, by simp, rfl, rfl⟩
  | succ n ih =>
    obtain ⟨u, ⟨c, hf, hc⟩, hrest⟩ := h
    obtain ⟨cs, hlen, hcs, hp⟩ := ih hrest
    refine ⟨c :: cs, congrArg (· + 1) hlen, ?_, (Spot.passes_of_forward? hf).trans hp⟩
    intro c' hmem
    rcases List.mem_cons.mp hmem with rfl | hmem
    · exact hc
    · exact hcs c' hmem

/-- What matches a segment passes characters without a slash. -/
theorem passes_of_segment (h : Leads segment s t) :
    ∃ cs, cs ≠ [] ∧ '/' ∉ cs ∧ s.Passes cs t := by
  obtain ⟨n, hn, -, hrep⟩ := h
  obtain ⟨cs, hlen, hcs, hp⟩ := passes_of_repeats hrep
  refine ⟨cs, ?_, ?_, hp⟩
  · rintro rfl
    exact absurd hn (by simp [← hlen])
  · intro hmem
    have := hcs '/' hmem
    revert this
    decide

/-- What matches an optional pattern passes nothing, or what matches the pattern. -/
theorem passes_of_optional (h : Leads (optional p) s t) : t = s ∨ Leads p s t := by
  obtain ⟨n, -, hn, hrep⟩ := h
  have hle : n ≤ 1 := hn 1 rfl
  match n, hle with
  | 0, _ => exact .inl hrep
  | 1, _ =>
    obtain ⟨u, hu, rfl⟩ := hrep
    exact .inr hu

theorem after_of_lastLineEnd (h : Leads (.anchor .lastLineEnd) s t) :
    s.after = [] ∨ s.after = ['\n'] := by
  have hs : s.satisfies .lastLineEnd = true := h.1
  simpa [Spot.satisfies] using hs

/-! ## Leading over a text -/

section

variable {before rest : List Char} {groups : List (Nat × List Char)}

theorem leads_char {set : CharSet} (hc : set.holds c = true) :
    Leads (.char set) ⟨before, c :: rest, groups⟩ ⟨c :: before, rest, groups⟩ := ⟨c, rfl, hc⟩

theorem leads_letter (c : Char) :
    Leads (letter c) ⟨before, c :: rest, groups⟩ ⟨c :: before, rest, groups⟩ :=
  leads_char (by simp [CharSet.single, CharSet.holds, CharSet.itemHolds])

theorem leads_literal (cs : List Char) (h : Leads p ⟨cs.reverse ++ before, rest, groups⟩ t) :
    Leads (literal cs p) ⟨before, cs ++ rest, groups⟩ t := by
  induction cs generalizing before with
  | nil => exact h
  | cons c cs ih => exact ⟨_, leads_letter c, ih (by simpa using h)⟩

/-- A text matches itself. -/
theorem leads_word (cs : List Char) :
    Leads (word cs) ⟨before, cs ++ rest, groups⟩ ⟨cs.reverse ++ before, rest, groups⟩ := by
  induction cs generalizing before with
  | nil => rfl
  | cons c cs ih =>
    cases cs with
    | nil => exact leads_letter c
    | cons d cs =>
      refine ⟨_, leads_letter c, ?_⟩
      simpa using @ih (c :: before)

/-- One of several texts matches each of them. -/
theorem leads_oneOf {w v : List Char} {ws : List (List Char)} (hv : v ∈ w :: ws) :
    Leads (oneOf w ws) ⟨before, v ++ rest, groups⟩ ⟨v.reverse ++ before, rest, groups⟩ := by
  induction ws generalizing w with
  | nil =>
    rw [List.mem_singleton.mp hv]
    exact leads_word w
  | cons x ws ih =>
    rcases List.mem_cons.mp hv with rfl | hv
    · exact .inl (leads_word v)
    · exact .inr (ih hv)

theorem repeats_char {set : CharSet} (cs : List Char) (hcs : ∀ c ∈ cs, set.holds c = true) :
    Repeats (Leads (.char set)) cs.length ⟨before, cs ++ rest, groups⟩
      ⟨cs.reverse ++ before, rest, groups⟩ := by
  induction cs generalizing before with
  | nil => rfl
  | cons c cs ih =>
    refine ⟨_, leads_char (hcs c List.mem_cons_self), ?_⟩
    simpa using @ih (c :: before) fun c' hc' => hcs c' (List.mem_cons_of_mem c hc')

/-- A segment matches any characters without a slash. -/
theorem leads_segment (hne : cs ≠ []) (hfree : '/' ∉ cs) :
    Leads segment ⟨before, cs ++ rest, groups⟩ ⟨cs.reverse ++ before, rest, groups⟩ := by
  refine ⟨cs.length, List.length_pos_iff.mpr hne, nofun, repeats_char cs fun c hc => ?_⟩
  have hn : c.toNat ≠ 0x2F := by
    intro he
    have hslash : c = '/' := Char.toNat_inj.mp he
    exact hfree (hslash ▸ hc)
  simp [CharSet.holds, CharSet.itemHolds]
  omega

theorem leads_lastLineEnd (h : rest = [] ∨ rest = ['\n']) :
    Leads (.anchor .lastLineEnd) ⟨before, rest, groups⟩ ⟨before, rest, groups⟩ :=
  ⟨by simpa [Spot.satisfies] using h, rfl⟩

theorem leads_optional (h : t = s ∨ Leads p s t) : Leads (optional p) s t := by
  rcases h with rfl | h
  · exact ⟨0, Nat.le_refl 0, fun _ _ => Nat.zero_le _, rfl⟩
  · exact ⟨1, Nat.zero_le 1, fun m hm => Nat.le_of_eq (Option.some.inj hm), t, h, rfl⟩

end

/-- A pattern that starts with the start of the text is tried at the start of the text alone. -/
theorem leads_of_foundIn_textStart {text : String}
    (h : (Pattern.seq (.anchor .textStart) p).foundIn text = true) :
    ∃ t, Leads p ⟨[], text.toList, []⟩ t := by
  obtain ⟨before, after, t, htext, u, ⟨hs, rfl⟩, hp⟩ := leads_of_foundIn h
  have hb : before = [] := by simpa [Spot.satisfies] using hs
  subst hb
  exact ⟨t, by rw [htext]; exact hp⟩

/-- A pattern that is bound to the start of a text is found in it if it matches there. -/
theorem foundIn_textStart_iff {text : String} (hp : p.isSteady = true) :
    (Pattern.seq (.anchor .textStart) p).foundIn text = true ↔
      ∃ t, Leads p ⟨[], text.toList, []⟩ t := by
  constructor
  · exact leads_of_foundIn_textStart
  · rintro ⟨t, ht⟩
    refine (foundIn_iff ?_).mpr ⟨[], text.toList, t, rfl, ⟨[], text.toList, []⟩, ⟨rfl, rfl⟩, ht⟩
    exact hp

end InstallerGateway.Pattern
