import InstallerGateway.Pattern.Reader
import InstallerGateway.Proofs.Key.InstallerName
import InstallerGateway.Proofs.Pattern.Greedy

/-!
# The patterns of the names of installers

The forms of the names of installers are given by three patterns, one for each system. What a name
is read as is what a search for these patterns, one after the other, remembers: the part before a
separator is taken up to its first place, and a version for macOS or Windows, which may hold
everything but line feeds, is at first taken up to the end of the line, and then given back up to
the last point that a kind of file follows.
-/

namespace InstallerGateway.InstallerName

open Pattern

variable {kinds : List (List Char)} {before cs body tail : List Char} {c : Char}
  {groups : List (Nat × List Char)} {p : Pattern}

/-! ## Lines -/

theorem singleLine?_break (cs : List Char) :
    singleLine? ('\n' :: cs) = if cs = [] then some [] else none := by
  by_cases hcs : cs = []
  · rw [hcs]
    rfl
  · rw [if_neg hcs, Option.eq_none_iff_forall_ne_some]
    intro body hbody
    obtain ⟨hline, hbreak⟩ := singleLine?_eq_some_iff.mp hbody
    rcases hline with rfl | hline
    · exact hbreak List.mem_cons_self
    · cases body with
      | nil => exact hcs (List.cons.inj hline).2
      | cons d body => exact hbreak ((List.cons.inj hline).1 ▸ List.mem_cons_self)

theorem isLineOf_cons : IsLineOf (c :: body) (c :: cs) ↔ IsLineOf body cs := by
  simp [IsLineOf]

theorem singleLine?_cons (h : c ≠ '\n') (cs : List Char) :
    singleLine? (c :: cs) = (singleLine? cs).map (c :: ·) := by
  ext body
  rw [singleLine?_eq_some_iff, Option.map_eq_some_iff]
  constructor
  · rintro ⟨hline, hbreak⟩
    cases body with
    | nil =>
      rcases hline with hline | hline
      · cases hline
      · exact absurd (List.cons.inj hline).1 h
    | cons d body =>
      obtain rfl : c = d := by
        rcases hline with hline | hline
        · exact (List.cons.inj hline).1
        · exact (List.cons.inj hline).1
      have hrest : '\n' ∉ body := fun hmem => hbreak (List.mem_cons_of_mem c hmem)
      exact ⟨body, singleLine?_eq_some_iff.mpr ⟨isLineOf_cons.mp hline, hrest⟩, rfl⟩
  · rintro ⟨body, hbody, rfl⟩
    obtain ⟨hline, hbreak⟩ := singleLine?_eq_some_iff.mp hbody
    exact ⟨isLineOf_cons.mpr hline, by simp [Ne.symm h, hbreak]⟩

/-- A word without line feeds stays in front of its line. -/
theorem singleLine?_append {word : List Char} (h : '\n' ∉ word) (cs : List Char) :
    singleLine? (word ++ cs) = (singleLine? cs).map (word ++ ·) := by
  induction word with
  | nil => simp
  | cons c word ih =>
    obtain ⟨hc, hword⟩ := not_or.mp (fun hmem => h (List.mem_cons.mpr hmem))
    rw [List.cons_append, singleLine?_cons (Ne.symm hc), ih hword, Option.map_map]
    rfl

/-- What follows is only tried at the end of a line. -/
def atLineEnd (k : Continuation) : Continuation :=
  fun t => if t.satisfies .lastLineEnd then k t else none

/-- What is repeated up to the end of a line is taken up to this end. -/
theorem longest_lineEnd (k : Continuation) :
    longest (but '\n') (atLineEnd k) groups 0 before cs =
      (singleLine? cs).bind fun body =>
        k ⟨body.reverse ++ before, cs.drop body.length, groups⟩ := by
  induction cs generalizing before with
  | nil => rfl
  | cons c rest ih =>
    unfold longest
    by_cases hc : c = '\n'
    · rw [if_neg (fun h => but_holds_iff.mp h hc), hc, singleLine?_break]
      by_cases hrest : rest = []
      · simp [hrest, atLineEnd, Spot.satisfies]
      · simp [hrest, atLineEnd, Spot.satisfies]
    · rw [if_pos (but_holds_iff.mpr hc), ih, singleLine?_cons hc]
      cases singleLine? rest with
      | none => simp [atLineEnd, Spot.satisfies, hc]
      | some body => simp [atLineEnd, Spot.satisfies, hc]

/-- A kind of file without line feeds begins a line if the text begins with it. -/
theorem any_isPrefixOf_line (hkinds : ∀ kind ∈ kinds, '\n' ∉ kind) (hline : IsLineOf body cs) :
    kinds.any (·.isPrefixOf cs) = kinds.any (·.isPrefixOf body) := by
  rcases hline with rfl | rfl
  · rfl
  · rw [Bool.eq_iff_iff, any_isPrefixOf_iff, any_isPrefixOf_iff]
    refine exists_congr fun kind => and_congr_right fun hkind => ?_
    rw [List.prefix_concat_iff]
    refine or_iff_right fun heq => hkinds kind hkind ?_
    rw [heq]
    simp

/-- What is taken up to the end of a line, and given back until a point and one of the kinds follow,
goes up to the last such point. -/
theorem map_longest_line {α : Type} {k : Continuation} {read : Spot → α}
    {found : List Char → List Char → α} (hkinds : ∀ kind ∈ kinds, '\n' ∉ kind)
    (hpoint : ∀ taken rest, cs = taken ++ '.' :: rest →
      (k ⟨taken.reverse ++ before, '.' :: rest, groups⟩).map read =
        if kinds.any (·.isPrefixOf rest) then (singleLine? rest).map (found taken) else none)
    (hother : ∀ before rest, rest.head? ≠ some '.' → k ⟨before, rest, groups⟩ = none) :
    (longest (but '\n') k groups 0 before cs).map read =
      (singleLine? cs).bind fun body =>
        (splitAtKind? kinds body).map fun parts => found parts.1 parts.2 := by
  induction cs generalizing before found with
  | nil =>
    unfold longest
    rw [hother before [] (by simp)]
    rfl
  | cons c rest ih =>
    unfold longest
    rw [if_pos rfl, Option.map_or]
    by_cases hc : c = '\n'
    · rw [if_neg (fun h => but_holds_iff.mp h hc), hother before (c :: rest) (by simp [hc]), hc,
        singleLine?_break]
      by_cases hrest : rest = []
      · simp [hrest, splitAtKind?]
      · simp [hrest]
    · have hlater := @ih (c :: before) (fun taken => found (c :: taken)) fun taken later hrest => by
        simpa using hpoint (c :: taken) later (congrArg (c :: ·) hrest)
      rw [if_pos (but_holds_iff.mpr hc), hlater, singleLine?_cons hc]
      cases hline : singleLine? rest with
      | none =>
        by_cases hp : c = '.'
        · have hhere := hpoint [] rest (by rw [hp]; rfl)
          simpa [hp, hline] using hhere
        · simp [hother before (c :: rest) (by simpa using hp)]
      | some body =>
        have hkind := any_isPrefixOf_line hkinds (singleLine?_eq_some_iff.mp hline).1
        simp only [Option.map_some, Option.bind_some]
        rw [splitAtKind?_cons, Option.map_or, Option.map_map]
        congr 1
        by_cases hp : c = '.'
        · have hhere := hpoint [] rest (by rw [hp]; rfl)
          rw [hline, hkind] at hhere
          rw [hp]
          refine hhere.trans ?_
          by_cases hany : kinds.any (·.isPrefixOf body) = true
          · simp [hany]
          · simp [hany]
        · rw [hother before (c :: rest) (by simpa using hp), if_neg (by simp [hp])]
          rfl

/-! ## Extensions -/

/-- Everything up to the next line feed, as much of it as possible. -/
def restOfLine : Pattern := .many (.char (but '\n')) 0 none false

/-- The pattern takes up one of the kinds and what follows it on its line. Of what it remembers
beside that, nothing has one of the first numbers. -/
def TakesExtension (kinds : List (List Char)) (p : Pattern) : Prop :=
  ∀ before tail groups, ∃ more : List (Nat × List Char), (∀ n ≤ 3, more.lookup n = none) ∧
    ∀ k : Continuation, run p (atLineEnd k) ⟨before, tail, groups⟩ =
      if kinds.any (·.isPrefixOf tail) then
        (singleLine? tail).bind fun ext =>
          k ⟨ext.reverse ++ before, tail.drop ext.length, more ++ groups⟩
      else none

/-- The rest of a line is taken up if it is the last one. -/
theorem run_restOfLine (k : Continuation) :
    run restOfLine (atLineEnd k) ⟨before, cs, groups⟩ =
      (singleLine? cs).bind fun body => k ⟨body.reverse ++ before, cs.drop body.length, groups⟩ :=
  (run_many _ _ _).trans (longest_lineEnd k)

/-- What follows a kind on its line makes up the extension with it. -/
theorem run_restOfLine_of_kind {kind rest : List Char} (hkind : '\n' ∉ kind) (k : Continuation) :
    run restOfLine (atLineEnd k) ⟨kind.reverse ++ before, rest, groups⟩ =
    (singleLine? (kind ++ rest)).bind fun ext =>
      k ⟨ext.reverse ++ before, (kind ++ rest).drop ext.length, groups⟩ := by
  rw [run_restOfLine, singleLine?_append hkind]
  cases singleLine? rest with
  | none => rfl
  | some body => simp [List.drop_length_add_append]

theorem isPrefixOf_of_afterWord?_eq_none {kind : List Char} (h : afterWord? kind tail = none) :
    kind.isPrefixOf tail = false := by
  rw [Bool.eq_false_iff, Ne, List.isPrefixOf_iff_prefix]
  rintro ⟨rest, hrest⟩
  cases h.symm.trans (afterWord?_eq_some_iff.mpr hrest.symm)

/-- A kind and the rest of its line make an extension. -/
theorem takesExtension_literal {kind : List Char} (hkind : '\n' ∉ kind) :
    TakesExtension [kind] (literal kind restOfLine) := by
  intro before tail groups
  refine ⟨[], fun _ _ => rfl, fun k => ?_⟩
  rw [run_literal]
  cases hafter : afterWord? kind tail with
  | none => simp [isPrefixOf_of_afterWord?_eq_none hafter]
  | some rest =>
    obtain rfl : tail = kind ++ rest := afterWord?_eq_some_iff.mp hafter
    rw [Option.bind_some, run_restOfLine_of_kind hkind]
    simp

/-- A kind is remembered, and the rest of its line is taken up. -/
theorem run_remembered_kind {kind : List Char} (hkind : '\n' ∉ kind) (k : Continuation) :
    run (word kind) (fun t => run restOfLine (atLineEnd k)
      (Spot.remember 4 ⟨before, tail, groups⟩ t)) ⟨before, tail, groups⟩ =
    if kind.isPrefixOf tail then
      (singleLine? tail).bind fun ext =>
        k ⟨ext.reverse ++ before, tail.drop ext.length, (4, kind) :: groups⟩
    else none := by
  rw [run_word]
  cases hafter : afterWord? kind tail with
  | none =>
    rw [isPrefixOf_of_afterWord?_eq_none hafter]
    rfl
  | some rest =>
    obtain rfl : tail = kind ++ rest := afterWord?_eq_some_iff.mp hafter
    rw [Option.bind_some, remember_eq rfl, run_restOfLine_of_kind hkind]
    simp

/-- Of two kinds of the same length at most one begins a text, so nothing else is left to be tried
after the one that does. -/
theorem takesExtension_either {kind other : List Char} (hkind : '\n' ∉ kind) (hother : '\n' ∉ other)
    (hlength : kind.length = other.length) (hne : kind ≠ other) :
    TakesExtension [kind, other] (.seq (.group 4 (oneOf kind [other])) restOfLine) := by
  intro before tail groups
  have hone (h : kind <+: tail) : other.isPrefixOf tail = false := by
    rw [Bool.eq_false_iff, Ne, List.isPrefixOf_iff_prefix]
    intro h'
    have hboth := List.prefix_of_prefix_length_le h h' (Nat.le_of_eq hlength)
    exact hne (hboth.eq_of_length hlength)
  refine ⟨if kind.isPrefixOf tail then [(4, kind)] else [(4, other)], fun n hn => ?_, fun k => ?_⟩
  · have h4 : (n == 4) = false := by simpa using Nat.ne_of_lt (Nat.lt_succ_of_le hn)
    split <;> simp [List.lookup_cons, h4]
  · show (run (word kind) _ _).orElse (fun _ => run (word other) _ _) = _
    rw [run_remembered_kind hkind, run_remembered_kind hother]
    by_cases h : kind <+: tail
    · simp [h, hone h]
    · simp [h]

/-- The texts that are remembered under the first three numbers. -/
def fields (t : Spot) : List Char × List Char × List Char :=
  ((t.group? 1).getD [], (t.group? 2).getD [], (t.group? 3).getD [])

/-- The extension is remembered, and the line ends behind it. -/
def extension (p : Pattern) : Pattern := .seq (.group 3 p) (.anchor .lastLineEnd)

/-- The extension is remembered beside what was remembered before. -/
theorem run_extension (hp : TakesExtension kinds p) (first second : List Char) :
    (run (extension p) some ⟨before, tail, [(2, second), (1, first)]⟩).map fields =
      if kinds.any (·.isPrefixOf tail) then
        (singleLine? tail).map fun ext => (first, second, ext)
      else none := by
  let start : Spot := ⟨before, tail, [(2, second), (1, first)]⟩
  obtain ⟨more, hmore, hrun⟩ := hp before tail [(2, second), (1, first)]
  show (run p (atLineEnd fun t => some (Spot.remember 3 start t)) start).map fields = _
  rw [hrun fun t => some (Spot.remember 3 start t)]
  by_cases hany : kinds.any (·.isPrefixOf tail) = true
  · rw [if_pos hany, if_pos hany]
    cases hline : singleLine? tail with
    | none => rfl
    | some ext =>
      have htail : tail = ext ++ tail.drop ext.length := by
        rcases (singleLine?_eq_some_iff.mp hline).1 with rfl | rfl
        · simp
        · simp
      rw [Option.bind_some, remember_eq htail]
      simp [fields, Spot.group?, List.lookup_append, hmore, List.lookup_cons]
  · rw [if_neg hany, if_neg hany]
    rfl

/-! ## The patterns -/

/-- The form with underscores. -/
def underscoredPattern : Pattern :=
  literal ['_'] (field 1 '_' (field 2 '.' (extension (literal "deb".toList restOfLine))))

/-- What the pattern with underscores remembers is what the reader of that form tells. -/
theorem run_underscoredPattern (before cs : List Char) :
    (run underscoredPattern some ⟨before, cs, []⟩).map fields = underscored? cs := by
  have hdeb : TakesExtension ["deb".toList] (literal "deb".toList restOfLine) :=
    takesExtension_literal (by decide)
  unfold underscoredPattern
  rw [run_literal]
  show _ = (afterWord? ['_'] cs).bind fun rest => (splitFirst '_' rest).bind fun parts =>
    (splitFirst '.' parts.2).bind fun parts' => (singleLine? parts'.2).bind fun ext =>
      if !parts.1.isEmpty && !parts'.1.isEmpty && ['d', 'e', 'b'].isPrefixOf ext then
        some (parts.1, parts'.1, ext)
      else none
  cases afterWord? ['_'] cs with
  | none => rfl
  | some rest =>
    rw [Option.bind_some, Option.bind_some, run_field]
    cases splitFirst '_' rest with
    | none => rfl
    | some parts =>
      obtain ⟨version, rest⟩ := parts
      simp only [Option.bind_some]
      rw [run_field]
      cases splitFirst '.' rest with
      | none => simp
      | some parts =>
        obtain ⟨arch, rest⟩ := parts
        simp only [Option.bind_some]
        by_cases hversion : version = []
        · simp [hversion]
        · by_cases harch : arch = []
          · simp [harch]
          · rw [if_neg hversion, if_neg harch, run_extension hdeb]
            cases hline : singleLine? rest with
            | none => simp
            | some ext =>
              have hkinds : ∀ kind ∈ ["deb".toList], '\n' ∉ kind := by simp
              have hkind : "deb".toList.isPrefixOf rest = ['d', 'e', 'b'].isPrefixOf ext := by
                simpa using any_isPrefixOf_line hkinds (singleLine?_eq_some_iff.mp hline).1
              rw [List.any_cons, List.any_nil, Bool.or_false, hkind]
              simp [hversion, harch]

/-- A version, a point and an extension. -/
def versionPattern (p : Pattern) : Pattern :=
  .seq (.group 2 (.many (.char (but '\n')) 1 none false)) (.seq (letter '.') (extension p))

/-- Of all points that a kind follows the last one ends the version. -/
theorem run_versionPattern (hkinds : ∀ kind ∈ kinds, '\n' ∉ kind) (hp : TakesExtension kinds p)
    (arch : List Char) :
    (run (versionPattern p) some ⟨before, cs, [(1, arch)]⟩).map fields =
      (singleLine? cs).bind fun
        | [] => none
        | first :: body => (splitAtKind? kinds body).map fun parts =>
            (arch, first :: parts.1, parts.2) := by
  let k : Continuation := fun t =>
    run (letter '.') (run (extension p) some) (Spot.remember 2 ⟨before, cs, [(1, arch)]⟩ t)
  have hother (before' rest : List Char) (h : rest.head? ≠ some '.') :
      k ⟨before', rest, [(1, arch)]⟩ = none := run_letter_of_ne h _
  show (run (.many (.char (but '\n')) 1 none false) k _).map fields = _
  rw [run_many]
  cases cs with
  | nil => rfl
  | cons c rest =>
    unfold longest
    rw [if_neg Nat.one_ne_zero, Option.or_none]
    by_cases hc : c = '\n'
    · rw [if_neg (fun h => but_holds_iff.mp h hc), hc, singleLine?_break]
      by_cases hrest : rest = []
      · simp [hrest]
      · simp [hrest]
    · have hpoint (taken later : List Char) (hrest : rest = taken ++ '.' :: later) :
          (k ⟨taken.reverse ++ c :: before, '.' :: later, [(1, arch)]⟩).map fields =
            if kinds.any (·.isPrefixOf later) then
              (singleLine? later).map ((arch, c :: taken, ·))
            else none := by
        have htaken : c :: rest = (c :: taken) ++ '.' :: later := congrArg (c :: ·) hrest
        have hremember : Spot.remember 2 ⟨before, c :: rest, [(1, arch)]⟩
            ⟨taken.reverse ++ c :: before, '.' :: later, [(1, arch)]⟩ =
              ⟨taken.reverse ++ c :: before, '.' :: later, [(2, c :: taken), (1, arch)]⟩ := by
          rw [show taken.reverse ++ c :: before = (c :: taken).reverse ++ before by simp]
          exact remember_eq htaken
        show (run (letter '.') _ _).map fields = _
        rw [hremember, run_letter]
        exact run_extension hp arch (c :: taken)
      rw [if_pos (but_holds_iff.mpr hc), Nat.sub_self,
        map_longest_line hkinds hpoint hother, singleLine?_cons hc]
      cases singleLine? rest with
      | none => rfl
      | some body => rfl

/-- The form with a marker and dashes. -/
def dashedPattern (marker : List Char) (p : Pattern) : Pattern :=
  literal marker (field 1 '-' (versionPattern p))

/-- What a pattern with dashes remembers is what the reader of that form tells. -/
theorem run_dashedPattern {marker : List Char} (hkinds : ∀ kind ∈ kinds, '\n' ∉ kind)
    (hp : TakesExtension kinds p) (before cs : List Char) :
    (run (dashedPattern marker p) some ⟨before, cs, []⟩).map fields = dashed? marker kinds cs := by
  unfold dashedPattern
  rw [run_literal]
  show _ = (afterWord? marker cs).bind fun rest => (splitFirst '-' rest).bind fun parts =>
    (singleLine? parts.2).bind _
  cases afterWord? marker cs with
  | none => rfl
  | some rest =>
    rw [Option.bind_some, Option.bind_some, run_field]
    cases splitFirst '-' rest with
    | none => rfl
    | some parts =>
      obtain ⟨arch, rest⟩ := parts
      simp only [Option.bind_some]
      cases arch with
      | nil => simp
      | cons d arch =>
        rw [if_neg (List.cons_ne_nil d arch), run_versionPattern hkinds hp]
        refine congrArg (singleLine? rest).bind (funext fun line => ?_)
        cases line with
        | nil => rfl
        | cons first body => exact Option.map_eq_bind

/-! ## Reading a name -/

/-- The pattern of the names of installers for a system. -/
def patternOf : OperatingSystem → Pattern
  | .darwin =>
    dashedPattern "-mac-".toList (.seq (.group 4 (oneOf "dmg".toList ["zip".toList])) restOfLine)
  | .win32 => dashedPattern "-win-".toList (literal "exe".toList restOfLine)
  | .linux => underscoredPattern

/-- The text that the pattern is written as. -/
def expressionOf : OperatingSystem → String
  | .darwin => "-mac-([^-]+)-(.+)\\.((dmg|zip).*)$"
  | .win32 => "-win-([^-]+)-(.+)\\.(exe.*)$"
  | .linux => "_([^_]+)_([^.]+)\\.(deb.*)$"

/-- The text of each pattern is read as the pattern. -/
theorem parse_expressionOf (system : OperatingSystem) :
    Pattern.parse (expressionOf system) = .ok (patternOf system) := by
  cases system <;> decide +kernel

/-- What is remembered tells architecture, version and extension; for Linux the version stands
first. -/
def told : OperatingSystem → List Char × List Char × List Char → InstallerName
  | .linux, (version, arch, ext) =>
    ⟨.linux, String.ofList arch, String.ofList version, String.ofList ext⟩
  | system, (arch, version, ext) =>
    ⟨system, String.ofList arch, String.ofList version, String.ofList ext⟩

/-- What a search for a pattern with dashes remembers is what the reader of that form tells of the
name. -/
theorem map_told_dashed {marker : List Char} (system : OperatingSystem) (hsystem : system ≠ .linux)
    (hpattern : patternOf system = dashedPattern marker p)
    (hkinds : ∀ kind ∈ kinds, '\n' ∉ kind) (hp : TakesExtension kinds p) (cs : List Char) :
    ((patternOf system).searchFrom [] cs).map (told system ∘ fields) =
      ofDashed? system marker kinds cs := by
  rw [hpattern, ← Option.map_map, searchFrom_eq_firstFound? (run_dashedPattern hkinds hp)]
  unfold ofDashed?
  cases system with
  | linux => exact absurd rfl hsystem
  | darwin => rfl
  | win32 => rfl

/-- What a name tells is what the first of the patterns that is found in it remembers. -/
theorem parse?_eq_findSome? (name : String) :
    parse? name = [.darwin, .win32, .linux].findSome? fun system =>
      ((patternOf system).searchFrom [] name.toList).map (told system ∘ fields) := by
  have hmac : ((patternOf .darwin).searchFrom [] name.toList).map (told .darwin ∘ fields) =
      ofDashed? .darwin "-mac-".toList ["dmg".toList, "zip".toList] name.toList :=
    map_told_dashed .darwin (by decide) rfl (by simp)
      (takesExtension_either (by simp) (by simp) rfl (by simp)) _
  have hwin : ((patternOf .win32).searchFrom [] name.toList).map (told .win32 ∘ fields) =
      ofDashed? .win32 "-win-".toList ["exe".toList] name.toList :=
    map_told_dashed .win32 (by decide) rfl (by simp) (takesExtension_literal (by simp)) _
  have hlinux : ((patternOf .linux).searchFrom [] name.toList).map (told .linux ∘ fields) =
      (firstFound? underscored? name.toList).map (told .linux) := by
    rw [← Option.map_map]
    exact congrArg _ (searchFrom_eq_firstFound? run_underscoredPattern [] name.toList)
  unfold parse?
  simp only [List.findSome?, hmac, hwin, hlinux]
  cases ofDashed? .darwin "-mac-".toList ["dmg".toList, "zip".toList] name.toList with
  | some i => rfl
  | none =>
    cases ofDashed? .win32 "-win-".toList ["exe".toList] name.toList with
    | some i => rfl
    | none =>
      cases firstFound? underscored? name.toList with
      | some parts => rfl
      | none => rfl

/-- A name is read as something if one of the patterns is found in it. -/
theorem isSome_parse? (name : String) : (parse? name).isSome =
    [.darwin, .win32, .linux].any fun system => (patternOf system).foundIn name := by
  have hfound (system : OperatingSystem) : (patternOf system).foundIn name =
      (((patternOf system).searchFrom [] name.toList).map (told system ∘ fields)).isSome := by
    rw [Option.isSome_map]
    exact foundFrom_eq_isSome _ _ _
  rw [parse?_eq_findSome?, List.isSome_findSome?]
  simp only [hfound]

/-! ## What names are read as -/

/-- A name is read as what the first of the three patterns that is found in it remembers, and so as
nothing if none is found. What it is read as stands at its end, in the form of its system, up to one
line feed. And what is written in one of the forms is read as what was written, whatever the name of
the product, if the parts can be told from each other. -/
theorem parse?_recovers :
    (∀ system, Pattern.parse (expressionOf system) = .ok (patternOf system)) ∧
    (∀ name, parse? name = [.darwin, .win32, .linux].findSome? fun system =>
      ((patternOf system).searchFrom [] name.toList).map (told system ∘ fields)) ∧
    (∀ name, (parse? name).isSome =
      [.darwin, .win32, .linux].any fun system => (patternOf system).foundIn name) ∧
    (∀ name i, parse? name = some i → Tells name i) ∧
    (∀ product arch version ext, IsDashedName "-mac-" ["dmg", "zip"] product arch version ext →
      parse? (dashedName "-mac-" product arch version ext) =
        some ⟨.darwin, arch, version, ext⟩) ∧
    (∀ product arch version ext, IsDashedName "-win-" ["exe"] product arch version ext →
      ¬ "-mac-".toList <:+: (dashedName "-win-" product arch version ext).toList →
      parse? (dashedName "-win-" product arch version ext) =
        some ⟨.win32, arch, version, ext⟩) ∧
    ∀ product version arch ext, IsPackageName product version arch ext →
      parse? (packageName product version arch ext) = some ⟨.linux, arch, version, ext⟩ :=
  ⟨parse_expressionOf, parse?_eq_findSome?, isSome_parse?, fun _ _ => tells_of_parse?,
    fun _ _ _ _ => parse?_of_isDashedName_mac, fun _ _ _ _ => parse?_of_isDashedName_win,
    fun _ _ _ _ => parse?_of_isPackageName⟩

/-- Names of products and versions with markers, underscores and kinds in them. -/
theorem parse?_of_repeated_markers :
    IsDashedName "-mac-" ["dmg", "zip"] "my_app-win" "arm64" "7.1-mac-2" "zip.blockmap" ∧
    parse? (dashedName "-mac-" "my_app-win" "arm64" "7.1-mac-2" "zip.blockmap") =
      some ⟨.darwin, "arm64", "7.1-mac-2", "zip.blockmap"⟩ ∧
    IsDashedName "-win-" ["exe"] "my_1.2_app" "x64" "2.0.deb" "exe" ∧
    parse? (dashedName "-win-" "my_1.2_app" "x64" "2.0.deb" "exe") =
      some ⟨.win32, "x64", "2.0.deb", "exe"⟩ ∧
    IsPackageName "my_other_app" "7.1" "amd64_v3" "deb" ∧
    parse? (packageName "my_other_app" "7.1" "amd64_v3" "deb") =
      some ⟨.linux, "amd64_v3", "7.1", "deb"⟩ ∧
    parse? "my_app_7.1_amd64.deb\n" = some ⟨.linux, "amd64", "7.1", "deb"⟩ ∧
    Tells "my_app_7.1_amd64.deb\n" ⟨.linux, "amd64", "7.1", "deb"⟩ := by
  obtain ⟨-, -, -, tells, mac, win, package⟩ := parse?_recovers
  have hmac : IsDashedName "-mac-" ["dmg", "zip"] "my_app-win" "arm64" "7.1-mac-2" "zip.blockmap" :=
    ⟨by decide, by decide, by decide, by decide, by decide, by decide⟩
  have hwin : IsDashedName "-win-" ["exe"] "my_1.2_app" "x64" "2.0.deb" "exe" :=
    ⟨by decide, by decide, by decide, by decide, by decide, by decide⟩
  have hpackage : IsPackageName "my_other_app" "7.1" "amd64_v3" "deb" :=
    ⟨by decide, by decide, by decide, by decide, by decide, by decide, ⟨[], by decide⟩, by decide⟩
  have hline : parse? "my_app_7.1_amd64.deb\n" = some ⟨.linux, "amd64", "7.1", "deb"⟩ := by decide
  exact ⟨hmac, mac _ _ _ _ hmac, hwin, win _ _ _ _ hwin (by decide), hpackage,
    package _ _ _ _ hpackage, hline, tells _ _ hline⟩

end InstallerGateway.InstallerName
