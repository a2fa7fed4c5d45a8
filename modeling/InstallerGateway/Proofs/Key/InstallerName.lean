import InstallerGateway.Key.InstallerName
import InstallerGateway.Proofs.Text.Replace
import InstallerGateway.Proofs.Text.Split

/-!
# What the names of installers tell

What a name is read as stands at its end. The other way round, a name that is put together from its
parts is read as these parts if they can be told from each other: where the first marker stands, the
architecture is what comes before the next dash, and the extension begins at the last point that a
kind of file follows. In the name of a package for Linux, where underscores separate the parts, no
form fits further to the front as long as the version holds a point, because the architecture cannot
reach over it. So the name of the product may hold underscores as it likes.
-/

namespace InstallerGateway

variable {cs before after : List Char}

/-! ## Line ends -/

theorem dropFinalBreak_append_break (cs : List Char) : dropFinalBreak (cs ++ ['\n']) = cs := by
  simp [dropFinalBreak]

theorem dropFinalBreak_of_not_mem (h : '\n' ∉ cs) : dropFinalBreak cs = cs := by
  unfold dropFinalBreak
  split
  · rename_i rest hrest
    have hmem : '\n' ∈ cs.reverse := by simp [hrest]
    exact absurd (List.mem_reverse.mp hmem) h
  · rfl

theorem dropFinalBreak_cases (cs : List Char) :
    cs = dropFinalBreak cs ∨ cs = dropFinalBreak cs ++ ['\n'] := by
  unfold dropFinalBreak
  split
  · rename_i rest hrest
    right
    rw [← List.reverse_reverse cs, hrest, List.reverse_cons]
  · exact .inl rfl

/-! ## The first place -/

/-- What is found first is found at some place. -/
theorem exists_of_firstFound? {α : Type} {f : List Char → Option α} {a : α}
    (h : firstFound? f cs = some a) : ∃ before after, cs = before ++ after ∧ f after = some a := by
  induction cs with
  | nil => exact ⟨[], [], rfl, h⟩
  | cons c rest ih =>
    unfold firstFound? at h
    rcases Option.or_eq_some_iff.mp h with h | ⟨-, h⟩
    · exact ⟨[], c :: rest, rfl, h⟩
    · obtain ⟨before, after, hrest, hf⟩ := ih h
      exact ⟨c :: before, after, congrArg (c :: ·) hrest, hf⟩

/-- What is found at a place is found in the text, if nothing is found at an earlier place. -/
theorem firstFound?_append {α : Type} {f : List Char → Option α} {a : α} (h : f after = some a)
    (hfirst : ∀ earlier c rest, before = earlier ++ c :: rest → f (c :: rest ++ after) = none) :
    firstFound? f (before ++ after) = some a := by
  induction before with
  | nil =>
    cases after with
    | nil => exact h
    | cons c rest =>
      show (f (c :: rest)).or _ = some a
      rw [h]
      rfl
  | cons c rest ih =>
    have hnone : f (c :: rest ++ after) = none := hfirst [] c rest rfl
    show (f (c :: (rest ++ after))).or (firstFound? f (rest ++ after)) = some a
    rw [show f (c :: (rest ++ after)) = none from hnone, Option.none_or]
    exact ih fun earlier d later he => hfirst (c :: earlier) d later (congrArg (c :: ·) he)

theorem firstFound?_eq_none {α : Type} {f : List Char → Option α}
    (h : ∀ before after, cs = before ++ after → f after = none) : firstFound? f cs = none := by
  cases hfound : firstFound? f cs with
  | none => rfl
  | some a =>
    obtain ⟨before, after, hcs, hf⟩ := exists_of_firstFound? hfound
    cases (h before after hcs).symm.trans hf

namespace InstallerName

variable {kinds : List (List Char)} {marker arch version ext body : List Char}

/-- One of the kinds stands at the start of the text. -/
def IsOfKind (kinds : List (List Char)) (cs : List Char) : Prop := ∃ kind ∈ kinds, kind <+: cs

theorem any_isPrefixOf_iff : kinds.any (·.isPrefixOf cs) = true ↔ IsOfKind kinds cs := by
  simp [IsOfKind]

/-! ## The last point before a kind -/

/-- A kind follows the point between the two parts of the text, and no later point. -/
structure IsLastPoint (kinds : List (List Char)) (before after cs : List Char) : Prop where
  split : cs = before ++ '.' :: after
  kind : IsOfKind kinds after
  last : ∀ before' after', after = before' ++ '.' :: after' → ¬ IsOfKind kinds after'

theorem splitAtKind?_cons (c : Char) (rest : List Char) : splitAtKind? kinds (c :: rest) =
    ((splitAtKind? kinds rest).map fun p => (c :: p.1, p.2)).or
      (if c = '.' ∧ kinds.any (·.isPrefixOf rest) then some ([], rest) else none) := by
  have h := splitAtKind?.eq_2 kinds c rest
  cases hrest : splitAtKind? kinds rest with
  | some p =>
    rw [hrest] at h
    exact h
  | none =>
    rw [hrest] at h
    simpa using h

theorem not_isOfKind_of_splitAtKind?_eq_none (h : splitAtKind? kinds cs = none) :
    ∀ before after, cs = before ++ '.' :: after → ¬ IsOfKind kinds after := by
  induction cs with
  | nil => simp
  | cons c rest ih =>
    rw [splitAtKind?_cons, Option.or_eq_none_iff, Option.map_eq_none_iff] at h
    intro before after hcs hkind
    cases before with
    | nil =>
      obtain ⟨rfl, rfl⟩ := List.cons.inj hcs
      exact absurd h.2 (by simp [any_isPrefixOf_iff.mpr hkind])
    | cons x before => exact ih h.1 before after (List.cons.inj hcs).2 hkind

theorem splitAtKind?_eq_none (h : ∀ before after, cs = before ++ '.' :: after →
    ¬ IsOfKind kinds after) : splitAtKind? kinds cs = none := by
  induction cs with
  | nil => rfl
  | cons c rest ih =>
    have hrest := ih fun before after hrest => h (c :: before) after (congrArg (c :: ·) hrest)
    have hnot : ¬ (c = '.' ∧ kinds.any (·.isPrefixOf rest)) := by
      rintro ⟨rfl, hkind⟩
      exact h [] rest rfl (any_isPrefixOf_iff.mp hkind)
    rw [splitAtKind?_cons, hrest, if_neg hnot]
    rfl

/-- A name is split at the last point that a kind follows. -/
theorem IsLastPoint.splitAtKind? (h : IsLastPoint kinds before after cs) :
    splitAtKind? kinds cs = some (before, after) := by
  obtain ⟨rfl, hkind, hlast⟩ := h
  induction before with
  | nil =>
    show InstallerName.splitAtKind? kinds ('.' :: after) = _
    rw [splitAtKind?_cons, splitAtKind?_eq_none hlast,
      if_pos ⟨rfl, any_isPrefixOf_iff.mpr hkind⟩]
    rfl
  | cons c before ih =>
    show InstallerName.splitAtKind? kinds (c :: (before ++ '.' :: after)) = _
    rw [splitAtKind?_cons, ih]
    rfl

/-- Where a name is split, there is the last point that a kind follows. -/
theorem isLastPoint_of_splitAtKind?
    (h : InstallerName.splitAtKind? kinds cs = some (before, after)) :
    IsLastPoint kinds before after cs := by
  induction cs generalizing before with
  | nil => cases h
  | cons c rest ih =>
    rw [splitAtKind?_cons, Option.or_eq_some_iff, Option.map_eq_some_iff,
      Option.map_eq_none_iff] at h
    rcases h with ⟨⟨_, _⟩, hrest, he⟩ | ⟨hnone, hpoint⟩
    · cases he
      obtain ⟨hsplit, hkind, hlast⟩ := ih hrest
      exact ⟨congrArg (c :: ·) hsplit, hkind, hlast⟩
    · split at hpoint
      · rename_i hc
        cases hpoint
        exact ⟨by rw [hc.1]; rfl, any_isPrefixOf_iff.mp hc.2,
          not_isOfKind_of_splitAtKind?_eq_none hnone⟩
      · cases hpoint

theorem splitAtKind?_eq_some_iff :
    InstallerName.splitAtKind? kinds cs = some (before, after) ↔
      IsLastPoint kinds before after cs :=
  ⟨isLastPoint_of_splitAtKind?, IsLastPoint.splitAtKind?⟩

/-! ## One line -/

/-- The text is `body`, after which a line feed may stand. -/
def IsLineOf (body cs : List Char) : Prop := cs = body ∨ cs = body ++ ['\n']

theorem isLineOf_append (before : List Char) :
    IsLineOf body after → IsLineOf (before ++ body) (before ++ after) := by
  rintro (rfl | rfl)
  · exact .inl rfl
  · exact .inr (List.append_assoc before body ['\n']).symm

/-- A single line is a text without line feeds, but for one at its end. -/
theorem singleLine?_eq_some_iff :
    singleLine? cs = some body ↔ IsLineOf body cs ∧ '\n' ∉ body := by
  unfold singleLine?
  dsimp only
  constructor
  · intro h
    split at h
    · cases h
    · rename_i hline
      cases h
      exact ⟨dropFinalBreak_cases cs, by simpa using hline⟩
  · rintro ⟨rfl | rfl, hline⟩
    · rw [dropFinalBreak_of_not_mem hline]
      simp [hline]
    · rw [dropFinalBreak_append_break]
      simp [hline]

/-! ## The two forms -/

/-- The marker, an architecture, a dash, a version, a point and an extension. -/
def dashedText (marker arch version ext : List Char) : List Char :=
  marker ++ (arch ++ '-' :: (version ++ '.' :: ext))

/-- The text has the dashed form, and the extension begins at the last point where it could. -/
structure IsDashed (marker : List Char) (kinds : List (List Char))
    (arch version ext cs : List Char) : Prop where
  text : IsLineOf (dashedText marker arch version ext) cs
  nonempty : arch ≠ [] ∧ version ≠ []
  noDash : '-' ∉ arch
  oneLine : '\n' ∉ version ++ '.' :: ext
  point : IsLastPoint kinds version ext (version ++ '.' :: ext)

/-- What is read with dashes is written with dashes. -/
theorem isDashed_of_dashed? (h : dashed? marker kinds cs = some (arch, version, ext)) :
    IsDashed marker kinds arch version ext cs := by
  unfold dashed? at h
  obtain ⟨rest, hmarker, h⟩ := Option.bind_eq_some_iff.mp h
  obtain ⟨⟨word, line⟩, hword, h⟩ := Option.bind_eq_some_iff.mp h
  obtain ⟨body, hbody, h⟩ := Option.bind_eq_some_iff.mp h
  cases word with
  | nil => cases h
  | cons d word =>
    cases body with
    | nil => cases h
    | cons first body =>
      obtain ⟨⟨start, tail⟩, hpoint, h⟩ := Option.bind_eq_some_iff.mp h
      cases h
      rw [afterWord?_eq_some_iff] at hmarker
      obtain ⟨rfl, hdash⟩ := splitFirst_eq_some_iff.mp hword
      obtain ⟨hline, hbreak⟩ := singleLine?_eq_some_iff.mp hbody
      obtain ⟨rfl, hkind, hlast⟩ := splitAtKind?_eq_some_iff.mp hpoint
      have htext : IsLineOf (d :: word ++ '-' :: (first :: start ++ '.' :: ext))
          (d :: word ++ '-' :: line) :=
        isLineOf_append _ (isLineOf_append ['-'] hline)
      rw [hmarker]
      exact ⟨isLineOf_append _ htext, ⟨nofun, nofun⟩, hdash, hbreak, rfl, hkind, hlast⟩

/-- What is written with dashes is read as what was written. -/
theorem IsDashed.dashed?_eq_some (h : IsDashed marker kinds arch version ext cs) :
    dashed? marker kinds cs = some (arch, version, ext) := by
  obtain ⟨htext, ⟨harch, hversion⟩, hdash, hbreak, hpoint⟩ := h
  obtain ⟨d, word, rfl⟩ := List.exists_cons_of_ne_nil harch
  obtain ⟨first, start, rfl⟩ := List.exists_cons_of_ne_nil hversion
  obtain ⟨line, rfl, hline⟩ : ∃ line, cs = marker ++ (d :: word ++ '-' :: line) ∧
      IsLineOf (first :: start ++ '.' :: ext) line := by
    rcases htext with rfl | rfl
    · exact ⟨_, rfl, .inl rfl⟩
    · exact ⟨_, by simp [dashedText], .inr rfl⟩
  have hlast : IsLastPoint kinds start ext (start ++ '.' :: ext) :=
    ⟨rfl, hpoint.kind, hpoint.last⟩
  unfold dashed?
  refine Option.bind_eq_some_iff.mpr ⟨_, afterWord?_eq_some_iff.mpr rfl, ?_⟩
  refine Option.bind_eq_some_iff.mpr ⟨_, splitFirst_append_cons hdash, ?_⟩
  refine Option.bind_eq_some_iff.mpr ⟨_, singleLine?_eq_some_iff.mpr ⟨hline, hbreak⟩, ?_⟩
  exact Option.bind_eq_some_iff.mpr ⟨_, hlast.splitAtKind?, rfl⟩

/-- An underscore, a version, an underscore, an architecture, a point and an extension. -/
def underscoredText (version arch ext : List Char) : List Char :=
  '_' :: (version ++ '_' :: (arch ++ '.' :: ext))

/-- The text has the form with underscores. -/
structure IsUnderscored (version arch ext cs : List Char) : Prop where
  text : IsLineOf (underscoredText version arch ext) cs
  nonempty : version ≠ [] ∧ arch ≠ []
  noUnderscore : '_' ∉ version
  noPoint : '.' ∉ arch
  oneLine : '\n' ∉ ext
  kind : "deb".toList <+: ext

/-- What is read with underscores is written with underscores. -/
theorem isUnderscored_of_underscored? (h : underscored? cs = some (version, arch, ext)) :
    IsUnderscored version arch ext cs := by
  unfold underscored? at h
  obtain ⟨rest, hstart, h⟩ := Option.bind_eq_some_iff.mp h
  obtain ⟨⟨version', rest'⟩, hversion, h⟩ := Option.bind_eq_some_iff.mp h
  obtain ⟨⟨arch', line⟩, harch, h⟩ := Option.bind_eq_some_iff.mp h
  obtain ⟨ext', hext, h⟩ := Option.bind_eq_some_iff.mp h
  split at h
  · rename_i hparts
    cases h
    simp only [Bool.and_eq_true, Bool.not_eq_true', List.isEmpty_eq_false_iff,
      List.isPrefixOf_iff_prefix] at hparts
    obtain ⟨hnonempty, hkind⟩ := hparts
    rw [afterWord?_eq_some_iff] at hstart
    obtain ⟨rfl, hunderscore⟩ := splitFirst_eq_some_iff.mp hversion
    obtain ⟨rfl, hpoint⟩ := splitFirst_eq_some_iff.mp harch
    obtain ⟨hline, hbreak⟩ := singleLine?_eq_some_iff.mp hext
    have htext : IsLineOf ('_' :: (version ++ '_' :: (arch ++ '.' :: ext)))
        ('_' :: (version ++ '_' :: (arch ++ '.' :: line))) := by
      have hlast := isLineOf_append (arch ++ ['.']) hline
      have hmiddle := isLineOf_append ('_' :: version ++ ['_']) hlast
      simpa using hmiddle
    rw [hstart]
    exact ⟨htext, hnonempty, hunderscore, hpoint, hbreak, hkind⟩
  · cases h

/-- What is written with underscores is read as what was written. -/
theorem IsUnderscored.underscored?_eq_some (h : IsUnderscored version arch ext cs) :
    underscored? cs = some (version, arch, ext) := by
  obtain ⟨htext, ⟨hversion, harch⟩, hunderscore, hpoint, hbreak, hkind⟩ := h
  obtain ⟨line, rfl, hline⟩ : ∃ line, cs = '_' :: (version ++ '_' :: (arch ++ '.' :: line)) ∧
      IsLineOf ext line := by
    rcases htext with rfl | rfl
    · exact ⟨_, rfl, .inl rfl⟩
    · exact ⟨_, by simp [underscoredText], .inr rfl⟩
  have hparts : (!version.isEmpty && !arch.isEmpty && ['d', 'e', 'b'].isPrefixOf ext) = true := by
    have hdeb : ['d', 'e', 'b'].isPrefixOf ext = true := List.isPrefixOf_iff_prefix.mpr hkind
    simp [hversion, harch, hdeb]
  unfold underscored?
  refine Option.bind_eq_some_iff.mpr ⟨_, afterWord?_eq_some_iff.mpr rfl, ?_⟩
  refine Option.bind_eq_some_iff.mpr ⟨_, splitFirst_append_cons hunderscore, ?_⟩
  refine Option.bind_eq_some_iff.mpr ⟨_, splitFirst_append_cons hpoint, ?_⟩
  refine Option.bind_eq_some_iff.mpr ⟨_, singleLine?_eq_some_iff.mpr ⟨hline, hbreak⟩, ?_⟩
  exact if_pos hparts

/-! ## The first place of a form -/

theorem dashed?_eq_none (h : ¬ marker <+: cs) : dashed? marker kinds cs = none := by
  cases hword : afterWord? marker cs with
  | none =>
    unfold dashed?
    rw [hword]
    rfl
  | some rest => exact absurd ⟨rest, (afterWord?_eq_some_iff.mp hword).symm⟩ h

/-- A text that does not hold the marker has no dashed form. -/
theorem ofDashed?_eq_none (system : OperatingSystem) (h : ¬ marker <:+: cs) :
    ofDashed? system marker kinds cs = none := by
  unfold ofDashed?
  rw [Option.map_eq_none_iff]
  refine firstFound?_eq_none fun before after hcs => dashed?_eq_none fun hmarker => h ?_
  rw [hcs]
  exact hmarker.isInfix.trans (List.suffix_append before after).isInfix

/-- The dashed form that begins at the first place of the marker is the one that is found. -/
theorem ofDashed?_eq_some (system : OperatingSystem) (hfirst : IsFirstPlace marker before after cs)
    (h : IsDashed marker kinds arch version ext (marker ++ after)) :
    ofDashed? system marker kinds cs =
      some ⟨system, String.ofList arch, String.ofList version, String.ofList ext⟩ := by
  have hfound : firstFound? (dashed? marker kinds) (before ++ (marker ++ after)) =
      some (arch, version, ext) := by
    refine firstFound?_append h.dashed?_eq_some fun earlier c rest hbefore => ?_
    refine dashed?_eq_none fun ⟨after', hafter'⟩ => ?_
    have hsplit : cs = earlier ++ marker ++ after' := by
      rw [hfirst.split, hbefore, List.append_assoc earlier marker, hafter']
      simp
    have hle := hfirst.first earlier after' hsplit
    rw [hbefore, List.length_append, List.length_cons] at hle
    omega
  unfold ofDashed?
  rw [hfirst.split, List.append_assoc, hfound]
  rfl

/-- What a name with a marker tells is written with dashes at some place of it. -/
theorem exists_isDashed_of_ofDashed? {system : OperatingSystem} {i : InstallerName}
    (h : ofDashed? system marker kinds cs = some i) :
    ∃ before after, cs = before ++ after ∧ i.system = system ∧
      IsDashed marker kinds i.arch.toList i.version.toList i.ext.toList after := by
  obtain ⟨⟨arch, version, ext⟩, hfound, rfl⟩ := Option.map_eq_some_iff.mp h
  obtain ⟨before, after, hcs, hdashed⟩ := exists_of_firstFound? hfound
  refine ⟨before, after, hcs, rfl, ?_⟩
  simpa using isDashed_of_dashed? hdashed

theorem IsLineOf.exists_append {body cs : List Char} (h : IsLineOf body cs) :
    ∃ more, cs = body ++ more := by
  rcases h with rfl | rfl
  · exact ⟨[], (List.append_nil _).symm⟩
  · exact ⟨_, rfl⟩

/-- A form with underscores does not begin before the version if the version holds a point: the
architecture would reach over that point to the first `.deb`. -/
theorem underscored?_eq_none {product earlier rest : List Char} {c : Char} (hpoint : '.' ∈ version)
    (hfirst : IsFirstPlace ".deb".toList (product ++ '_' :: (version ++ '_' :: arch)) after cs)
    (hproduct : product = earlier ++ c :: rest) :
    underscored? (c :: rest ++ underscoredText version arch ("deb".toList ++ after)) = none := by
  rw [Option.eq_none_iff_forall_ne_some]
  rintro ⟨version', arch', ext'⟩ hfound
  obtain ⟨htext, -, hunderscore, hnoPoint, -, ⟨more, rfl⟩⟩ := isUnderscored_of_underscored? hfound
  obtain ⟨final, hfinal⟩ := htext.exists_append
  obtain ⟨rfl, hrest⟩ := List.cons.inj hfinal
  have hdeb : ".deb".toList = '.' :: "deb".toList := by decide
  have hplace : cs = earlier ++ '_' :: (version' ++ '_' :: arch') ++ ".deb".toList ++
      (more ++ final) := by
    calc cs = earlier ++ '_' :: (rest ++ underscoredText version arch ("deb".toList ++ after)) := by
          rw [hfirst.split, hproduct, hdeb]
          simp [underscoredText]
      _ = _ := by
          rw [show rest ++ _ = _ from hrest, hdeb]
          simp
  have hle := hfirst.first _ _ hplace
  have hshort : product ++ '_' :: (version ++ '_' :: arch) <+: cs :=
    ⟨".deb".toList ++ after, (List.append_assoc _ _ _).symm.trans hfirst.split.symm⟩
  have hlong : earlier ++ '_' :: (version' ++ '_' :: arch') <+: cs :=
    ⟨".deb".toList ++ (more ++ final), (List.append_assoc _ _ _).symm.trans hplace.symm⟩
  obtain ⟨between, hbetween⟩ := List.prefix_of_prefix_length_le hshort hlong hle
  have hsame : version' ++ '_' :: arch' = rest ++ '_' :: (version ++ '_' :: arch ++ between) := by
    rw [hproduct] at hbetween
    simpa using hbetween.symm
  exact hnoPoint ((suffix_of_first hunderscore hsame).mem (by simp [hpoint]))

/-! ## Names -/

end InstallerName

/-- The kinds of files that installers for a system come in. -/
def OperatingSystem.kinds : OperatingSystem → List String
  | .darwin => ["dmg", "zip"]
  | .win32 => ["exe"]
  | .linux => ["deb"]

namespace InstallerName

/-- What a name that tells this ends with. -/
def written (i : InstallerName) : String :=
  match i.system with
  | .darwin => "-mac-" ++ i.arch ++ "-" ++ i.version ++ "." ++ i.ext
  | .win32 => "-win-" ++ i.arch ++ "-" ++ i.version ++ "." ++ i.ext
  | .linux => "_" ++ i.version ++ "_" ++ i.arch ++ "." ++ i.ext

/-- The name ends with the given parts in the form of their system, and a line feed may follow. -/
structure Tells (name : String) (i : InstallerName) : Prop where
  ends : ∃ product, name = product ++ i.written ∨ name = product ++ i.written ++ "\n"
  kind : ∃ kind ∈ i.system.kinds, kind.toList <+: i.ext.toList
  nonempty : i.arch ≠ "" ∧ i.version ≠ ""
  separated : match i.system with
    | .linux => '_' ∉ i.version.toList ∧ '.' ∉ i.arch.toList
    | _ => '-' ∉ i.arch.toList

/-- A line at the end of a name ends it, up to a line feed. -/
theorem ends_of_isLineOf {name : String} {i : InstallerName} (hname : name.toList = before ++ after)
    (h : IsLineOf i.written.toList after) :
    ∃ product, name = product ++ i.written ∨ name = product ++ i.written ++ "\n" := by
  refine ⟨String.ofList before, ?_⟩
  rcases h with rfl | rfl
  · exact .inl (String.toList_inj.mp (by simp [hname]))
  · exact .inr (String.toList_inj.mp (by simp [hname]))

/-- What a name with a marker tells stands at its end. -/
theorem tells_of_ofDashed? {system : OperatingSystem} {name : String} {i : InstallerName}
    (h : ofDashed? system marker kinds name.toList = some i) (hsystem : system ≠ .linux)
    (hkinds : kinds = system.kinds.map String.toList)
    (hwritten : ∀ i : InstallerName, i.system = system → i.written.toList =
      dashedText marker i.arch.toList i.version.toList i.ext.toList) : Tells name i := by
  obtain ⟨before, after, hname, rfl, hdashed⟩ := exists_isDashed_of_ofDashed? h
  have htext : IsLineOf i.written.toList after := hwritten i rfl ▸ hdashed.text
  refine ⟨ends_of_isLineOf hname htext, ?kind, by simpa using hdashed.nonempty, ?separated⟩
  case kind =>
    obtain ⟨kind, hkind, hprefix⟩ := hdashed.point.kind
    rw [hkinds] at hkind
    obtain ⟨k, hk, rfl⟩ := List.mem_map.mp hkind
    exact ⟨k, hk, hprefix⟩
  case separated =>
    cases hs : i.system with
    | linux => exact absurd hs hsystem
    | darwin => exact hdashed.noDash
    | win32 => exact hdashed.noDash

/-- What a name for Linux tells stands at its end. -/
theorem tells_of_isUnderscored {name : String} {i : InstallerName} (hsystem : i.system = .linux)
    (hname : name.toList = before ++ after)
    (h : IsUnderscored i.version.toList i.arch.toList i.ext.toList after) : Tells name i := by
  have hwritten : i.written.toList =
      underscoredText i.version.toList i.arch.toList i.ext.toList := by
    simp [written, hsystem, underscoredText]
  refine ⟨ends_of_isLineOf hname (hwritten ▸ h.text), ?kind, ?nonempty, ?separated⟩
  case kind => exact ⟨"deb", by simp [hsystem, OperatingSystem.kinds], h.kind⟩
  case nonempty => simpa using h.nonempty.symm
  case separated =>
    rw [hsystem]
    exact ⟨h.noUnderscore, h.noPoint⟩

/-- What a name is read as stands at its end. -/
theorem tells_of_parse? {name : String} {i : InstallerName} (h : parse? name = some i) :
    Tells name i := by
  unfold parse? at h
  dsimp only at h
  rcases Option.or_eq_some_iff.mp h with h | ⟨-, h⟩
  · refine tells_of_ofDashed? h (by decide) rfl fun i hi => ?_
    simp [written, hi, dashedText]
  · rcases Option.or_eq_some_iff.mp h with h | ⟨-, h⟩
    · refine tells_of_ofDashed? h (by decide) rfl fun i hi => ?_
      simp [written, hi, dashedText]
    · obtain ⟨⟨version, arch, ext⟩, hfound, rfl⟩ := Option.map_eq_some_iff.mp h
      obtain ⟨before, after, hname, hunderscored⟩ := exists_of_firstFound? hfound
      refine tells_of_isUnderscored rfl hname ?_
      simpa using isUnderscored_of_underscored? hunderscored

/-- A name with the parts of an installer for macOS or Windows. -/
def dashedName (marker product arch version ext : String) : String :=
  product ++ marker ++ arch ++ "-" ++ version ++ "." ++ ext

/-- The parts of the name can be told from each other. -/
structure IsDashedName (marker : String) (kinds : List String) (product arch version ext : String) :
    Prop where
  nonempty : arch ≠ "" ∧ version ≠ ""
  noDash : '-' ∉ arch.toList
  oneLine : '\n' ∉ version.toList ∧ '\n' ∉ ext.toList
  kind : ∃ kind ∈ kinds, kind.toList <+: ext.toList
  noOtherKind : ∀ kind ∈ kinds, ¬ ("." ++ kind).toList <:+: ext.toList
  firstMarker : IsFirstPlace marker.toList product.toList
    (arch ++ "-" ++ version ++ "." ++ ext).toList
    (dashedName marker product arch version ext).toList

/-- A name with the parts of a package for Linux. -/
def packageName (product version arch ext : String) : String :=
  product ++ "_" ++ version ++ "_" ++ arch ++ "." ++ ext

/-- The parts of the name can be told from each other. -/
structure IsPackageName (product version arch ext : String) : Prop where
  noUnderscore : '_' ∉ version.toList
  point : '.' ∈ version.toList
  nonempty : arch ≠ ""
  noPoint : '.' ∉ arch.toList
  kind : "deb".toList <+: ext.toList
  oneLine : '\n' ∉ ext.toList
  firstKind : ∃ after, IsFirstPlace ".deb".toList
    (product ++ "_" ++ version ++ "_" ++ arch).toList after
    (packageName product version arch ext).toList
  noMarker : ¬ "-mac-".toList <:+: (packageName product version arch ext).toList ∧
    ¬ "-win-".toList <:+: (packageName product version arch ext).toList

theorem IsDashedName.isDashed {marker product arch version ext : String} {kinds : List String}
    (h : IsDashedName marker kinds product arch version ext) :
    IsDashed marker.toList (kinds.map String.toList) arch.toList version.toList ext.toList
      (marker.toList ++ (arch ++ "-" ++ version ++ "." ++ ext).toList) := by
  refine ⟨.inl ?text, by simpa using h.nonempty, h.noDash, by simpa using h.oneLine, rfl, ?kind,
    ?last⟩
  case text => simp [dashedText]
  case kind =>
    obtain ⟨kind, hkind, hprefix⟩ := h.kind
    exact ⟨kind.toList, List.mem_map_of_mem hkind, hprefix⟩
  case last =>
    rintro before after hext ⟨kind, hkind, hprefix⟩
    obtain ⟨k, hk, rfl⟩ := List.mem_map.mp hkind
    obtain ⟨more, rfl⟩ := hprefix
    exact h.noOtherKind k hk ⟨before, more, by simp [hext]⟩

/-- A name for macOS is read as what it was put together from. -/
theorem parse?_of_isDashedName_mac {product arch version ext : String}
    (h : IsDashedName "-mac-" ["dmg", "zip"] product arch version ext) :
    parse? (dashedName "-mac-" product arch version ext) =
      some ⟨.darwin, arch, version, ext⟩ := by
  have hfound := ofDashed?_eq_some .darwin h.firstMarker h.isDashed
  unfold parse?
  dsimp only
  rw [show ofDashed? .darwin "-mac-".toList ["dmg".toList, "zip".toList] _ = _ from hfound]
  simp

/-- A name for Windows is read as what it was put together from. -/
theorem parse?_of_isDashedName_win {product arch version ext : String}
    (h : IsDashedName "-win-" ["exe"] product arch version ext)
    (hmac : ¬ "-mac-".toList <:+: (dashedName "-win-" product arch version ext).toList) :
    parse? (dashedName "-win-" product arch version ext) =
      some ⟨.win32, arch, version, ext⟩ := by
  have hfound := ofDashed?_eq_some .win32 h.firstMarker h.isDashed
  unfold parse?
  dsimp only
  rw [ofDashed?_eq_none .darwin hmac, Option.none_or,
    show ofDashed? .win32 "-win-".toList ["exe".toList] _ = _ from hfound]
  simp

theorem IsPackageName.isUnderscored {product version arch ext : String}
    (h : IsPackageName product version arch ext) :
    IsUnderscored version.toList arch.toList ext.toList
      (underscoredText version.toList arch.toList ext.toList) := by
  refine ⟨.inl rfl, ⟨?version, by simpa using h.nonempty⟩, h.noUnderscore, h.noPoint, h.oneLine,
    h.kind⟩
  case version =>
    intro hempty
    have hpoint := h.point
    rw [hempty] at hpoint
    cases hpoint

/-- A name for Linux is read as what it was put together from. -/
theorem parse?_of_isPackageName {product version arch ext : String}
    (h : IsPackageName product version arch ext) :
    parse? (packageName product version arch ext) = some ⟨.linux, arch, version, ext⟩ := by
  obtain ⟨after, hfirst⟩ := h.firstKind
  have hplace : (product ++ "_" ++ version ++ "_" ++ arch).toList =
      product.toList ++ '_' :: (version.toList ++ '_' :: arch.toList) := by simp
  have hext : ext.toList = "deb".toList ++ after := by
    have hsplit := hfirst.split
    simpa [packageName] using hsplit
  have hname : (packageName product version arch ext).toList =
      product.toList ++ underscoredText version.toList arch.toList ext.toList := by
    simp [packageName, underscoredText]
  rw [hplace] at hfirst
  have hfound : firstFound? underscored? (packageName product version arch ext).toList =
      some (version.toList, arch.toList, ext.toList) := by
    rw [hname]
    refine firstFound?_append h.isUnderscored.underscored?_eq_some fun earlier c rest hproduct => ?_
    rw [hext]
    exact underscored?_eq_none h.point hfirst hproduct
  unfold parse?
  dsimp only
  rw [ofDashed?_eq_none .darwin h.noMarker.1, ofDashed?_eq_none .win32 h.noMarker.2, hfound]
  simp

end InstallerName

end InstallerGateway
