import InstallerGateway.Key.Basic
import InstallerGateway.Proofs.Text.Split
import Mathlib.Data.List.TakeWhile

/-!
# Usable keys

A key is usable exactly if it is safe: it holds something else than blanks, no backslash and no
control character, and no segment that steps upwards or is too long. A path in which a usable key
follows a directory stays below the directory, and two usable keys make up a usable key.
-/

namespace InstallerGateway

theorem stripBy_eq_nil_iff {p : Char → Bool} {cs : List Char} :
    stripBy p cs = [] ↔ ∀ c ∈ cs, p c = true := by
  unfold stripBy
  rw [List.reverse_eq_nil_iff, List.dropWhile_eq_nil_iff]
  constructor
  · intro h c hc
    rw [← List.takeWhile_append_dropWhile (p := p) (l := cs)] at hc
    rcases List.mem_append.mp hc with hc | hc
    · exact List.mem_takeWhile_imp hc
    · exact h c (List.mem_reverse.mpr hc)
  · intro h c hc
    exact h c ((List.dropWhile_sublist p).mem (List.mem_reverse.mp hc))

theorem strip_eq_empty_iff {s : String} : strip s = "" ↔ ∀ c ∈ s.toList, isBlank c = true := by
  unfold strip
  rw [← stripBy_eq_nil_iff]
  exact String.ofList_eq_empty_iff

namespace Key

variable {key other : String} {segment : List Char} {directory : List (List Char)}

/-! ## What is refused -/

/-- The key holds nothing that no object's name may hold, and nothing that leads elsewhere. -/
structure IsSafe (key : String) : Prop where
  notBlank : strip key ≠ ""
  noBackslash : '\\' ∉ key.toList
  noControl : ∀ c ∈ key.toList, 0x1F < c.toNat ∧ c.toNat ≠ 0x7F
  segments : ∀ segment ∈ key.toList.splitOn '/', segment.length ≤ 255 ∧ segment ≠ ['.', '.']

theorem isControl_eq_false_iff {c : Char} :
    isControl c = false ↔ 0x1F < c.toNat ∧ c.toNat ≠ 0x7F := by
  unfold isControl
  simp only [Bool.or_eq_false_iff, decide_eq_false_iff_not, beq_eq_false_iff_ne]
  omega

theorem segmentFault?_eq_none_iff :
    segmentFault? segment = none ↔ segment.length ≤ 255 ∧ segment ≠ ['.', '.'] := by
  unfold segmentFault? maxSegment
  by_cases hup : segment = ['.', '.']
  · simp [hup]
  · by_cases hlong : 255 < segment.length
    · simp [hup, hlong]
    · simp [hup, hlong, Nat.not_lt.mp hlong]

theorem all_isBlank_iff : key.toList.all isBlank = true ↔ strip key = "" := by
  rw [strip_eq_empty_iff, List.all_eq_true]

theorem any_isControl_eq_false_iff :
    key.toList.any isControl = false ↔ ∀ c ∈ key.toList, 0x1F < c.toNat ∧ c.toNat ≠ 0x7F := by
  rw [List.any_eq_false]
  refine forall₂_congr fun c _ => ?_
  rw [Bool.not_eq_true, isControl_eq_false_iff]

theorem findSome?_segmentFault?_eq_none_iff :
    (splitAll '/' key.toList).findSome? segmentFault? = none ↔
      ∀ segment ∈ key.toList.splitOn '/', segment.length ≤ 255 ∧ segment ≠ ['.', '.'] := by
  rw [splitAll_eq_splitOn, List.findSome?_eq_none_iff]
  exact forall₂_congr fun segment _ => segmentFault?_eq_none_iff

/-- A key is accepted exactly if it is safe. -/
theorem fault?_eq_none_iff : fault? key = none ↔ IsSafe key := by
  unfold fault?
  dsimp only
  constructor
  · intro h
    split at h
    · cases h
    · rename_i hblank
      split at h
      · cases h
      · rename_i hbackslash
        split at h
        · cases h
        · rename_i hcontrol
          exact ⟨fun he => hblank (all_isBlank_iff.mpr he), by simpa using hbackslash,
            any_isControl_eq_false_iff.mp (Bool.not_eq_true _ ▸ hcontrol),
            findSome?_segmentFault?_eq_none_iff.mp h⟩
  · intro h
    have hblank : ¬ key.toList.all isBlank = true := fun he => h.notBlank (all_isBlank_iff.mp he)
    have hbackslash : ¬ key.toList.contains '\\' = true := by simpa using h.noBackslash
    have hcontrol : ¬ key.toList.any isControl = true := by
      rw [any_isControl_eq_false_iff.mpr h.noControl]
      decide
    rw [if_neg hblank, if_neg hbackslash, if_neg hcontrol]
    exact findSome?_segmentFault?_eq_none_iff.mpr h.segments

theorem validate_eq_ok_iff : validate key = .ok other ↔ key = other ∧ IsSafe key := by
  unfold validate
  rw [← fault?_eq_none_iff]
  cases fault? key with
  | none => simp
  | some f => simp

/-! ## Paths -/

/-- The directory that the next segment of a path leads to: an empty segment and a point lead
nowhere else, two points lead upwards. -/
def descend (directory : List (List Char)) (segment : List Char) : List (List Char) :=
  if segment = [] ∨ segment = ['.'] then directory
  else if segment = ['.', '.'] then directory.dropLast
  else directory ++ [segment]

/-- The names of the directories that a path leads through, and of what lies at its end. -/
def normalized (path : String) : List (List Char) := (path.toList.splitOn '/').foldl descend []

/-- The segment is the name of something in a directory. -/
def isName (segment : List Char) : Bool := segment ≠ [] && segment ≠ ['.']

theorem descend_of_ne_up (h : segment ≠ ['.', '.']) :
    descend directory segment = directory ++ [segment].filter isName := by
  unfold descend isName
  by_cases hstay : segment = [] ∨ segment = ['.']
  · rcases hstay with hs | hs <;> simp [hs]
  · obtain ⟨hempty, hpoint⟩ := not_or.mp hstay
    rw [if_neg hstay, if_neg h]
    simp [hempty, hpoint]

/-- Segments that do not lead upwards lead from every directory further down. -/
theorem foldl_descend {segments : List (List Char)} (h : ∀ s ∈ segments, s ≠ ['.', '.']) :
    segments.foldl descend directory = directory ++ segments.filter isName := by
  induction segments generalizing directory with
  | nil => simp
  | cons s rest ih =>
    have hs : s ≠ ['.', '.'] := h s List.mem_cons_self
    have hrest : ∀ s ∈ rest, s ≠ ['.', '.'] := fun s hs => h s (List.mem_cons_of_mem _ hs)
    rw [List.foldl_cons, ih hrest, descend_of_ne_up hs, List.append_assoc, ← List.filter_append,
      List.singleton_append]

theorem splitOn_slash (a b : String) :
    (a ++ "/" ++ b).toList.splitOn '/' = a.toList.splitOn '/' ++ b.toList.splitOn '/' := by
  have hslash : "/".toList = ['/'] := by decide
  rw [String.toList_append, String.toList_append, hslash, List.append_assoc, List.singleton_append,
    List.splitOn_append_cons_self]

/-- A safe key leads no further up than the directory that it is put in. -/
theorem IsSafe.normalized_below (h : IsSafe key) (directory : String) :
    normalized (directory ++ "/" ++ key) =
      normalized directory ++ (key.toList.splitOn '/').filter isName := by
  unfold normalized
  rw [splitOn_slash, List.foldl_append, foldl_descend fun s hs => (h.segments s hs).2]

/-- Safe keys are safe when they are joined. -/
theorem IsSafe.join (h : IsSafe key) (h' : IsSafe other) : IsSafe (key ++ "/" ++ other) := by
  refine ⟨?notBlank, ?noBackslash, ?noControl, ?segments⟩
  case notBlank =>
    intro hblank
    refine h.notBlank (strip_eq_empty_iff.mpr fun c hc => ?_)
    exact strip_eq_empty_iff.mp hblank c (by simp [hc])
  case noBackslash => simp [h.noBackslash, h'.noBackslash]
  case noControl =>
    intro c hc
    rw [String.toList_append, String.toList_append] at hc
    rcases List.mem_append.mp hc with hc | hc
    · rcases List.mem_append.mp hc with hc | hc
      · exact h.noControl c hc
      · obtain rfl : c = '/' := by simpa using hc
        decide
    · exact h'.noControl c hc
  case segments =>
    intro segment hs
    rw [splitOn_slash] at hs
    rcases List.mem_append.mp hs with hs | hs
    · exact h.segments segment hs
    · exact h'.segments segment hs

/-- A key is given back unchanged exactly if it is safe, and refused otherwise. Below whatever
directory a key that is given back stands, the path leads through the directory and from there
through the names in the key, so that it never leaves the directory. Two keys that are given back
make up a key that is given back. -/
theorem validate_language (key : String) :
    (validate key = .ok key ↔ IsSafe key) ∧
    (¬ IsSafe key → ∃ f, validate key = .error f) ∧
    (validate key = .ok key → ∀ directory, normalized (directory ++ "/" ++ key) =
      normalized directory ++ (key.toList.splitOn '/').filter isName) ∧
    ∀ other, validate key = .ok key → validate other = .ok other →
      validate (key ++ "/" ++ other) = .ok (key ++ "/" ++ other) := by
  have hsafe {key : String} : validate key = .ok key ↔ IsSafe key := by
    rw [validate_eq_ok_iff]
    exact and_iff_right rfl
  refine ⟨hsafe, ?refused, fun h => (hsafe.mp h).normalized_below, fun other h h' => ?joined⟩
  case refused =>
    intro h
    cases hvalid : validate key with
    | ok given => exact absurd (validate_eq_ok_iff.mp hvalid).2 h
    | error f => exact ⟨f, rfl⟩
  case joined => exact hsafe.mpr ((hsafe.mp h).join (hsafe.mp h'))

/-- The key of an installer, with a segment that leads nowhere else, below a directory that is given
by a path upwards and down again. -/
theorem validate_below_directory :
    validate "desktop/./app_1.2.deb" = .ok "desktop/./app_1.2.deb" ∧
    normalized ("/srv/old/../new" ++ "/" ++ "desktop/./app_1.2.deb") =
      ["srv".toList, "new".toList, "desktop".toList, "app_1.2.deb".toList] ∧
    validate "static//x" = .ok "static//x" ∧
    validate ("desktop/./app_1.2.deb" ++ "/" ++ "static//x") =
      .ok ("desktop/./app_1.2.deb" ++ "/" ++ "static//x") := by
  have hinstaller : validate "desktop/./app_1.2.deb" = .ok "desktop/./app_1.2.deb" := by decide
  have hstatic : validate "static//x" = .ok "static//x" := by decide
  obtain ⟨-, -, hbelow, hjoin⟩ := validate_language "desktop/./app_1.2.deb"
  refine ⟨hinstaller, ?_, hstatic, hjoin _ hinstaller hstatic⟩
  rw [hbelow hinstaller]
  decide

end Key

end InstallerGateway
