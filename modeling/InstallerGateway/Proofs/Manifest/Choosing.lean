import InstallerGateway.Proofs.Manifest.Files
import InstallerGateway.Proofs.Text.Replace
import Mathlib.Data.List.Count
import Mathlib.Data.List.Perm.Basic

/-!
# How the file of a release is chosen

Which key stands for a key of the newest release depends on how often two names occur among the
files of the manifest: the wanted one, which is the base name with the version at the first place of
`latest`, and the path. A name that occurs once is chosen; the path comes second, and only in a
manifest that has one. So the order of the files makes no difference.
-/

namespace InstallerGateway

/-- A base name that asks for the newest release holds the word. -/
theorem KeyDescriptor.isInfix_of_isLatest {d : KeyDescriptor} (h : d.isLatest = true) :
    "latest".toList <:+: d.baseName.toList := by
  unfold isLatest at h
  generalize d.baseName.toList = cs at h
  induction cs with
  | nil => cases h
  | cons c cs ih =>
    rcases Bool.or_eq_true_iff.mp h with hbegin | hlater
    · unfold beginsWithLatest at hbegin
      have hword := (Bool.and_eq_true_iff.mp hbegin).2
      split at hword
      · rename_i c' rest hafter
        rw [afterWord?_eq_some_iff.mp hafter]
        exact ⟨[c], c' :: rest, rfl⟩
      · cases hword
    · exact List.infix_cons (ih hlater)

namespace Manifest

variable {m : Manifest} {d : KeyDescriptor} {name : String}

/-- The names of the files. -/
def urls (m : Manifest) : List String := m.files.map (·.url)

/-- The manifest is one that is read from a text or from a byte string. -/
def IsRead (m : Manifest) : Prop := (∃ text, ofText text = .ok m) ∨ ∃ b, ofBytes b = .ok m

/-! ## How often a name occurs -/

theorem length_findFiles (m : Manifest) (name : String) :
    (m.findFiles name).length = m.urls.count name := by
  unfold findFiles urls
  rw [← List.countP_eq_length_filter, List.count, List.countP_map]
  rfl

theorem url_of_findFiles {e : ArtifactEntry} (h : m.findFiles name = [e]) : e.url = name := by
  have hmem : e ∈ m.findFiles name := by simp [h]
  simpa [findFiles] using (List.mem_filter.mp hmem).2

theorem matchCount_findFiles (m : Manifest) (name : String) :
    matchCount name (m.findFiles name) =
      Quoted.text name ++ " matches " ++ toString (m.urls.count name) ++ " file entries" := by
  unfold matchCount
  rw [length_findFiles]

theorem count_of_findFiles {e : ArtifactEntry} (h : m.findFiles name = [e]) :
    m.urls.count name = 1 := by
  rw [← length_findFiles, h]
  rfl

theorem count_ne_of_findFiles (h : ∀ e, m.findFiles name ≠ [e]) : m.urls.count name ≠ 1 := by
  rw [← length_findFiles]
  intro hone
  obtain ⟨e, he⟩ := List.length_eq_one_iff.mp hone
  exact h e he

/-- The path is chosen if it is the name of one file. -/
theorem primaryKey_eq (m : Manifest) (d : KeyDescriptor) : m.primaryKey d =
    if m.path.isEmpty then inconsistent "manifest has no primary path" ""
    else if m.urls.count m.path = 1 then .ok (d.join m.path)
    else inconsistent ("primary path " ++ (Quoted.text m.path ++ " matches " ++
      toString (m.urls.count m.path) ++ " file entries")) "" := by
  unfold primaryKey primary
  split_ifs with hpath hcount
  · rfl
  · split
    · rename_i e hfind
      rw [← url_of_findFiles hfind]
      rfl
    · rename_i hfind
      exact absurd hcount (count_ne_of_findFiles hfind)
  · split
    · rename_i e hfind
      exact absurd (count_of_findFiles hfind) hcount
    · rw [matchCount_findFiles]
      rfl

/-- The wanted name is chosen if it is the name of one file. -/
theorem concreteKey_eq (m : Manifest) (d : KeyDescriptor) : m.concreteKey d =
    if m.schema = .primaryOnly then m.primaryKey d
    else if m.urls.count (m.wantedName d) = 1 then .ok (d.join (m.wantedName d))
    else if m.urls.count (m.wantedName d) = 0 ∧ m.schema = .filesWithPrimary then m.primaryKey d
    else inconsistent (Quoted.text (m.wantedName d) ++ " matches " ++
      toString (m.urls.count (m.wantedName d)) ++ " file entries") d.key := by
  have hnone : (m.findFiles (m.wantedName d)).isEmpty = true ↔
      m.urls.count (m.wantedName d) = 0 := by
    rw [← length_findFiles, List.isEmpty_iff, List.length_eq_zero_iff]
  unfold concreteKey
  rw [← matchCount_findFiles]
  by_cases hschema : m.schema = .primaryOnly
  · rw [if_pos hschema, if_pos hschema]
  · rw [if_neg hschema, if_neg hschema]
    split
    · rename_i e hfind
      rw [if_pos (count_of_findFiles hfind), ← url_of_findFiles hfind]
    · rename_i hfind
      rw [if_neg (count_ne_of_findFiles hfind)]
      simp [hnone]

/-- The order of the files makes no difference: only how often names occur does. -/
theorem concreteKey_perm {files : List ArtifactEntry} (h : files.Perm m.files)
    (d : KeyDescriptor) : { m with files := files }.concreteKey d = m.concreteKey d := by
  have hcount (name : String) : { m with files := files }.urls.count name = m.urls.count name :=
    (h.map _).count_eq name
  have hwanted : { m with files := files }.wantedName d = m.wantedName d := rfl
  rw [concreteKey_eq, concreteKey_eq, primaryKey_eq, primaryKey_eq, hwanted]
  simp only [hcount]

/-! ## Manifests that are read -/

/-- A manifest has a path exactly if its schema says so, and without a list of files the path is the
only name. -/
structure IsConsistent (m : Manifest) : Prop where
  path : m.path = "" ↔ m.schema = .filesOnly
  primary : m.schema = .primaryOnly → m.urls = [m.path]

/-- A manifest that is read from a document is consistent. -/
theorem isConsistent_ofDatum {doc : Datum} (h : ofDatum doc = .ok m) : m.IsConsistent := by
  obtain ⟨hmanifest, hsays⟩ := ofDatum_eq_ok h
  obtain ⟨honly, -, hlist⟩ := hsays.schema_iff
  constructor
  case path =>
    refine ⟨fun hpath => hlist.mpr ⟨?_, hpath⟩, fun hschema => (hlist.mp hschema).2⟩
    intro hnone
    obtain ⟨e, -, hfiles, hurl⟩ := hsays.primary_of_primaryOnly hmanifest (honly.mpr hnone)
    exact hsays.url_ne hmanifest e (by simp [hfiles]) (hurl.trans hpath)
  case primary =>
    intro hschema
    obtain ⟨e, -, hfiles, hurl⟩ := hsays.primary_of_primaryOnly hmanifest hschema
    simp [urls, hfiles, hurl]

theorem IsRead.isConsistent (h : m.IsRead) : m.IsConsistent := by
  rcases h with ⟨text, h⟩ | ⟨b, h⟩
  · obtain ⟨doc, hdoc⟩ := exists_ofDatum_of_ofLoaded h
    exact isConsistent_ofDatum hdoc
  · obtain ⟨doc, hdoc⟩ := exists_ofDatum_of_ofLoaded h
    exact isConsistent_ofDatum hdoc

/-- In a manifest that has a path, the only thing that matters is how often it occurs. -/
theorem IsConsistent.kind_primaryKey (h : m.IsConsistent) (hschema : m.schema ≠ .filesOnly)
    (d : KeyDescriptor) : (m.primaryKey d).mapError (·.kind) =
      if m.urls.count m.path = 1 then .ok (d.join m.path) else .error .manifestInconsistency := by
  have hpath : m.path ≠ "" := fun hempty => hschema (h.path.mp hempty)
  rw [primaryKey_eq, if_neg (by simpa using hpath)]
  split_ifs <;> rfl

/-- The key that is told, or the kind of the error, by how often names occur. -/
theorem IsConsistent.kind_concreteKey (h : m.IsConsistent) (d : KeyDescriptor) :
    (m.concreteKey d).mapError (·.kind) =
      if m.schema = .primaryOnly then .ok (d.join m.path)
      else if m.urls.count (m.wantedName d) = 1 then .ok (d.join (m.wantedName d))
      else if m.urls.count (m.wantedName d) = 0 ∧ m.schema = .filesWithPrimary ∧
        m.urls.count m.path = 1 then .ok (d.join m.path)
      else .error .manifestInconsistency := by
  rw [concreteKey_eq]
  by_cases honly : m.schema = .primaryOnly
  · have hone : m.urls.count m.path = 1 := by simp [h.primary honly]
    rw [if_pos honly, if_pos honly, h.kind_primaryKey (by simp [honly]), if_pos hone]
  · rw [if_neg honly, if_neg honly]
    by_cases hwanted : m.urls.count (m.wantedName d) = 1
    · rw [if_pos hwanted, if_pos hwanted]
      rfl
    · rw [if_neg hwanted, if_neg hwanted]
      by_cases hsecond : m.urls.count (m.wantedName d) = 0 ∧ m.schema = .filesWithPrimary
      · rw [if_pos hsecond, h.kind_primaryKey (by simp [hsecond.2])]
        simp [hsecond]
      · have hnot : ¬ (m.urls.count (m.wantedName d) = 0 ∧ m.schema = .filesWithPrimary ∧
            m.urls.count m.path = 1) := fun hall => hsecond ⟨hall.1, hall.2.1⟩
        rw [if_neg hsecond, if_neg hnot]
        rfl

/-- What the manifest tells is the key of a name that occurs once. -/
theorem IsConsistent.count_of_concreteKey (h : m.IsConsistent) {key : String}
    (hkey : m.concreteKey d = .ok key) : ∃ name, m.urls.count name = 1 ∧ key = d.join name := by
  have hkind := h.kind_concreteKey d
  rw [hkey] at hkind
  split_ifs at hkind with honly hwanted hsecond
  · exact ⟨m.path, by simp [h.primary honly], Except.ok.inj hkind⟩
  · exact ⟨m.wantedName d, hwanted, Except.ok.inj hkind⟩
  · exact ⟨m.path, hsecond.2.2, Except.ok.inj hkind⟩
  · cases hkind

/-- The complete rule by which a manifest that is read tells the key for a key of the newest
release. The wanted name is the base name with the version at the first place of `latest`. Without a
list of files the path is chosen; else the wanted name, if it is the name of one file; else the
path, if no file has the wanted name and one has the path. In all other cases the manifest is
inconsistent, and there is no other error. So what is told is always a name that occurs once, and
the order of the files makes no difference. -/
theorem concreteKey_complete (hread : m.IsRead) (hlatest : d.isLatest = true) :
    ∃ before after, IsFirstPlace "latest".toList before after d.baseName.toList ∧
      (let wanted := String.ofList (before ++ m.version.toList ++ after)
      (m.concreteKey d).mapError (·.kind) =
        if m.schema = .primaryOnly then .ok (d.join m.path)
        else if m.urls.count wanted = 1 then .ok (d.join wanted)
        else if m.urls.count wanted = 0 ∧ m.schema = .filesWithPrimary ∧
          m.urls.count m.path = 1 then .ok (d.join m.path)
        else .error .manifestInconsistency) ∧
      (∀ key, m.concreteKey d = .ok key → ∃ name, m.urls.count name = 1 ∧ key = d.join name) ∧
      ∀ files : List ArtifactEntry, files.Perm m.files →
        { m with files := files }.concreteKey d = m.concreteKey d := by
  obtain ⟨before, after, hplace⟩ := exists_isFirstPlace (KeyDescriptor.isInfix_of_isLatest hlatest)
  have hwanted : m.wantedName d = String.ofList (before ++ m.version.toList ++ after) :=
    congrArg String.ofList (replaceFirst_of_isFirstPlace hplace)
  have hconsistent := hread.isConsistent
  refine ⟨before, after, hplace, ?_, fun key => hconsistent.count_of_concreteKey,
    fun files hperm => concreteKey_perm hperm d⟩
  intro wanted
  rw [hconsistent.kind_concreteKey, hwanted]

/-- Only the first `latest` of a name is replaced, also by a version that holds the word itself, and
a name that occurs twice among the files is not chosen. -/
theorem concreteKey_of_repeated_marker :
    let m : Manifest := ⟨"1-latest", [⟨"x-1-latest_latest.deb", "", 0⟩, ⟨"y-1-latest.deb", "", 0⟩,
      ⟨"y-1-latest.deb", "", 0⟩], "y-1-latest.deb", "", .filesWithPrimary⟩
    let d := KeyDescriptor.parse "desktop/x-latest_latest.deb"
    m.IsRead ∧ d.isLatest = true ∧
      (∀ files : List ArtifactEntry, files.Perm m.files →
        { m with files := files }.concreteKey d = .ok "desktop/x-1-latest_latest.deb") ∧
      (m.concreteKey (KeyDescriptor.parse "desktop/z-latest.deb")).mapError (·.kind) =
        .error .manifestInconsistency := by
  intro m d
  have hread : m.IsRead := .inl ⟨"version: 1-latest\npath: y-1-latest.deb\nfiles:\n" ++
    "- url: x-1-latest_latest.deb\n- url: y-1-latest.deb\n- url: y-1-latest.deb\n",
    by decide +kernel⟩
  have hlatest : d.isLatest = true := by decide +kernel
  obtain ⟨before, after, -, -, -, hperm⟩ := concreteKey_complete hread hlatest
  have hkey : m.concreteKey d = .ok "desktop/x-1-latest_latest.deb" := by decide +kernel
  exact ⟨hread, hlatest, fun files h => (hperm files h).trans hkey, by decide +kernel⟩

end Manifest

end InstallerGateway
