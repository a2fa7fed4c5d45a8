import InstallerGateway.Key.Basic
import InstallerGateway.Proofs.Text.Split

/-!
# The directory and the extension of a key

A key is taken apart at its last slash, and its base name at its last point. A name without a slash
that is put into a directory lies there, and its extension is what follows its last point. So the
key of another name in the directory of a key lies in the same directory, and the base name that is
put back makes up the key again, unless its only slash comes first and is lost.
-/

namespace InstallerGateway.KeyDescriptor

variable {d : KeyDescriptor} {key name directory start extension : String}

theorem splitLast_of_slash (h : '/' ∉ name.toList) (hkey : key = directory ++ "/" ++ name) :
    splitLast '/' key.toList = some (directory.toList, name.toList) := by
  rw [splitLast_eq_some_iff, hkey]
  exact ⟨by simp, h⟩

theorem parse_directory_of_slash (h : '/' ∉ name.toList) (hkey : key = directory ++ "/" ++ name) :
    (parse key).directory = directory := by
  simp [parse, splitLast_of_slash h hkey]

/-- The extension is what stands behind the last point of the name. -/
theorem parse_extension_of_slash (h : '/' ∉ name.toList) (hkey : key = directory ++ "/" ++ name)
    (hname : name = start ++ "." ++ extension) (hextension : '.' ∉ extension.toList) :
    (parse key).extension = extension := by
  have hsplit : splitLast '.' name.toList = some (start.toList, extension.toList) := by
    rw [splitLast_eq_some_iff, hname]
    exact ⟨by simp, hextension⟩
  simp [parse, splitLast_of_slash h hkey, hsplit]

theorem parse_directory_of_bare (h : '/' ∉ key.toList) : (parse key).directory = "" := by
  simp [parse, splitLast_eq_none_iff.mpr h]

theorem parse_baseName_of_slash (h : '/' ∉ name.toList) (hkey : key = directory ++ "/" ++ name) :
    (parse key).baseName = name := by
  simp [parse, splitLast_of_slash h hkey]

theorem parse_baseName_of_bare (h : '/' ∉ key.toList) : (parse key).baseName = key := by
  simp [parse, splitLast_eq_none_iff.mpr h]

/-- A key that holds a slash is a directory, the slash and a name. -/
theorem exists_of_slash (h : '/' ∈ key.toList) :
    ∃ directory name, key = directory ++ "/" ++ name ∧ '/' ∉ name.toList := by
  cases hsplit : splitLast '/' key.toList with
  | none => exact absurd h (splitLast_eq_none_iff.mp hsplit)
  | some parts =>
    obtain ⟨before, after⟩ := parts
    obtain ⟨hkey, hafter⟩ := splitLast_eq_some_iff.mp hsplit
    refine ⟨String.ofList before, String.ofList after, ?_, by simpa using hafter⟩
    rw [← String.toList_inj, hkey]
    simp

theorem parse_extension (key : String) : (parse key).extension =
    String.ofList ((splitLast '.' (parse key).baseName.toList).getD
      ([], (parse key).baseName.toList)).2 := by
  simp [parse]

theorem parse_extension_of_bare (h : '.' ∉ (parse key).baseName.toList) :
    (parse key).extension = (parse key).baseName := by
  rw [parse_extension, splitLast_eq_none_iff.mpr h]
  exact String.ofList_toList

/-- A base name that holds a point ends in the extension, which holds none. -/
theorem exists_of_point (h : '.' ∈ (parse key).baseName.toList) :
    '.' ∉ (parse key).extension.toList ∧
      ∃ start, (parse key).baseName = start ++ "." ++ (parse key).extension := by
  rw [parse_extension]
  cases hsplit : splitLast '.' (parse key).baseName.toList with
  | none => exact absurd h (splitLast_eq_none_iff.mp hsplit)
  | some parts =>
    obtain ⟨before, after⟩ := parts
    obtain ⟨hbase, hafter⟩ := splitLast_eq_some_iff.mp hsplit
    refine ⟨by simpa using hafter, String.ofList before, ?_⟩
    rw [← String.toList_inj, hbase]
    simp

/-- Another name in the directory of a key lies in that directory. -/
theorem parse_join_directory (h : '/' ∉ name.toList) :
    (parse (d.join name)).directory = d.directory := by
  unfold join
  by_cases hd : d.directory.isEmpty
  · rw [if_pos hd, parse_directory_of_bare h]
    exact (String.isEmpty_iff.mp hd).symm
  · rw [if_neg hd]
    exact parse_directory_of_slash h rfl

/-- Another name in the directory of a key is the base name there. -/
theorem parse_join_baseName (h : '/' ∉ name.toList) : (parse (d.join name)).baseName = name := by
  unfold join
  by_cases hd : d.directory.isEmpty
  · rw [if_pos hd]
    exact parse_baseName_of_bare h
  · rw [if_neg hd]
    exact parse_baseName_of_slash h rfl

/-- The base name that is put back makes up the key, unless its only slash comes first. -/
theorem join_baseName_eq_iff (key : String) : (parse key).join (parse key).baseName = key ↔
    ¬ ∃ name, '/' ∉ name.toList ∧ key = "/" ++ name := by
  by_cases hslash : '/' ∈ key.toList
  · obtain ⟨directory, name, hkey, hname⟩ := exists_of_slash hslash
    have hdirectory : (parse key).directory = directory := parse_directory_of_slash hname hkey
    have hbase : (parse key).baseName = name := parse_baseName_of_slash hname hkey
    unfold join
    rw [hdirectory, hbase]
    by_cases hempty : directory = ""
    · have hrooted : key = "/" ++ name := by rw [hkey, hempty, String.empty_append]
      have hne : name ≠ key := fun heq => hname (heq ▸ hslash)
      rw [if_pos (String.isEmpty_iff.mpr hempty)]
      exact iff_of_false hne (not_not_intro ⟨name, hname, hrooted⟩)
    · rw [if_neg (not_congr String.isEmpty_iff |>.mpr hempty)]
      refine iff_of_true hkey.symm ?_
      rintro ⟨other, hother, hrooted⟩
      have hnone : (parse key).directory = "" :=
        parse_directory_of_slash hother (by rw [hrooted, String.empty_append])
      exact hempty (hdirectory ▸ hnone)
  · unfold join
    rw [parse_directory_of_bare hslash, parse_baseName_of_bare hslash]
    refine iff_of_true rfl ?_
    rintro ⟨name, -, hrooted⟩
    exact hslash (by simp [hrooted])

/-- A key is taken apart without loss. Its base name holds no slash; the key is its directory, a
slash and its base name, or, if it holds no slash, its base name alone, in the empty directory. The
extension is the base name if that holds no point, and otherwise what follows its last point. Every
name without a slash that is put into the directory of the key is found there again; the base name
that is put there makes up the key, unless the key is a slash and a name. -/
theorem parse_faithful (key : String) :
    '/' ∉ (parse key).baseName.toList ∧
    ('/' ∈ key.toList → key = (parse key).directory ++ "/" ++ (parse key).baseName) ∧
    ('/' ∉ key.toList → key = (parse key).baseName ∧ (parse key).directory = "") ∧
    ('.' ∉ (parse key).baseName.toList → (parse key).extension = (parse key).baseName) ∧
    ('.' ∈ (parse key).baseName.toList → '.' ∉ (parse key).extension.toList ∧
      ∃ start, (parse key).baseName = start ++ "." ++ (parse key).extension) ∧
    (∀ name, '/' ∉ name.toList → (parse ((parse key).join name)).directory = (parse key).directory ∧
      (parse ((parse key).join name)).baseName = name) ∧
    ((parse key).join (parse key).baseName = key ↔
      ¬ ∃ name, '/' ∉ name.toList ∧ key = "/" ++ name) := by
  have hparts (h : '/' ∈ key.toList) : '/' ∉ (parse key).baseName.toList ∧
      key = (parse key).directory ++ "/" ++ (parse key).baseName := by
    obtain ⟨directory, name, hkey, hname⟩ := exists_of_slash h
    rw [parse_directory_of_slash hname hkey, parse_baseName_of_slash hname hkey]
    exact ⟨hname, hkey⟩
  refine ⟨?bare, fun h => (hparts h).2, fun h => ?alone, parse_extension_of_bare, exists_of_point,
    fun name h => ⟨parse_join_directory h, parse_join_baseName h⟩, join_baseName_eq_iff key⟩
  case bare =>
    by_cases h : '/' ∈ key.toList
    · exact (hparts h).1
    · rw [parse_baseName_of_bare h]
      exact h
  case alone => exact ⟨(parse_baseName_of_bare h).symm, parse_directory_of_bare h⟩

/-- The key of an installer in a nested directory, and its manifest beside it. -/
theorem parse_faithful_installer :
    '/' ∈ "v1.2/app_1.0.deb".toList ∧ '.' ∈ (parse "v1.2/app_1.0.deb").baseName.toList ∧
    '/' ∉ "latest-linux.yml".toList ∧
    "v1.2/app_1.0.deb" = (parse "v1.2/app_1.0.deb").directory ++ "/" ++
      (parse "v1.2/app_1.0.deb").baseName ∧
    (∃ start, (parse "v1.2/app_1.0.deb").baseName =
      start ++ "." ++ (parse "v1.2/app_1.0.deb").extension) ∧
    (parse ((parse "v1.2/app_1.0.deb").join "latest-linux.yml")).directory =
      (parse "v1.2/app_1.0.deb").directory ∧
    (parse ((parse "v1.2/app_1.0.deb").join "latest-linux.yml")).baseName = "latest-linux.yml" := by
  have hslash : '/' ∈ "v1.2/app_1.0.deb".toList := by decide
  have hpoint : '.' ∈ (parse "v1.2/app_1.0.deb").baseName.toList := by decide
  have hname : '/' ∉ "latest-linux.yml".toList := by decide
  obtain ⟨-, hparts, -, -, hextension, hjoin, -⟩ := parse_faithful "v1.2/app_1.0.deb"
  exact ⟨hslash, hpoint, hname, hparts hslash, (hextension hpoint).2, hjoin _ hname⟩

end InstallerGateway.KeyDescriptor
