import InstallerGateway.Proofs.Manifest.Language

/-!
# The files that a manifest names

Every file of a manifest that is read has a name, and the key that a manifest tells lies in the
directory of the key that it stands for, under the name of one of these files.
-/

namespace InstallerGateway.Manifest

variable {m : Manifest} {d : KeyDescriptor} {v : String}

/-! ## The key that is told -/

theorem mem_files_of_findFiles {name : String} {e : ArtifactEntry} (h : m.findFiles name = [e]) :
    e ∈ m.files := by
  have hmem : e ∈ m.findFiles name := by
    rw [h]
    exact List.mem_singleton_self e
  exact (List.mem_filter.mp hmem).1

/-- The primary file is one of the files. -/
theorem primary_mem {e : ArtifactEntry} (h : m.primary = .ok e) : e ∈ m.files := by
  unfold primary at h
  split at h
  · cases h
  · split at h
    · rename_i e' hfind
      cases h
      exact mem_files_of_findFiles hfind
    · cases h

/-- The key that is told is that of a file of the manifest, in the directory of the key that it
stands for. -/
theorem concreteKey_eq_join (h : m.concreteKey d = .ok v) : ∃ e ∈ m.files, v = d.join e.url := by
  have hprimary (hp : m.primaryKey d = .ok v) : ∃ e ∈ m.files, v = d.join e.url := by
    unfold primaryKey at hp
    cases he : m.primary with
    | error f =>
      rw [he] at hp
      cases hp
    | ok e =>
      rw [he] at hp
      cases hp
      exact ⟨e, primary_mem he, rfl⟩
  unfold concreteKey at h
  split at h
  · exact hprimary h
  · split at h
    · rename_i e hfind
      cases h
      exact ⟨e, mem_files_of_findFiles hfind, rfl⟩
    · split at h
      · exact hprimary h
      · cases h

/-! ## The names of the files -/

/-- No file of a manifest is without a name. -/
theorem ofDatum_url_ne {doc : Datum} (h : ofDatum doc = .ok m) : ∀ e ∈ m.files, e.url ≠ "" := by
  obtain ⟨hmanifest, hsays⟩ := ofDatum_eq_ok h
  exact hsays.url_ne hmanifest

/-- A manifest that is read is a document that was loaded. -/
theorem exists_ofDatum_of_ofLoaded {loaded : Except Yaml.Fault Datum}
    (h : ofLoaded loaded = .ok m) : ∃ doc, ofDatum doc = .ok m := by
  cases loaded with
  | error f => cases f <;> cases h
  | ok doc => exact ⟨doc, h⟩

theorem ofBytes_url_ne {b : ByteArray} (h : ofBytes b = .ok m) : ∀ e ∈ m.files, e.url ≠ "" := by
  obtain ⟨doc, hdoc⟩ := exists_ofDatum_of_ofLoaded h
  exact ofDatum_url_ne hdoc

theorem join_ne_empty {name : String} (h : name ≠ "") : d.join name ≠ "" := by
  unfold KeyDescriptor.join
  split
  · exact h
  · intro he
    have hlen := congrArg String.length he
    simp only [String.length_append] at hlen
    have hslash : "/".length = 1 := rfl
    have hempty : "".length = 0 := rfl
    omega

/-- The key that a manifest tells is not empty. -/
theorem concreteKey_ne_empty {b : ByteArray} (hm : ofBytes b = .ok m)
    (h : m.concreteKey d = .ok v) : v ≠ "" := by
  obtain ⟨e, hmem, rfl⟩ := concreteKey_eq_join h
  exact join_ne_empty (ofBytes_url_ne hm e hmem)

end InstallerGateway.Manifest
