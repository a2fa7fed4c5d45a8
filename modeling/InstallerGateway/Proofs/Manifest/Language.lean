import InstallerGateway.Manifest.Choice
import InstallerGateway.Manifest.Reader
import InstallerGateway.Proofs.Datum.Display
import InstallerGateway.Proofs.Result
import Mathlib.Data.List.Forall2

/-!
# Which documents are manifests

The language of manifests, told apart from the reader: which values a document has to hold, and what
they say about the manifest. The reader accepts exactly this language, and refuses every other
document as malformed, unless it asks for the text of a value that has none, as the value holds an
integer of too many digits.
-/

namespace InstallerGateway.Manifest

variable {root doc d : Datum} {m : Manifest} {e : ArtifactEntry} {files : List ArtifactEntry}
  {n : Nat} {place text : String} {index : Nat}

/-! ## The language -/

/-- What a part of the document `root` tells under a name; null if it tells nothing. -/
def told (root d : Datum) (name : String) : Datum :=
  match d with
  | .map _ entries => valueOf root entries name
  | _ => .null

/-- The value is a mapping. -/
def IsMapping (d : Datum) : Prop := ∃ place entries, d = .map place entries

/-- The value is neither null nor the empty text. -/
def IsGiven (d : Datum) : Prop := d ≠ .null ∧ d ≠ .text ""

/-- The value is a size: null, or an integer that is not negative. A truth value is none. -/
inductive Measures : Datum → Nat → Prop
  | absent : Measures .null 0
  | given (n : Nat) : Measures (.int n) n

/-- The value is taken as a text: null as the empty one, and any other as it is shown. -/
inductive Reads (root : Datum) : Datum → String → Prop
  | absent : Reads root .null ""
  | given {d : Datum} {text : String} : d ≠ .null → Literal.display? root d = some text →
      Reads root d text

/-- The value describes a file: it is a mapping with a name, and its size, if it tells one, is a
size. -/
structure IsEntry (root d : Datum) : Prop where
  isMapping : IsMapping d
  url : ∃ url, told root d "url" = .text url ∧ url ≠ ""
  size : ∃ n, Measures (told root d "size") n

/-- The document is a manifest: a mapping with a version, and either a list of files or a path. -/
structure IsManifest (doc : Datum) : Prop where
  isMapping : IsMapping doc
  version : IsGiven (told doc doc "version")
  files : (told doc doc "files" = .null ∧ IsGiven (told doc doc "path") ∧
      ∃ n, Measures (told doc doc "size") n) ∨
    ∃ place items, told doc doc "files" = .list place items ∧
      ∀ d ∈ items, IsEntry doc (Datum.resolve doc d)

/-- The file is the one that a value describes. -/
structure IsFile (root d : Datum) (e : ArtifactEntry) : Prop where
  url : told root d "url" = .text e.url
  checksum : Reads root (told root d "sha512") e.checksum
  size : Measures (told root d "size") e.size

/-- The manifest says what the document tells: one file for each item of the list, in the same
order, or the path as the only file. -/
structure Says (doc : Datum) (m : Manifest) : Prop where
  version : Literal.display? doc (told doc doc "version") = some m.version
  path : Reads doc (told doc doc "path") m.path
  checksum : Reads doc (told doc doc "sha512") m.checksum
  files : (told doc doc "files" = .null ∧ m.schema = .primaryOnly ∧
      ∃ n, Measures (told doc doc "size") n ∧ m.files = [⟨m.path, m.checksum, n⟩]) ∨
    ∃ place items, told doc doc "files" = .list place items ∧
      m.schema = (if m.path = "" then .filesOnly else .filesWithPrimary) ∧
      List.Forall₂ (fun d e => IsFile doc (Datum.resolve doc d) e) items m.files

/-! ## Values that have no text -/

/-- The value is to be shown as what is no size, and cannot be. -/
structure IsUnshown (root d : Datum) : Prop where
  noSize : ∀ n, ¬ Measures d n
  noText : Literal.literal? root d = none

/-- The value has the form of a file, and a text is asked of a part that has none. -/
structure IsUnreadable (root d : Datum) : Prop where
  isMapping : IsMapping d
  url : ∃ url, told root d "url" = .text url ∧ url ≠ ""
  asked : Literal.display? root (told root d "sha512") = none ∨ IsUnshown root (told root d "size")

/-- Of the items of a list one is unreadable, and those before it are files. -/
inductive MeetsUnreadable (root : Datum) : List Datum → Prop
  | here {d : Datum} {rest : List Datum} :
      IsUnreadable root (Datum.resolve root d) → MeetsUnreadable root (d :: rest)
  | later {d : Datum} {rest : List Datum} :
      IsEntry root (Datum.resolve root d) → MeetsUnreadable root rest →
      MeetsUnreadable root (d :: rest)

/-- A text is asked of a value of the document that has none. -/
inductive AsksTooMuch (doc : Datum) : Prop
  | version : Literal.display? doc (told doc doc "version") = none → AsksTooMuch doc
  | path : Literal.display? doc (told doc doc "path") = none → AsksTooMuch doc
  | checksum : Literal.display? doc (told doc doc "sha512") = none → AsksTooMuch doc
  | size : told doc doc "files" = .null → IsGiven (told doc doc "path") →
      IsUnshown doc (told doc doc "size") → AsksTooMuch doc
  | files {place : Nat} {items : List Datum} : told doc doc "files" = .list place items →
      MeetsUnreadable doc items → AsksTooMuch doc

/-- The document is a mapping with a version, and a text is asked of a value that has none before
the document is refused for its form. -/
structure IsOverlong (doc : Datum) : Prop where
  isMapping : IsMapping doc
  version : IsGiven (told doc doc "version")
  asked : AsksTooMuch doc

/-! ## Verdicts -/

/-- What becomes of a part of a document that is read: it belongs to the language and means what is
read, or a text is asked for that is not there, or it is refused as malformed. -/
inductive Verdict {α : Type} (language overlong : Prop) (means : α → Prop) :
    Except ManifestFault α → Prop
  | read {a : α} : language → ¬ overlong → means a → Verdict language overlong means (.ok a)
  | overlong : overlong → Verdict language overlong means (.error (.unusable .tooLong))
  | refused (message : String) : ¬ language → ¬ overlong →
      Verdict language overlong means (.error (.refused ⟨.manifestMalformed, message, ""⟩))

section

variable {α : Type} {language overlong : Prop} {means : α → Prop} {x : Except ManifestFault α}

theorem Verdict.exists_ok (h : Verdict language overlong means x) (hlanguage : language)
    (hshort : ¬ overlong) : ∃ a, x = .ok a := by
  cases h with
  | @read a => exact ⟨a, rfl⟩
  | overlong hlong => exact absurd hlong hshort
  | refused message hno => exact absurd hlanguage hno

theorem Verdict.exists_refused (h : Verdict language overlong means x) (hno : ¬ language)
    (hshort : ¬ overlong) : ∃ message, x = .error (.refused ⟨.manifestMalformed, message, ""⟩) := by
  cases h with
  | read hlanguage => exact absurd hlanguage hno
  | overlong hlong => exact absurd hlong hshort
  | refused message => exact ⟨message, rfl⟩

theorem Verdict.eq_tooLong (h : Verdict language overlong means x) (hlong : overlong) :
    x = .error (.unusable .tooLong) := by
  cases h with
  | read _ hshort => exact absurd hlong hshort
  | overlong => rfl
  | refused message _ hshort => exact absurd hlong hshort

theorem Verdict.eq_unusable_iff {f : DocumentFault} (h : Verdict language overlong means x) :
    x = .error (.unusable f) ↔ overlong ∧ f = .tooLong := by
  cases h with
  | read _ hshort => exact iff_of_false nofun fun hlong => hshort hlong.1
  | overlong hlong => simp [hlong, eq_comm]
  | refused message _ hshort => exact iff_of_false nofun fun hlong => hshort hlong.1

theorem Verdict.of_ok {a : α} (h : Verdict language overlong means (.ok a)) :
    language ∧ means a := by
  cases h with
  | read hlanguage _ hmeans => exact ⟨hlanguage, hmeans⟩

end

/-- Every value is read as its text, if it has one. -/
theorem textOf_verdict (root d : Datum) :
    Verdict True (Literal.display? root d = none) (Reads root d) (textOf root d) := by
  unfold textOf
  split
  · exact .read trivial nofun .absent
  · rename_i hnull
    cases htext : Literal.display? root d with
    | none => exact .overlong rfl
    | some text => exact .read trivial nofun (.given hnull htext)

theorem literal?_int (root : Datum) (i : Int) :
    Literal.literal? root (.int i) = Numeral.text? i := by
  unfold Literal.literal? Literal.chars? Literal.scalar?
  cases htext : Numeral.text? i <;> simp [htext]

/-- A size is read if it is absent or a natural number; to refuse another, its text is asked for. -/
theorem sizeOf_verdict (root : Datum) (place : String) (d : Datum) :
    Verdict (∃ n, Measures d n) (IsUnshown root d) (Measures d) (sizeOf root place d) := by
  have hshown {message : String → Except ManifestFault Nat}
      (hmessage : ∀ s, ∃ t, message s = malformed t) (hno : ∀ n, ¬ Measures d n) :
      Verdict (∃ n, Measures d n) (IsUnshown root d) (Measures d)
        (written (Literal.literal? root d) >>= message) := by
    cases htext : Literal.literal? root d with
    | none => exact .overlong ⟨hno, htext⟩
    | some text =>
      obtain ⟨t, ht⟩ := hmessage text
      show Verdict _ _ _ (message text)
      rw [ht]
      exact .refused t (fun ⟨n, hn⟩ => hno n hn) fun h => nomatch htext.symm.trans h.noText
  unfold sizeOf
  split
  · exact .read ⟨0, .absent⟩ (fun h => h.noSize 0 .absent) .absent
  · rename_i i
    split_ifs with hneg
    · rw [← literal?_int root]
      refine hshown (fun s => ⟨_, rfl⟩) fun n h => ?_
      cases h
      omega
    · have hi : (i.toNat : Int) = i := Int.toNat_of_nonneg (by omega)
      have hmeasures : Measures (.int i) i.toNat := by
        rw [← hi]
        exact .given _
      exact .read ⟨_, hmeasures⟩ (fun h => h.noSize _ hmeasures) hmeasures
  · rename_i hnull hint
    refine hshown (fun s => ⟨_, rfl⟩) fun n h => ?_
    cases h
    · exact hnull rfl
    · exact hint _ rfl

/-- An entry is read if it is a mapping with a name and a size. -/
theorem entryOf_verdict (root : Datum) (index : Nat) (d : Datum) :
    Verdict (IsEntry root (Datum.resolve root d)) (IsUnreadable root (Datum.resolve root d))
      (IsFile root (Datum.resolve root d)) (entryOf root index d) := by
  unfold entryOf
  generalize Datum.resolve root d = d
  dsimp only
  split
  · rename_i p entries
    have hmapping : IsMapping (.map p entries) := ⟨p, entries, rfl⟩
    split
    · rename_i url hurl
      by_cases hempty : url.isEmpty = true
      · have hnone : ¬ ∃ url, told root (.map p entries) "url" = .text url ∧ url ≠ "" := by
          rintro ⟨url', hurl', hne⟩
          cases hurl.symm.trans hurl'
          exact hne (by simpa using hempty)
        rw [if_pos hempty]
        exact .refused _ (fun h => hnone h.url) fun h => hnone h.url
      · have hnamed : ∃ url, told root (.map p entries) "url" = .text url ∧ url ≠ "" :=
          ⟨url, hurl, by simpa using hempty⟩
        rw [if_neg hempty]
        have hchecksum := textOf_verdict root (valueOf root entries "sha512")
        have hsize := sizeOf_verdict root ("files[" ++ toString index ++ "]")
          (valueOf root entries "size")
        generalize textOf root (valueOf root entries "sha512") = checksum at hchecksum ⊢
        generalize sizeOf root _ (valueOf root entries "size") = size at hsize ⊢
        cases hchecksum with
        | overlong hlong => exact .overlong ⟨hmapping, hnamed, .inl hlong⟩
        | refused _ hno => exact absurd trivial hno
        | read _ hshort hreads =>
          cases hsize with
          | overlong hlong => exact .overlong ⟨hmapping, hnamed, .inr hlong⟩
          | refused message hno hshown =>
            exact .refused message (fun h => hno h.size) fun h => h.asked.elim hshort hshown
          | read hsize hshown hmeasures =>
            exact .read ⟨hmapping, hnamed, hsize⟩ (fun h => h.asked.elim hshort hshown)
              ⟨hurl, hreads, hmeasures⟩
    · rename_i hurl
      have hnone : ¬ ∃ url, told root (.map p entries) "url" = .text url ∧ url ≠ "" :=
        fun ⟨url, h, _⟩ => hurl url h
      exact .refused _ (fun h => hnone h.url) fun h => hnone h.url
  · rename_i hmap
    have hnone : ¬ IsMapping d := fun ⟨p, entries, h⟩ => hmap p entries h
    exact .refused _ (fun h => hnone h.isMapping) fun h => hnone h.isMapping

/-- Entries are read if each of them is, in their order. -/
theorem entriesOf_verdict (root : Datum) (index : Nat) (items : List Datum) :
    Verdict (∀ d ∈ items, IsEntry root (Datum.resolve root d)) (MeetsUnreadable root items)
      (List.Forall₂ (fun d e => IsFile root (Datum.resolve root d) e) items)
      (entriesOf root index items) := by
  induction items generalizing index with
  | nil => exact .read nofun nofun .nil
  | cons d rest ih =>
    have hfirst := entryOf_verdict root index d
    have hrest := ih (index + 1)
    unfold entriesOf
    generalize entryOf root index d = first at hfirst ⊢
    generalize entriesOf root (index + 1) rest = others at hrest ⊢
    cases hfirst with
    | overlong hlong => exact .overlong (.here hlong)
    | refused message hno hshort =>
      refine .refused message (fun h => hno (List.forall_mem_cons.mp h).1) fun h => ?_
      cases h with
      | here h => exact hshort h
      | later h => exact hno h
    | read hentry hshort hfile =>
      have hlater (hmeets : ¬ MeetsUnreadable root rest) : ¬ MeetsUnreadable root (d :: rest) := by
        intro h
        cases h with
        | here h => exact hshort h
        | later _ h => exact hmeets h
      cases hrest with
      | overlong hlong => exact .overlong (.later hentry hlong)
      | refused message hno hmeets =>
        exact .refused message (fun h => hno (List.forall_mem_cons.mp h).2) (hlater hmeets)
      | read hentries hmeets hfiles =>
        exact .read (List.forall_mem_cons.mpr ⟨hentry, hentries⟩) (hlater hmeets)
          (.cons hfile hfiles)

theorem exists_mem_of_forall₂ {α β : Type} {R : α → β → Prop} {as : List α} {bs : List β} {b : β}
    (h : List.Forall₂ R as bs) (hmem : b ∈ bs) : ∃ a ∈ as, R a b := by
  induction h with
  | nil => cases hmem
  | cons hhead htail ih =>
    rcases List.mem_cons.mp hmem with rfl | hmem
    · exact ⟨_, List.mem_cons_self, hhead⟩
    · obtain ⟨a, ha, hab⟩ := ih hmem
      exact ⟨a, List.mem_cons_of_mem _ ha, hab⟩

/-! ## Manifests -/

@[simp] theorem told_map {entries : List (Datum × Datum)} {p : Nat} (name : String) :
    told root (.map p entries) name = valueOf root entries name :=
  rfl

theorem not_isReference_told (root d : Datum) (name : String) :
    ¬ (told root d name).IsReference := by
  unfold told
  split
  · exact Datum.not_isReference_resolve _ _
  · exact id

/-- A value that is given has no empty text, and null and the empty text have none other. -/
theorem Reads.ne_empty_iff (h : Reads root d text) (hreference : ¬ d.IsReference) :
    text ≠ "" ↔ IsGiven d := by
  cases h with
  | absent => exact ⟨fun h => absurd rfl h, fun h => absurd rfl h.1⟩
  | given hnull htext =>
    refine ⟨fun hne => ⟨hnull, ?_⟩, fun h => Literal.display?_ne_empty hreference h.2 htext⟩
    rintro rfl
    exact hne (Option.some.inj htext).symm

section

variable {items : List Datum} {p : Nat}

/-- Without a list of files the document is a manifest if its path is given and its size is one. -/
theorem isManifest_iff_of_null (hmapping : IsMapping doc)
    (hversion : IsGiven (told doc doc "version")) (hfiles : told doc doc "files" = .null) :
    IsManifest doc ↔ IsGiven (told doc doc "path") ∧ ∃ n, Measures (told doc doc "size") n := by
  refine ⟨fun h => ?_, fun h => ⟨hmapping, hversion, .inl ⟨hfiles, h⟩⟩⟩
  rcases h.files with ⟨-, h⟩ | ⟨place, items, hlist, -⟩
  · exact h
  · cases hfiles.symm.trans hlist

/-- With a list of files the document is a manifest if its items are entries. -/
theorem isManifest_iff_of_list (hmapping : IsMapping doc)
    (hversion : IsGiven (told doc doc "version")) (hfiles : told doc doc "files" = .list p items) :
    IsManifest doc ↔ ∀ d ∈ items, IsEntry doc (Datum.resolve doc d) := by
  refine ⟨fun h => ?_, fun h => ⟨hmapping, hversion, .inr ⟨p, items, hfiles, h⟩⟩⟩
  rcases h.files with ⟨hnull, -⟩ | ⟨place, items', hlist, hentries⟩
  · cases hfiles.symm.trans hnull
  · cases hfiles.symm.trans hlist
    exact hentries

/-- A text is asked of a value that is read for the files, and there is none. -/
def AsksForFiles (doc : Datum) : Prop :=
  (told doc doc "files" = .null ∧ IsGiven (told doc doc "path") ∧
    IsUnshown doc (told doc doc "size")) ∨
  ∃ place items, told doc doc "files" = .list place items ∧ MeetsUnreadable doc items

theorem asksForFiles_iff_of_null (hfiles : told doc doc "files" = .null) :
    AsksForFiles doc ↔
      IsGiven (told doc doc "path") ∧ IsUnshown doc (told doc doc "size") := by
  simp [AsksForFiles, hfiles]

theorem asksForFiles_iff_of_list (hfiles : told doc doc "files" = .list p items) :
    AsksForFiles doc ↔ MeetsUnreadable doc items := by
  simp [AsksForFiles, hfiles]

end

/-- A document with a version is read if its files are. -/
theorem ofFiles_verdict {version path checksum : String} (hmapping : IsMapping doc)
    (hversion : IsGiven (told doc doc "version"))
    (htext : Literal.display? doc (told doc doc "version") = some version)
    (hpath : Reads doc (told doc doc "path") path)
    (hchecksum : Reads doc (told doc doc "sha512") checksum)
    (hoverlong : IsOverlong doc ↔ AsksForFiles doc) :
    Verdict (IsManifest doc) (IsOverlong doc) (Says doc)
      (ofFiles doc version path checksum (told doc doc "files") (told doc doc "size")) := by
  have hgiven := hpath.ne_empty_iff (not_isReference_told doc doc "path")
  unfold ofFiles
  split
  · rename_i hfiles
    rw [isManifest_iff_of_null hmapping hversion hfiles, hoverlong, asksForFiles_iff_of_null hfiles]
    by_cases hempty : path.isEmpty = true
    · have hno : ¬ IsGiven (told doc doc "path") := fun h => hgiven.mpr h (by simpa using hempty)
      rw [if_pos hempty]
      exact .refused _ (fun h => hno h.1) fun h => hno h.1
    · have hnamed : IsGiven (told doc doc "path") := hgiven.mp (by simpa using hempty)
      rw [if_neg hempty]
      have hsize := sizeOf_verdict doc "manifest" (told doc doc "size")
      generalize sizeOf doc "manifest" (told doc doc "size") = size at hsize ⊢
      cases hsize with
      | overlong hlong => exact .overlong ⟨hnamed, hlong⟩
      | refused message hno hlong =>
        exact .refused message (fun h => hno h.2) fun h => hlong h.2
      | @read n hsize hlong hmeasures =>
        exact .read ⟨hnamed, hsize⟩ (fun h => hlong h.2)
          ⟨htext, hpath, hchecksum, .inl ⟨hfiles, rfl, n, hmeasures, rfl⟩⟩
  · rename_i place items hfiles
    rw [isManifest_iff_of_list hmapping hversion hfiles, hoverlong, asksForFiles_iff_of_list hfiles]
    have hentries := entriesOf_verdict doc 0 items
    generalize entriesOf doc 0 items = entries at hentries ⊢
    cases hentries with
    | overlong hlong => exact .overlong hlong
    | refused message hno hlong => exact .refused message hno hlong
    | @read files hentries hlong hfound =>
      exact .read hentries hlong
        ⟨htext, hpath, hchecksum, .inr ⟨place, items, hfiles, by simp, hfound⟩⟩
  · rename_i hnull hlist
    refine .refused _ (fun h => ?_) fun h => ?_
    · rcases h.files with ⟨h, -⟩ | ⟨place, items, h, -⟩
      · exact hnull h
      · exact hlist _ _ h
    · rcases hoverlong.mp h with ⟨h, -⟩ | ⟨place, items, h, -⟩
      · exact hnull h
      · exact hlist _ _ h

/-- If the texts before the files are there, only the files can ask for one that is not. -/
theorem isOverlong_iff_asksForFiles (hmapping : IsMapping doc)
    (hversion : IsGiven (told doc doc "version"))
    (htext : Literal.display? doc (told doc doc "version") ≠ none)
    (hpath : Literal.display? doc (told doc doc "path") ≠ none)
    (hchecksum : Literal.display? doc (told doc doc "sha512") ≠ none) :
    IsOverlong doc ↔ AsksForFiles doc := by
  constructor
  · intro h
    cases h.asked with
    | version h => exact absurd h htext
    | path h => exact absurd h hpath
    | checksum h => exact absurd h hchecksum
    | size hfiles hnamed hlong => exact .inl ⟨hfiles, hnamed, hlong⟩
    | files hfiles hmeets => exact .inr ⟨_, _, hfiles, hmeets⟩
  · rintro (⟨hfiles, hnamed, hlong⟩ | ⟨place, items, hfiles, hmeets⟩)
    · exact ⟨hmapping, hversion, .size hfiles hnamed hlong⟩
    · exact ⟨hmapping, hversion, .files hfiles hmeets⟩

/-- A document is read if it is a manifest. -/
theorem ofDatum_verdict (doc : Datum) :
    Verdict (IsManifest doc) (IsOverlong doc) (Says doc) (ofDatum doc) := by
  unfold ofDatum
  split
  · rename_i p entries
    set doc := Datum.map p entries
    have hmapping : IsMapping doc := ⟨p, entries, rfl⟩
    have hunversioned (hnone : ¬ IsGiven (told doc doc "version")) :
        Verdict (IsManifest doc) (IsOverlong doc) (Says doc)
          (malformed "manifest has no version") :=
      .refused _ (fun h => hnone h.version) fun h => hnone h.version
    split
    · rename_i hversion
      exact hunversioned fun h => h.1 hversion
    · rename_i hversion
      exact hunversioned fun h => h.2 hversion
    · rename_i hnull hempty
      have hversion : IsGiven (told doc doc "version") := ⟨hnull, hempty⟩
      have hasked (h : AsksTooMuch doc) : IsOverlong doc := ⟨hmapping, hversion, h⟩
      cases htext : Literal.display? doc (told doc doc "version") with
      | none =>
        have htext' : Literal.display? doc (valueOf doc entries "version") = none := htext
        rw [htext']
        exact .overlong (hasked (.version htext))
      | some version =>
        have htext' : Literal.display? doc (valueOf doc entries "version") = some version := htext
        rw [htext']
        have hpath := textOf_verdict doc (told doc doc "path")
        have hchecksum := textOf_verdict doc (told doc doc "sha512")
        show Verdict _ _ _ ((textOf doc (told doc doc "path")).bind fun path =>
          (textOf doc (told doc doc "sha512")).bind fun checksum =>
            ofFiles doc version path checksum (told doc doc "files") (told doc doc "size"))
        generalize textOf doc (told doc doc "path") = path at hpath ⊢
        generalize textOf doc (told doc doc "sha512") = checksum at hchecksum ⊢
        cases hpath with
        | overlong hlong => exact .overlong (hasked (.path hlong))
        | refused _ hno => exact absurd trivial hno
        | read _ hpath hreads =>
          cases hchecksum with
          | overlong hlong => exact .overlong (hasked (.checksum hlong))
          | refused _ hno => exact absurd trivial hno
          | read _ hchecksum hreads' =>
            exact ofFiles_verdict hmapping hversion htext hreads hreads'
              (isOverlong_iff_asksForFiles hmapping hversion (by simp [htext]) hpath hchecksum)
  · rename_i hmap
    have hnone : ¬ IsMapping doc := fun ⟨p, entries, h⟩ => hmap p entries h
    exact .refused _ (fun h => hnone h.isMapping) fun h => hnone h.isMapping

theorem ofDatum_eq_ok (h : ofDatum doc = .ok m) : IsManifest doc ∧ Says doc m :=
  (h ▸ ofDatum_verdict doc).of_ok

/-! ## What a manifest says -/

/-- No use can be made of the document in a byte string as a manifest: one of its scalars has no
value, or a text is asked of a value that has none. -/
def IsUnusable (b : ByteArray) : DocumentFault → Prop
  | .noValue y => Yaml.loadBytes b = .error y ∧ y ≠ .malformed
  | .tooLong => ∃ doc, Yaml.loadBytes b = .ok doc ∧ IsOverlong doc

/-- No use can be made of bytes exactly if their document has no value or asks for too many digits.
-/
theorem ofBytes_eq_unusable_iff {b : ByteArray} {f : DocumentFault} :
    ofBytes b = .error (.unusable f) ↔ IsUnusable b f := by
  unfold ofBytes
  cases hload : Yaml.loadBytes b with
  | ok doc =>
    show ofDatum doc = _ ↔ _
    rw [(ofDatum_verdict doc).eq_unusable_iff]
    cases f <;> simp [IsUnusable, hload]
  | error y =>
    cases f with
    | noValue g => cases y <;> simp [ofLoaded, malformed, IsUnusable, hload] <;> rintro rfl <;> simp
    | tooLong => cases y <;> simp [ofLoaded, malformed, IsUnusable, hload]

theorem Says.version_ne (h : Says doc m) (hmanifest : IsManifest doc) : m.version ≠ "" :=
  Literal.display?_ne_empty (not_isReference_told doc doc "version") hmanifest.version.2 h.version

/-- Every file of a manifest has a name. -/
theorem Says.url_ne (h : Says doc m) (hmanifest : IsManifest doc) : ∀ e ∈ m.files, e.url ≠ "" := by
  intro e hmem
  obtain ⟨hnone, -, n, -, hfiles⟩ | ⟨place, items, hlist, -, hforall⟩ := h.files
  · obtain ⟨-, hpath, -⟩ | ⟨place, items, hlist, -⟩ := hmanifest.files
    · rw [hfiles, List.mem_singleton] at hmem
      rw [hmem]
      exact (h.path.ne_empty_iff (not_isReference_told doc doc "path")).mpr hpath
    · cases hnone.symm.trans hlist
  · obtain ⟨hnone, -⟩ | ⟨place', items', hlist', hentries⟩ := hmanifest.files
    · cases hlist.symm.trans hnone
    · cases hlist.symm.trans hlist'
      obtain ⟨d, hd, hfile⟩ := exists_mem_of_forall₂ hforall hmem
      obtain ⟨url, hurl, hne⟩ := (hentries d hd).url
      cases Datum.text.inj (hurl.symm.trans hfile.url)
      exact hne

/-- The schema tells whether there is a list and whether there is a path. -/
theorem Says.schema_iff (h : Says doc m) :
    (m.schema = .primaryOnly ↔ told doc doc "files" = .null) ∧
    (m.schema = .filesWithPrimary ↔ told doc doc "files" ≠ .null ∧ m.path ≠ "") ∧
    (m.schema = .filesOnly ↔ told doc doc "files" ≠ .null ∧ m.path = "") := by
  obtain ⟨hnone, hschema, -⟩ | ⟨place, items, hlist, hschema, -⟩ := h.files
  · simp [hnone, hschema]
  · by_cases hpath : m.path = "" <;> simp [hlist, hschema, hpath]

/-- Without a list the path is the only file, and it is the primary one. -/
theorem Says.primary_of_primaryOnly (h : Says doc m) (hmanifest : IsManifest doc)
    (honly : m.schema = .primaryOnly) :
    ∃ e, m.primary = .ok e ∧ m.files = [e] ∧ e.url = m.path := by
  obtain ⟨-, -, n, -, hfiles⟩ | ⟨place, items, hlist, -, -⟩ := h.files
  · have hpath : m.path ≠ "" := h.url_ne hmanifest ⟨m.path, m.checksum, n⟩ (by simp [hfiles])
    refine ⟨⟨m.path, m.checksum, n⟩, ?_, hfiles, rfl⟩
    simp [primary, findFiles, hfiles, hpath]
  · cases hlist.symm.trans (h.schema_iff.1.mp honly)

theorem primary_of_path_empty (h : m.path = "") :
    m.primary = inconsistent "manifest has no primary path" "" := by
  simp [primary, h]

/-! ## Documents of few digits -/

theorem isShort_told (hroot : root.isShort = true) (hd : d.isShort = true) (name : String) :
    (told root d name).isShort = true := by
  unfold told
  split
  · exact Datum.isShort_resolve hroot (Datum.isShort_field? hd name)
  · rfl

theorem display?_ne_none (hroot : root.isShort = true) (hd : d.isShort = true) :
    Literal.display? root d ≠ none :=
  Option.isSome_iff_ne_none.mp (Literal.isSome_display? hroot hd)

theorem not_isUnshown (hroot : root.isShort = true) (hd : d.isShort = true) :
    ¬ IsUnshown root d := fun h =>
  Option.isSome_iff_ne_none.mp (Literal.isSome_literal? hroot hd) h.noText

theorem not_meetsUnreadable {items : List Datum} (hroot : root.isShort = true)
    (hitems : Datum.areShort items = true) : ¬ MeetsUnreadable root items := by
  intro h
  induction h with
  | @here d rest h =>
    have hd := Datum.isShort_resolve hroot ((Bool.and_eq_true _ _).mp hitems).1
    exact h.asked.elim (display?_ne_none hroot (isShort_told hroot hd "sha512"))
      (not_isUnshown hroot (isShort_told hroot hd "size"))
  | later _ _ ih => exact ih ((Bool.and_eq_true _ _).mp hitems).2

/-- A document without integers of too many digits has all texts that are asked for. -/
theorem not_isOverlong (h : doc.isShort = true) : ¬ IsOverlong doc := by
  have htold := isShort_told h h
  intro hlong
  cases hlong.asked with
  | version hnone => exact display?_ne_none h (htold "version") hnone
  | path hnone => exact display?_ne_none h (htold "path") hnone
  | checksum hnone => exact display?_ne_none h (htold "sha512") hnone
  | size _ _ hunshown => exact not_isUnshown h (htold "size") hunshown
  | files hfiles hmeets =>
    have hitems := htold "files"
    rw [hfiles] at hitems
    exact not_meetsUnreadable h hitems hmeets

/-! ## Reading -/

/-- Of the documents whose texts are all there the reader accepts exactly the manifests, and refuses
the others as malformed; and if a text is asked for that is not there, which takes an integer of too
many digits, no use can be made of the document. What is read says what the document tells: it has a
version, every file has a name, and its schema tells whether it lists files and has a path, so that
a path without a list is the primary file, and a list without a path has none. -/
theorem ofLoaded_language (doc : Datum) :
    (IsManifest doc → ¬ IsOverlong doc → ∃ m, ofLoaded (.ok doc) = .ok m) ∧
    (¬ IsManifest doc → ¬ IsOverlong doc → ∃ message,
      ofLoaded (.ok doc) = .error (.refused ⟨.manifestMalformed, message, ""⟩)) ∧
    (IsOverlong doc → ofLoaded (.ok doc) = .error (.unusable .tooLong)) ∧
    (doc.isShort = true → ¬ IsOverlong doc) ∧
    ∀ m, ofLoaded (.ok doc) = .ok m → IsManifest doc ∧ Says doc m ∧ m.version ≠ "" ∧
      (∀ e ∈ m.files, e.url ≠ "") ∧
      (m.schema = .primaryOnly ↔ told doc doc "files" = .null) ∧
      (m.schema = .filesWithPrimary ↔ told doc doc "files" ≠ .null ∧ m.path ≠ "") ∧
      (m.schema = .filesOnly ↔ told doc doc "files" ≠ .null ∧ m.path = "") ∧
      (m.schema = .primaryOnly → ∃ e, m.primary = .ok e ∧ m.files = [e] ∧ e.url = m.path) ∧
      (m.schema = .filesOnly → ∃ message,
        m.primary = .error ⟨.manifestInconsistency, message, ""⟩) := by
  refine ⟨(ofDatum_verdict doc).exists_ok, (ofDatum_verdict doc).exists_refused,
    (ofDatum_verdict doc).eq_tooLong, not_isOverlong, fun m h => ?_⟩
  obtain ⟨hmanifest, hsays⟩ := ofDatum_eq_ok h
  obtain ⟨honly, hboth, hlist⟩ := hsays.schema_iff
  exact ⟨hmanifest, hsays, hsays.version_ne hmanifest, hsays.url_ne hmanifest, honly, hboth,
    hlist, hsays.primary_of_primaryOnly hmanifest,
    fun hschema => ⟨_, primary_of_path_empty (hlist.mp hschema).2⟩⟩

/-- A version of too many digits makes a manifest that cannot be read. -/
theorem ofLoaded_of_long_version :
    ¬ ∀ doc, IsManifest doc → ∃ m, ofLoaded (.ok doc) = .ok m := by
  intro hall
  obtain ⟨n, hn⟩ : ∃ n : Nat, 10 ^ Numeral.maxDigits ≤ n := ⟨_, Nat.le_refl _⟩
  let doc := Datum.object [("version", .int n), ("path", .text "a")]
  have hversion : told doc doc "version" = .int n := rfl
  have hpath : told doc doc "path" = .text "a" := rfl
  have hgiven : IsGiven (told doc doc "path") := by
    rw [hpath]
    exact ⟨nofun, by simp⟩
  have hmanifest : IsManifest doc :=
    ⟨⟨_, _, rfl⟩, ⟨nofun, nofun⟩, .inl ⟨rfl, hgiven, 0, .absent⟩⟩
  have htext : Literal.display? doc (told doc doc "version") = none := by
    rw [hversion, Literal.display?_int_eq_none_iff, Int.natAbs_natCast]
    exact hn
  obtain ⟨m, hm⟩ := hall doc hmanifest
  have hread : ofDatum doc = .error (.unusable .tooLong) :=
    (ofDatum_verdict doc).eq_tooLong ⟨hmanifest.isMapping, hmanifest.version, .version htext⟩
  cases hread.symm.trans hm

end InstallerGateway.Manifest
