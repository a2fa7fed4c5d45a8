import InstallerGateway.Media.ContentType
import InstallerGateway.Proofs.Text.Split
import InstallerGateway.Proofs.Text.Strip
import Mathlib.Tactic.SplitIfs

/-!
# The types of uploads

The content type under which an upload is served follows from the extension of its key and from the
type that the client declares. A type that says nothing, and that of a form, count for nothing.
-/

namespace InstallerGateway.ContentType

variable {extension t : String} {stored : Option String}

/-- The declared type, if it says something about the upload. -/
def telling? (declared : Option String) : Option String :=
  declared.filter fun t => !isGeneric (mediaType t) && !isForm (mediaType t)

/-- The type that an extension has if nothing is known besides. -/
def inferred (extension : String) : String := (guess? extension).getD unknown

/-- The type that is served, as a chain of choices: the fixed one, the stored one, the inferred one.
-/
theorem ofStored_eq (extension : String) (stored : Option String) :
    ofStored extension stored = (fixed? extension).getD
      ((stored.filter fun t => !isGeneric (mediaType t)).getD (inferred extension)) := by
  unfold ofStored inferred
  cases fixed? extension with
  | some t => simp only [Option.getD_some]
  | none =>
    cases stored with
    | none => simp only [Option.getD_none, Option.filter_none]
    | some t =>
      cases hgeneric : isGeneric (mediaType t) <;> simp [Option.filter, hgeneric]

/-- The type that is stored, as a choice: the declared one, or else the one that would be served. -/
theorem ofUpload_eq (extension : String) (declared : Option String) :
    ofUpload extension declared =
      (declared.filter fun t => !(mediaType t = "" || isForm (mediaType t))).getD
        (ofStored extension none) := by
  unfold ofUpload
  cases declared with
  | none => rfl
  | some t =>
    cases hform : (mediaType t = "" || isForm (mediaType t)) <;> simp [Option.filter, hform]

/-- The type under which an upload is served: that of the extension if this is fixed, or else the
declared one if that says something, or else the one that the extension suggests. -/
theorem ofStored_ofUpload (extension : String) (declared : Option String) :
    ofStored extension (some (ofUpload extension declared)) =
      (fixed? extension).getD ((telling? declared).getD (inferred extension)) := by
  rw [ofStored_eq, ofUpload_eq, ofStored_eq]
  cases fixed? extension with
  | some t => simp only [Option.getD_some]
  | none =>
    simp only [Option.getD_none, Option.filter_none]
    generalize inferred extension = usual
    have husual : ((some usual).filter fun t => !isGeneric (mediaType t)).getD usual = usual := by
      cases hgeneric : isGeneric (mediaType usual) <;> simp [Option.filter, hgeneric]
    unfold telling?
    cases declared with
    | none => exact husual
    | some t =>
      cases hsilent : (mediaType t = "" || isForm (mediaType t)) with
      | true =>
        have htelling : (!isGeneric (mediaType t) && !isForm (mediaType t)) = false := by
          rcases Bool.or_eq_true_iff.mp hsilent with hempty | hform
          · simp [isGeneric, of_decide_eq_true hempty]
          · simp [hform]
        simp only [Option.filter, hsilent, htelling]
        exact husual
      | false =>
        obtain ⟨hempty, hform⟩ := Bool.or_eq_false_iff.mp hsilent
        have hnamed : mediaType t ≠ "" := of_decide_eq_false hempty
        simp [Option.filter, hnamed, hform]

/-! ## Media types -/

/-- The media type is what stands between the blanks at the start of a content type and those before
its parameters or at its end, in small letters. -/
theorem mediaType_enclosed {before text after rest : List Char} (hne : text ≠ [])
    (hbefore : ∀ c ∈ before, isBlank c = true) (hafter : ∀ c ∈ after, isBlank c = true)
    (hhead : ∀ c, text.head? = some c → isBlank c = false)
    (hlast : ∀ c, text.getLast? = some c → isBlank c = false) (hmark : ';' ∉ text)
    (hrest : ∀ c, rest.head? = some c → c = ';') :
    mediaType (String.ofList (before ++ text ++ after ++ rest)) = lower (String.ofList text) := by
  have hblank {cs : List Char} (hcs : ∀ c ∈ cs, isBlank c = true) : ';' ∉ cs := fun hmem =>
    Bool.false_ne_true (hcs _ hmem)
  have hfree : ';' ∉ before ++ text ++ after := by
    simp [hblank hbefore, hmark, hblank hafter]
  have hfirst : (((splitFirst ';' (before ++ text ++ after ++ rest)).map (·.1)).getD
      (before ++ text ++ after ++ rest)) = before ++ text ++ after := by
    cases rest with
    | nil => rw [List.append_nil, splitFirst_eq_none hfree, Option.map_none, Option.getD_none]
    | cons c parameters =>
      rw [hrest c rfl, splitFirst_append_cons hfree, Option.map_some, Option.getD_some]
  unfold mediaType
  simp only [String.toList_ofList]
  rw [hfirst, stripBy_enclosed hne hbefore hafter hhead hlast]

example : mediaType " Text/HTML ; charset=UTF-8" = "text/html" := by decide +kernel

/-! ## Plain types -/

/-- The character stands for itself in a media type: it is printable, and neither a capital letter
nor a semicolon. -/
def isPlainChar (c : Char) : Bool :=
  0x21 ≤ c.toNat && c.toNat < 0x7F && c != ';' && !c.isUpper

/-- The text consists of characters that stand for themselves in a media type. -/
def IsPlain (t : String) : Prop := ∀ c ∈ t.toList, isPlainChar c = true

instance (t : String) : Decidable (IsPlain t) := inferInstanceAs (Decidable (∀ c ∈ t.toList, _))

theorem isPlainChar_iff {c : Char} : isPlainChar c = true ↔
    0x21 ≤ c.toNat ∧ c.toNat < 0x7F ∧ c ≠ ';' ∧ c.isUpper = false := by
  simp [isPlainChar, and_assoc]

theorem lowerChar_of_isPlainChar {c : Char} (h : isPlainChar c = true) : lowerChar c = c := by
  obtain ⟨-, hhigh, -, hsmall⟩ := isPlainChar_iff.mp h
  have hkelvin : (c.toNat == 0x212A) = false := beq_eq_false_iff_ne.mpr (by omega)
  have hlower : c.toLower = c := by
    unfold Char.toLower
    exact dif_neg (of_decide_eq_false hsmall)
  unfold lowerChar
  rw [hkelvin, hlower]
  rfl

theorem isBlank_of_isPlainChar {c : Char} (h : isPlainChar c = true) : isBlank c = false := by
  obtain ⟨hlow, hhigh, -⟩ := isPlainChar_iff.mp h
  simp [isBlank]
  omega

theorem lower_of_isPlain (h : IsPlain t) : lower t = t := by
  unfold lower
  rw [List.map_congr_left fun c hc => lowerChar_of_isPlainChar (h c hc)]
  exact (congrArg String.ofList (List.map_id _)).trans String.ofList_toList

/-- A plain type is its own media type. -/
theorem mediaType_of_isPlain (h : IsPlain t) : mediaType t = t := by
  by_cases hempty : t = ""
  · rw [hempty]
    rfl
  · have hblank (c : Char) (hc : c ∈ t.toList) : isBlank c = false :=
      isBlank_of_isPlainChar (h c hc)
    have hmedia : mediaType (String.ofList ([] ++ t.toList ++ [] ++ [])) =
        lower (String.ofList t.toList) := mediaType_enclosed (by simpa using hempty) nofun nofun
      (fun c hc => hblank c (List.mem_of_mem_head? hc))
      (fun c hc => hblank c (List.mem_of_getLast? hc))
      (fun hmem => (isPlainChar_iff.mp (h _ hmem)).2.2.1 rfl) nofun
    simpa [lower_of_isPlain h] using hmedia

theorem isPlain_types : ∀ t ∈ Media.types.map (·.1), IsPlain t := by
  have hall : (Media.types.all fun row => row.1.toList.all isPlainChar) = true := by
    decide +kernel
  intro t ht c hc
  obtain ⟨row, hrow, rfl⟩ := List.mem_map.mp ht
  exact List.all_eq_true.mp (List.all_eq_true.mp hall row hrow) c hc

/-! ## Which types are served -/

/-- The types of the extensions that have a type of their own. -/
def fixedTypes : List String := ["application/x-apple-diskimage", "application/x-msdownload"]

theorem mem_fixedTypes (h : fixed? extension = some t) : t ∈ fixedTypes := by
  unfold fixed? at h
  dsimp only at h
  split_ifs at h
  · rw [← Option.some.inj h]
    decide
  · rw [← Option.some.inj h]
    decide

/-- The type of an extension is one of the table. -/
theorem mem_types_of_guess? (h : guess? extension = some t) : t ∈ Media.types.map (·.1) := by
  unfold guess? at h
  dsimp only at h
  split at h
  · obtain ⟨entry, hentry, rfl⟩ := Option.map_eq_some_iff.mp h
    exact List.mem_map_of_mem (List.mem_of_find?_eq_some hentry)
  · cases h

/-- What holds of all types of extensions holds of every type that is served, if it holds of those
that are stored. -/
theorem ofStored_induction {p : String → Prop} (hfixed : ∀ t ∈ fixedTypes, p t)
    (htable : ∀ t ∈ Media.types.map (·.1), p t) (hunknown : p unknown)
    (hstored : ∀ t ∈ stored, p t) : p (ofStored extension stored) := by
  have hinferred : p ((guess? extension).getD unknown) := by
    cases hguess : guess? extension with
    | none => exact hunknown
    | some t => exact htable t (mem_types_of_guess? hguess)
  unfold ofStored
  cases hfix : fixed? extension with
  | some t => exact hfixed t (mem_fixedTypes hfix)
  | none =>
    cases stored with
    | none => exact hinferred
    | some t =>
      dsimp only
      split_ifs
      · exact hinferred
      · exact hstored t rfl

/-- An inferred type that is stored is the type that is inferred again. -/
theorem ofStored_ofStored_none (extension : String) :
    ofStored extension (some (ofStored extension none)) = ofStored extension none := by
  unfold ofStored
  cases fixed? extension with
  | some t => rfl
  | none => simp only [ite_self]

/-- The media type that a client declares; empty if it declares none. -/
def declaredMedia (declared : Option String) : String := (declared.map mediaType).getD ""

/-- An upload is served as if its declared type had been stored, unless that is empty or that of a
form; then it is served as if no type had been stored. -/
theorem served_eq (extension : String) (declared : Option String) :
    ofStored extension (some (ofUpload extension declared)) =
      if declaredMedia declared ≠ "" ∧ isForm (declaredMedia declared) = false then
        ofStored extension declared
      else ofStored extension none := by
  have hempty : isForm "" = false := by decide
  unfold ofUpload
  cases declared with
  | none => exact ofStored_ofStored_none extension
  | some c =>
    have hmedia : declaredMedia (some c) = mediaType c := rfl
    rw [hmedia]
    dsimp only
    by_cases hsilent : (decide (mediaType c = "") || isForm (mediaType c)) = true
    · have hnot : ¬ (mediaType c ≠ "" ∧ isForm (mediaType c) = false) := by
        rcases Bool.or_eq_true_iff.mp hsilent with hnone | hform
        · exact fun h => h.1 (of_decide_eq_true hnone)
        · exact fun h => by simp [hform] at h
      rw [if_pos hsilent, if_neg hnot]
      exact ofStored_ofStored_none extension
    · obtain ⟨hnamed, hform⟩ := Bool.or_eq_false_iff.mp (Bool.not_eq_true _ ▸ hsilent)
      rw [if_neg hsilent, if_pos ⟨of_decide_eq_false hnamed, hform⟩]

/-- The type of a form is served only if it is stored. -/
theorem isForm_ofStored (h : ∀ t ∈ stored, isForm (mediaType t) = false) :
    isForm (mediaType (ofStored extension stored)) = false := by
  have htable : ∀ t ∈ Media.types.map (·.1), isForm t = false := by decide +kernel
  refine ofStored_induction (p := fun t => isForm (mediaType t) = false) (by decide +kernel)
    (fun t ht => ?_) (by decide +kernel) h
  rw [mediaType_of_isPlain (isPlain_types t ht)]
  exact htable t ht

theorem ofStored_of_fixed (h : fixed? extension = some t) (stored : Option String) :
    ofStored extension stored = t := by
  unfold ofStored
  rw [h]

theorem fixed?_dmg (h : lower extension = "dmg") :
    fixed? extension = some "application/x-apple-diskimage" := if_pos h

theorem fixed?_exe (h : lower extension = "exe") :
    fixed? extension = some "application/x-msdownload" := by
  have hdmg : lower extension ≠ "dmg" := by
    rw [h]
    decide
  unfold fixed?
  dsimp only
  rw [if_neg hdmg, if_pos h]

/-- A stored type that says something is served as it is, under any extension without a type of its
own. -/
theorem ofStored_of_not_isGeneric (hdmg : lower extension ≠ "dmg") (hexe : lower extension ≠ "exe")
    (h : isGeneric (mediaType t) = false) : ofStored extension (some t) = t := by
  have hfixed : fixed? extension = none := by
    unfold fixed?
    dsimp only
    rw [if_neg hdmg, if_neg hexe]
  unfold ofStored
  rw [hfixed]
  dsimp only
  rw [h]
  rfl

end InstallerGateway.ContentType
