import InstallerGateway.Http.Request
import Mathlib.Data.List.Forall2

/-!
# Requests that differ in header fields

Requests are compared that agree in everything but the values of some header fields. If such fields
are sent with other values, all other fields that a request ends up with are the same.
-/

namespace InstallerGateway

theorem sameName_congr {a b : String} (h : sameName a b = true) (c : String) :
    sameName a c = sameName b c := by
  unfold sameName at *
  rw [beq_iff_eq.mp h]

namespace Headers

variable {names : List String} {name value : String} {headers headers' : Headers}

/-- The name is one of these. -/
def isAmong (names : List String) (name : String) : Bool := names.any (sameName name)

/-- The fields have the same name and, unless it is one of these, the same value. -/
def SameFieldBeside (names : List String) (f f' : String × String) : Prop :=
  f'.1 = f.1 ∧ (f'.2 = f.2 ∨ isAmong names f.1 = true)

theorem SameFieldBeside.refl (f : String × String) : SameFieldBeside names f f := ⟨rfl, .inl rfl⟩

theorem same_refl (headers : Headers) : List.Forall₂ (SameFieldBeside names) headers headers :=
  List.forall₂_same.mpr fun f _ => .refl f

theorem isAmong_congr {a b : String} (h : sameName a b = true) :
    isAmong names a = isAmong names b := by
  unfold isAmong
  congr 1
  funext c
  exact sameName_congr h c

/-! ## Fields one by one -/

theorem any_of_same (h : List.Forall₂ (SameFieldBeside names) headers headers') (name : String) :
    (headers'.any fun f => sameName f.1 name) = headers.any fun f => sameName f.1 name := by
  induction h with
  | nil => rfl
  | cons hfield _ ih => rw [List.any_cons, List.any_cons, hfield.1, ih]

/-- Headers that differ in some fields alone still do so without a field. -/
theorem without_of_same (h : List.Forall₂ (SameFieldBeside names) headers headers')
    (name : String) :
    List.Forall₂ (SameFieldBeside names) (headers.without name) (headers'.without name) := by
  refine List.rel_filter ?_ h
  intro f f' hfield
  dsimp only
  rw [hfield.1]

/-- Headers that differ in some fields alone still do so after one field is replaced in both. -/
theorem replace_of_same (h : List.Forall₂ (SameFieldBeside names) headers headers')
    {value' : String} (hvalue : SameFieldBeside names (name, value) (name, value')) :
    List.Forall₂ (SameFieldBeside names) (set.replace name value headers)
      (set.replace name value' headers') := by
  induction h with
  | nil => exact .nil
  | @cons f f' _ _ hfield hrest ih =>
    obtain ⟨n, v⟩ := f
    obtain ⟨n', v'⟩ := f'
    obtain rfl : n' = n := hfield.1
    unfold set.replace
    split
    · exact .cons hvalue (without_of_same hrest name)
    · exact .cons hfield ih

/-- Headers that differ in some fields alone still do so after one field is set in both. -/
theorem set_of_same (h : List.Forall₂ (SameFieldBeside names) headers headers') {value' : String}
    (hvalue : SameFieldBeside names (name, value) (name, value')) :
    List.Forall₂ (SameFieldBeside names) (headers.set name value) (headers'.set name value') := by
  unfold set
  rw [any_of_same h]
  split
  · exact replace_of_same h hvalue
  · exact List.rel_append h (.cons hvalue .nil)

/-- A name that is one of these is written without underscores if they are. -/
theorem hyphenated_of_isAmong (hnames : ∀ n ∈ names, '_' ∉ (lower n).toList)
    (h : isAmong names name = true) : hyphenated name = name := by
  obtain ⟨n, hn, hsame⟩ := List.any_eq_true.mp h
  have hno : '_' ∉ name.toList := by
    intro hmem
    refine hnames n hn ?_
    rw [← beq_iff_eq.mp hsame]
    unfold lower
    rw [String.toList_ofList]
    exact List.mem_map.mpr ⟨'_', hmem, by decide⟩
  unfold hyphenated
  have hmap : (name.toList.map fun c => if c = '_' then '-' else c) = name.toList.map id := by
    refine List.map_congr_left fun c hc => ?_
    have hother : c ≠ '_' := by
      rintro rfl
      exact hno hc
    exact if_neg hother
  rw [hmap, List.map_id, String.ofList_toList]

/-- Fields that are sent alike are fields alike of the request, as are those that are set already.
-/
theorem ofSent_of_same (hnames : ∀ n ∈ names, '_' ∉ (lower n).toList)
    (h : List.Forall₂ (SameFieldBeside names) headers headers') :
    List.Forall₂ (SameFieldBeside names) (ofSent headers) (ofSent headers') := by
  have hfold (set set' : Headers) (hset : List.Forall₂ (SameFieldBeside names) set set') :
      List.Forall₂ (SameFieldBeside names)
        (headers.foldl (fun (hs : Headers) f => hs.set (hyphenated f.1) f.2) set)
        (headers'.foldl (fun (hs : Headers) f => hs.set (hyphenated f.1) f.2) set') := by
    induction h generalizing set set' with
    | nil => exact hset
    | @cons f f' _ _ hfield _ ih =>
      rw [List.foldl_cons, List.foldl_cons, hfield.1]
      refine ih _ _ (set_of_same hset ⟨rfl, hfield.2.imp_right fun hamong => ?_⟩)
      show isAmong names (hyphenated f.1) = true
      rw [hyphenated_of_isAmong hnames hamong]
      exact hamong
  exact hfold [] [] .nil

/-- Headers that differ in some fields alone tell the same of every other. -/
theorem get?_of_same (h : List.Forall₂ (SameFieldBeside names) headers headers')
    (hname : isAmong names name = false) : headers'.get? name = headers.get? name := by
  induction h with
  | nil => rfl
  | @cons f f' _ _ hfield _ ih =>
    obtain ⟨n, v⟩ := f
    obtain ⟨n', v'⟩ := f'
    obtain ⟨rfl, hvalue⟩ := hfield
    unfold get?
    split
    · rename_i hsame
      rcases hvalue with hvalue | hamong
      · exact congrArg some hvalue
      · rw [isAmong_congr hsame, hname] at hamong
        cases hamong
    · exact ih

theorem get?_without {other : String} (h : sameName name other = false) (headers : Headers) :
    (headers.without other).get? name = headers.get? name := by
  induction headers with
  | nil => rfl
  | cons f rest ih =>
    obtain ⟨n, v⟩ := f
    unfold without at ih ⊢
    rw [List.filter_cons]
    split
    · unfold get?
      rw [ih]
    · rename_i hdropped
      have hother : sameName n other = true := by simpa using hdropped
      have hne : ¬ sameName n name = true := fun hsame => by
        rw [← sameName_congr hsame, hother] at h
        cases h
      show _ = if sameName n name then some v else get? name rest
      rw [if_neg hne, ih]

end Headers

namespace Request

/-- The requests agree in everything but the values of fields with these names, which one of them
may lack, and the address from which they come. -/
structure SameBeside (names : List String) (r r' : Request) : Prop where
  method : r'.method = r.method
  path : r'.path = r.path
  body : r'.body = r.body
  field : ∀ name, Headers.isAmong names name = false → r'.headers.get? name = r.headers.get? name

namespace SameBeside

variable {names : List String} {r r' : Request}

/-- Requests that differ in other fields alone have the same declared length. -/
theorem contentLength? (h : SameBeside names r r')
    (hcoding : Headers.isAmong names "Transfer-Encoding" = false)
    (hlength : Headers.isAmong names "Content-Length" = false) :
    r'.contentLength? = r.contentLength? := by
  unfold Request.contentLength?
  rw [h.field _ hcoding, h.field _ hlength]

theorem contentType? (h : SameBeside names r r')
    (htype : Headers.isAmong names "Content-Type" = false) : r'.contentType? = r.contentType? :=
  h.field _ htype

end SameBeside

end Request

end InstallerGateway
