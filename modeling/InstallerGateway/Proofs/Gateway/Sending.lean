import InstallerGateway.Proofs.Gateway.Reading
import InstallerGateway.Proofs.Gateway.StoreEffects
import InstallerGateway.Proofs.Media.Served

/-!
# Sending objects

An object from memory is always sent: its content type and its other header fields stay on one line,
if the content type under which it was stored does. Only the date until which it may be kept can
stand in the way, if there is none.
-/

namespace InstallerGateway

open Act

/-! ## Texts on one line -/

/-- The text has no line break. -/
def IsLine (text : String) : Prop := ∀ c ∈ text.toList, c ≠ '\n' ∧ c ≠ '\r'

instance (text : String) : Decidable (IsLine text) :=
  decidable_of_iff (text.toList.all (fun c => c != '\n' && c != '\r') = true) (by simp [IsLine])

theorem IsLine.append {first second : String} (h : IsLine first) (h' : IsLine second) :
    IsLine (first ++ second) := by
  intro c hc
  rw [String.toList_append] at hc
  rcases List.mem_append.mp hc with hc | hc
  · exact h c hc
  · exact h' c hc

theorem digitChar_ne : ∀ k < 16, Nat.digitChar k ≠ '\n' ∧ Nat.digitChar k ≠ '\r' := by decide

theorem toDigits_ne {base n : Nat} (hbase : 1 < base) (hle : base ≤ 16) {c : Char}
    (h : c ∈ Nat.toDigits base n) : c ≠ '\n' ∧ c ≠ '\r' := by
  induction n using Nat.strong_induction_on with
  | _ n ih =>
    rw [Nat.toDigits_eq_if hbase] at h
    split_ifs at h with hsmall
    · rw [List.mem_singleton.mp h]
      exact digitChar_ne n (by omega)
    · have hpos : 0 < base := by omega
      rcases List.mem_append.mp h with hfirst | hlast
      · exact ih (n / base) (Nat.div_lt_self (by omega) hbase) hfirst
      · rw [List.mem_singleton.mp hlast]
        exact digitChar_ne (n % base) ((Nat.mod_lt n hpos).trans_le hle)

theorem isLine_natCast (n : Nat) : IsLine (toString (n : Int)) := by
  intro c hc
  have hdigits : c ∈ Nat.toDigits 10 n := by
    rw [← Nat.toList_repr]
    exact hc
  exact toDigits_ne (by decide) (by decide) hdigits

/-- A digest stays on a line. -/
theorem isLine_md5 (message : ByteArray) : IsLine (Digest.md5 message) := by
  intro c hc
  unfold Digest.md5 at hc
  simp only [String.toList_ofList, List.mem_flatMap] at hc
  obtain ⟨x, -, b, -, hdigit⟩ := hc
  unfold digitsOf at hdigit
  rcases List.mem_append.mp hdigit with hzero | hdigit
  · rw [List.eq_of_mem_replicate hzero]
    decide
  · exact toDigits_ne (by decide) (by decide) hdigit

namespace ContentType

variable {extension : String} {type? : Option String}

theorem IsPlain.isLine {t : String} (h : IsPlain t) : IsLine t := by
  intro c hc
  obtain ⟨hlow, -⟩ := isPlainChar_iff.mp (h c hc)
  constructor <;> rintro rfl <;> exact absurd hlow (by decide)

theorem isLine_ofStored (h : ∀ t ∈ type?, IsLine t) : IsLine (ofStored extension type?) :=
  ofStored_induction (by decide) (fun t ht => (isPlain_types t ht).isLine) (by decide) h

theorem isLine_ofUpload (h : ∀ t ∈ type?, IsLine t) : IsLine (ofUpload extension type?) := by
  unfold ofUpload
  cases type? with
  | none => exact isLine_ofStored nofun
  | some t =>
    dsimp only
    split_ifs
    · exact isLine_ofStored nofun
    · exact h t rfl

end ContentType

namespace Gateway

variable {g : Gateway} {r : Request} {w : World} {key : String}

/-- Header fields that stay on their lines can be sent. -/
theorem sendable_perform {fields : Headers} (h : ∀ f ∈ fields, IsLine f.2) (w : World) :
    perform (sendable fields) w = (.ok fields, w) := by
  have hany : (fields.any fun f => f.2.toList.any fun c => c == '\n' || c == '\r') = false := by
    simp only [List.any_eq_false]
    intro f hf hbreak
    obtain ⟨c, hc, hbreak⟩ := List.any_eq_true.mp hbreak
    have hline := h f hf c hc
    simp [hline.1, hline.2] at hbreak
  unfold sendable
  rw [hany]
  rfl

/-- Header fields that can be sent stay on their lines. -/
theorem sendable_result {fields fields' : Headers} (h : result (sendable fields) w = .ok fields') :
    ∀ f ∈ fields, IsLine f.2 := by
  unfold sendable at h
  split at h
  · cases h
  · rename_i hbreaks
    intro f hf c hc
    constructor
    · rintro rfl
      exact hbreaks (List.any_eq_true.mpr ⟨f, hf, List.any_eq_true.mpr ⟨_, hc, rfl⟩⟩)
    · rintro rfl
      exact hbreaks (List.any_eq_true.mpr ⟨f, hf, List.any_eq_true.mpr ⟨_, hc, rfl⟩⟩)

/-- The header fields of an object stay on their lines if its type does. -/
theorem isLine_of_mem_objectFields (d : KeyDescriptor) (key : String) (body : ByteArray)
    {type? : Option String} (h : ∀ t ∈ type?, IsLine t) {f : String × String}
    (hf : f ∈ objectFields d (.ofMemory key body type?)) : IsLine f.2 := by
  unfold objectFields at hf
  simp only [List.mem_append, List.mem_singleton] at hf
  rcases hf with (rfl | hlength) | rfl
  · exact ContentType.isLine_ofStored h
  · split_ifs at hlength
    · cases hlength
    · rw [List.mem_singleton.mp hlength]
      exact isLine_natCast body.size
  · exact ((by decide : IsLine "\"").append (isLine_md5 body)).append (by decide)

theorem reportDownload_perform (g : Gateway) (r : Request) (name : String) (w : World) :
    ∃ events, perform (g.reportDownload r name) w = (.ok (), w.noting events) := by
  unfold reportDownload
  split
  · exact ⟨[], rfl⟩
  · exact ⟨_, perform_report _ w⟩

/-- The response by which an object from memory is sent. -/
def sending (d : KeyDescriptor) (o : StoredObject) (more : Headers) : Response :=
  ⟨200, objectFields d o ++ more, o.chunks, true, none⟩

/-- An object from memory whose type stays on its line is sent. -/
theorem sendObject_perform (d : KeyDescriptor) (key : String) (body : ByteArray)
    {type? : Option String} (htype : ∀ t ∈ type?, IsLine t) {more : Headers}
    (hdate : CacheControl.fields w.clock g.settings.cacheMaxAge = .ok more) :
    result (g.sendObject r d (.ofMemory key body type?)) w =
      .ok (.full (sending d (.ofMemory key body type?) more)) := by
  have hsend (w' : World) (hclock : w'.clock = w.clock) : result (do
      let fields ← sendable (objectFields d (.ofMemory key body type?))
      let more ← g.cacheFields
      return Answer.full ⟨200, fields ++ more, [body], true, none⟩) w' =
        .ok (.full (sending d (.ofMemory key body type?) more)) := by
    have hcache : perform g.cacheFields w' = (.ok more, w') := by
      unfold cacheFields
      rw [perform_bind_ok (perform_get _), hclock, hdate]
      rfl
    have hfields := sendable_perform
      (fun f hf => isLine_of_mem_objectFields d key body htype hf) w'
    exact result_eq ((perform_bind_ok hfields).trans (perform_bind_ok hcache))
  obtain ⟨events, hreport⟩ := reportDownload_perform g r d.baseName w
  unfold sendObject
  dsimp only
  split
  · unfold result
    rw [perform_bind_ok hreport]
    exact hsend _ rfl
  · exact hsend w rfl

/-- The key stands for one object in the store: it is usable, it does not ask for the newest
release, and it does not belong to another host. -/
structure IsPlain (g : Gateway) (key : String) : Prop where
  isValid : Key.isValid key = true
  isUnmarked : (KeyDescriptor.parse key).isLatest = false
  isLocal : key.startsWith g.settings.staticPrefix = false

/-- What is read under a plain key is what is kept in memory. -/
theorem read_plain (hkey : g.IsPlain key) (hbucket : w.storage.bucket = none)
    (houtage : w.outage = none) (hlines : ∀ o ∈ w.storage.memory.find? key, ∀ t ∈ o.2, IsLine t)
    {more : Headers} (hdate : CacheControl.fields w.clock g.settings.cacheMaxAge = .ok more) :
    result (g.read r key) w = .ok ((w.storage.memory.find? key).elim
      (.brokenOff 404 "Object Not Found") fun o =>
        .full (sending (KeyDescriptor.parse key) (.ofMemory key o.1 o.2) more)) := by
  have hresolved : perform (Resolving.resolve g.settings.latestCacheTtl (KeyDescriptor.parse key))
      w = (.ok (KeyDescriptor.parse key).key, w) := Resolving.resolve_unmarked hkey.isUnmarked
  have hfound : result (Storing.get key) w = .ok (w.storage.kept? key) := by
    rw [Storing.get_result, houtage, hbucket]
  obtain ⟨events, hafter, -⟩ := Storing.get_after key w
  unfold result read
  rw [if_neg (by simp [hkey.isLocal]), perform_bind_ok hresolved]
  refine (result_bind_of_ok hfound).trans ?_
  rw [hafter]
  unfold Storage.kept?
  cases ho : w.storage.memory.find? key with
  | none => rfl
  | some o =>
    rw [ho] at hlines
    exact sendObject_perform (w := w.noting _) (KeyDescriptor.parse key) key o.1 (hlines o rfl)
      hdate

/-! ## What is kept -/

/-- The type of an upload stays on its line if the fields of the request do. -/
theorem isLine_uploadType (h : ∀ f ∈ r.headers, IsLine f.2) : IsLine (uploadType r key) := by
  refine ContentType.isLine_ofUpload fun t ht => ?_
  have hmem (headers : Headers) (ht : headers.get? "Content-Type" = some t) :
      ∃ f ∈ headers, f.2 = t := by
    induction headers with
    | nil => cases ht
    | cons f rest ih =>
      obtain ⟨name, value⟩ := f
      unfold Headers.get? at ht
      split_ifs at ht with hname
      · exact ⟨(name, value), by simp, Option.some.inj ht⟩
      · obtain ⟨f, hf, hvalue⟩ := ih ht
        exact ⟨f, List.mem_cons_of_mem _ hf, hvalue⟩
  obtain ⟨f, hf, rfl⟩ := hmem r.headers ht
  exact h f hf

/-- All content types can be sent as long as those of requests can. -/
theorem StoreEffect.lines {s s' : Storage} {status : Nat} (heffect : StoreEffect r key s status s')
    (hlines : ∀ f ∈ r.headers, IsLine f.2)
    (h : ∀ key, ∀ o ∈ s.memory.find? key, ∀ t ∈ o.2, IsLine t) :
    ∀ key, ∀ o ∈ s'.memory.find? key, ∀ t ∈ o.2, IsLine t := by
  intro other
  by_cases hne : key = other
  · subst hne
    cases heffect with
    | kept _ _ =>
      rw [Dictionary.find?_put_self]
      rintro o ⟨⟩ t ⟨⟩
      exact isLine_uploadType hlines
    | removed _ =>
      rw [Dictionary.find?_remove_self]
      nofun
    | unchanged _ => exact h key
  · rw [heffect.find?_of_ne hne]
    exact h other

end Gateway

end InstallerGateway
