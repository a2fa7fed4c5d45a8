import InstallerGateway.Proofs.Gateway.Admission
import InstallerGateway.Proofs.Gateway.Held
import InstallerGateway.Proofs.Http.Values

/-!
# Content types from upload to download

The content type that a download is served with is decided twice: the gateway chooses a type when an
object is put, and once more when it is got. What the two choices come to follows from the extension
of the key and from the type that the client declared, however long the object was kept, wherever it
was kept, and whatever else happened in the meantime.
-/

namespace InstallerGateway

open Act

/-- An empty content type says as little as none, so a bucket may take the one for the other. -/
theorem ContentType.ofStored_declared (extension : String) (stored : Option String) :
    ofStored extension (Storing.declared stored) = ofStored extension stored := by
  cases stored with
  | none => rfl
  | some t =>
    unfold Storing.declared
    by_cases hempty : t = ""
    · subst hempty
      unfold ofStored
      cases fixed? extension with
      | some t => rfl
      | none => rfl
    · rw [Option.filter_some_pos (by simpa using hempty)]

namespace Gateway

variable {g : Gateway} {r : Request} {w : World} {key : String}

/-! ## What is sent -/

theorem name_of_mem_cacheFields {now : Instant} {more : Headers} {f : String × String}
    (h : CacheControl.fields now g.settings.cacheMaxAge = .ok more) (hf : f ∈ more) :
    f.1 ∈ ["Expires", "Cache-Control"] := by
  unfold CacheControl.fields CacheControl.fieldsWritten at h
  obtain ⟨expires, -, h⟩ := bind_eq_ok h
  cases h
  exact List.mem_map_of_mem hf

/-- An object that is sent has one content type. -/
theorem values_objectFields (d : KeyDescriptor) (o : StoredObject) {more fields : Headers}
    (hmore : ∀ f ∈ more, f.1 ∈ ["Expires", "Cache-Control"])
    (hfields : ∀ f ∈ fields, f.1 ∈ limitNames) :
    Headers.values "Content-Type" ((objectFields d o ++ more) ++ fields) =
      [ContentType.ofStored d.extension o.contentType] := by
  let rest : Headers :=
    (if o.size = 0 then [] else [("Content-Length", toString o.size)]) ++ [("ETag", o.etag)]
  have hrest : ∀ f ∈ rest, f.1 ∈ ["Content-Length", "ETag"] := by
    simp only [rest]
    split_ifs <;> simp
  have hobject : objectFields d o =
      ("Content-Type", ContentType.ofStored d.extension o.contentType) :: rest := rfl
  rw [Headers.values_append, Headers.values_append, Headers.values_eq_nil hmore (by decide),
    Headers.values_eq_nil hfields (by decide), hobject,
    Headers.values_cons_self, Headers.values_eq_nil hrest (by decide)]
  rfl

/-- A plain key that is got with success is served with the type that comes of the one under which
its object is held. -/
theorem answer_get_type (hkey : g.IsPlain key) (htells : w.TellsTypes) (hget : r.method = "GET")
    (hroute : Route.ofRequest r.method r.path = .object key)
    (hok : (g.answer r w).1.status = 200) {body : ByteArray} {type? : Option String}
    (hheld : w.held? key = some (body, type?)) :
    (g.answer r w).1.sentHeaders.values "Content-Type" =
      [ContentType.ofStored (KeyDescriptor.parse key).extension type?] := by
  have hadmits := admits_of_ok hroute hok
  obtain ⟨windows, fields, hanswer, hnames⟩ := answer_of_admits hadmits
  have hserve : g.serveObject r key = g.read r key := by
    rw [serveObject_of_mayServe hadmits.access, if_neg (by simp [hget]), if_neg (by simp [hget])]
  rw [hserve] at hanswer
  rw [hanswer] at hok ⊢
  cases hread : result (g.read r key) (w.withWindows windows) with
  | error f =>
    rw [hread] at hok
    exact absurd hok (ending_error_status f)
  | ok a =>
    rw [hread] at hok
    have hstatus : a.response.status = 200 := hok
    rcases read_response hkey.isLocal hread with herror |
      ⟨k, o, now, more, hk, ho, hmore, hresponse⟩
    · have hhigh := herror.status
      omega
    · have hresolved : result (Resolving.resolve g.settings.latestCacheTtl
          (KeyDescriptor.parse key)) (w.withWindows windows) = .ok _ :=
        result_eq (Resolving.resolve_unmarked hkey.isUnmarked)
      obtain rfl : key = k := Except.ok.inj (hresolved.symm.trans hk)
      obtain ⟨body', hheld'⟩ := Storing.held?_of_get (w := w.withWindows windows) htells ho
      have htype : o.contentType = type? :=
        congrArg Prod.snd (Option.some.inj (hheld'.symm.trans hheld))
      show (a.response.withFields fields).sentHeaders.values "Content-Type" = _
      rw [hresponse, Response.values_sentHeaders rfl (by decide), ← htype]
      exact values_objectFields _ o (fun f => name_of_mem_cacheFields hmore) hnames

/-! ## From upload to download -/

/-- An object is put under a plain key, with success, and got later, with success, and in between
nothing is written to the key with success. It is served with the content type that comes of its
extension and of the declared type, or of the extension alone if the client declares none, an empty
one or that of a form. So the type of a form is never served, disk images and Windows programs have
the types of their own, and everything else has the declared type if that says something. -/
theorem served_type_of_upload (g : Gateway) (w : World) (key : String) (put get : Request)
    (between : List Step) (hkey : g.IsPlain key) (htells : w.TellsTypes)
    (hput : put.method = "PUT") (hroute : Route.ofRequest put.method put.path = .object key)
    (hkept : (g.answer put w).1.status = 200)
    (hbetween : g.LeavesAlone key (g.answer put w).2 between)
    (hget : get.method = "GET") (hroute' : Route.ofRequest get.method get.path = .object key)
    (hok : (g.answer get (g.run (g.answer put w).2 between)).1.status = 200) :
    let extension := (KeyDescriptor.parse key).extension
    let media := ContentType.declaredMedia put.contentType?
    let served := (g.answer get (g.run (g.answer put w).2 between)).1.sentHeaders.values
      "Content-Type"
    served = [if media ≠ "" ∧ ContentType.isForm media = false then
        ContentType.ofStored extension put.contentType?
      else ContentType.ofStored extension none] ∧
    (∀ t ∈ served, ContentType.isForm (ContentType.mediaType t) = false) ∧
    (lower extension = "dmg" → served = ["application/x-apple-diskimage"]) ∧
    (lower extension = "exe" → served = ["application/x-msdownload"]) ∧
    (lower extension ≠ "dmg" → lower extension ≠ "exe" → ∀ c, put.contentType? = some c →
      ContentType.isGeneric (ContentType.mediaType c) = false →
      ContentType.isForm (ContentType.mediaType c) = false → served = [c]) ∧
    ContentType.ofStored extension (some (ContentType.ofStored extension none)) =
      ContentType.ofStored extension none := by
  intro extension media served
  have hbare := isBare_of_route hroute
  obtain ⟨body, stored, hstored, hheld⟩ := answer_held?_of_put hput hroute hkept
  have hserved : served = [ContentType.ofStored extension (some (uploadType put key))] := by
    have hlater := (hbetween.held? hbare).trans hheld
    have htype := answer_get_type hkey (run_tellsTypes g between (answer_tellsTypes g put htells))
      hget hroute' hok hlater
    rcases hstored with rfl | rfl
    · exact htype
    · rwa [ContentType.ofStored_declared] at htype
  have hrule : served = [if media ≠ "" ∧ ContentType.isForm media = false then
      ContentType.ofStored extension put.contentType?
      else ContentType.ofStored extension none] :=
    hserved.trans (congrArg (fun t => [t]) (ContentType.served_eq extension put.contentType?))
  refine ⟨hrule, ?noForm, ?dmg, ?exe, ?verbatim, ContentType.ofStored_ofStored_none extension⟩
  case noForm =>
    intro t ht
    rw [hrule, List.mem_singleton] at ht
    rw [ht]
    split_ifs with htelling
    · refine ContentType.isForm_ofStored fun c hc => ?_
      have hmedia : media = ContentType.mediaType c := by
        show ContentType.declaredMedia put.contentType? = _
        rw [Option.mem_def.mp hc]
        rfl
      rw [← hmedia]
      exact htelling.2
    · exact ContentType.isForm_ofStored nofun
  case dmg =>
    intro hdmg
    rw [hserved, ContentType.ofStored_of_fixed (ContentType.fixed?_dmg hdmg)]
  case exe =>
    intro hexe
    rw [hserved, ContentType.ofStored_of_fixed (ContentType.fixed?_exe hexe)]
  case verbatim =>
    intro hdmg hexe c hc hgeneric hform
    have hmedia : media = ContentType.mediaType c := by
      show ContentType.declaredMedia put.contentType? = _
      rw [hc]
      rfl
    have hnamed : media ≠ "" := by
      intro hempty
      rw [← hmedia, hempty] at hgeneric
      exact absurd hgeneric (by decide)
    rw [hrule, if_pos ⟨hnamed, hmedia ▸ hform⟩, hc,
      ContentType.ofStored_of_not_isGeneric hdmg hexe hgeneric]

/-- An archive that is uploaded as if it came from a form is kept in a bucket, and served as an
archive. -/
theorem served_type_of_form :
    let put := Request.ofSent "PUT" "/desktop/app.zip" [(Access.credentialHeader, "sekrit"),
      ("Content-Length", "2"), ("Content-Type", "Multipart/Form-Data; boundary=x")] ⟨#[80, 75]⟩ none
    let attempt := Request.ofSent "PUT" "/desktop/app.zip" [("Content-Length", "0")]
      ByteArray.empty none
    let get := publisherOf "GET" "/desktop/app.zip" ByteArray.empty
    let w := { World.start 0 with storage := ⟨[], some "releases", "stable"⟩ }
    let w' := secretGateway.run (secretGateway.answer put w).2 [.request attempt, .wait 1]
    (secretGateway.answer get w').1.sentHeaders.values "Content-Type" = ["application/zip"] := by
  intro put attempt get w w'
  have hkey : secretGateway.IsPlain "desktop/app.zip" :=
    ⟨by decide +kernel, by decide +kernel, by decide +kernel⟩
  have hbetween : secretGateway.LeavesAlone "desktop/app.zip" (secretGateway.answer put w).2
      [.request attempt, .wait 1] := by
    refine ⟨fun r hr _ _ => ?_, nofun, trivial⟩
    cases hr
    decide +kernel
  have hserved := (served_type_of_upload secretGateway w "desktop/app.zip" put get
    [.request attempt, .wait 1] hkey (fun _ => rfl) rfl (by decide +kernel) (by decide +kernel)
    hbetween rfl (by decide +kernel) (by decide +kernel)).1
  exact hserved.trans (by decide +kernel)

end Gateway

end InstallerGateway
