import InstallerGateway.Proofs.Gateway.Events
import InstallerGateway.Proofs.Media.Served
import InstallerGateway.Proofs.Store.Delivering

/-!
# Uploads through events

Installers and manifests that are put and got by events survive byte for byte, with one exception:
the client has declared a type that does not count as one of bodies that are no text, the extension
does not override it, and the body is no text in UTF-8. Then the event that asks for it has no
answer.
-/

namespace InstallerGateway.Invocation

open Gateway

variable {g : Gateway} {w : World} {key extension : String} {r : Request}

/-! ## The types of installers and manifests -/

/-- The extensions of installers and manifests. -/
def releaseExtensions : List String := ["dmg", "zip", "exe", "deb", "blockmap", "yml"]

/-- A content type that does not say that a body is no text. -/
def IsTextual (contentType : String) : Prop := isBinary [("Content-Type", contentType)] = false

instance (contentType : String) : Decidable (IsTextual contentType) :=
  inferInstanceAs (Decidable (_ = _))

theorem not_isTextual_inferred :
    ∀ e ∈ releaseExtensions, ¬ IsTextual (ContentType.inferred e) := by decide +kernel

theorem not_isTextual_fixed? :
    ∀ e ∈ releaseExtensions, ∀ t ∈ ContentType.fixed? e, ¬ IsTextual t := by decide +kernel

theorem fixed?_eq_none_iff : ∀ e ∈ releaseExtensions,
    ContentType.fixed? e = none ↔ e ≠ "dmg" ∧ e ≠ "exe" := by decide +kernel

/-- An installer or a manifest is served as text exactly if the client has declared such a type and
the extension does not override it. -/
theorem isTextual_served_iff (h : extension ∈ releaseExtensions) (declared : Option String) :
    IsTextual (ContentType.ofStored extension (some (ContentType.ofUpload extension declared))) ↔
      (extension ≠ "dmg" ∧ extension ≠ "exe") ∧
        ∃ t ∈ ContentType.telling? declared, IsTextual t := by
  rw [ContentType.ofStored_ofUpload, ← fixed?_eq_none_iff extension h]
  cases hfixed : ContentType.fixed? extension with
  | some t =>
    rw [Option.getD_some]
    have hbinary := not_isTextual_fixed? extension h t hfixed
    exact ⟨fun htext => absurd htext hbinary, fun hopen => absurd hopen.1 (Option.some_ne_none t)⟩
  | none =>
    rw [Option.getD_none]
    cases ContentType.telling? declared with
    | none =>
      rw [Option.getD_none]
      have hbinary := not_isTextual_inferred extension h
      refine ⟨fun htext => absurd htext hbinary, ?_⟩
      rintro ⟨-, t, ht, -⟩
      exact absurd ht (Option.not_mem_none t)
    | some t => simp

/-! ## Sending and keeping -/

/-- Header fields that are added at the end do not change what a response says about its body. -/
theorem isBinary_sentHeaders {response : Response} (hstatus : response.status = 200) {t : String}
    {rest : Headers} (hheaders : response.headers = ("Content-Type", t) :: rest) :
    isBinary response.sentHeaders = isBinary [("Content-Type", t)] := by
  have hfirst (more : Headers) :
      isBinary (("Content-Type", t) :: more) = isBinary [("Content-Type", t)] := by
    simp [isBinary, Headers.get?]
  have hbodiless : Status.isBodiless response.status = false := by rw [hstatus]; rfl
  unfold Response.sentHeaders
  rw [if_neg (by simp [hstatus]), if_neg (by simp [hbodiless])]
  split_ifs
  · rw [hheaders, List.cons_append]
    exact hfirst _
  · rw [hheaders]
    exact hfirst _

/-- An upload that was answered with success is kept under its key. -/
theorem keeps_of_put {put d : Datum} {balanced : Bool} {method : String}
    (hbucket : w.storage.bucket = none) (houtage : w.outage = none)
    (hasked : asked put = .ok (balanced, method, r)) (hput : r.method = "PUT")
    (hroute : Route.ofRequest r.method r.path = .object key)
    (hwhole : r.headers.get? "Transfer-Encoding" ≠ some "chunked")
    (hanswer : (answer g put w).1 = .ok d) (hok : saysOk d = true) :
    Keeps key (some (r.body, some (uploadType r key))) (answer g put w).2 := by
  rw [answer_of_asked hasked] at hanswer ⊢
  have hstatus := (saysOk_of_describe hanswer).mp hok
  have hreceived := received?_of_asked hasked hwhole
  obtain ⟨hstorage, houtage'⟩ := serve_store g r w
  have hkept : (g.answer r w).2.storage = { w.storage with
      memory := w.storage.memory.put key (r.body, some (uploadType r key)) } := by
    rcases answer_effect g r hbucket with ⟨other, hother, -, heffect⟩ | ⟨-, hfail⟩
    · rw [hstatus] at heffect
      cases hroute.symm.trans hother
      obtain ⟨body, hbody, hafter⟩ := heffect.of_put hput
      cases hreceived.symm.trans hbody
      exact hafter
    · exact absurd hstatus (hfail (by simp [Access.isWrite, hput]))
  refine ⟨?_, houtage'.trans houtage, ?_⟩
  · rw [hstorage, hkept]
    exact hbucket
  · rw [hstorage, hkept]
    exact Dictionary.find?_put_self _ _ _

/-- An event that passes every check and asks for what is kept under a plain key is answered with a
description of it. -/
theorem get_of_keeps {get : Datum} {balanced : Bool} {method t : String} {body : ByteArray}
    (hkept : Keeps key (some (body, some t)) w) (hkey : g.IsPlain key) (hline : IsLine t)
    (hasked : asked get = .ok (balanced, method, r)) (hget : r.method = "GET")
    (hadmits : g.Admits r w key)
    (hdate : (CacheControl.fields w.clock g.settings.cacheMaxAge).isOk = true) :
    ∃ response, (answer g get w).1 = describe balanced method response ∧
      response.status = 200 ∧ response.sentBody method = body ∧
      isBinary response.sentHeaders = isBinary
        [("Content-Type", ContentType.ofStored (KeyDescriptor.parse key).extension (some t))] := by
  have hlines : ∀ o ∈ w.storage.memory.find? key, ∀ t ∈ o.2, IsLine t := by
    rw [hkept.object]
    rintro o ⟨⟩ t ⟨⟩
    exact hline
  obtain ⟨more, hmore⟩ := exists_eq_ok_of_isOk hdate
  obtain ⟨fields, hresponse⟩ := hadmits.get_answer hget hkey hkept.bucket hkept.outage hlines hmore
  rw [hkept.object, Option.elim_some] at hresponse
  refine ⟨_, congrArg Prod.fst (answer_of_asked hasked), ?_⟩
  rw [hresponse]
  refine ⟨rfl, ?_, isBinary_sentHeaders rfl rfl⟩
  have hmemory : allBytes [body] = body.data.toList := by simp [allBytes]
  unfold Response.sentBody
  rw [ne_head_of_asked hasked hget]
  exact foldl_append_eq hmemory

/-- The upload is served as text, and is none. -/
structure IsGarbled (key : String) (r : Request) : Prop where
  isOpen : (KeyDescriptor.parse key).extension ≠ "dmg" ∧ (KeyDescriptor.parse key).extension ≠ "exe"
  isDeclared : ∃ t ∈ ContentType.telling? r.contentType?, IsTextual t
  notText : String.fromUTF8? r.body = none

/-- An event of a publisher. -/
def eventOf (method path : String) (headers : List (String × Datum)) (body : ByteArray) : Datum :=
  .object [("httpMethod", .text method), ("path", .text path), ("queryStringParameters", .null),
    ("headers", .object ((Access.credentialHeader, .text "sekrit") :: headers)),
    ("body", .text (Base64.encode body)), ("isBase64Encoded", .bool true)]

end InstallerGateway.Invocation
