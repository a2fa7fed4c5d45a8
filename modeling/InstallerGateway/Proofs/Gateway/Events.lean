import InstallerGateway.Gateway.Invocation
import InstallerGateway.Proofs.Bytes.Base64
import InstallerGateway.Proofs.Gateway.Admission
import InstallerGateway.Proofs.Http.Request

/-!
# Events and answers

An event asks for a request whose body is received whole. Its answer is read as a status and a body:
base64 if the answer says so, and otherwise text in UTF-8. The body that is read is the one that was
sent, unless that was to be text and is none; then there is no answer.
-/

namespace InstallerGateway.Invocation

variable {g : Gateway} {w : World} {event d : Datum} {balanced : Bool} {method : String}
  {r : Request}

/-! ## Events -/

theorem lengthOf_eq_ok {body : ByteArray} {length : String} (h : lengthOf body = .ok length) :
    Numeral.text? body.size = some length := by
  unfold lengthOf at h
  split at h
  · rename_i hdigits
    exact Except.ok.inj h ▸ hdigits
  · cases h

/-- The request that an event asks for ends with the declaration of its length. -/
theorem asked_eq_ok (h : asked event = .ok (balanced, method, r)) :
    ∃ path fields length remote, r =
        .ofSent method path (fields ++ [("Content-Length", length)]) r.body remote ∧
      Numeral.text? r.body.size = some length := by
  obtain ⟨_, -, h⟩ := bind_eq_ok h
  obtain ⟨_, -, h⟩ := bind_eq_ok h
  obtain ⟨entries, -, h⟩ := bind_eq_ok h
  obtain ⟨_, -, h⟩ := bind_eq_ok h
  obtain ⟨⟨method', r'⟩, hrequest, h⟩ := bind_eq_ok h
  cases h
  obtain ⟨body, -, h⟩ := bind_eq_ok hrequest
  obtain ⟨_, -, h⟩ := bind_eq_ok h
  obtain ⟨_, -, h⟩ := bind_eq_ok h
  obtain ⟨_, -, h⟩ := bind_eq_ok h
  obtain ⟨_, -, h⟩ := bind_eq_ok h
  obtain ⟨fields, -, h⟩ := bind_eq_ok h
  obtain ⟨path, -, h⟩ := bind_eq_ok h
  obtain ⟨_, -, h⟩ := bind_eq_ok h
  obtain ⟨length, hlength, h⟩ := bind_eq_ok h
  cases h
  exact ⟨path, _, length, _, rfl, lengthOf_eq_ok hlength⟩

/-- The body of a request that comes with an event is received as it was sent. -/
theorem received?_of_asked (h : asked event = .ok (balanced, method, r))
    (hwhole : r.headers.get? "Transfer-Encoding" ≠ some "chunked") :
    r.received? = some r.body := by
  obtain ⟨path, fields, length, remote, hr, hlength⟩ := asked_eq_ok h
  exact Request.received?_ofSent hr hlength hwhole

/-- The method as it is written in an event that asks to read an object is not that of a request for
the header fields alone. -/
theorem ne_head_of_asked (h : asked event = .ok (balanced, method, r)) (hget : r.method = "GET") :
    (method == "HEAD") = false := by
  obtain ⟨path, fields, length, remote, hr, -⟩ := asked_eq_ok h
  have hupper : String.ofList (method.toList.map Char.toUpper) = "GET" := by
    rw [← hget, hr]
    rfl
  rw [beq_eq_false_iff_ne]
  rintro rfl
  exact absurd hupper (by decide)

/-- An event is answered with the description of the response to what it asks for. -/
theorem answer_of_asked (h : asked event = .ok (balanced, method, r)) :
    answer g event w = (describe balanced method (g.answer r w).1, (g.serve r w).2) := by
  unfold answer
  rw [h]
  rfl

theorem answer_of_not_asked {f : Fault} (h : asked event = .error f) :
    answer g event w = (.error f, w) := by
  unfold answer
  rw [h]
  rfl

/-! ## Answers -/

/-- The answer tells that the request succeeded. -/
def saysOk : Datum → Bool
  | .map _ entries =>
    match Datum.field? "statusCode" entries with
    | some (.text s) => s == "200"
    | some (.int n) => n == 200
    | _ => false
  | _ => false

/-- The bytes that an answer holds: read from base64 if it says so, and otherwise those of its
text. -/
def bytes? : Datum → Option ByteArray
  | .map _ entries =>
    match Datum.field? "isBase64Encoded" entries, Datum.field? "body" entries with
    | some (.bool true), some (.text s) => Base64.decode? s
    | some (.bool false), some (.text s) => some s.toUTF8
    | _, _ => none
  | _ => none

/-- A response is described unless its body is to be text and is none. -/
theorem describe_eq (balanced : Bool) (method : String) (response : Response) :
    describe balanced method response =
      (bodyText response.sentHeaders (response.sentBody method)).map fun body =>
        .object <| (if balanced then
            [("statusCode", .int response.status),
              ("statusDescription", .text (Status.line response.status))]
          else [("statusCode", .text (toString response.status))]) ++ [
          ("headers", .object (response.sentHeaders.map fun h => (h.1, .text h.2))),
          ("isBase64Encoded", .bool (isBinary response.sentHeaders)), ("body", .text body)] := by
  unfold describe
  dsimp only
  cases bodyText response.sentHeaders (response.sentBody method) <;> rfl

/-- A description says that all is well if the status does. -/
theorem saysOk_of_describe {response : Response}
    (h : describe balanced method response = .ok d) : saysOk d = true ↔ response.status = 200 := by
  rw [describe_eq] at h
  cases hbody : bodyText response.sentHeaders (response.sentBody method) with
  | error f =>
    rw [hbody] at h
    cases h
  | ok body =>
    rw [hbody] at h
    cases h
    cases balanced with
    | true =>
      show ((response.status : Int) == 200) = true ↔ _
      rw [beq_iff_eq]
      omega
    | false =>
      show (toString response.status == toString 200) = true ↔ _
      rw [beq_iff_eq]
      refine ⟨fun h => ?_, congrArg toString⟩
      have hdigits := congrArg (fun s => Nat.ofDigitChars 10 s.toList 0) h
      simpa only [Numeral.ofDigitChars_toString] using hdigits

theorem toUTF8_of_fromUTF8? {bytes : ByteArray} {s : String}
    (h : String.fromUTF8? bytes = some s) : s.toUTF8 = bytes := by
  unfold String.fromUTF8? at h
  split_ifs at h
  cases h
  rfl

/-- The bytes that are read from an answer are those of the body. -/
theorem bytes?_of_describe {response : Response}
    (h : describe balanced method response = .ok d) :
    bytes? d = some (response.sentBody method) := by
  rw [describe_eq] at h
  generalize response.sentBody method = body at h
  cases htext : bodyText response.sentHeaders body with
  | error f =>
    rw [htext] at h
    cases h
  | ok text =>
    rw [htext] at h
    have hbytes : bytes? d = if isBinary response.sentHeaders then Base64.decode? text
        else some text.toUTF8 := by
      cases h
      cases balanced <;> cases hbinary : isBinary response.sentHeaders <;> rfl
    unfold bodyText at htext
    rw [hbytes]
    split_ifs at htext ⊢ with hbinary
    · cases htext
      exact Base64.decode?_encode body
    · split at htext
      · rename_i s hs
        cases htext
        exact congrArg some (toUTF8_of_fromUTF8? hs)
      · cases htext

/-- There is an answer exactly if the body is not text by its type, or is text indeed. -/
theorem describe_isOk_iff (balanced : Bool) (method : String) (response : Response) :
    (describe balanced method response).isOk = true ↔
      isBinary response.sentHeaders = true ∨
        (String.fromUTF8? (response.sentBody method)).isSome = true := by
  rw [describe_eq]
  unfold bodyText
  cases isBinary response.sentHeaders with
  | true => simp [Except.map, Except.isOk, Except.toBool]
  | false =>
    cases String.fromUTF8? (response.sentBody method) <;>
      simp [Except.map, Except.isOk, Except.toBool]

/-- A body that is neither declared binary nor text cannot be described. -/
theorem describe_eq_notText {response : Response} (hbinary : isBinary response.sentHeaders = false)
    (htext : String.fromUTF8? (response.sentBody method) = none) :
    describe balanced method response = .error .notText := by
  rw [describe_eq]
  unfold bodyText
  rw [hbinary, htext]
  rfl

/-! ## Runs -/

/-- A step in the life of a gateway that is called with events. -/
inductive Step where
  | invoke (event : Datum)
  | wait (seconds : NNRat)

/-- The world after a step. -/
def Step.perform (g : Gateway) : Step → World → World
  | .invoke event, w => (answer g event w).2
  | .wait seconds, w => w.advance seconds

/-- The world after the steps of a run. -/
def run (g : Gateway) (w : World) (steps : List Step) : World :=
  steps.foldl (fun w s => s.perform g w) w

/-- The step does not write to the object with a key. -/
def Step.Spares (key : String) : Step → Prop
  | .invoke event => ∀ balanced method r, asked event = .ok (balanced, method, r) →
      Access.isWrite r.method = true → Route.ofRequest r.method r.path ≠ .object key
  | .wait _ => True

/-- Closing a response, which is all that distinguishes an answer from serving, has no effect on the
store. -/
theorem serve_store (g : Gateway) (r : Request) (w : World) :
    (g.serve r w).2.storage = (g.answer r w).2.storage ∧ (g.serve r w).2.outage = w.outage := by
  obtain ⟨events, hclose, -⟩ := Gateway.close_snd (g.serve r w).1 (g.serve r w).2
  have hw : (g.answer r w).2 = (g.serve r w).2.noting events := hclose
  have houtage := Gateway.answer_outage g r w
  rw [hw] at houtage ⊢
  exact ⟨rfl, houtage⟩

/-- The store is in memory and in order, and holds this under a key. -/
structure Keeps (key : String) (object : Option (ByteArray × Option String)) (w : World) :
    Prop where
  bucket : w.storage.bucket = none
  outage : w.outage = none
  object : w.storage.memory.find? key = object

/-- What is kept under a key stays while a step does not write to it. -/
theorem Keeps.step {key : String} {object : Option (ByteArray × Option String)}
    (h : Keeps key object w) {s : Step} (hs : s.Spares key) : Keeps key object (s.perform g w) := by
  cases s with
  | wait seconds => exact ⟨h.bucket, h.outage, h.object⟩
  | invoke event =>
    cases hasked : asked event with
    | error f =>
      rw [Step.perform, answer_of_not_asked hasked]
      exact h
    | ok parts =>
      obtain ⟨balanced, method, r⟩ := parts
      rw [Step.perform, answer_of_asked hasked]
      obtain ⟨hstorage, houtage⟩ := serve_store g r w
      have hfind := Gateway.answer_find? g r h.bucket (hs balanced method r hasked)
      rw [← hstorage] at hfind
      refine ⟨?_, houtage.trans h.outage, hfind.trans h.object⟩
      rw [hstorage]
      exact Gateway.answer_bucket g r h.bucket

/-- What is kept under a key stays while no step of a run writes to it. -/
theorem Keeps.run {key : String} {object : Option (ByteArray × Option String)}
    (h : Keeps key object w) {steps : List Step} (hs : ∀ s ∈ steps, s.Spares key) :
    Keeps key object (run g w steps) := by
  induction steps generalizing w with
  | nil => exact h
  | cons s rest ih =>
    exact ih (h.step (hs s List.mem_cons_self)) fun t ht => hs t (List.mem_cons_of_mem _ ht)

end InstallerGateway.Invocation
