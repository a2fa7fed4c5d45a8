import InstallerGateway.Bytes.Base64
import InstallerGateway.Bytes.Unicode
import InstallerGateway.Gateway.FunctionUrl
import InstallerGateway.Gateway.Serving

/-!
# Invocations

The gateway can be called as a function, with events that describe requests. The answer describes
the response; its body is text, which is base64 if the content type says that it is not text anyway.
-/

namespace InstallerGateway.Invocation

/-- Why an event cannot be answered. -/
inductive Fault where
  /-- A part of the event cannot hold what is looked for, or is of the wrong kind. -/
  | badContainer
  /-- A part of the event has no named parts, or is no text. -/
  | badShape
  /-- A part of the event is missing. -/
  | missing
  /-- The base64 text of the body is not complete. -/
  | badBase64
  /-- The base64 text of the body holds a character that is not ASCII. -/
  | notAscii
  /-- The path holds a character that is not Latin-1. -/
  | notLatin1
  /-- The length of the body has too many digits. -/
  | endlessBody
  /-- The body of the response is not text. -/
  | notText
  deriving DecidableEq

/-- The fault of an event that cannot be put into the words of a gateway. -/
def Fault.ofEvent : FunctionUrl.Fault → Fault
  | .badContainer => .badContainer
  | .badShape => .badShape

/-- A part of an event that has to be there. -/
def required (event : List (Datum × Datum)) (name : String) : Except Fault Datum :=
  match Datum.field? name event with
  | some d => .ok d
  | none => .error .missing

/-- A part of an event, or nothing. -/
def optional (event : List (Datum × Datum)) (name : String) : Datum :=
  (Datum.field? name event).getD .null

/-! ## Requests -/

/-- The body of an event. What does not count as true is empty. -/
def bodyOf (body isBase64 : Datum) : Except Fault ByteArray :=
  if !body.isTruthy then .ok ByteArray.empty
  else
    match body with
    | .text s =>
      if !isBase64.isTruthy then .ok s.toUTF8
      else if s.toList.any fun c => 0x7F < c.toNat then .error .notAscii
      else
        match Base64.decode? s with
        | some bytes => .ok bytes
        | none => .error .badBase64
    | _ => .error .badContainer

/-- The length of a body, in digits. -/
def lengthOf (body : ByteArray) : Except Fault String :=
  match Numeral.text? body.size with
  | some digits => .ok digits
  | none => .error .endlessBody

/-- The query of an event has to be a mapping, or not to count as true. -/
def checkQuery (query : Datum) : Except Fault Unit :=
  if !query.isTruthy then .ok ()
  else
    match query with
    | .map _ _ => .ok ()
    | _ => .error .badContainer

/-- The header field that says for whom a request was forwarded. -/
def forwardedField : String := "X-Forwarded-For"

/-- The entry says for whom the request was forwarded, but not in a text. -/
def isBadForwarding (e : Datum × Datum) : Bool :=
  match e with
  | (_, .text _) => false
  | (.text name, _) => sameName (Headers.hyphenated name) forwardedField
  | _ => false

/-- The header fields of an event: those that have a text. -/
def fieldsOf (headers : Datum) : Except Fault (List (String × String)) :=
  if !headers.isTruthy then .ok []
  else
    match headers with
    | .map _ entries =>
      if entries.any isBadForwarding then .error .badShape
      else .ok <| entries.filterMap fun e =>
        match e with
        | (.text name, .text value) => some (name, value)
        | _ => none
    | _ => .error .badShape

/-- The address before the first comma and blank. -/
def firstAddress : List Char → List Char
  | ',' :: ' ' :: _ => []
  | c :: rest => c :: firstAddress rest
  | [] => []

/-- The address from which the request of an event comes: the first one for which it was forwarded,
or else that of the machine itself. -/
def remoteOf (headers : Headers) : String :=
  match headers.get? forwardedField with
  | some value => String.ofList (firstAddress value.toList)
  | none => "127.0.0.1"

/-- The path of an event, whose characters are the bytes of a text in UTF-8. What does not count as
true is the empty path. -/
def pathOf (path : Datum) : Except Fault String :=
  if !path.isTruthy then .ok ""
  else
    match path with
    | .text s =>
      let cs := s.toList
      if cs.any fun c => 0xFF < c.toNat then .error .notLatin1
      else .ok (String.ofList (Utf8.read (cs.map fun c => UInt8.ofNat c.toNat)))
    | _ => .error .badShape

/-- The method of an event. -/
def methodOf (method : Datum) : Except Fault String :=
  match method with
  | .text s => .ok s
  | _ => .error .badShape

/-- The method of an event, as it is written there, and the request. -/
def requestOf (event : List (Datum × Datum)) : Except Fault (String × Request) := do
  let body ← bodyOf (optional event "body") (optional event "isBase64Encoded")
  let method ← required event "httpMethod"
  let path ← required event "path"
  checkQuery (← required event "queryStringParameters")
  let headers := (Headers.ofSent (← fieldsOf (optional event "headers"))).without "Content-Length"
  let path ← pathOf path
  let method ← methodOf method
  let length ← lengthOf body
  return (method, .ofSent method path (headers ++ [("Content-Length", length)]) body
    (some (remoteOf headers)))

/-! ## Answers -/

/-- The content types of bodies that are not text. -/
def binaryTypes : List String := [
  "application/octet-stream", "application/x-apple-diskimage", "application/x-msdownload",
  "application/vnd.debian.binary-package", "application/x-debian-package", "application/zip",
  "image/png", "image/jpeg", "image/x-icon"]

/-- The header fields say that the body is not text. Only what stands before a semicolon in the
content type counts. -/
def isBinary (headers : Headers) : Bool :=
  (headers.get? "Content-Type").any fun t =>
    binaryTypes.contains (String.ofList (((splitFirst ';' t.toList).map (·.1)).getD t.toList))

/-- A body as text. -/
def bodyText (headers : Headers) (body : ByteArray) : Except Fault String :=
  if isBinary headers then .ok (Base64.encode body)
  else
    match String.fromUTF8? body with
    | some s => .ok s
    | none => .error .notText

/-- The description of a response to a method. A load balancer is told the status as a number and in
words; all others are told the number as text. -/
def describe (balanced : Bool) (method : String) (r : Response) : Except Fault Datum := do
  let headers := r.sentHeaders
  let body ← bodyText headers (r.sentBody method)
  let status : List (String × Datum) := if balanced then
      [("statusCode", .int r.status), ("statusDescription", .text (Status.line r.status))]
    else [("statusCode", .text (toString r.status))]
  return .object <| status ++ [
    ("headers", .object (headers.map fun h => (h.1, .text h.2))),
    ("isBase64Encoded", .bool (isBinary headers)),
    ("body", .text body)]

/-- The entries of an event. -/
def entriesOf (event : Datum) : Except Fault (List (Datum × Datum)) :=
  match event with
  | .map _ entries => .ok entries
  | _ => .error .badShape

/-- What an event asks for: whether it comes from a load balancer, the method as it is written
there, and the request. -/
def asked (event : Datum) : Except Fault (Bool × String × Request) := do
  let _ ← entriesOf event
  let event := ((← (FunctionUrl.transform? event).mapError .ofEvent).getD event)
  let entries ← entriesOf event
  let context := (Datum.field? "requestContext" entries).getD (.map 0 [])
  let balanced ← (FunctionUrl.holds context "elb").mapError .ofEvent
  let (method, r) ← requestOf entries
  return (balanced, method, r)

/-- The answer to an event. -/
def answer (g : Gateway) (event : Datum) : StateM World (Except Fault Datum) :=
  match asked event with
  | .error f => return .error f
  | .ok (balanced, method, r) => do
    let response ← g.serve r
    return describe balanced method response

end InstallerGateway.Invocation
