import InstallerGateway.Http.Request
import InstallerGateway.Json.Writer
import InstallerGateway.Time.Clock

/-!
# Responses

What the gateway answers, and what other hosts answer to it.
-/

namespace InstallerGateway

/-!
## Status codes

The status codes of HTTP and what they are called.
-/

namespace Status

/-- The codes that have a name, and the names. -/
def titles : List (Nat × String) := [
  (100, "Continue"), (101, "Switching Protocols"), (102, "Processing"), (103, "Early Hints"),
  (200, "OK"), (201, "Created"), (202, "Accepted"), (203, "Non Authoritative Information"),
  (204, "No Content"), (205, "Reset Content"), (206, "Partial Content"), (207, "Multi Status"),
  (208, "Already Reported"), (226, "IM Used"),
  (300, "Multiple Choices"), (301, "Moved Permanently"), (302, "Found"), (303, "See Other"),
  (304, "Not Modified"), (305, "Use Proxy"), (306, "Switch Proxy"), (307, "Temporary Redirect"),
  (308, "Permanent Redirect"),
  (400, "Bad Request"), (401, "Unauthorized"), (402, "Payment Required"), (403, "Forbidden"),
  (404, "Not Found"), (405, "Method Not Allowed"), (406, "Not Acceptable"),
  (407, "Proxy Authentication Required"), (408, "Request Timeout"), (409, "Conflict"),
  (410, "Gone"), (411, "Length Required"), (412, "Precondition Failed"),
  (413, "Request Entity Too Large"), (414, "Request URI Too Long"),
  (415, "Unsupported Media Type"), (416, "Requested Range Not Satisfiable"),
  (417, "Expectation Failed"), (418, "I'm a teapot"), (421, "Misdirected Request"),
  (422, "Unprocessable Entity"), (423, "Locked"), (424, "Failed Dependency"), (425, "Too Early"),
  (426, "Upgrade Required"), (428, "Precondition Required"), (429, "Too Many Requests"),
  (431, "Request Header Fields Too Large"), (449, "Retry With"),
  (451, "Unavailable For Legal Reasons"),
  (500, "Internal Server Error"), (501, "Not Implemented"), (502, "Bad Gateway"),
  (503, "Service Unavailable"), (504, "Gateway Timeout"), (505, "HTTP Version Not Supported"),
  (507, "Insufficient Storage"), (508, "Loop Detected"), (510, "Not Extended"),
  (511, "Network Authentication Failed")]

/-- The name of a code. -/
def title (code : Nat) : String := (titles.lookup code).getD "Unknown"

/-- A code and its name in capital letters. -/
def line (code : Nat) : String :=
  toString code ++ " " ++ String.ofList ((title code).toList.map Char.toUpper)

/-- An answer with this code has no body. -/
def isBodiless (code : Nat) : Bool :=
  (100 ≤ code && code < 200) || code == 204 || code == 304

end Status

/-!
## Answers of the gateway

What the gateway answers: messages in JSON, pages, plain texts, and bodies that are passed on. Which
header fields and which bytes are sent depends on the status and on the method of the request.
-/

/-- A response. -/
structure Response where
  /-- The status code. -/
  status : Nat
  /-- The header fields. -/
  headers : Headers
  /-- The body, in pieces. -/
  chunks : List ByteArray
  /-- The length of the body is known before it is sent. -/
  isSized : Bool
  /-- The URL that the body comes from, if it comes from another host. -/
  source : Option String

namespace Response

/-- A response with a body of known length. -/
def ofText (status : Nat) (contentType body : String) : Response :=
  ⟨status, [("Content-Type", contentType)], [body.toUTF8], true, none⟩

/-- A response with a JSON value, on one line. -/
def ofDatum (status : Nat) (d : Datum) : Response :=
  ofText status "application/json" ((Json.text? Json.compact d).getD "" ++ "\n")

/-- A message. -/
def ofMessage (status : Nat) (message : String) : Response :=
  ofDatum status (.object [("message", .text message)])

/-- The content type of pages. -/
def pageType : String := "text/html; charset=utf-8"

/-- A page that names the status and explains it. -/
def page (status : Nat) (explanation : String) : Response :=
  let title := Status.title status
  ofText status pageType <|
    "<!doctype html>\n<html lang=en>\n<title>" ++ toString status ++ " " ++ title ++
      "</title>\n<h1>" ++ title ++ "</h1>\n<p>" ++ explanation ++ "</p>\n"

/-- A plain text. -/
def plain (text : String) : Response := ofText 200 "text/plain; charset=utf-8" text

/-- The response with more header fields. -/
def withFields (r : Response) (fields : Headers) : Response :=
  { r with headers := r.headers ++ fields }

/-- The whole body. -/
def body (r : Response) : ByteArray := r.chunks.foldl (· ++ ·) ByteArray.empty

/-- The header fields that describe a body, other than the date until which it holds. -/
def entityFields : List String :=
  ["Allow", "Content-Encoding", "Content-Language", "Content-Length", "Content-MD5",
    "Content-Range", "Content-Type", "Last-Modified"]

/-- The header fields that are sent. The length of the body is added if it is known; without a body
nothing is said about it. -/
def sentHeaders (r : Response) : Headers :=
  if r.status = 304 then r.headers.filter fun h => !entityFields.any (sameName h.1)
  else if Status.isBodiless r.status then r.headers.without "Content-Length"
  else if r.isSized && (r.headers.get? "Content-Length").isNone then
    r.headers ++ [("Content-Length", toString r.body.size)]
  else r.headers

/-- The bytes that are sent. The answer to a `HEAD` request has none. -/
def sentBody (r : Response) (method : String) : ByteArray :=
  if method == "HEAD" || Status.isBodiless r.status then ByteArray.empty else r.body

end Response

/-!
## How long answers may be kept

The header fields that tell caches for how long they may keep an answer.
-/

namespace CacheControl

/-- The fields of an answer that is given at an instant and may be kept for `maxAge` seconds, a
number that is written as `written`. -/
def fieldsWritten (now : Instant) (maxAge : Rat) (written : String) :
    Except DateFault (List (String × String)) := do
  let expires ← HttpDate.text? (now + maxAge)
  return [("Expires", expires), ("Cache-Control", "public, max-age=" ++ written)]

/-- The fields of an answer that is given at an instant and may be kept for whole seconds. -/
def fields (now : Instant) (maxAge : Int) : Except DateFault (List (String × String)) :=
  fieldsWritten now maxAge (toString maxAge)

end CacheControl

/-!
## Other hosts

What becomes of a request to another host: an answer, whose body arrives in pieces, or none.
-/

/-- Why another host does not answer. -/
inductive RemoteFailure where
  /-- It cannot be reached, does not answer in time, or breaks the rules. -/
  | unavailable
  /-- Something else goes wrong. -/
  | broken (message : String)

/-- An answer of another host. -/
structure RemoteAnswer where
  /-- The status code. -/
  status : Nat
  /-- The header fields. -/
  headers : Headers
  /-- The body, in pieces. -/
  chunks : List ByteArray

/-- What becomes of a request to a URL. -/
structure RemoteOutcome where
  /-- How many seconds it takes. -/
  delay : Rat
  /-- The answer, or why there is none. -/
  answer : Except RemoteFailure RemoteAnswer

/-- What becomes of requests, by URL. -/
abbrev RemoteHosts := List (String × RemoteOutcome)

namespace RemoteHosts

/-- What becomes of a request to a URL. A URL that is not known cannot be reached. -/
def request (h : RemoteHosts) (url : String) : RemoteOutcome :=
  (h.lookup url).getD ⟨0, .error .unavailable⟩

end RemoteHosts

end InstallerGateway
