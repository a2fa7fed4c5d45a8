import InstallerGateway.Number.Numeral
import InstallerGateway.Text.Character

/-!
# Requests

Requests as they reach the gateway, and the header fields of requests and responses.
-/

namespace InstallerGateway

/-!
## Header fields

Header fields in the order in which they were sent. Names are compared without regard to case.
-/

/-- Header fields: names and values. -/
abbrev Headers := List (String × String)

namespace Headers

/-- The value of the first field with a name. -/
def get? (name : String) : Headers → Option String
  | [] => none
  | (n, v) :: rest => if sameName n name then some v else get? name rest

/-- The value of the last field with a name. -/
def getLast? (name : String) (headers : Headers) : Option String := get? name headers.reverse

/-- The fields without those of a name. -/
def without (name : String) (headers : Headers) : Headers :=
  headers.filter fun h => !sameName h.1 name

/-- A field is set; others with its name are dropped. -/
def set (name value : String) (headers : Headers) : Headers :=
  if headers.any fun h => sameName h.1 name then
    let rec replace : Headers → Headers
      | [] => []
      | (n, v) :: rest =>
        if sameName n name then (name, value) :: without name rest else (n, v) :: replace rest
    replace headers
  else headers ++ [(name, value)]

end Headers

/-!
## Single requests

A request as it reaches the gateway. Header fields whose names differ in case, or in having an
underscore in place of a hyphen, are one field, and the last of them counts.
-/

namespace Headers

/-- A name with hyphens in place of underscores. -/
def hyphenated (name : String) : String :=
  String.ofList (name.toList.map fun c => if c = '_' then '-' else c)

/-- The fields of a request, each of them once. -/
def ofSent (fields : List (String × String)) : Headers :=
  fields.foldl (fun hs f => hs.set (hyphenated f.1) f.2) []

end Headers

/-- A request. -/
structure Request where
  /-- The method, in capital letters. -/
  method : String
  /-- The path, decoded and with one slash at its start. -/
  path : String
  /-- The header fields. -/
  headers : Headers
  /-- The bytes that the client sends as the body. -/
  body : ByteArray
  /-- The address from which the request comes, if it is known. -/
  remote : Option String

namespace Request

/-- A path with exactly one slash at its start. -/
def rooted (path : String) : String :=
  String.ofList ('/' :: path.toList.dropWhile (· == '/'))

/-- A request with the parts that a client sends. -/
def ofSent (method path : String) (fields : List (String × String)) (body : ByteArray)
    (remote : Option String) : Request :=
  ⟨String.ofList (method.toList.map Char.toUpper), rooted path, Headers.ofSent fields, body, remote⟩

/-- The length that a text declares: decimal digits, not too many, where less than nothing is
nothing. -/
def lengthOf? (text : String) : Option Nat :=
  let cs := stripBy isBlank text.toList
  let number? (ds : List Char) : Option Nat :=
    if ds.isEmpty || Numeral.maxDigits < ds.length then none
    else ds.foldl (fun n? c => do return (← n?) * 10 + (← asciiDigit? c)) (some 0)
  match cs with
  | '-' :: ds => (number? ds).map fun _ => 0
  | ds => number? ds

/-- The declared length of the body, unless it is sent piece by piece. -/
def contentLength? (r : Request) : Option Nat :=
  if r.headers.get? "Transfer-Encoding" = some "chunked" then none
  else (r.headers.get? "Content-Length").bind lengthOf?

/-- The body as far as its declared length; without one it is empty. There is none if the client
sends less than it declares. -/
def received? (r : Request) : Option ByteArray :=
  match r.contentLength? with
  | none => some ByteArray.empty
  | some n => if n ≤ r.body.size then some (r.body.extract 0 n) else none

/-- The content type that the client declares for the body. -/
def contentType? (r : Request) : Option String := r.headers.get? "Content-Type"

end Request

end InstallerGateway
