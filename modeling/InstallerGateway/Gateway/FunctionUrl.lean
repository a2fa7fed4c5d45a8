import InstallerGateway.Datum.Basic
import InstallerGateway.Text.Split

/-!
# Events of function URLs

A function can be called through a URL of its own or through a gateway that speaks for it. The two
describe a request in different words; events of the first kind are put into the words of the
second.
-/

namespace InstallerGateway.FunctionUrl

/-- Why an event cannot be put into other words. -/
inductive Fault where
  /-- A part of it cannot hold what is looked for. -/
  | badContainer
  /-- A part of it has no named parts. -/
  | badShape
  deriving DecidableEq

/-- The text occurs in another one. -/
def occursIn (word : List Char) (cs : List Char) : Bool :=
  (firstFound? (afterWord? word) cs).isSome

/-- The value holds a name: as a part of its text, as an item or as a key. -/
def holds (d : Datum) (name : String) : Except Fault Bool :=
  match d with
  | .text s => .ok (occursIn name.toList s.toList)
  | .list _ items => .ok (items.any (·.sameKey (.text name)))
  | .map _ entries => .ok (Datum.field? name entries).isSome
  | _ => .error .badContainer

/-- The entries of a mapping. -/
def entriesOf (d : Datum) : Except Fault (List (Datum × Datum)) :=
  match d with
  | .map _ entries => .ok entries
  | _ => .error .badShape

/-- The value of a name, or another value if there is none. -/
def valueOr (entries : List (Datum × Datum)) (name : String) (other : Datum) : Datum :=
  (Datum.field? name entries).getD other

/-- The event in the other words; none if it is in these words already. -/
def transform? (event : Datum) : Except Fault (Option Datum) := do
  if !(← holds event "requestContext") then return none
  let entries ← entriesOf event
  let context := valueOr entries "requestContext" .null
  if !(← holds context "http") then return none
  match context with
  | .map _ parts =>
    let http ← entriesOf (valueOr parts "http" .null)
    return some <| .object [
      ("httpMethod", valueOr http "method" (.text "GET")),
      ("path", valueOr entries "rawPath" (.text "/")),
      ("queryStringParameters", valueOr entries "queryStringParameters" .null),
      ("headers", valueOr entries "headers" (.map 0 [])),
      ("body", valueOr entries "body" .null),
      ("isBase64Encoded", valueOr entries "isBase64Encoded" (.bool false)),
      ("requestContext", context)]
  | _ => .error .badContainer

end InstallerGateway.FunctionUrl
