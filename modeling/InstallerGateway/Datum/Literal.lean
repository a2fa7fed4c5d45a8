import InstallerGateway.Datum.Basic
import InstallerGateway.Number.Numeral
import InstallerGateway.Number.Shortest
import InstallerGateway.Text.Quoted

/-!
# Values as text

Values are shown in error messages and turned into text where a text is wanted. A text stands for
itself; every other value is written as a literal, in which texts are quoted, lists stand in square
brackets, tuples in round ones, sets and mappings in braces, and a container inside itself is cut to
an ellipsis. A value with an integer of too many digits in it has no literal.
-/

namespace InstallerGateway.Literal

/-- The items, separated by a comma and a space. -/
def joined : List (List Char) → List Char
  | [] => []
  | [x] => x
  | x :: rest => x ++ ',' :: ' ' :: joined rest

/-- The literal of a date. -/
def date (d : Date) : List Char :=
  "datetime.date(".toList ++
    joined [digitsOf 10 1 d.year, digitsOf 10 1 d.month, digitsOf 10 1 d.day] ++ [')']

/-- The literal of an offset from UTC, given as days and seconds of a day. -/
def offset (o : Int) : List Char :=
  if o = 0 then "datetime.timezone.utc".toList
  else
    let days := o.fdiv 86400
    let seconds := (o - days * 86400).toNat
    let parts :=
      (if days = 0 then [] else ["days=".toList ++ (toString days).toList]) ++
      (if seconds = 0 then [] else ["seconds=".toList ++ digitsOf 10 1 seconds])
    "datetime.timezone(datetime.timedelta(".toList ++ joined parts ++ [')', ')']

/-- The literal of a moment. Seconds and microseconds are left out at the end if they are zero. -/
def moment (t : Moment) : List Char :=
  let number (n : Nat) : List Char := digitsOf 10 1 n
  let time :=
    if t.micro ≠ 0 then [number t.second, number t.micro]
    else if t.second ≠ 0 then [number t.second]
    else []
  let zone := match t.offset with
    | none => []
    | some o => ["tzinfo=".toList ++ offset o]
  "datetime.datetime(".toList ++
    joined ([number t.date.year, number t.date.month, number t.date.day, number t.hour,
      number t.minute] ++ time ++ zone) ++ [')']

/-- The literal of a value that is no container. -/
def scalar? : Datum → Option (List Char)
  | .null => some "None".toList
  | .bool b => some (if b then "True" else "False").toList
  | .int n => (Numeral.text? n).map String.toList
  | .float x => some (Shortest.chars Shortest.plain x)
  | .text s => some (Quoted.text s).toList
  | .bytes b => some (Quoted.bytes b).toList
  | .date d => some (date d)
  | .moment t => some (moment t)
  | _ => some []

mutual

/-- The literal of a value inside the containers with the places `within`; `refer` writes the
container that a reference stands for. -/
def chars? (refer : List Nat → Nat → Option (List Char)) (within : List Nat) :
    Datum → Option (List Char)
  | .list place items =>
    if place ≠ 0 && within.contains place then some "[...]".toList
    else (charsOfItems? refer (place :: within) items).map fun xs => '[' :: joined xs ++ [']']
  | .tuple items =>
    (charsOfItems? refer within items).map fun
      | [x] => '(' :: x ++ [',', ')']
      | xs => '(' :: joined xs ++ [')']
  | .set members =>
    match members with
    | [] => some "set()".toList
    | m :: ms =>
      (charsOfItems? refer within (m :: ms)).map fun xs => '\x7b' :: joined xs ++ ['\x7d']
  | .map place entries =>
    if place ≠ 0 && within.contains place then some "\x7b...\x7d".toList
    else (charsOfEntries? refer (place :: within) entries).map fun xs =>
      '\x7b' :: joined xs ++ ['\x7d']
  | .enclosing place => refer within place
  | d => scalar? d

/-- The literals of the items of a container. -/
def charsOfItems? (refer : List Nat → Nat → Option (List Char)) (within : List Nat) :
    List Datum → Option (List (List Char))
  | [] => some []
  | d :: rest => do
    let x ← chars? refer within d
    let xs ← charsOfItems? refer within rest
    return x :: xs

/-- The literals of the entries of a mapping. -/
def charsOfEntries? (refer : List Nat → Nat → Option (List Char)) (within : List Nat) :
    List (Datum × Datum) → Option (List (List Char))
  | [] => some []
  | (k, v) :: rest => do
    let key ← chars? refer within k
    let value ← chars? refer within v
    let xs ← charsOfEntries? refer within rest
    return (key ++ ':' :: ' ' :: value) :: xs

end

/-- The literal of the container at a place of the document `root`, `depth` references deep at the
most. -/
def reference? (root : Datum) : Nat → List Nat → Nat → Option (List Char)
  | 0, _, _ => some []
  | depth + 1, within, place =>
    match Datum.find? place root with
    | some d => chars? (reference? root depth) within d
    | none => some []

/-- The literal of a value of the document `root`. Each reference followed opens one more container
of the document, so their number bounds the depth. -/
def literal? (root d : Datum) : Option String :=
  (chars? (reference? root (root.containers + 1)) [] d).map String.ofList

/-- A value of the document `root` as text: a text stands for itself, dates and moments are written
in the form of ISO 8601, and other values as literals. -/
def display? (root : Datum) : Datum → Option String
  | .text s => some s
  | .date d => some (String.ofList d.iso)
  | .moment t => some (String.ofList t.iso)
  | d => literal? root d

end InstallerGateway.Literal
