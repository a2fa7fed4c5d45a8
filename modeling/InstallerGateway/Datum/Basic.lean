import InstallerGateway.Number.Binary64
import InstallerGateway.Time.Calendar

/-!
# Data of documents

The values that manifests, settings, stored items and log records are made of. A container that
other places of its document can refer to has a place number; where it occurs inside itself, the
inner occurrence is a reference to that number, so that every document is a finite tree.
-/

namespace InstallerGateway

/-- A value of a document. -/
inductive Datum where
  /-- The empty value. -/
  | null
  /-- A truth value. -/
  | bool (b : Bool)
  /-- An integer. -/
  | int (n : Int)
  /-- A floating point number. -/
  | float (x : Binary64)
  /-- A text. -/
  | text (s : String)
  /-- A byte string. -/
  | bytes (b : ByteArray)
  /-- A date. -/
  | date (d : Date)
  /-- A date with a time. -/
  | moment (t : Moment)
  /-- A list; place 0 means that nothing refers to it. -/
  | list (place : Nat) (items : List Datum)
  /-- A fixed row of values. -/
  | tuple (items : List Datum)
  /-- A set, in the order in which its members were added. -/
  | set (members : List Datum)
  /-- A mapping, its entries in order, with no key twice; place 0 means that nothing refers to
  it. -/
  | map (place : Nat) (entries : List (Datum × Datum))
  /-- The container with this place number, inside itself. -/
  | enclosing (place : Nat)
  deriving Inhabited

namespace Datum

/-- A mapping with text keys that nothing refers to. -/
def object (fields : List (String × Datum)) : Datum :=
  .map 0 (fields.map fun f => (.text f.1, f.2))

/-- A list that nothing refers to. -/
def array (items : List Datum) : Datum := .list 0 items

/-- The numeric value of truth values, integers and finite floating point numbers. -/
def number? : Datum → Option Rat
  | .bool b => some (if b then 1 else 0)
  | .int n => some n
  | .float x => x.toRat?
  | _ => none

/-- The value counts as true: it is not null, false, a zero, an empty text or an empty
container. -/
def isTruthy : Datum → Bool
  | .null => false
  | .bool b => b
  | .int n => n != 0
  | .float x => !x.isZero
  | .text s => !s.isEmpty
  | .bytes b => !b.isEmpty
  | .list _ items => !items.isEmpty
  | .tuple items => !items.isEmpty
  | .set members => !members.isEmpty
  | .map _ entries => !entries.isEmpty
  | .date _ | .moment _ | .enclosing _ => true

/-- The value may be a key: it is no list, set or mapping. -/
def isKey : Datum → Bool
  | .list .. | .set _ | .map .. | .enclosing _ => false
  | _ => true

/-- Two keys are the same. Numbers of all kinds are compared by value; NaN is the same as itself. -/
def sameKey (a b : Datum) : Bool :=
  match a.number?, b.number? with
  | some x, some y => x == y
  | some _, none => false
  | none, some _ => false
  | none, none =>
    match a, b with
    | .null, .null => true
    | .float x, .float y => x == y
    | .text s, .text t => s == t
    | .bytes s, .bytes t => s == t
    | .date s, .date t => s == t
    | .moment s, .moment t => s.same t
    | _, _ => false

/-- The entries of a mapping after an assignment: the key that is there keeps its place. -/
def assign (key value : Datum) : List (Datum × Datum) → List (Datum × Datum)
  | [] => [(key, value)]
  | (k, v) :: rest =>
    if k.sameKey key then (k, value) :: rest else (k, v) :: assign key value rest

/-- The members of a set with one more. -/
def addMember (member : Datum) (members : List Datum) : List Datum :=
  if members.any (·.sameKey member) then members else members ++ [member]

/-- The value of a text key among the entries of a mapping. -/
def field? (name : String) : List (Datum × Datum) → Option Datum
  | [] => none
  | (.text k, v) :: rest => if k = name then some v else field? name rest
  | _ :: rest => field? name rest

mutual

/-- The container with a place number in a document. -/
def find? (place : Nat) : Datum → Option Datum
  | d@(.list p items) => if p = place then some d else findAmong? place items
  | .tuple items => findAmong? place items
  | d@(.map p entries) => if p = place then some d else findInEntries? place entries
  | _ => none

/-- The container with a place number in one of several documents. -/
def findAmong? (place : Nat) : List Datum → Option Datum
  | [] => none
  | d :: rest => (find? place d).or (findAmong? place rest)

/-- The container with a place number among the values of entries. -/
def findInEntries? (place : Nat) : List (Datum × Datum) → Option Datum
  | [] => none
  | (_, v) :: rest => (find? place v).or (findInEntries? place rest)

end

mutual

/-- The number of lists and mappings of a document. -/
def containers : Datum → Nat
  | .list _ items => containersAmong items + 1
  | .tuple items => containersAmong items
  | .map _ entries => containersInEntries entries + 1
  | _ => 0

/-- The number of lists and mappings of several documents. -/
def containersAmong : List Datum → Nat
  | [] => 0
  | d :: rest => containers d + containersAmong rest

/-- The number of lists and mappings among the values of entries. -/
def containersInEntries : List (Datum × Datum) → Nat
  | [] => 0
  | (_, v) :: rest => containers v + containersInEntries rest

end

/-- The value itself, a reference replaced by the container of the document `root` that it refers
to. -/
def resolve (root : Datum) : Datum → Datum
  | .enclosing place => (find? place root).getD .null
  | d => d

end Datum

end InstallerGateway
