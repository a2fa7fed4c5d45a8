import InstallerGateway.Datum.Literal
import InstallerGateway.Number.Numeral
import InstallerGateway.Store.Dictionary
import InstallerGateway.Text.Quoted
import InstallerGateway.Time.Clock

/-!
# Where values are kept for a time

Values with an end of their time are kept in memory, or as items of a table outside the gateway.
-/

namespace InstallerGateway

/-!
## Values kept for a time

Values are kept in memory under names, each until an instant of its own. A value whose time is over
is dropped when it is asked for.
-/

/-- A value and when its time is over. -/
structure Kept where
  /-- The value. -/
  value : String
  /-- The first instant at which it does not count any more. -/
  expiresAt : Instant
  deriving DecidableEq

/-- Values in memory. -/
abbrev MemoryCache := Dictionary Kept

namespace MemoryCache

/-- The value of a name at an instant, and the values afterwards. -/
def get (now : Instant) (name : String) (m : MemoryCache) : Option String × MemoryCache :=
  match Dictionary.find? name m with
  | none => (none, m)
  | some kept => if kept.expiresAt ≤ now then (none, m.remove name) else (some kept.value, m)

/-- A value is kept from an instant on for some seconds. -/
def put (now : Instant) (name value : String) (seconds : Rat) (m : MemoryCache) : MemoryCache :=
  Dictionary.put name ⟨value, now + seconds⟩ m

end MemoryCache

/-!
## Tables

A table keeps items outside the gateway, where others may change them: an item may be a value of any
kind. An item that the gateway has put holds a value and the second at which its time is over.
-/

/-- What a table does to requests: each may be refused with a reason. -/
structure TableFailures where
  /-- Requests for items are refused. -/
  get : Option String
  /-- Requests to keep an item are refused. -/
  put : Option String

/-- A table. -/
structure Table where
  /-- The items by partition key. -/
  items : Dictionary Datum
  /-- What is refused. -/
  failures : TableFailures

namespace Table

/-- A table without items. -/
def empty : Table := ⟨[], ⟨none, none⟩⟩

/-- The answer to a request for an item: null if there is none; an error if it is refused. -/
def get (t : Table) (partition : String) : Except String Datum :=
  match t.failures.get with
  | some reason => .error reason
  | none => .ok ((t.items.find? partition).getD .null)

/-- The table after a request to keep an item; an error if it is refused. -/
def put (t : Table) (partition : String) (item : Datum) : Except String Table :=
  match t.failures.put with
  | some reason => .error reason
  | none => .ok { t with items := t.items.put partition item }

end Table

/-! ## Items -/

namespace TableItem

/-- The partition key of a name. -/
def partition (name : String) : String := "LATEST#" ++ name

/-- The word for the kind of a value. -/
def kindName : Datum → String
  | .null => "NoneType"
  | .bool _ => "bool"
  | .int _ => "int"
  | .float _ => "float"
  | .text _ => "str"
  | .bytes _ => "bytes"
  | .date _ => "datetime.date"
  | .moment _ => "datetime.datetime"
  | .list .. => "list"
  | .tuple _ => "tuple"
  | .set _ => "set"
  | .map .. | .enclosing _ => "dict"

/-- What is said about a text or a byte string that is no integer. At most 200 characters of its
literal are shown. -/
def notInteger (literal : String) : String :=
  "invalid literal for int() with base 10: " ++ String.ofList (literal.toList.take 200)

/-- What is said about a numeral with too many digits, or about an integer that has too many to be
written; `found` says how many there are. -/
def tooManyDigits (found : String) : String :=
  "Exceeds the limit (" ++ toString Numeral.maxDigits ++
    " digits) for integer string conversion" ++ found ++
      "; use sys.set_int_max_str_digits() to increase the limit"

/-- The integer that a numeral stands for; otherwise what is said about its literal. Among ASCII
characters alone the information separators are no blanks. -/
def ofNumeral (literal : String) (cs : List Char) : Except String Int :=
  let isSeparator (c : Char) : Bool := 0x1C ≤ c.toNat && c.toNat ≤ 0x1F
  if cs.any isSeparator && cs.all fun c => c.toNat < 0x80 then .error (notInteger literal)
  else
    match Numeral.decimal cs with
    | .ok n => .ok n
    | .error .malformed => .error (notInteger literal)
    | .error (.tooLong n) => .error (tooManyDigits (": value has " ++ toString n ++ " digits"))

/-- A value as an integer; otherwise what is said about it. -/
def integer (d : Datum) : Except String Int :=
  match d with
  | .bool b => .ok (if b then 1 else 0)
  | .int n => .ok n
  | .float .nan => .error "cannot convert float NaN to integer"
  | .float x => (x.truncate?).elim (.error "cannot convert float infinity to integer") .ok
  | .text s => ofNumeral (Quoted.text s) s.toList
  | .bytes b =>
    let literal := Quoted.bytes (b.extract 0 200)
    if b.data.any (0x80 ≤ ·) then .error (notInteger literal)
    else ofNumeral literal (b.data.toList.map fun x => Char.ofNat x.toNat)
  | d =>
    .error ("int() argument must be a string, a bytes-like object or a real number, not '" ++
      kindName d ++ "'")

/-- The value of an item at an instant: none if there is no item or its time is over; an error if
the item is not what it should be. -/
def value? (now : Instant) (item : Datum) : Except String (Option String) :=
  if !item.isTruthy then .ok none
  else
    match item with
    | .map _ entries => do
      let expiresAt ← integer ((Datum.field? "expires_at" entries).getD (.int 0))
      if expiresAt ≤ truncate now then return none
      match Datum.field? "value" entries with
      | none => throw "'value'"
      | some d =>
        match Literal.display? d d with
        | some value => return some value
        | none => throw (tooManyDigits "")
    | d => .error ("'" ++ kindName d ++ "' object has no attribute 'get'")

/-- The item for a value that is kept from an instant on for some seconds; an error if these are no
number. -/
def make (now : Instant) (name value : String) (seconds : Datum) : Except String Datum := do
  let n ← integer seconds
  return .object [("PK", .text (partition name)), ("value", .text value),
    ("expires_at", .int (truncate now + n))]

end TableItem

end InstallerGateway
