import InstallerGateway.Datum.Basic
import InstallerGateway.Number.Numeral
import InstallerGateway.Text.Split

/-!
# Values of settings

Settings come as text from the environment or as values of any kind. They are taken as far as it is
clear what they mean: a text may stand for a number or a truth value, and a number without a
fraction for an integer.
-/

namespace InstallerGateway.Settings

/-- Why a value is not accepted. -/
inductive Rejection where
  /-- A text is wanted. -/
  | stringType
  /-- A truth value is wanted. -/
  | boolType
  /-- The text or number stands for no truth value. -/
  | boolParsing
  /-- An integer is wanted. -/
  | intType
  /-- The text stands for no integer. -/
  | intParsing
  /-- The number has a fraction. -/
  | intFromFloat
  /-- The number has no fraction, but does not fit into 64 bits, or has too many digits. -/
  | intTooLarge
  /-- The number is infinite or none. -/
  | finiteNumber
  /-- A number is wanted. -/
  | floatType
  /-- The text stands for no number. -/
  | floatParsing
  /-- A list is wanted. -/
  | listType
  /-- A mapping is wanted. -/
  | dictType
  deriving DecidableEq

/-- The name of a rejection. -/
def Rejection.name : Rejection → String
  | .stringType => "string_type"
  | .boolType => "bool_type"
  | .boolParsing => "bool_parsing"
  | .intType => "int_type"
  | .intParsing => "int_parsing"
  | .intFromFloat => "int_from_float"
  | .intTooLarge => "int_parsing_size"
  | .finiteNumber => "finite_number"
  | .floatType => "float_type"
  | .floatParsing => "float_parsing"
  | .listType => "list_type"
  | .dictType => "dict_type"

/-- The character is white space of Unicode; the information separators are not. -/
def isSpace (c : Char) : Bool := isBlank c && !(0x1C ≤ c.toNat && c.toNat < 0x20)

/-- The text without its underscores, if none stands at an end or beside another. -/
def joinDigits? (cs : List Char) : Option (List Char) :=
  let doubled := (firstFound? (afterWord? ['_', '_']) cs).isSome
  if cs.head? = some '_' || cs.getLast? = some '_' || doubled then none
  else some (cs.filter (· != '_'))

/-- The text is not empty and consists of decimal digits. -/
def isDigits (cs : List Char) : Bool := !cs.isEmpty && cs.all Char.isDigit

/-- The text without a point and zeros after it at its end. -/
def dropZeroFraction (cs : List Char) : List Char :=
  match splitLast '.' cs with
  | some (whole, fraction) => if !fraction.isEmpty && fraction.all (· == '0') then whole else cs
  | none => cs

/-- The integer that a text stands for. -/
def intOfText? (text : String) : Option Int := do
  let (negative, body) := Numeral.sign (stripBy isSpace text.toList)
  let digits ← joinDigits? (dropZeroFraction body)
  if isDigits digits then
    let n := (Numeral.natural? 10 digits).getD 0
    some (if negative then -n else n)
  else none

/-- The number that a text stands for. -/
def floatOfText? (text : String) : Option Binary64 := do
  let body ← joinDigits? (stripBy isSpace text.toList)
  if body.all fun c => c.toNat < 0x80 && !isBlank c then Numeral.double? body else none

/-- The truth value that a text stands for, in any case. -/
def boolOfText? (text : String) : Option Bool :=
  let word := String.ofList (text.toList.map Char.toLower)
  if ["1", "t", "true", "on", "y", "yes"].contains word then some true
  else if ["0", "f", "false", "off", "n", "no"].contains word then some false
  else none

/-- A value as a text. -/
def asText : Datum → Except Rejection String
  | .text s => .ok s
  | _ => .error .stringType

/-- A value as a text or nothing. -/
def asOptionalText : Datum → Except Rejection (Option String)
  | .null => .ok none
  | .text s => .ok (some s)
  | _ => .error .stringType

/-- The truth value of a number: 0 and 1 have one. -/
def boolOfInt (n : Int) : Except Rejection Bool :=
  if n = 0 then .ok false else if n = 1 then .ok true else .error .boolParsing

/-- A floating point number as an integer. It has to be whole, and smaller than `2 ^ 63` whatever
its sign is. -/
def intOfFloat (x : Binary64) : Except Rejection Int :=
  match x.toRat? with
  | none => .error .finiteNumber
  | some r =>
    if r.den ≠ 1 then .error .intFromFloat
    else if r.num.natAbs < Nat.pow 2 63 then .ok r.num
    else .error .intTooLarge

/-- A value as a truth value. -/
def asBool : Datum → Except Rejection Bool
  | .bool b => .ok b
  | .text s => (boolOfText? s).elim (.error .boolParsing) .ok
  | .int n => boolOfInt n
  | .float x =>
    match intOfFloat x with
    | .ok n => boolOfInt n
    | .error _ => .error .boolType
  | _ => .error .boolType

/-- A text as an integer. -/
def intOfText (text : String) : Except Rejection Int :=
  match intOfText? text with
  | none => .error .intParsing
  | some n => if (Numeral.text? n).isSome then .ok n else .error .intTooLarge

/-- A value as an integer. -/
def asInt : Datum → Except Rejection Int
  | .bool b => .ok (if b then 1 else 0)
  | .int n => .ok n
  | .float x => intOfFloat x
  | .text s => intOfText s
  | _ => .error .intType

/-- A value as a floating point number. -/
def asFloat : Datum → Except Rejection Binary64
  | .bool b => .ok (.ofInt (if b then 1 else 0))
  | .int n => .ok (.ofInt n)
  | .float x => .ok x
  | .text s => (floatOfText? s).elim (.error .floatParsing) .ok
  | _ => .error .floatType

end InstallerGateway.Settings
