import InstallerGateway.Bytes.Base64
import InstallerGateway.Datum.Basic
import InstallerGateway.Number.Numeral
import InstallerGateway.Text.Split
import InstallerGateway.Yaml.Source

/-!
# Scalars of a YAML document

Which kind of value a plain scalar stands for, and its value. The kinds are those of version 1.1 of
the language: `yes` and `on` are truth values, `010` is octal, `1:30` is in base 60, and a floating
point number has a point and, if it has an exponent, a sign before it.
-/

namespace InstallerGateway.Yaml

/-- The kind of value that a node stands for. -/
inductive Tag where
  /-- The empty value. -/
  | null
  /-- A truth value. -/
  | bool
  /-- An integer. -/
  | int
  /-- A floating point number. -/
  | float
  /-- A byte string in base64. -/
  | binary
  /-- A date, with or without a time. -/
  | timestamp
  /-- A text. -/
  | text
  /-- A list. -/
  | sequence
  /-- A mapping. -/
  | mapping
  /-- A set, written as a mapping. -/
  | set
  /-- A list of pairs, each written as a mapping with one entry. -/
  | pairs
  /-- The key `<<`, whose value is merged into the mapping. -/
  | merge
  /-- The key `=`, whose value stands for the mapping where a scalar is wanted. -/
  | value
  /-- Any other tag. -/
  | unknown
  deriving DecidableEq, Inhabited

/-- The tag with a full name. -/
def Tag.ofName (name : String) : Tag :=
  match name with
  | "tag:yaml.org,2002:null" => .null
  | "tag:yaml.org,2002:bool" => .bool
  | "tag:yaml.org,2002:int" => .int
  | "tag:yaml.org,2002:float" => .float
  | "tag:yaml.org,2002:binary" => .binary
  | "tag:yaml.org,2002:timestamp" => .timestamp
  | "tag:yaml.org,2002:str" => .text
  | "tag:yaml.org,2002:seq" => .sequence
  | "tag:yaml.org,2002:map" => .mapping
  | "tag:yaml.org,2002:set" => .set
  | "tag:yaml.org,2002:omap" => .pairs
  | "tag:yaml.org,2002:pairs" => .pairs
  | "tag:yaml.org,2002:merge" => .merge
  | "tag:yaml.org,2002:value" => .value
  | _ => .unknown

namespace Scalar

/-! ## The forms of plain scalars -/

/-- The words for truth values, as they may stand without a tag. -/
def truthWords : List String :=
  ["yes", "Yes", "YES", "no", "No", "NO", "true", "True", "TRUE", "false", "False", "FALSE",
    "on", "On", "ON", "off", "Off", "OFF"]

/-- The text without one sign at its start. -/
def unsigned : List Char → List Char
  | '-' :: rest => rest
  | '+' :: rest => rest
  | cs => cs

/-- The character is a decimal digit. -/
def isDigit (c : Char) : Bool := (asciiDigit? c).isSome

/-- The character is a decimal digit or an underscore. -/
def isSpacedDigit (c : Char) : Bool := isDigit c || c == '_'

/-- The rest of a number in base 60: one or more digits of that base after colons, and then what
`last` accepts. -/
def isSexagesimalTail (last : List Char → Bool) : List Char → Bool
  | ':' :: a :: b :: rest =>
    ('0' ≤ a && a ≤ '5' && isDigit b && (last rest || isSexagesimalTail last rest)) ||
      (isDigit a && (last (b :: rest) || isSexagesimalTail last (b :: rest)))
  | [':', a] => isDigit a && last []
  | _ => false

/-- The text is an integer. -/
def isInt (cs : List Char) : Bool :=
  match unsigned cs with
  | '0' :: rest =>
    rest.isEmpty ||
      (match rest with
        | 'b' :: ds => !ds.isEmpty && ds.all fun c => c == '0' || c == '1' || c == '_'
        | 'x' :: ds => !ds.isEmpty && ds.all fun c => (hexDigit? c).isSome || c == '_'
        | ds => ds.all fun c => ('0' ≤ c && c ≤ '7') || c == '_')
  | c :: rest =>
    isDigit c &&
      (let more := rest.dropWhile isSpacedDigit
       more.isEmpty || isSexagesimalTail List.isEmpty more)
  | [] => false

/-- The text is nothing or a signed exponent of at least one digit. -/
def isExponent : List Char → Bool
  | [] => true
  | e :: s :: rest =>
    (e == 'e' || e == 'E') && (s == '-' || s == '+') && !rest.isEmpty && rest.all isDigit
  | _ => false

/-- The text is a floating point number. -/
def isFloat (cs : List Char) : Bool :=
  let body := unsigned cs
  let isFraction : List Char → Bool
    | '.' :: rest => rest.all isSpacedDigit
    | _ => false
  match body with
  | '.' :: rest =>
    let word := String.ofList rest
    word == "inf" || word == "Inf" || word == "INF" ||
      (cs.head? == some '.' && (word == "nan" || word == "NaN" || word == "NAN" ||
        (rest.head?.any isDigit && isExponent (rest.dropWhile isSpacedDigit))))
  | c :: rest =>
    isDigit c &&
      (match rest.dropWhile isSpacedDigit with
        | '.' :: more => isExponent (more.dropWhile isSpacedDigit)
        | more => isSexagesimalTail isFraction more)
  | [] => false

/-- Some of the first `max` characters are digits, at least `min`: their value and the rest. -/
def digits? (min max : Nat) (cs : List Char) : Option (Nat × List Char) :=
  let ds := (cs.take max).takeWhile isDigit
  if min ≤ ds.length then
    some (ds.foldl (fun n c => n * 10 + (c.toNat - 0x30)) 0, cs.drop ds.length)
  else none

/-- The text is a date of four, two and two digits. -/
def isPlainDate (cs : List Char) : Bool :=
  match digits? 4 4 cs with
  | some (_, '-' :: rest) =>
    match digits? 2 2 rest with
    | some (_, '-' :: rest) => (digits? 2 2 rest).any fun r => r.2.isEmpty
    | _ => false
  | _ => false

/-- The parts of a timestamp. -/
structure Timestamp where
  /-- Year, month and day. -/
  date : Nat × Nat × Nat
  /-- Hour, minute, second and microsecond, if there is a time. -/
  time : Option (Nat × Nat × Nat × Nat)
  /-- Seconds ahead of UTC, if a zone is given. -/
  offset : Option Int

/-- The zone at the end of a timestamp. -/
def zone? (cs : List Char) : Option (Option Int) :=
  match cs.dropWhile fun c => c == ' ' || c == '\t' with
  | [] => if cs.isEmpty then some none else none
  | ['Z'] => some (some 0)
  | s :: rest => do
    guard (s == '-' || s == '+')
    let (hours, rest) ← digits? 1 2 rest
    let (minutes, rest) ← match rest with
      | ':' :: more => digits? 2 2 more
      | _ => some (0, rest)
    guard rest.isEmpty
    let seconds : Int := ((hours * 60 + minutes) * 60 : Nat)
    return some (if s == '-' then -seconds else seconds)

/-- The microseconds that the digits after the point of a second stand for; digits beyond the sixth
are dropped. -/
def micros (ds : List Char) : Nat :=
  let ds := ds.take 6
  ds.foldl (fun n c => n * 10 + (c.toNat - 0x30)) 0 * Nat.pow 10 (6 - ds.length)

/-- The parts of a text that has the form of a timestamp. Months, days and hours may have one digit
only. -/
def timestamp? (cs : List Char) : Option Timestamp := do
  let (year, rest) ← digits? 4 4 cs
  let (month, rest) ← field rest '-' 1
  let (day, rest) ← field rest '-' 1
  if rest.isEmpty then return ⟨(year, month, day), none, none⟩
  let rest ← match rest with
    | 'T' :: more => some more
    | 't' :: more => some more
    | _ =>
      let more := rest.dropWhile fun c => c == ' ' || c == '\t'
      if more.length < rest.length then some more else none
  let (hour, rest) ← digits? 1 2 rest
  let (minute, rest) ← field rest ':' 2
  let (second, rest) ← field rest ':' 2
  let (micro, rest) := match rest with
    | '.' :: more => (micros (more.takeWhile isDigit), more.dropWhile isDigit)
    | _ => (0, rest)
  let offset ← zone? rest
  return ⟨(year, month, day), some (hour, minute, second, micro), offset⟩
where
  /-- A number of at least `min` and at most two digits after a separator. -/
  field (cs : List Char) (separator : Char) (min : Nat) : Option (Nat × List Char) :=
    match cs with
    | c :: rest => if c = separator then digits? min 2 rest else none
    | [] => none

/-- The text has the form of a timestamp that needs no tag: a date of full length, or a date with a
time. -/
def isTimestamp (cs : List Char) : Bool :=
  isPlainDate cs || (timestamp? cs).any fun t => t.time.isSome

/-- The kind of value that a plain scalar stands for. A line feed at the end does not count. An
indicator of tags, anchors or aliases alone has no value. -/
def resolve (cs : List Char) : Tag :=
  let body := dropFinalBreak cs
  let word := String.ofList body
  if cs.isEmpty then .null
  else if truthWords.contains word then .bool
  else if isFloat body then .float
  else if isInt body then .int
  else if word == "<<" then .merge
  else if word == "~" || word == "null" || word == "Null" || word == "NULL" then .null
  else if isTimestamp body then .timestamp
  else if word == "=" then .value
  else if word == "!" || word == "&" || word == "*" then .unknown
  else .text

/-! ## Values -/

/-- The sign of a number and what follows it; underscores do not count. -/
def signed (cs : List Char) : Except Fault (Bool × List Char) :=
  match cs.filter (· != '_') with
  | [] => .error .noDigits
  | '-' :: rest => .ok (true, rest)
  | '+' :: rest => .ok (false, rest)
  | body => .ok (false, body)

/-- The number in a base other than ten that a text stands for. -/
def numeral (base : Nat) (cs : List Char) : Except Fault Int :=
  match Numeral.int? base cs with
  | some n => .ok n
  | none => .error .badNumeral

/-- The decimal number that a text stands for. -/
def decimal (cs : List Char) : Except Fault Int :=
  (Numeral.decimal cs).mapError fun _ => .badNumeral

/-- The integer that a text stands for. -/
def int (cs : List Char) : Except Fault Int := do
  let (negative, body) ← signed cs
  let n ←
    match body with
    | [] => .error .noDigits
    | ['0'] => pure 0
    | '0' :: 'b' :: ds => numeral 2 ds
    | '0' :: 'x' :: ds => numeral 16 ds
    | '0' :: _ => numeral 8 body
    | _ =>
      if body.contains ':' then do
        let ds ← (splitAll ':' body).mapM decimal
        pure (ds.foldl (fun n d => n * 60 + d) 0)
      else decimal body
  return if negative then -n else n

/-- The double that a text stands for. -/
def double (cs : List Char) : Except Fault Binary64 :=
  match Numeral.double? cs with
  | some x => .ok x
  | none => .error .badNumeral

/-- The sum of digits in base 60, the last one first; every product and sum is rounded. -/
def sexagesimal (base : Nat) : Binary64 → List Binary64 → Except Fault Binary64
  | sum, [] => .ok sum
  | sum, d :: rest =>
    match Binary64.ofInt base with
    | .infinite _ => .error .numberTooLarge
    | b => sexagesimal (base * 60) (sum.add (d.mul b)) rest

/-- The floating point number that a text stands for. -/
def float (cs : List Char) : Except Fault Binary64 := do
  let (negative, body) ← signed (cs.map Char.toLower)
  if body = ".nan".toList then return .nan
  let x ←
    if body = ".inf".toList then pure (.infinite false)
    else if body.contains ':' then do
      let ds ← (splitAll ':' body).mapM double
      sexagesimal 1 (.zero false) ds.reverse
    else double body
  return if negative then x.neg else x

/-- The truth value of a word, in any case. -/
def bool (cs : List Char) : Except Fault Bool :=
  let word := String.ofList (cs.map Char.toLower)
  if word == "yes" || word == "true" || word == "on" then .ok true
  else if word == "no" || word == "false" || word == "off" then .ok false
  else .error .unknownTruthValue

/-- The byte string that a text stands for. -/
def binary (cs : List Char) : Except Fault ByteArray :=
  if cs.all fun c => c.toNat < 0x80 then
    match Base64.decode? (String.ofList cs) with
    | some b => .ok b
    | none => .error .malformed
  else .error .malformed

/-- The date or moment that a text stands for. -/
def timestamp (cs : List Char) : Except Fault Datum :=
  match timestamp? (dropFinalBreak cs) with
  | none => .error .notATimestamp
  | some t =>
    let (year, month, day) := t.date
    match Date.of? year month day, t.time with
    | none, _ => .error .impossibleDate
    | some d, none => .ok (.date d)
    | some d, some (hour, minute, second, micro) =>
      match Moment.of? d hour minute second micro t.offset with
      | none => .error .impossibleDate
      | some m => .ok (.moment m)

/-- The value of a scalar with a tag. -/
def construct (tag : Tag) (cs : List Char) : Except Fault Datum :=
  match tag with
  | .null => .ok .null
  | .bool => (bool cs).map .bool
  | .int => (int cs).map .int
  | .float => (float cs).map .float
  | .binary => (binary cs).map .bytes
  | .timestamp => timestamp cs
  | .text => .ok (.text (String.ofList cs))
  | _ => .error .malformed

end Scalar

end InstallerGateway.Yaml
