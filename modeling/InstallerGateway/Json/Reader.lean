import InstallerGateway.Bytes.Unicode
import InstallerGateway.Datum.Basic
import InstallerGateway.Number.Numeral
import InstallerGateway.Text.Split

/-!
# Reading JSON

JSON text as a value. Beyond the standard, the names `NaN`, `Infinity` and `-Infinity` are numbers.
A number with a point or an exponent is a floating point number, any other an integer, which may not
have too many digits. Of two entries with one name the last value counts, at the place of the first.
-/

namespace InstallerGateway.Json

/-- White space between tokens. -/
def isSpace (c : Char) : Bool :=
  c == ' ' || c == '\t' || c == '\n' || c == '\r'

/-- The text without white space in front. -/
def skipSpace (cs : List Char) : List Char :=
  cs.dropWhile isSpace

/-- The number of four hexadecimal digits, and what follows them. -/
def hex4? : List Char → Option (Nat × List Char)
  | a :: b :: c :: d :: rest => do
    let a ← hexDigit? a
    let b ← hexDigit? b
    let c ← hexDigit? c
    let d ← hexDigit? d
    return (((a * 16 + b) * 16 + c) * 16 + d, rest)
  | _ => none

/-- The character that a one-letter escape stands for. -/
def shortEscape? (c : Char) : Option Char :=
  match c with
  | '"' => some '"'
  | '\\' => some '\\'
  | '/' => some '/'
  | 'b' => some '\x08'
  | 'f' => some '\x0c'
  | 'n' => some '\n'
  | 'r' => some '\r'
  | 't' => some '\t'
  | _ => none

/-- The text of a string up to its closing quote, and what follows. `fuel` bounds the length. A
surrogate that is not part of a pair becomes U+FFFD, the replacement character. -/
def string? : Nat → List Char → Option (List Char × List Char)
  | 0, _ => none
  | _ + 1, [] => none
  | fuel + 1, c :: rest =>
    if c = '"' then some ([], rest)
    else if c.toNat < 0x20 then none
    else if c = '\\' then
      match rest with
      | 'u' :: rest => do
        let (n, rest) ← hex4? rest
        if Utf16.isHigh n then
          match rest with
          | '\\' :: 'u' :: rest' =>
            let (m, rest'') ← hex4? rest'
            if Utf16.isLow m then
              let (s, rest) ← string? fuel rest''
              return (Utf16.pair n m :: s, rest)
            else
              let (s, rest) ← string? fuel rest
              return ('\ufffd' :: s, rest)
          | _ =>
            let (s, rest) ← string? fuel rest
            return ('\ufffd' :: s, rest)
        else
          let (s, rest) ← string? fuel rest
          return ((if Utf16.isLow n then '\ufffd' else Char.ofNat n) :: s, rest)
      | e :: rest => do
        let c ← shortEscape? e
        let (s, rest) ← string? fuel rest
        return (c :: s, rest)
      | [] => none
    else do
      let (s, rest) ← string? fuel rest
      return (c :: s, rest)

/-- The digits at the front of a text, at least one, and what follows them. -/
def digits? (cs : List Char) : Option (List Char × List Char) :=
  let isDigit (c : Char) : Bool := (asciiDigit? c).isSome
  match cs.takeWhile isDigit with
  | [] => none
  | ds => some (ds, cs.dropWhile isDigit)

/-- The part of a number that begins with a point, if there is one, and what follows. -/
def fraction (cs : List Char) : List Char × List Char :=
  match cs with
  | '.' :: rest =>
    match digits? rest with
    | some (ds, rest') => ('.' :: ds, rest')
    | none => ([], cs)
  | _ => ([], cs)

/-- The part of a number that begins with an `e`, if there is one, and what follows. -/
def exponent (cs : List Char) : List Char × List Char :=
  match cs with
  | e :: rest =>
    if e = 'e' || e = 'E' then
      let (mark, rest') := match rest with
        | '+' :: r => (['+'], r)
        | '-' :: r => (['-'], r)
        | r => ([], r)
      match digits? rest' with
      | some (ds, rest'') => (e :: mark ++ ds, rest'')
      | none => ([], cs)
    else ([], cs)
  | [] => ([], cs)

/-- Why a text is not read. -/
inductive Fault where
  /-- It is no JSON. -/
  | malformed
  /-- One of its integers has too many digits. -/
  | tooLong
  deriving DecidableEq

/-- What has to be there, or else the text is no JSON. -/
def expected {α : Type} : Option α → Except Fault α
  | some a => .ok a
  | none => .error .malformed

/-- The integer of a numeral. -/
def integer (cs : List Char) : Except Fault Int :=
  (Numeral.decimal cs).mapError fun
    | .malformed => .malformed
    | .tooLong _ => .tooLong

/-- The minus sign of a number, if there is one, and what follows. -/
def minus : List Char → List Char × List Char
  | '-' :: rest => (['-'], rest)
  | cs => ([], cs)

/-- The integer part of a number, and what follows it. A zero in front ends it. -/
def whole? : List Char → Option (List Char × List Char)
  | '0' :: rest => some (['0'], rest)
  | cs => digits? cs

/-- A number, and what follows it. -/
def number (cs : List Char) : Except Fault (Datum × List Char) := do
  let (mark, rest) := minus cs
  let (whole, rest) ← expected (whole? rest)
  let (frac, rest) := fraction rest
  let (exp, rest) := exponent rest
  if frac.isEmpty && exp.isEmpty then
    return (.int (← integer (mark ++ whole)), rest)
  else
    return (.float (← expected (Numeral.double? (mark ++ whole ++ frac ++ exp))), rest)

mutual

/-- A value at the front of a text, and what follows it. `fuel` bounds the depth and length. -/
def value : Nat → List Char → Except Fault (Datum × List Char)
  | 0, _ => .error .malformed
  | _ + 1, [] => .error .malformed
  | fuel + 1, cs@(c :: rest) =>
    if c = '"' then
      (expected (string? (rest.length + 1) rest)).map fun r => (.text (String.ofList r.1), r.2)
    else if c = '[' then
      match skipSpace rest with
      | ']' :: rest' => .ok (.array [], rest')
      | rest' => (items fuel rest').map fun r => (.array r.1, r.2)
    else if c = '\x7b' then
      match skipSpace rest with
      | '\x7d' :: rest' => .ok (.map 0 [], rest')
      | rest' => (entries fuel [] rest').map fun r => (.map 0 r.1, r.2)
    else if c = 'n' then (expected (afterWord? "null".toList cs)).map (.null, ·)
    else if c = 't' then (expected (afterWord? "true".toList cs)).map (.bool true, ·)
    else if c = 'f' then (expected (afterWord? "false".toList cs)).map (.bool false, ·)
    else if c = 'N' then (expected (afterWord? "NaN".toList cs)).map (.float .nan, ·)
    else if c = 'I' then
      (expected (afterWord? "Infinity".toList cs)).map (.float (.infinite false), ·)
    else match afterWord? "-Infinity".toList cs with
      | some rest' => .ok (.float (.infinite true), rest')
      | none => number cs

/-- The items of an array up to its closing bracket, and what follows. -/
def items : Nat → List Char → Except Fault (List Datum × List Char)
  | 0, _ => .error .malformed
  | fuel + 1, cs => do
    let (d, rest) ← value fuel cs
    match skipSpace rest with
    | ']' :: rest => return ([d], rest)
    | ',' :: rest =>
      let (ds, rest) ← items fuel (skipSpace rest)
      return (d :: ds, rest)
    | _ => .error .malformed

/-- The entries of an object up to its closing brace, added to those before, and what follows. -/
def entries : Nat → List (Datum × Datum) → List Char →
    Except Fault (List (Datum × Datum) × List Char)
  | 0, _, _ => .error .malformed
  | fuel + 1, before, cs =>
    match cs with
    | '"' :: rest => do
      let (name, rest) ← expected (string? (rest.length + 1) rest)
      match skipSpace rest with
      | ':' :: rest =>
        let (d, rest) ← value fuel (skipSpace rest)
        let all := Datum.assign (.text (String.ofList name)) d before
        match skipSpace rest with
        | '\x7d' :: rest => return (all, rest)
        | ',' :: rest => entries fuel all (skipSpace rest)
        | _ => .error .malformed
      | _ => .error .malformed
    | _ => .error .malformed

end

/-- The value of a JSON text. -/
def parse (s : String) : Except Fault Datum := do
  let cs := s.toList
  let (d, rest) ← value (cs.length + 1) (skipSpace cs)
  if (skipSpace rest).isEmpty then return d else .error .malformed

/-- The value of a JSON text, if it is read. -/
def parse? (s : String) : Option Datum := (parse s).toOption

end InstallerGateway.Json
