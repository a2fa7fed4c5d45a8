import InstallerGateway.Number.Binary64
import InstallerGateway.Text.Character

/-!
# Numerals

Reading integers and doubles from text. Blank characters around a numeral are ignored, a sign may
come first, and single underscores may stand between digits. Digits of every script are read. A
decimal integer of too many digits is neither read nor written.
-/

namespace InstallerGateway.Numeral

/-- The text with every decimal digit replaced by the ASCII digit of the same value. -/
def asciiDigits (cs : List Char) : List Char :=
  cs.map fun c => match digitValue? c with
    | some d => Char.ofNat (d + 0x30)
    | none => c

/-- The text without the underscores that stand between two digits, or `none` if it has any
other. -/
def dropUnderscores (isDigit : Char → Bool) : Option Char → List Char → Option (List Char)
  | _, [] => some []
  | before, '_' :: rest =>
    if before.any isDigit && rest.head?.any isDigit then dropUnderscores isDigit (some '_') rest
    else none
  | _, c :: rest => (dropUnderscores isDigit (some c) rest).map (c :: ·)

/-- The sign of a numeral and what follows it. -/
def sign : List Char → Bool × List Char
  | '-' :: rest => (true, rest)
  | '+' :: rest => (false, rest)
  | cs => (false, cs)

/-- The value of a character as a digit of a base up to 16. -/
def digit? (base : Nat) (c : Char) : Option Nat :=
  (hexDigit? c).filter (· < base)

/-- The value of a non-empty text of digits. -/
def natural? (base : Nat) (cs : List Char) : Option Nat :=
  if cs.isEmpty then none
  else cs.foldlM (fun n c => (digit? base c).map (n * base + ·)) 0

/-- The letter that announces the base after a zero. -/
def baseMark (base : Nat) : Option Char :=
  match base with
  | 2 => some 'b'
  | 8 => some 'o'
  | 16 => some 'x'
  | _ => none

/-- The digits of a numeral without the announcement of the base. An underscore may follow it. -/
def afterMark (base : Nat) : List Char → List Char
  | '0' :: m :: rest =>
    if baseMark base = some m.toLower then
      match rest with
      | '_' :: rest' => rest'
      | _ => rest
    else '0' :: m :: rest
  | cs => cs

/-- The integer that a text stands for in a base: 2, 8, 10 or 16. The base may be announced. -/
def int? (base : Nat) (cs : List Char) : Option Int := do
  let (negative, body) := sign (asciiDigits (stripBy isBlank cs))
  let digits ← dropUnderscores (fun c => (digit? base c).isSome) none (afterMark base body)
  let n ← natural? base digits
  return if negative then -n else n

/-! ## Decimal integers -/

/-- The greatest number of digits of an integer that is read from decimal digits, or written in
them. Other bases have no such limit. -/
def maxDigits : Nat := 4300

/-- Why a text is not read as a decimal integer. -/
inductive Fault where
  /-- It is no numeral. -/
  | malformed
  /-- It has too many digits. -/
  | tooLong (digits : Nat)
  deriving DecidableEq

/-- The number of decimal digits in a text, zeros in front included. -/
def digitCount (cs : List Char) : Nat := cs.countP fun c => (digitValue? c).isSome

/-- The integer that a decimal numeral stands for. -/
def decimal (cs : List Char) : Except Fault Int :=
  match int? 10 cs with
  | none => .error .malformed
  | some n => if maxDigits < digitCount cs then .error (.tooLong (digitCount cs)) else .ok n

/-- An integer in decimal digits, if they are not too many. -/
def text? (n : Int) : Option String :=
  if (Nat.toDigits 10 n.natAbs).length ≤ maxDigits then some (toString n) else none

/-! ## Doubles -/

/-- The value of the digits of a decimal fraction: `whole.fraction · 10 ^ exponent`. -/
def scaled (negative : Bool) (whole fraction : List Char) (exponent : Int) : Binary64 :=
  let n := (natural? 10 (whole ++ fraction)).getD 0
  let e := exponent - fraction.length
  let size := e + (Nat.toDigits 10 n).length
  -- beyond these bounds the result is zero or infinite whatever the digits are
  if n = 0 || size < -400 then .zero negative
  else if 400 < size then .infinite negative
  else match e with
    | .ofNat k => .ofMagnitude negative (n * (10 : Rat) ^ k)
    | .negSucc k => .ofMagnitude negative (n / (10 : Rat) ^ (k + 1))

/-- The exponent that ends a numeral: `e`, a sign and digits. Nothing is the exponent zero. -/
def exponent? : List Char → Option Int
  | [] => some 0
  | c :: rest =>
    if c = 'e' || c = 'E' then
      let (negative, ds) := sign rest
      (natural? 10 ds).map fun (n : Nat) => if negative then -(n : Int) else n
    else none

/-- The double that a text stands for: digits with a point somewhere among them and an exponent, or
the name of an infinity or of NaN in any case. -/
def double? (cs : List Char) : Option Binary64 := do
  let isDigit (c : Char) : Bool := (asciiDigit? c).isSome
  let body ← dropUnderscores isDigit none (asciiDigits (stripBy isBlank cs))
  let (negative, body) := sign body
  let name := body.map Char.toLower
  if name = ['i', 'n', 'f'] || name = ['i', 'n', 'f', 'i', 'n', 'i', 't', 'y'] then
    return .infinite negative
  else if name = ['n', 'a', 'n'] then
    return .nan
  else
    let whole := body.takeWhile isDigit
    let (fraction, rest) := match body.dropWhile isDigit with
      | '.' :: rest => (rest.takeWhile isDigit, rest.dropWhile isDigit)
      | rest => ([], rest)
    if whole.isEmpty && fraction.isEmpty then failure
    let e ← exponent? rest
    return scaled negative whole fraction e

end InstallerGateway.Numeral
