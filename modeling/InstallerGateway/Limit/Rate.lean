import InstallerGateway.Number.Numeral
import InstallerGateway.Text.Character
import InstallerGateway.Text.Split

/-!
# Rate limits

How often something may happen in a span of time: `2 per minute`, `100/hour`, `3 per 2 hours`.
Several limits are separated by commas, semicolons or bars.
-/

namespace InstallerGateway

/-- A unit of time. -/
inductive TimeUnit where
  /-- A second. -/
  | second
  /-- A minute. -/
  | minute
  /-- An hour. -/
  | hour
  /-- A day. -/
  | day
  /-- A month of thirty days. -/
  | month
  /-- A year of twelve such months. -/
  | year
  deriving DecidableEq

namespace TimeUnit

/-- How many seconds the unit has. -/
def seconds : TimeUnit → Nat
  | second => 1
  | minute => 60
  | hour => 3600
  | day => 86400
  | month => 2592000
  | year => 31104000

/-- The name of the unit. -/
def name : TimeUnit → String
  | second => "second"
  | minute => "minute"
  | hour => "hour"
  | day => "day"
  | month => "month"
  | year => "year"

/-- All units, the shortest first. -/
def all : List TimeUnit := [second, minute, hour, day, month, year]

end TimeUnit

/-- A rate limit. -/
structure RateLimit where
  /-- How often something may happen. -/
  count : Nat
  /-- In how many units of time. -/
  span : Nat
  /-- The unit. -/
  unit : TimeUnit
  deriving DecidableEq

namespace RateLimit

/-- The length of the span in seconds. -/
def length (l : RateLimit) : Nat := l.span * l.unit.seconds

/-- The limit in words. -/
def text (l : RateLimit) : String :=
  toString l.count ++ " per " ++ toString l.span ++ " " ++ l.unit.name

/-! ## Reading -/

/-- The text without the blanks at its start. -/
def afterBlanks (cs : List Char) : List Char := cs.dropWhile isBlank

/-- The digits at the start of a text, and what follows them. -/
def digits (cs : List Char) : List Char × List Char :=
  (cs.takeWhile fun c => (asciiDigit? c).isSome, cs.dropWhile fun c => (asciiDigit? c).isSome)

/-- The number of digits, if there are any and not too many. -/
def number? (ds : List Char) : Option Nat :=
  if ds.isEmpty || Numeral.maxDigits < ds.length then none
  else some (ds.foldl (fun n c => n * 10 + (asciiDigit? c).getD 0) 0)

/-- The unit whose name stands at the start of a text in small letters, and what follows it. A
name may be in the plural. -/
def unitOf? (cs : List Char) : Option (TimeUnit × List Char) :=
  TimeUnit.all.findSome? fun u =>
    (afterWord? u.name.toList cs).map fun rest => (u, (afterWord? ['s'] rest).getD rest)

/-- A limit that makes up the whole of a text in small letters. A span of no units is one of one
unit. -/
def parse? (cs : List Char) : Option RateLimit := do
  let (count, rest) := digits (afterBlanks cs)
  let count ← number? count
  let rest := afterBlanks rest
  let rest ← (afterWord? ['/'] rest).or (afterWord? "per".toList rest)
  let (span, rest) := digits (afterBlanks rest)
  let (unit, rest) ← unitOf? (afterBlanks rest)
  let span ← if span.isEmpty then some 1 else number? span
  if (afterBlanks rest).isEmpty then some ⟨count, max 1 span, unit⟩ else none

/-- The character separates limits. -/
def isSeparator (c : Char) : Bool := c == ',' || c == ';' || c == '|'

/-- The parts of a text between separators. -/
def parts (cs : List Char) : List (List Char) :=
  splitAll ',' (cs.map fun c => if isSeparator c then ',' else c)

/-- The limits of the parts of a text. A colon may stand before each separator. -/
def parseParts? : List (List Char) → Option (List RateLimit)
  | [] => some []
  | [last] => (parse? last).map fun l => [l]
  | part :: rest => do
    let l ← parse? (if part.getLast? = some ':' then part.dropLast else part)
    return l :: (← parseParts? rest)

/-- All limits that a text tells. -/
def parseAll? (s : String) : Option (List RateLimit) := parseParts? (parts (lower s).toList)

/-- A limit put among others in the order of their units, after those of the same unit. -/
def insertOrdered (l : RateLimit) : List RateLimit → List RateLimit
  | [] => [l]
  | m :: rest =>
    if l.unit.seconds < m.unit.seconds then l :: m :: rest else m :: insertOrdered l rest

/-- The limits in the order of their units, those of the same unit as they come. -/
def ordered (ls : List RateLimit) : List RateLimit :=
  ls.foldl (fun sorted l => insertOrdered l sorted) []

end RateLimit

end InstallerGateway
