/-!
# Double precision numbers

The binary64 numbers as exact rationals with a sign, two infinities and one NaN, and the rounding of
a rational to the nearest of them. A finite number is `± mantissa · 2 ^ exponent`, kept in the one
form in which the mantissa has 53 bits or the exponent is the least one, so that two finite numbers
other than zero are equal exactly when their fields are.
-/

namespace InstallerGateway

/-- A double precision number. -/
inductive Binary64 where
  /-- The number `± mantissa · 2 ^ exponent`. -/
  | finite (negative : Bool) (mantissa : Nat) (exponent : Int)
  /-- An infinity. -/
  | infinite (negative : Bool)
  /-- No number. -/
  | nan
  deriving DecidableEq, Inhabited

namespace Binary64

/-- The power of two with an integer exponent. -/
def twoPow (e : Int) : Rat :=
  match e with
  | .ofNat n => (2 : Rat) ^ n
  | .negSucc n => 1 / (2 : Rat) ^ (n + 1)

/-- A non-negative quotient rounded to the nearest natural number, a half to the even one. -/
def roundHalfEven (x : Rat) : Nat :=
  let n := x.floor.toNat
  let rest := x - n
  if rest < 1 / 2 then n
  else if 1 / 2 < rest then n + 1
  else if n % 2 = 0 then n else n + 1

/-- The greatest `k` with `2 ^ k ≤ x`, for a positive `x`. -/
def binaryExponent (x : Rat) : Int :=
  let k : Int := (Nat.log2 x.num.toNat : Int) - (Nat.log2 x.den : Int)
  if x < twoPow k then k - 1 else k

/-- The least exponent of a finite number. -/
def leastExponent : Int := -1074

/-- The zero of the given sign. -/
def zero (negative : Bool) : Binary64 := .finite negative 0 leastExponent

/-- The double nearest to `± magnitude`, a tie going to the even mantissa; infinite from
`2 ^ 1024 - 2 ^ 970` on. -/
def ofMagnitude (negative : Bool) (magnitude : Rat) : Binary64 :=
  if magnitude ≤ 0 then zero negative
  else
    let e := max leastExponent (binaryExponent magnitude - 52)
    let m := roundHalfEven (magnitude / twoPow e)
    let (m, e) := if m = Nat.pow 2 53 then (Nat.pow 2 52, e + 1) else (m, e)
    if 971 < e then .infinite negative else .finite negative m e

/-- The double nearest to a rational. -/
def ofRat (x : Rat) : Binary64 :=
  if x < 0 then ofMagnitude true (-x) else ofMagnitude false x

/-- The double nearest to an integer. -/
def ofInt (n : Int) : Binary64 := ofRat n

/-- The exact value of a finite number. -/
def toRat? : Binary64 → Option Rat
  | .finite negative m e => some (if negative then -(m * twoPow e) else m * twoPow e)
  | _ => none

/-- The number is a zero of either sign. -/
def isZero : Binary64 → Bool
  | .finite _ m _ => m == 0
  | _ => false

/-- The number bears a minus sign. -/
def isNegative : Binary64 → Bool
  | .finite negative _ _ => negative
  | .infinite negative => negative
  | .nan => false

/-- The number with the opposite sign. -/
def neg : Binary64 → Binary64
  | .finite negative m e => .finite (!negative) m e
  | .infinite negative => .infinite (!negative)
  | .nan => .nan

/-- The sum, rounded. A sum of zeros is negative only if both are. -/
def add : Binary64 → Binary64 → Binary64
  | .nan, _ => .nan
  | _, .nan => .nan
  | .infinite s, .infinite t => if s = t then .infinite s else .nan
  | .infinite s, _ => .infinite s
  | _, .infinite t => .infinite t
  | x@(.finite s _ _), y@(.finite t _ _) =>
    let sum := x.toRat?.getD 0 + y.toRat?.getD 0
    if sum = 0 then zero (s && t) else ofRat sum

/-- The product, rounded. -/
def mul : Binary64 → Binary64 → Binary64
  | .nan, _ => .nan
  | _, .nan => .nan
  | .infinite s, y => if y.isZero then .nan else .infinite (s != y.isNegative)
  | x, .infinite t => if x.isZero then .nan else .infinite (x.isNegative != t)
  | .finite s m e, .finite t n f => ofMagnitude (s != t) (m * twoPow e * (n * twoPow f))

/-- The integer part, the fraction dropped; none for an infinity and for NaN. -/
def truncate? (x : Binary64) : Option Int :=
  x.toRat?.map fun r => if r < 0 then r.ceil else r.floor

end Binary64

/-- A rational rounded to 53 significant bits, a tie going to the even one; the range of exponents
is not bounded. -/
def roundTo53 (x : Rat) : Rat :=
  let round (y : Rat) : Rat :=
    let e := Binary64.binaryExponent y - 52
    Binary64.roundHalfEven (y / Binary64.twoPow e) * Binary64.twoPow e
  if x = 0 then 0 else if x < 0 then -(round (-x)) else round x

/-- The integer part of a rational, the fraction dropped. -/
def truncate (x : Rat) : Int :=
  if x < 0 then x.ceil else x.floor

end InstallerGateway
