import InstallerGateway.Number.Binary64
import InstallerGateway.Text.Character

/-!
# The shortest decimal text of a double

A finite number is written with the fewest significant digits that read back as the same number, and
of the decimals with that many digits with the nearest. Which exponents are written in full, and how
the rest is laid out, is the business of a `Layout`.
-/

namespace InstallerGateway.Shortest

/-- The power of ten with an integer exponent. -/
def tenPow (e : Int) : Rat :=
  match e with
  | .ofNat n => (10 : Rat) ^ n
  | .negSucc n => 1 / (10 : Rat) ^ (n + 1)

/-- The greatest `k` with `10 ^ k ≤ x`, for a positive `x`: an estimate from the binary exponent,
which is at most one too low, corrected. -/
def decimalExponent (x : Rat) : Int :=
  let k := (Binary64.binaryExponent x * 30103).fdiv 100000
  if x < tenPow k then k - 1 else if tenPow (k + 1) ≤ x then k + 1 else k

/-- The multiple of `10 ^ t` next to `x` that reads back as the double `target`, the nearer of two,
the even one of two as near, as a number of such multiples. -/
def onGrid (target : Binary64) (x : Rat) (t : Int) : Option Nat :=
  let unit := tenPow t
  let below := (x / unit).floor.toNat
  let readsBack (n : Nat) : Bool := Binary64.ofMagnitude false (n * unit) == target
  match readsBack below, readsBack (below + 1) with
  | false, false => none
  | true, false => some below
  | false, true => some (below + 1)
  | true, true =>
    let low := x - below * unit
    let high := (below + 1 : Nat) * unit - x
    if low < high then some below
    else if high < low then some (below + 1)
    else if below % 2 = 0 then some below else some (below + 1)

/-- A decimal `digits · 10 ^ exponent`. -/
structure Decimal where
  /-- The significant digits as a number. -/
  digits : Nat
  /-- The power of ten that they are multiplied by. -/
  exponent : Int

/-- The first grid with a hit, for `n` more grids, each ten times as fine as the one before. -/
def search (target : Binary64) (x : Rat) : Nat → Int → Option Decimal
  | 0, _ => none
  | n + 1, t =>
    match onGrid target x t with
    | some d => some ⟨d, t⟩
    | none => search target x n (t - 1)

/-- The shortest decimal of a positive number. Seventeen digits are always enough. -/
def ofMagnitude (m : Nat) (e : Int) : Decimal :=
  let x := m * Binary64.twoPow e
  (search (.finite false m e) x 17 (decimalExponent x)).getD ⟨m, 0⟩

/-- How decimals are laid out. -/
structure Layout where
  /-- The least decimal exponent of the first digit that is written in full. -/
  least : Int
  /-- The first decimal exponent of the first digit that is no longer written in full. -/
  bound : Int
  /-- What an integer written in full ends in. -/
  integerEnd : List Char
  /-- The least number of digits of an exponent. -/
  exponentWidth : Nat
  /-- The text of NaN. -/
  nan : List Char
  /-- The text of infinity. -/
  infinity : List Char

/-- The digits of a number without the zeros at its end. -/
def significant (n : Nat) : List Char :=
  match stripped (digitsOf 10 1 n) with
  | [] => ['0']
  | cs => cs
where
  /-- The digits without the zeros at their end. -/
  stripped (cs : List Char) : List Char := (cs.reverse.dropWhile (· == '0')).reverse

/-- A positive decimal in a layout. -/
def layOut (l : Layout) (d : Decimal) : List Char :=
  let all := digitsOf 10 1 d.digits
  let ds := significant d.digits
  let first : Int := d.exponent + all.length - 1
  if l.least ≤ first && first < l.bound then
    if first < 0 then '0' :: '.' :: List.replicate (-first - 1).toNat '0' ++ ds
    else
      let whole := first.toNat + 1
      if ds.length ≤ whole then ds ++ List.replicate (whole - ds.length) '0' ++ l.integerEnd
      else ds.take whole ++ '.' :: ds.drop whole
  else
    let mantissa := match ds with
      | [] => []
      | [c] => [c]
      | c :: rest => c :: '.' :: rest
    mantissa ++ 'e' :: (if first < 0 then '-' else '+') :: digitsOf 10 l.exponentWidth first.natAbs

/-- The text of a double in a layout. -/
def chars (l : Layout) : Binary64 → List Char
  | .nan => l.nan
  | .infinite negative => if negative then '-' :: l.infinity else l.infinity
  | .finite negative m e =>
    let body := if m = 0 then '0' :: l.integerEnd else layOut l (ofMagnitude m e)
    if negative then '-' :: body else body

/-- Numbers from `0.0001` to below `10 ^ 16` are written in full, an integer among them with `.0`;
exponents have two digits at least. -/
def plain : Layout := ⟨-4, 16, ['.', '0'], 2, ['n', 'a', 'n'], ['i', 'n', 'f']⟩

/-- The text of a double in the plain layout. -/
def text (x : Binary64) : String :=
  String.ofList (chars plain x)

end InstallerGateway.Shortest
