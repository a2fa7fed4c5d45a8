/-!
# Text in bytes

Byte strings as text in the two encodings of Unicode.
-/

namespace InstallerGateway

/-!
## Lenient reading of UTF-8

Byte strings that are meant as UTF-8 but may be damaged. Each longest part that could begin a
character and is not completed is read as the replacement character U+FFFD, and so is every other
byte that belongs to no character.
-/

namespace Utf8

/-- The beginning of a character. -/
structure Beginning where
  /-- How many bytes are missing. -/
  missing : Nat
  /-- The least value of the next byte. -/
  least : Nat
  /-- The greatest value of the next byte. -/
  greatest : Nat
  /-- The bits so far. -/
  bits : Nat

/-- The character for what cannot be read. -/
def replacement : Char := '\uFFFD'

/-- What a byte is that begins a character: the character itself, or its beginning. -/
def start (b : UInt8) : List Char × Option Beginning :=
  let n := b.toNat
  if n < 0x80 then ([Char.ofNat n], none)
  else if 0xC2 ≤ n && n ≤ 0xDF then ([], some ⟨1, 0x80, 0xBF, n - 0xC0⟩)
  else if n = 0xE0 then ([], some ⟨2, 0xA0, 0xBF, 0⟩)
  else if n = 0xED then ([], some ⟨2, 0x80, 0x9F, 0xD⟩)
  else if 0xE1 ≤ n && n ≤ 0xEF then ([], some ⟨2, 0x80, 0xBF, n - 0xE0⟩)
  else if n = 0xF0 then ([], some ⟨3, 0x90, 0xBF, 0⟩)
  else if n = 0xF4 then ([], some ⟨3, 0x80, 0x8F, 4⟩)
  else if 0xF1 ≤ n && n ≤ 0xF3 then ([], some ⟨3, 0x80, 0xBF, n - 0xF0⟩)
  else ([replacement], none)

/-- What a byte makes of the beginning of a character, if it continues it. -/
def continue? (s : Beginning) (b : UInt8) : Option (List Char × Option Beginning) :=
  let n := b.toNat
  if s.least ≤ n && n ≤ s.greatest then
    let bits := s.bits * 0x40 + (n - 0x80)
    if s.missing = 1 then some ([Char.ofNat bits], none)
    else some ([], some ⟨s.missing - 1, 0x80, 0xBF, bits⟩)
  else none

/-- The characters of bytes that follow the beginning of a character, if there is one. -/
def readFrom : Option Beginning → List UInt8 → List Char
  | none, [] => []
  | some _, [] => [replacement]
  | none, b :: rest =>
    let (cs, s) := start b
    cs ++ readFrom s rest
  | some s, b :: rest =>
    match continue? s b with
    | some (cs, s) => cs ++ readFrom s rest
    | none =>
      let (cs, s) := start b
      replacement :: cs ++ readFrom s rest

/-- The characters of a byte string. -/
def read (bytes : List UInt8) : List Char := readFrom none bytes

end Utf8

/-!
## UTF-16

Byte strings as UTF-16 code units of either byte order, and the text that the units stand for.
-/

namespace Utf16

/-- The code units of a byte string, or `none` if its length is odd. -/
def units? (bigEndian : Bool) : List UInt8 → Option (List Nat)
  | [] => some []
  | [_] => none
  | a :: b :: rest =>
    let n := if bigEndian then a.toNat * 256 + b.toNat else b.toNat * 256 + a.toNat
    (units? bigEndian rest).map (n :: ·)

/-- The unit is the first of a surrogate pair. -/
def isHigh (n : Nat) : Bool := 0xD800 ≤ n && n < 0xDC00

/-- The unit is the second of a surrogate pair. -/
def isLow (n : Nat) : Bool := 0xDC00 ≤ n && n < 0xE000

/-- The character of a surrogate pair. -/
def pair (high low : Nat) : Char :=
  Char.ofNat (0x10000 + (high - 0xD800) * 0x400 + (low - 0xDC00))

/-- The text of code units, or `none` if a surrogate stands alone. -/
def chars? : List Nat → Option (List Char)
  | [] => some []
  | n :: rest =>
    if isLow n then none
    else if isHigh n then
      match rest with
      | [] => none
      | m :: rest' => if isLow m then (chars? rest').map (pair n m :: ·) else none
    else (chars? rest).map (Char.ofNat n :: ·)

end Utf16

end InstallerGateway
