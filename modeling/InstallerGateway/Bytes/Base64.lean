/-!
# Base64

Byte strings as text in the alphabet `A–Z a–z 0–9 + /`, padded with `=` to a multiple of four
characters. Reading is lenient: characters outside the alphabet are skipped, and what follows
complete padding is not read.
-/

namespace InstallerGateway.Base64

/-- The character for a group of six bits. -/
def symbol (n : Nat) : Char :=
  if n < 26 then Char.ofNat (n + 65)
  else if n < 52 then Char.ofNat (n + 71)
  else if n < 62 then Char.ofNat (n - 4)
  else if n = 62 then '+'
  else '/'

/-- The six bits of a character of the alphabet. -/
def sextet? (c : Char) : Option Nat :=
  let n := c.toNat
  if 65 ≤ n && n ≤ 90 then some (n - 65)
  else if 97 ≤ n && n ≤ 122 then some (n - 71)
  else if 48 ≤ n && n ≤ 57 then some (n + 4)
  else if c = '+' then some 62
  else if c = '/' then some 63
  else none

/-- Three bytes become four characters; one or two left over are padded. -/
def encodeBytes : List UInt8 → List Char
  | [] => []
  | [a] =>
    let n := a.toNat
    [symbol (n / 4), symbol (n % 4 * 16), '=', '=']
  | [a, b] =>
    let n := a.toNat
    let m := b.toNat
    [symbol (n / 4), symbol (n % 4 * 16 + m / 16), symbol (m % 16 * 4), '=']
  | a :: b :: c :: rest =>
    let n := a.toNat
    let m := b.toNat
    let k := c.toNat
    symbol (n / 4) :: symbol (n % 4 * 16 + m / 16) :: symbol (m % 16 * 4 + k / 64) ::
      symbol (k % 64) :: encodeBytes rest

/-- The base64 text of a byte string. -/
def encode (b : ByteArray) : String :=
  String.ofList (encodeBytes b.data.toList)

/-- Where a reader stands: how many characters of the current group of four are read, the bits that
are not yet part of a byte, and the padding characters since the last symbol. -/
structure Reader where
  /-- Symbols read of the current group. -/
  position : Nat
  /-- Bits that wait for the rest of their byte. -/
  carry : Nat
  /-- Padding characters since the last symbol. -/
  pads : Nat

/-- The bytes of a text, or `none` if it ends inside a group. -/
def decodeFrom (r : Reader) : List Char → Option (List UInt8)
  | [] => if r.position = 0 then some [] else none
  | c :: rest =>
    if c = '=' then
      if 2 ≤ r.position then
        if 4 ≤ r.position + (r.pads + 1) then some []
        else decodeFrom { r with pads := r.pads + 1 } rest
      else decodeFrom r rest
    else match sextet? c with
      | none => decodeFrom r rest
      | some x =>
        match r.position with
        | 0 => decodeFrom ⟨1, x, 0⟩ rest
        | 1 => (decodeFrom ⟨2, x % 16, 0⟩ rest).map (UInt8.ofNat (r.carry * 4 + x / 16) :: ·)
        | 2 => (decodeFrom ⟨3, x % 4, 0⟩ rest).map (UInt8.ofNat (r.carry * 16 + x / 4) :: ·)
        | _ => (decodeFrom ⟨0, 0, 0⟩ rest).map (UInt8.ofNat (r.carry * 64 + x) :: ·)

/-- The byte string that a base64 text stands for. -/
def decode? (s : String) : Option ByteArray :=
  (decodeFrom ⟨0, 0, 0⟩ s.toList).map fun bs => ⟨bs.toArray⟩

end InstallerGateway.Base64
