import InstallerGateway.Text.Character

/-!
# MD5

The 128-bit digest of RFC 1321, which serves as the entity tag of objects held in memory.
-/

namespace InstallerGateway.Digest

/-- The four words that the rounds transform. -/
structure Words where
  /-- The word A. -/
  a : UInt32
  /-- The word B. -/
  b : UInt32
  /-- The word C. -/
  c : UInt32
  /-- The word D. -/
  d : UInt32

/-- The constants of the 64 steps: the integer part of `2^32 · |sin (i + 1)|`. -/
def sines : Array UInt32 := #[
  0xD76AA478, 0xE8C7B756, 0x242070DB, 0xC1BDCEEE, 0xF57C0FAF, 0x4787C62A,
  0xA8304613, 0xFD469501, 0x698098D8, 0x8B44F7AF, 0xFFFF5BB1, 0x895CD7BE,
  0x6B901122, 0xFD987193, 0xA679438E, 0x49B40821, 0xF61E2562, 0xC040B340,
  0x265E5A51, 0xE9B6C7AA, 0xD62F105D, 0x02441453, 0xD8A1E681, 0xE7D3FBC8,
  0x21E1CDE6, 0xC33707D6, 0xF4D50D87, 0x455A14ED, 0xA9E3E905, 0xFCEFA3F8,
  0x676F02D9, 0x8D2A4C8A, 0xFFFA3942, 0x8771F681, 0x6D9D6122, 0xFDE5380C,
  0xA4BEEA44, 0x4BDECFA9, 0xF6BB4B60, 0xBEBFBC70, 0x289B7EC6, 0xEAA127FA,
  0xD4EF3085, 0x04881D05, 0xD9D4D039, 0xE6DB99E5, 0x1FA27CF8, 0xC4AC5665,
  0xF4292244, 0x432AFF97, 0xAB9423A7, 0xFC93A039, 0x655B59C3, 0x8F0CCC92,
  0xFFEFF47D, 0x85845DD1, 0x6FA87E4F, 0xFE2CE6E0, 0xA3014314, 0x4E0811A1,
  0xF7537E82, 0xBD3AF235, 0x2AD7D2BB, 0xEB86D391]

/-- The rotation of each step: four amounts a round, used in turn. -/
def rotations : Array UInt32 := #[7, 12, 17, 22, 5, 9, 14, 20, 4, 11, 16, 23, 6, 10, 15, 21]

/-- A word turned left by `n` bits, `0 < n < 32`. -/
def rotate (x n : UInt32) : UInt32 :=
  (x <<< n) ||| (x >>> (32 - n))

/-- Step `i` on a block of sixteen words. -/
def step (block : Array UInt32) (w : Words) (i : Nat) : Words :=
  let (f, g) :=
    if i < 16 then ((w.b &&& w.c) ||| (~~~w.b &&& w.d), i)
    else if i < 32 then ((w.d &&& w.b) ||| (~~~w.d &&& w.c), (5 * i + 1) % 16)
    else if i < 48 then (w.b ^^^ w.c ^^^ w.d, (3 * i + 5) % 16)
    else (w.c ^^^ (w.b ||| ~~~w.d), (7 * i) % 16)
  let sum := w.a + f + sines.getD i 0 + block.getD g 0
  ⟨w.d, w.b + rotate sum (rotations.getD (i / 16 * 4 + i % 4) 0), w.b, w.c⟩

/-- The words after a block. -/
def absorb (w : Words) (block : Array UInt32) : Words :=
  let r := (List.range 64).foldl (step block) w
  ⟨w.a + r.a, w.b + r.b, w.c + r.c, w.d + r.d⟩

/-- The bytes in groups of four, the lowest first, as words. -/
def toWords : List UInt8 → List UInt32
  | a :: b :: c :: d :: rest =>
    (a.toUInt32 ||| (b.toUInt32 <<< 8) ||| (c.toUInt32 <<< 16) ||| (d.toUInt32 <<< 24)) ::
      toWords rest
  | _ => []

/-- A number as `n` bytes, the lowest first. -/
def littleEndian : Nat → Nat → List UInt8
  | 0, _ => []
  | n + 1, x => UInt8.ofNat x :: littleEndian n (x / 256)

/-- The message followed by a one bit, zeros, and its length in bits, to a multiple of 64 bytes. -/
def padded (message : List UInt8) : List UInt8 :=
  let n := message.length
  message ++ 0x80 :: List.replicate ((119 - n % 64) % 64) 0 ++ littleEndian 8 (8 * n)

/-- The words in blocks of sixteen; `fuel` bounds the number of blocks. -/
def blocks : Nat → List UInt32 → List (Array UInt32)
  | 0, _ => []
  | fuel + 1, ws => if ws.isEmpty then [] else (ws.take 16).toArray :: blocks fuel (ws.drop 16)

/-- The digest of a message as 32 hexadecimal digits. -/
def md5 (message : ByteArray) : String :=
  let ws := toWords (padded message.data.toList)
  let w := (blocks ws.length ws).foldl absorb ⟨0x67452301, 0xEFCDAB89, 0x98BADCFE, 0x10325476⟩
  String.ofList <| [w.a, w.b, w.c, w.d].flatMap fun x =>
    (littleEndian 4 x.toNat).flatMap fun b => digitsOf 16 2 b.toNat

end InstallerGateway.Digest
