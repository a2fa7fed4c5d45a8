import InstallerGateway.Datum.Basic
import InstallerGateway.Number.Numeral
import InstallerGateway.Number.Shortest

/-!
# Writing JSON

JSON text in ASCII: every character outside the printable ones of ASCII is written as `\uNNNN`, one
above U+FFFF as a surrogate pair. Two spacings are in use: one with a space after commas and colons,
for log lines, and one without, for response bodies.
-/

namespace InstallerGateway.Json

/-- What stands between items and between a name and its value. -/
structure Spacing where
  /-- Between two items. -/
  comma : List Char
  /-- Between a name and its value. -/
  colon : List Char

/-- A space after each comma and colon. -/
def spaced : Spacing := ⟨[',', ' '], [':', ' ']⟩

/-- No spaces. -/
def compact : Spacing := ⟨[','], [':']⟩

/-- The escape `\uNNNN` of a code unit. -/
def unit (n : Nat) : List Char :=
  '\\' :: 'u' :: digitsOf 16 4 n

/-- A character inside a JSON string. -/
def escape (c : Char) : List Char :=
  let n := c.toNat
  if c = '"' then ['\\', '"']
  else if c = '\\' then ['\\', '\\']
  else if c = '\n' then ['\\', 'n']
  else if c = '\r' then ['\\', 'r']
  else if c = '\t' then ['\\', 't']
  else if n = 0x08 then ['\\', 'b']
  else if n = 0x0C then ['\\', 'f']
  else if 0x20 ≤ n && n < 0x7F then [c]
  else if n < 0x10000 then unit n
  else unit (0xD800 + (n - 0x10000) / 0x400) ++ unit (0xDC00 + (n - 0x10000) % 0x400)

/-- A text as a JSON string. -/
def quoted (s : String) : List Char :=
  '"' :: s.toList.flatMap escape ++ ['"']

/-- Floating point numbers in the plain layout, with the names that JSON readers accept for what is
no finite number. -/
def numbers : Shortest.Layout :=
  { Shortest.plain with nan := "NaN".toList, infinity := "Infinity".toList }

/-- Items with separators between them. -/
def separated (comma : List Char) : List (List Char) → List Char
  | [] => []
  | [x] => x
  | x :: rest => x ++ comma ++ separated comma rest

/-- The name of an entry. Scalars other than texts are named by their JSON text; there is none for
other values. -/
def name? : Datum → Option (List Char)
  | .text s => some (quoted s)
  | .null => some (quoted "null")
  | .bool b => some (quoted (if b then "true" else "false"))
  | .int n => (Numeral.text? n).map quoted
  | .float x => some ('"' :: Shortest.chars numbers x ++ ['"'])
  | _ => none

mutual

/-- The JSON text of a value; none if it holds a byte string, a set, a date, a reference, or an
integer of too many digits. -/
def chars? (w : Spacing) : Datum → Option (List Char)
  | .null => some "null".toList
  | .bool b => some (if b then "true" else "false").toList
  | .int n => (Numeral.text? n).map String.toList
  | .float x => some (Shortest.chars numbers x)
  | .text s => some (quoted s)
  | .list _ items => (itemChars? w items).map fun xs => '[' :: separated w.comma xs ++ [']']
  | .tuple items => (itemChars? w items).map fun xs => '[' :: separated w.comma xs ++ [']']
  | .map _ entries =>
    (entryChars? w entries).map fun xs => '\x7b' :: separated w.comma xs ++ ['\x7d']
  | .bytes _ | .date _ | .moment _ | .set _ | .enclosing _ => none

/-- The JSON texts of the items of an array. -/
def itemChars? (w : Spacing) : List Datum → Option (List (List Char))
  | [] => some []
  | d :: rest => do
    let x ← chars? w d
    let xs ← itemChars? w rest
    return x :: xs

/-- The JSON texts of the entries of an object. -/
def entryChars? (w : Spacing) : List (Datum × Datum) → Option (List (List Char))
  | [] => some []
  | (k, v) :: rest => do
    let n ← name? k
    let x ← chars? w v
    let xs ← entryChars? w rest
    return (n ++ w.colon ++ x) :: xs

end

/-- The JSON text of a value, if it has one. -/
def text? (w : Spacing) (d : Datum) : Option String :=
  (chars? w d).map String.ofList

end InstallerGateway.Json
