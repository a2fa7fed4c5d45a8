import InstallerGateway.Bytes.Unicode

/-!
# Characters of a YAML document

Bytes become characters by UTF-16 if they begin with one of its byte order marks, and by UTF-8
otherwise. Control characters are refused, as are byte strings that are not well formed.
-/

namespace InstallerGateway.Yaml

/-- Why a text is no document, or why one of its scalars has no value. -/
inductive Fault where
  /-- The text does not follow the rules of the language. -/
  | malformed
  /-- An escape names a number beyond the last code point. -/
  | noSuchCodePoint
  /-- An escape names a number that does not fit into 31 bits. -/
  | codePointTooLarge
  /-- A scalar that is tagged as a number is none, or a decimal number has too many digits. -/
  | badNumeral
  /-- A scalar that is tagged as a number is empty after its sign. -/
  | noDigits
  /-- A number in base 60 is beyond the range of floating point numbers. -/
  | numberTooLarge
  /-- A scalar that is tagged as a truth value is none. -/
  | unknownTruthValue
  /-- A scalar that is tagged as a timestamp is none. -/
  | notATimestamp
  /-- A mapping is tagged as a timestamp. -/
  | timestampOfMapping
  /-- A timestamp names a date, a time or an offset that does not exist. -/
  | impossibleDate
  deriving DecidableEq

/-- The character may occur in a document. -/
def isAllowed (c : Char) : Bool :=
  let n := c.toNat
  n == 0x09 || n == 0x0A || n == 0x0D || (0x20 ≤ n && n ≤ 0x7E) || n == 0x85 ||
    (0xA0 ≤ n && n ≤ 0xD7FF) || (0xE000 ≤ n && n ≤ 0xFFFD) || 0x10000 ≤ n

/-- The characters of a text, all of them allowed. -/
def checked (cs : List Char) : Except Fault (List Char) :=
  if cs.all isAllowed then .ok cs else .error .malformed

/-- The characters of a byte string before they are checked. -/
def decode? (b : ByteArray) : Option (List Char) :=
  match b.data.toList with
  | 0xFF :: 0xFE :: rest => do Utf16.chars? (← Utf16.units? false (0xFF :: 0xFE :: rest))
  | 0xFE :: 0xFF :: rest => do Utf16.chars? (← Utf16.units? true (0xFE :: 0xFF :: rest))
  | _ => (String.fromUTF8? b).map String.toList

/-- The characters of a document that is given as bytes. -/
def charsOfBytes (b : ByteArray) : Except Fault (List Char) :=
  match decode? b with
  | some cs => checked cs
  | none => .error .malformed

/-- A place in a document: the characters from there on, how many lie before them, and the line and
column. -/
structure Cursor where
  /-- The characters still to be read. -/
  rest : List Char
  /-- The number of characters before. -/
  index : Nat
  /-- The number of line breaks before. -/
  line : Nat
  /-- The number of characters since the last line break. -/
  column : Nat

namespace Cursor

/-- The start of a document. -/
def start (cs : List Char) : Cursor := ⟨cs, 0, 0, 0⟩

/-- The character `k` places ahead; NUL, which no document holds, after the last. -/
def ahead (c : Cursor) (k : Nat) : Char := c.rest.getD k '\x00'

/-- The next character; NUL after the last. -/
def next (c : Cursor) : Char := c.rest.headD '\x00'

/-- The place after the next character. A carriage return before a line feed does not yet end the
line, and a byte order mark takes no column. -/
def advance (c : Cursor) : Cursor :=
  match c.rest with
  | [] => c
  | ch :: rest =>
    if ch == '\n' || ch == '\u0085' || ch == '\u2028' || ch == '\u2029' ||
        (ch == '\r' && rest.head? != some '\n') then
      ⟨rest, c.index + 1, c.line + 1, 0⟩
    else if ch == '\ufeff' then ⟨rest, c.index + 1, c.line, c.column⟩
    else ⟨rest, c.index + 1, c.line, c.column + 1⟩

/-- The place `n` characters ahead. -/
def advanceBy (c : Cursor) : Nat → Cursor
  | 0 => c
  | n + 1 => c.advance.advanceBy n

/-- The longest run of characters that satisfy `p`. -/
def run (c : Cursor) (p : Char → Bool) : List Char := c.rest.takeWhile p

/-- The place after the longest run of characters that satisfy `p`. -/
def skip (c : Cursor) (p : Char → Bool) : Cursor := c.advanceBy (c.run p).length

end Cursor

/-- The character breaks a line. -/
def isBreak (c : Char) : Bool :=
  c == '\r' || c == '\n' || c == '\u0085' || c == '\u2028' || c == '\u2029'

/-- The character breaks a line or is the NUL after the last. -/
def isBreakOrEnd (c : Char) : Bool := isBreak c || c == '\x00'

/-- The character is a space, breaks a line or is the NUL after the last. -/
def isSpaceOrEnd (c : Char) : Bool := isBreakOrEnd c || c == ' '

/-- The character is a space or tab, breaks a line or is the NUL after the last. -/
def isBlankOrEnd (c : Char) : Bool := isSpaceOrEnd c || c == '\t'

/-- The character may stand in the name of an anchor, directive or tag handle. -/
def isNameChar (c : Char) : Bool :=
  ('0' ≤ c && c ≤ '9') || ('A' ≤ c && c ≤ 'Z') || ('a' ≤ c && c ≤ 'z') || c == '-' || c == '_'

/-- The line break at a place as it counts in a scalar, and the place after it. Line breaks other
than the separators of lines and paragraphs all count as line feeds. -/
def lineBreak (c : Cursor) : List Char × Cursor :=
  let ch := c.next
  if ch == '\r' || ch == '\n' || ch == '\u0085' then
    (['\n'], c.advanceBy (if ch == '\r' && c.ahead 1 == '\n' then 2 else 1))
  else if ch == '\u2028' || ch == '\u2029' then ([ch], c.advance)
  else ([], c)

end InstallerGateway.Yaml
