import InstallerGateway.Number.Numeral
import InstallerGateway.Text.Character
import InstallerGateway.Yaml.Source

/-!
# Tokens of a YAML document

The tokens, and the reading of those that are more than one character long: directives, anchors and
aliases, tags, and scalars in their five styles.
-/

namespace InstallerGateway.Yaml

/-- A token of a document. -/
inductive Token where
  /-- A directive that names the version of the language. -/
  | versionDirective (major : Nat)
  /-- A directive that gives a tag handle its meaning. -/
  | tagDirective (handle meaning : String)
  /-- Any other directive. -/
  | otherDirective
  /-- The line `---`. -/
  | documentStart
  /-- The line `...`. -/
  | documentEnd
  /-- The end of the text. -/
  | streamEnd
  /-- The start of a sequence that indentation sets apart. -/
  | blockSequenceStart
  /-- The start of a mapping that indentation sets apart. -/
  | blockMappingStart
  /-- The end of a collection that indentation sets apart. -/
  | blockEnd
  /-- An opening bracket. -/
  | flowSequenceStart
  /-- An opening brace. -/
  | flowMappingStart
  /-- A closing bracket. -/
  | flowSequenceEnd
  /-- A closing brace. -/
  | flowMappingEnd
  /-- The dash before an entry of a sequence. -/
  | blockEntry
  /-- The comma between entries. -/
  | flowEntry
  /-- The start of a key. -/
  | key
  /-- The start of a value. -/
  | value
  /-- A reference to an anchor. -/
  | alias (name : String)
  /-- A name for the node that follows. -/
  | anchor (name : String)
  /-- A tag: its handle, if it has one, and the rest. -/
  | tag (handle : Option String) (suffix : String)
  /-- A scalar; `isPlain` says that it stands without quotes and indicators. -/
  | scalar (text : List Char) (isPlain : Bool)
  /-- The text cannot be read on from here. -/
  | fault (cause : Fault)
  deriving DecidableEq

/-- The text does not follow the rules of the language. -/
def malformed {α : Type} : Except Fault α := .error .malformed

namespace Lexeme

/-- A run of name characters, at least one. -/
def name (c : Cursor) : Except Fault (String × Cursor) :=
  match c.run isNameChar with
  | [] => malformed
  | cs => .ok (String.ofList cs, c.advanceBy cs.length)

/-- The place after spaces, a comment and a line break, if nothing else comes before the latter. -/
def restOfLine (c : Cursor) : Except Fault Cursor :=
  let c := c.skip (· == ' ')
  let c := if c.next == '#' then c.skip (!isBreakOrEnd ·) else c
  if isBreakOrEnd c.next then .ok (lineBreak c).2 else malformed

/-- The bytes of a run of escapes `%NN`; `fuel` bounds its length. -/
def uriBytes : Nat → Cursor → Except Fault (List UInt8 × Cursor)
  | 0, _ => malformed
  | fuel + 1, c =>
    if c.next == '%' then
      match hexDigit? (c.ahead 1), hexDigit? (c.ahead 2) with
      | some a, some b => do
        let (rest, c) ← uriBytes fuel (c.advanceBy 3)
        return (UInt8.ofNat (a * 16 + b) :: rest, c)
      | _, _ => malformed
    else .ok ([], c)

/-- The character may stand in a tag. -/
def isUriChar (c : Char) : Bool :=
  isNameChar c || ";/?:@&=+$,.!~*'()[]%".toList.contains c

/-- The characters of a tag with their escapes replaced; `fuel` bounds its length. -/
def uriChars : Nat → Cursor → Except Fault (List Char × Cursor)
  | 0, _ => malformed
  | fuel + 1, c =>
    if c.next == '%' then do
      let (bytes, c) ← uriBytes (c.rest.length + 1) c
      match String.fromUTF8? ⟨bytes.toArray⟩ with
      | none => malformed
      | some s =>
        let (rest, c) ← uriChars fuel c
        return (s.toList ++ rest, c)
    else if isUriChar c.next then do
      let (rest, c') ← uriChars fuel c.advance
      return (c.next :: rest, c')
    else .ok ([], c)

/-- The text of a tag after its handle, at least one character. -/
def uri (c : Cursor) : Except Fault (String × Cursor) :=
  if isUriChar c.next then do
    let (cs, c) ← uriChars (c.rest.length + 1) c
    return (String.ofList cs, c)
  else malformed

/-- A tag handle: `!`, `!!` or `!name!`. -/
def tagHandle (c : Cursor) : Except Fault (String × Cursor) :=
  if c.next != '!' then malformed
  else if c.ahead 1 == ' ' then .ok ("!", c.advance)
  else
    let cs := c.advance.run isNameChar
    let c' := c.advance.advanceBy cs.length
    if c'.next == '!' then .ok (String.ofList ('!' :: cs ++ ['!']), c'.advance) else malformed

/-- A directive from its percent sign to the end of its line. -/
def directive (c : Cursor) : Except Fault (Token × Cursor) := do
  let (word, c) ← name c.advance
  if !isSpaceOrEnd c.next then malformed
  else
    let (token, c) ← body word c
    return (token, ← restOfLine c)
where
  /-- A decimal number, at least one digit and not too many. -/
  number (c : Cursor) : Except Fault (Nat × Cursor) :=
    match c.run Char.isDigit with
    | [] => malformed
    | ds =>
      if Numeral.maxDigits < ds.length then .error .badNumeral
      else .ok (ds.foldl (fun n d => n * 10 + (d.toNat - 0x30)) 0, c.advanceBy ds.length)
  /-- What follows the name of a directive. -/
  body (word : String) (c : Cursor) : Except Fault (Token × Cursor) :=
    if word = "YAML" then do
      let (major, c) ← number (c.skip (· == ' '))
      if c.next != '.' then malformed
      else
        let (_, c) ← number c.advance
        if isSpaceOrEnd c.next then return (.versionDirective major, c) else malformed
    else if word = "TAG" then do
      let (handle, c) ← tagHandle (c.skip (· == ' '))
      if c.next != ' ' then malformed
      else
        let (meaning, c) ← uri (c.skip (· == ' '))
        if isSpaceOrEnd c.next then return (.tagDirective handle meaning, c) else malformed
    else .ok (.otherDirective, c.skip (!isBreakOrEnd ·))

/-- The name of an anchor or alias, from its indicator on. -/
def anchorName (c : Cursor) : Except Fault (String × Cursor) := do
  let (s, c) ← name c.advance
  if isBlankOrEnd c.next || "?:,]\x7d%@\x60".toList.contains c.next then return (s, c)
  else malformed

/-- A tag from its exclamation mark on. -/
def tag (c : Cursor) : Except Fault (Token × Cursor) := do
  let (handle, suffix, c) ←
    if c.ahead 1 == '<' then do
      let (suffix, c) ← uri (c.advanceBy 2)
      if c.next == '>' then pure (none, suffix, c.advance) else malformed
    else if isBlankOrEnd (c.ahead 1) then
      pure (none, "!", c.advance)
    else if (c.advance.run fun ch => !isSpaceOrEnd ch).contains '!' then do
      let (handle, c) ← tagHandle c
      let (suffix, c) ← uri c
      pure (some handle, suffix, c)
    else do
      let (suffix, c) ← uri c.advance
      pure (some "!", suffix, c)
  if isSpaceOrEnd c.next then return (.tag handle suffix, c) else malformed

/-! ## Scalars in quotes -/

/-- The character that a one-letter escape stands for. -/
def shortEscape? (c : Char) : Option Char :=
  match c with
  | '0' => some '\x00'
  | 'a' => some '\x07'
  | 'b' => some '\x08'
  | 't' => some '\t'
  | '\t' => some '\t'
  | 'n' => some '\n'
  | 'v' => some '\x0b'
  | 'f' => some '\x0c'
  | 'r' => some '\r'
  | 'e' => some '\x1b'
  | ' ' => some ' '
  | '"' => some '"'
  | '\\' => some '\\'
  | '/' => some '/'
  | 'N' => some '\u0085'
  | '_' => some '\u00a0'
  | 'L' => some '\u2028'
  | 'P' => some '\u2029'
  | _ => none

/-- The number of hexadecimal digits after the letter of an escape. -/
def longEscape? (c : Char) : Option Nat :=
  match c with
  | 'x' => some 2
  | 'u' => some 4
  | 'U' => some 8
  | _ => none

/-- The character of a code point. A surrogate, which is no character, becomes U+FFFD. -/
def ofCodePoint (n : Nat) : Except Fault Char :=
  if 0x80000000 ≤ n then .error .codePointTooLarge
  else if 0x110000 ≤ n then .error .noSuchCodePoint
  else if 0xD800 ≤ n && n < 0xE000 then .ok '\ufffd'
  else .ok (Char.ofNat n)

/-- A document marker stands at this place of a line. -/
def isMarker (c : Cursor) : Bool :=
  ((c.next == '-' && c.ahead 1 == '-' && c.ahead 2 == '-') ||
    (c.next == '.' && c.ahead 1 == '.' && c.ahead 2 == '.')) && isBlankOrEnd (c.ahead 3)

/-- The line breaks after the first one inside quotes, and the blanks that begin their lines. No
line may be a document marker. -/
def quotedBreaks : Nat → Cursor → Except Fault (List Char × Cursor)
  | 0, _ => malformed
  | fuel + 1, c =>
    if isMarker c then malformed
    else
      let c := c.skip fun ch => ch == ' ' || ch == '\t'
      if isBreak c.next then do
        let (b, c) := lineBreak c
        let (rest, c) ← quotedBreaks fuel c
        return (b ++ rest, c)
      else .ok ([], c)

/-- What a line break followed by the breaks `more` counts as: a single line feed is folded to a
space. -/
def folded (first more : List Char) : List Char :=
  if first != ['\n'] then first ++ more else if more.isEmpty then [' '] else more

/-- Blanks and line breaks inside quotes. -/
def quotedSpaces (c : Cursor) : Except Fault (List Char × Cursor) :=
  let blanks := c.run fun ch => ch == ' ' || ch == '\t'
  let c := c.advanceBy blanks.length
  if c.next == '\x00' then malformed
  else if isBreak c.next then do
    let (first, c) := lineBreak c
    let (more, c) ← quotedBreaks (c.rest.length + 1) c
    return (folded first more, c)
  else .ok (blanks, c)

/-- A scalar up to its closing quote. Between single quotes a quote is written twice; between double
quotes a backslash begins an escape. -/
def quoted (double : Bool) : Nat → Cursor → Except Fault (List Char × Cursor)
  | 0, _ => malformed
  | fuel + 1, c =>
    let ch := c.next
    let more (cs : List Char) (c : Cursor) : Except Fault (List Char × Cursor) := do
      let (rest, c) ← quoted double fuel c
      return (cs ++ rest, c)
    if !double && ch == '\'' then
      if c.ahead 1 == '\'' then more ['\''] (c.advanceBy 2) else .ok ([], c.advance)
    else if double && ch == '"' then .ok ([], c.advance)
    else if double && ch == '\\' then
      let e := c.ahead 1
      match shortEscape? e, longEscape? e with
      | some x, _ => more [x] (c.advanceBy 2)
      | none, some n => do
        let c := c.advanceBy 2
        match (c.rest.take n).mapM hexDigit? with
        | none => malformed
        | some ds =>
          if ds.length < n then malformed
          else more [← ofCodePoint (ds.foldl (fun a d => a * 16 + d) 0)] (c.advanceBy n)
      | none, none =>
        if isBreak e then do
          let (_, c) := lineBreak c.advance
          let (breaks, c) ← quotedBreaks (c.rest.length + 1) c
          more breaks c
        else malformed
    else if isBlankOrEnd ch then do
      let (cs, c) ← quotedSpaces c
      more cs c
    else more [ch] c.advance

/-! ## Scalars without quotes -/

/-- The longest run of characters of a plain scalar without blanks. A colon ends it before a blank,
and inside brackets before an indicator; inside brackets indicators end it. -/
def plainRun (inFlow : Bool) : List Char → List Char
  | [] => []
  | ch :: rest =>
    let after := rest.headD '\x00'
    if isBlankOrEnd ch ||
        (ch == ':' && (isBlankOrEnd after || (inFlow && ",[]\x7b\x7d".toList.contains after))) ||
        (inFlow && ",?[]\x7b\x7d".toList.contains ch) then []
    else ch :: plainRun inFlow rest

/-- Spaces and line breaks that follow the first break after a plain run. None are returned before a
document marker. -/
def plainBreaks : Nat → Cursor → Option (List Char) × Cursor
  | 0, c => (none, c)
  | fuel + 1, c =>
    if c.next == ' ' then plainBreaks fuel c.advance
    else if isBreak c.next then
      let (b, c) := lineBreak c
      if isMarker c then (none, c)
      else
        let (rest, c) := plainBreaks fuel c
        (rest.map (b ++ ·), c)
    else (some [], c)

/-- The blanks after a run of a plain scalar as they count in it, the place after them, and whether
a line was broken. Nothing is returned where the scalar cannot go on. -/
def plainSpaces (c : Cursor) : List Char × Cursor × Bool :=
  let blanks := c.run (· == ' ')
  let c := c.advanceBy blanks.length
  if isBreak c.next then
    let (first, c) := lineBreak c
    if isMarker c then ([], c, true)
    else
      let (more, c) := plainBreaks (c.rest.length + 1) c
      ((more.map (folded first)).getD [], c, true)
  else (blanks, c, false)

/-- A plain scalar whose lines are indented by at least `indent`, the place after it, and whether
a line was broken after its last run. -/
def plain (inFlow : Bool) (indent : Int) : Nat → Cursor → List Char × Cursor × Bool
  | 0, c => ([], c, false)
  | fuel + 1, c =>
    let run := plainRun inFlow c.rest
    let c := c.advanceBy run.length
    let (spaces, c, broken) := plainSpaces c
    if spaces.isEmpty || c.next == '#' || (!inFlow && (c.column : Int) < indent) ||
        (plainRun inFlow c.rest).isEmpty then
      (run, c, broken)
    else
      let (rest, c, broken) := plain inFlow indent fuel c
      (run ++ spaces ++ rest, c, broken)

/-! ## Block scalars -/

/-- What becomes of the line breaks at the end of a block scalar. -/
inductive Chomping where
  /-- One is kept. -/
  | clip
  /-- None is kept. -/
  | drop
  /-- All are kept. -/
  | keep

/-- The sign that chooses the chomping. -/
def chomping? (c : Char) : Option Chomping :=
  if c == '+' then some .keep else if c == '-' then some .drop else none

/-- The chomping and the indentation that the header of a block scalar asks for, in either
order. -/
def blockHeader (c : Cursor) : Except Fault ((Chomping × Option Nat) × Cursor) := do
  let (chomping, indent, c) ←
    match chomping? c.next with
    | some chomping => do
      let (indent, c) ← increment c.advance
      pure (chomping, indent, c)
    | none => do
      let (indent, c) ← increment c
      match indent, chomping? c.next with
      | some _, some chomping => pure (chomping, indent, c.advance)
      | _, _ => pure (Chomping.clip, indent, c)
  if isSpaceOrEnd c.next then return ((chomping, indent), ← restOfLine c) else malformed
where
  /-- A digit from 1 to 9, if there is a digit. -/
  increment (c : Cursor) : Except Fault (Option Nat × Cursor) :=
    match asciiDigit? c.next with
    | none => .ok (none, c)
    | some 0 => malformed
    | some n => .ok (some n, c.advance)

/-- The empty lines at the start of a block scalar, and the greatest indentation among them and the
first line with text. -/
def leadingBreaks : Nat → Cursor → Nat → List Char × Nat × Cursor
  | 0, c, deepest => ([], deepest, c)
  | fuel + 1, c, deepest =>
    if c.next == ' ' then
      let c := c.advance
      leadingBreaks fuel c (max deepest c.column)
    else if isBreak c.next then
      let (b, c) := lineBreak c
      let (rest, deepest, c) := leadingBreaks fuel c deepest
      (b ++ rest, deepest, c)
    else ([], deepest, c)

/-- The place after the spaces of a line, up to a column. -/
def indentation (indent : Nat) : Nat → Cursor → Cursor
  | 0, c => c
  | fuel + 1, c =>
    if c.column < indent && c.next == ' ' then indentation indent fuel c.advance else c

/-- The empty lines before the next line with text, whose indentation is skipped. -/
def blockBreaks (indent : Nat) : Nat → Cursor → List Char × Cursor
  | 0, c => ([], c)
  | fuel + 1, c =>
    let c := indentation indent c.rest.length c
    if isBreak c.next then
      let (b, c) := lineBreak c
      let (rest, c) := blockBreaks indent fuel c
      (b ++ rest, c)
    else ([], c)

/-- The lines of a block scalar, from the text of the first one on, with the chomping applied. Where
lines are folded, a line feed between two lines that begin with no blank becomes a space, or nothing
if empty lines follow. -/
def blockLines (fold : Bool) (chomping : Chomping) (indent : Nat) :
    Nat → Cursor → List Char × Cursor
  | 0, c => ([], c)
  | fuel + 1, c =>
    let isBlank (ch : Char) : Bool := ch == ' ' || ch == '\t'
    let leading := !isBlank c.next
    let text := c.run (!isBreakOrEnd ·)
    let (b, c) := lineBreak (c.advanceBy text.length)
    let (breaks, c) := blockBreaks indent (c.rest.length + 1) c
    if c.column == indent && c.next != '\x00' then
      let joint :=
        if fold && b == ['\n'] && leading && !isBlank c.next then
          if breaks.isEmpty then [' '] else []
        else b
      let (rest, c) := blockLines fold chomping indent fuel c
      (text ++ joint ++ breaks ++ rest, c)
    else
      match chomping with
      | .clip => (text ++ b, c)
      | .drop => (text, c)
      | .keep => (text ++ b ++ breaks, c)

/-- A block scalar from its indicator on, inside a collection indented by `parent`. -/
def block (fold : Bool) (parent : Int) (c : Cursor) : Except Fault (List Char × Cursor) := do
  let ((chomping, increment), c) ← blockHeader c.advance
  let least := max 1 (parent + 1).toNat
  let (breaks, indent, c) := match increment with
    | none =>
      let (breaks, deepest, c) := leadingBreaks (c.rest.length + 1) c 0
      (breaks, max least deepest, c)
    | some n =>
      let indent := least + n - 1
      let (breaks, c) := blockBreaks indent (c.rest.length + 1) c
      (breaks, indent, c)
  if c.column == indent && c.next != '\x00' then
    let (text, c) := blockLines fold chomping indent (c.rest.length + 1) c
    return (breaks ++ text, c)
  else
    return (match chomping with | .keep => breaks | _ => [], c)

end Lexeme

end InstallerGateway.Yaml
