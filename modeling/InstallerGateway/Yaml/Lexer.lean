import InstallerGateway.Yaml.Token

/-!
# The token sequence of a YAML document

A key need not be announced: that a token began a key shows only at the colon after it. Each place
where a key may begin is remembered, one for each level of brackets, and the tokens that announce it
are put in there when the colon comes. The place is given up at the end of its line or after 1024
characters. Outside brackets, indentation opens and closes collections.
-/

namespace InstallerGateway.Yaml

/-- A place where a key may have begun. -/
structure KeyPlace where
  /-- The number of tokens before it. -/
  tokensBefore : Nat
  /-- Indentation demands that a key begins here. -/
  isRequired : Bool
  /-- The number of characters before it. -/
  index : Nat
  /-- Its line. -/
  line : Nat
  /-- Its column. -/
  column : Nat

/-- The state between two tokens. -/
structure Lexer where
  /-- The place in the document. -/
  cursor : Cursor
  /-- The tokens so far, the last one first. -/
  emitted : List Token
  /-- Their number. -/
  count : Nat
  /-- The indentation of the innermost collection outside brackets; -1 if there is none. -/
  indent : Int
  /-- The indentations of the collections around it, the innermost first. -/
  outerIndents : List Int
  /-- A key may begin here. -/
  mayBeginKey : Bool
  /-- The place of a possible key on this level of brackets. -/
  key : Option KeyPlace
  /-- The places of possible keys on the levels around it, the innermost first. -/
  outerKeys : List (Option KeyPlace)

namespace Lexer

/-- The state at the start of a document. -/
def start (cs : List Char) : Lexer :=
  ⟨Cursor.start cs, [], 0, -1, [], true, none, []⟩

/-- The place lies inside brackets. -/
def inFlow (x : Lexer) : Bool := !x.outerKeys.isEmpty

/-- One more token. -/
def emit (x : Lexer) (t : Token) : Lexer :=
  { x with emitted := t :: x.emitted, count := x.count + 1 }

/-- One more token, with the place after `n` characters. -/
def emitIndicator (x : Lexer) (n : Nat) (t : Token) : Lexer :=
  { x.emit t with cursor := x.cursor.advanceBy n }

/-- One more token, put in where there were only `tokensBefore`. -/
def insert (x : Lexer) (tokensBefore : Nat) (t : Token) : Lexer :=
  let (later, earlier) := x.emitted.splitAt (x.count - tokensBefore)
  { x with emitted := later ++ t :: earlier, count := x.count + 1 }

/-! ## Places of possible keys -/

/-- The possible key is given up, which is a fault if it is required. -/
def dropKey (x : Lexer) : Except Fault Lexer :=
  if x.key.any (·.isRequired) then malformed else .ok { x with key := none }

/-- A possible key that is still possible here. -/
def fresh (c : Cursor) (k : KeyPlace) : Bool :=
  k.line == c.line && c.index ≤ k.index + 1024

/-- Possible keys that lie too far back are given up, which is a fault if one is required. -/
def dropStale (x : Lexer) : Except Fault Lexer :=
  if (x.key :: x.outerKeys).any fun k => k.any fun k => k.isRequired && !fresh x.cursor k then
    malformed
  else
    .ok { x with key := x.key.filter (fresh x.cursor)
                 outerKeys := x.outerKeys.map (·.filter (fresh x.cursor)) }

/-- A key may begin with the next token. -/
def noteKey (x : Lexer) : Except Fault Lexer :=
  if x.mayBeginKey then do
    let x ← x.dropKey
    let c := x.cursor
    return { x with
      key := some ⟨x.count, !x.inFlow && x.indent == c.column, c.index, c.line, c.column⟩ }
  else .ok x

/-! ## Indentation -/

/-- The collections that are indented deeper than a column are closed. -/
def closeDeeper (column : Int) : List Int → Lexer → Lexer
  | [], x => x
  | outer :: rest, x =>
    if column < x.indent then
      closeDeeper column rest { x.emit .blockEnd with indent := outer, outerIndents := rest }
    else x

/-- Outside brackets, the collections that are indented deeper than a column are closed. -/
def unwind (column : Int) (x : Lexer) : Lexer :=
  if x.inFlow then x else closeDeeper column x.outerIndents x

/-- A collection begins at a column if that is deeper than the indentation so far; its first token
is put in where there were only `tokensBefore`. -/
def openAt (x : Lexer) (column tokensBefore : Nat) (t : Token) : Lexer :=
  if x.indent < column then
    { x.insert tokensBefore t with indent := column, outerIndents := x.indent :: x.outerIndents }
  else x

/-! ## Tokens -/

/-- The place of the next token: blanks, comments and line breaks are skipped. After a line break
outside brackets a key may begin. -/
def skipBlank : Nat → Lexer → Lexer
  | 0, x => x
  | fuel + 1, x =>
    let c := x.cursor.skip (· == ' ')
    let c := if c.next == '#' then c.skip (!isBreakOrEnd ·) else c
    if isBreak c.next then
      skipBlank fuel
        { x with cursor := (lineBreak c).2, mayBeginKey := x.mayBeginKey || !x.inFlow }
    else { x with cursor := c }

/-- A document marker or a directive comes next: all collections and keys before it end. -/
def endContent (x : Lexer) : Except Fault Lexer := do
  let x ← (x.unwind (-1)).dropKey
  return { x with mayBeginKey := false }

/-- An opening bracket. -/
def openFlow (x : Lexer) (t : Token) : Except Fault Lexer := do
  let x ← x.noteKey
  let x := { x with key := none, outerKeys := x.key :: x.outerKeys, mayBeginKey := true }
  return x.emitIndicator 1 t

/-- A closing bracket. -/
def closeFlow (x : Lexer) (t : Token) : Except Fault Lexer := do
  let x ← x.dropKey
  let x := match x.outerKeys with
    | [] => x
    | key :: rest => { x with key := key, outerKeys := rest }
  return { x with mayBeginKey := false }.emitIndicator 1 t

/-- A comma inside brackets. -/
def flowEntry (x : Lexer) : Except Fault Lexer := do
  let x ← { x with mayBeginKey := true }.dropKey
  return x.emitIndicator 1 .flowEntry

/-- Outside brackets an indicator opens a collection, if it may stand here. -/
def openBlock (x : Lexer) (t : Token) : Except Fault Lexer :=
  if x.inFlow then .ok x
  else if x.mayBeginKey then .ok (x.openAt x.cursor.column x.count t)
  else malformed

/-- The dash before an entry of a sequence. -/
def blockEntry (x : Lexer) : Except Fault Lexer := do
  let x ← x.openBlock .blockSequenceStart
  let x ← { x with mayBeginKey := true }.dropKey
  return x.emitIndicator 1 .blockEntry

/-- The question mark before a key. -/
def explicitKey (x : Lexer) : Except Fault Lexer := do
  let x ← x.openBlock .blockMappingStart
  let x ← { x with mayBeginKey := !x.inFlow }.dropKey
  return x.emitIndicator 1 .key

/-- The colon before a value. What stands at the place of a possible key becomes the key. -/
def value (x : Lexer) : Except Fault Lexer :=
  match x.key with
  | some k =>
    let x := { x with key := none, mayBeginKey := false }.insert k.tokensBefore .key
    let x := if x.inFlow then x else x.openAt k.column k.tokensBefore .blockMappingStart
    .ok (x.emitIndicator 1 .value)
  | none => do
    let x ← x.openBlock .blockMappingStart
    return { x with mayBeginKey := !x.inFlow }.emitIndicator 1 .value

/-- A token that may begin a key, read by `read`. -/
def content (x : Lexer) (read : Cursor → Except Fault (Token × Cursor)) : Except Fault Lexer := do
  let x ← x.noteKey
  let (t, c) ← read x.cursor
  return { x.emit t with cursor := c, mayBeginKey := false }

/-- A scalar in quotes. -/
def quoted (double : Bool) (c : Cursor) : Except Fault (Token × Cursor) := do
  let (text, c) ← Lexeme.quoted double (c.rest.length + 1) c.advance
  return (.scalar text false, c)

/-- A scalar in the form of an indented block. -/
def block (x : Lexer) (fold : Bool) : Except Fault Lexer := do
  let x ← { x with mayBeginKey := true }.dropKey
  let (text, c) ← Lexeme.block fold x.indent x.cursor
  return { x.emit (.scalar text false) with cursor := c }

/-- A plain scalar. A key may begin after it if it ends with its line. -/
def plain (x : Lexer) : Except Fault Lexer := do
  let x ← x.noteKey
  let (text, c, broken) :=
    Lexeme.plain x.inFlow (x.indent + 1) (x.cursor.rest.length + 1) x.cursor
  return { x.emit (.scalar text true) with cursor := c, mayBeginKey := broken }

/-- A plain scalar may begin here: not with an indicator, but for a dash, and outside brackets a
question mark or colon, that text follows. -/
def beginsPlain (x : Lexer) : Bool :=
  let ch := x.cursor.next
  !(isBlankOrEnd ch || "-?:,[]\x7b\x7d#&*!|>'\"%@\x60".toList.contains ch) ||
    (!isBlankOrEnd (x.cursor.ahead 1) && (ch == '-' || (!x.inFlow && (ch == '?' || ch == ':'))))

/-- The next token, from its first character on. -/
def token (x : Lexer) : Except Fault Lexer :=
  let c := x.cursor
  let ch := c.next
  let beforeBlank := isBlankOrEnd (c.ahead 1)
  let alone := x.inFlow || beforeBlank
  if ch == '\x00' then do
    let x ← x.endContent
    return x.emit .streamEnd
  else if c.column == 0 && ch == '%' then do
    let x ← x.endContent
    let (t, c) ← Lexeme.directive c
    return { x.emit t with cursor := c }
  else if c.column == 0 && Lexeme.isMarker c then do
    let x ← x.endContent
    return x.emitIndicator 3 (if ch == '-' then .documentStart else .documentEnd)
  else if ch == '[' then x.openFlow .flowSequenceStart
  else if ch == '\x7b' then x.openFlow .flowMappingStart
  else if ch == ']' then x.closeFlow .flowSequenceEnd
  else if ch == '\x7d' then x.closeFlow .flowMappingEnd
  else if ch == ',' then x.flowEntry
  else if ch == '-' && beforeBlank then x.blockEntry
  else if ch == '?' && alone then x.explicitKey
  else if ch == ':' && alone then x.value
  else if ch == '*' then x.content fun c => (Lexeme.anchorName c).map fun r => (.alias r.1, r.2)
  else if ch == '&' then x.content fun c => (Lexeme.anchorName c).map fun r => (.anchor r.1, r.2)
  else if ch == '!' then x.content Lexeme.tag
  else if ch == '|' && !x.inFlow then x.block false
  else if ch == '>' && !x.inFlow then x.block true
  else if ch == '\'' then x.content (quoted false)
  else if ch == '"' then x.content (quoted true)
  else if x.beginsPlain then x.plain
  else malformed

/-- The tokens from a place where keys that lie too far back are given up. -/
def step (x : Lexer) : Except Fault Lexer := do
  let x ← (skipBlank (x.cursor.rest.length + 1) x).dropStale
  (x.unwind x.cursor.column).token

/-- The tokens if none can be read any more. The fault lies before the first token that might
still have become a key. -/
def cut (x : Lexer) (cause : Fault) : List Token :=
  let known := (x.key :: x.outerKeys).foldl (fun n key => key.elim n (min n ·.tokensBefore)) x.count
  (.fault cause :: x.emitted.drop (x.count - known)).reverse

/-- All tokens of a document; `fuel` bounds their number. -/
def run : Nat → Lexer → List Token
  | 0, x => x.cut .malformed
  | fuel + 1, x =>
    match x.dropStale with
    | .error e => x.cut e
    | .ok x =>
      match x.step with
      | .error e => x.cut e
      | .ok y => if y.emitted.head? = some .streamEnd then y.emitted.reverse else run fuel y

end Lexer

/-- The tokens of a document. The last one is the end of the text or a fault, and there is no other
of these. A byte order mark at the start is skipped. -/
def tokens (cs : List Char) : List Token :=
  let x := Lexer.start cs
  let x := if x.cursor.next == '\ufeff' then { x with cursor := x.cursor.advance } else x
  x.run (cs.length + 2)

end InstallerGateway.Yaml
