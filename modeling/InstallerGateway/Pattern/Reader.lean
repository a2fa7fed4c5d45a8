import InstallerGateway.Number.Numeral
import InstallerGateway.Pattern.Basic
import InstallerGateway.Text.Split

/-!
# Reading patterns

The written form of patterns. A reader keeps count of the groups, of their names and of how long the
texts are that they can match, since what lies before a place can only be matched by a pattern of
fixed length.
-/

namespace InstallerGateway.Pattern

/-- Why a text is no pattern. -/
inductive Fault where
  /-- It does not follow the rules of the language. -/
  | malformed
  /-- It asks for a number of repetitions that does not fit into 32 bits. -/
  | countTooLarge
  /-- It asks for a number of repetitions that has too many digits. -/
  | countTooLong
  /-- It sets blanks and comments apart after all; it has to be read again with that in mind. -/
  | setsBlanksApart
  deriving DecidableEq

/-- Options that change the meaning of what follows. -/
structure Flags where
  /-- Letters count in either case. -/
  ignoreCase : Bool
  /-- `^` and `$` hold at every line. -/
  everyLine : Bool
  /-- A point stands for a line feed, too. -/
  dotAll : Bool
  /-- Kinds of characters are those of ASCII. -/
  ascii : Bool
  /-- Blanks and comments do not count. -/
  spaced : Bool

/-- The shortest and the longest text that a pattern can match. -/
abbrev Width := Nat × Option Nat

/-- The state of reading. -/
structure Reader where
  /-- The characters still to be read. -/
  rest : List Char
  /-- The options of the whole pattern. -/
  flags : Flags
  /-- The number of the next group. -/
  nextGroup : Nat
  /-- The numbers of named groups. -/
  names : List (String × Nat)
  /-- The widths of the groups that are closed. -/
  widths : List (Nat × Width)
  /-- Inside a condition on what lies before: the number that was next when it began. -/
  behind : Option Nat
  /-- The greatest group number that a choice depends on. -/
  needed : Nat

/-- A step of reading. -/
abbrev Read := StateT Reader (Except Fault)

namespace Read

/-- The text does not follow the rules of the language. -/
def fail {α : Type} : Read α := throw .malformed

/-- The next character, if there is one. -/
def peek : Read (Option Char) := return (← get).rest.head?

/-- The next character is taken. -/
def next : Read Char := do
  let x ← get
  match x.rest with
  | c :: rest =>
    set { x with rest := rest }
    return c
  | [] => fail

/-- The next character is taken if it is the given one. -/
def takeIf (c : Char) : Read Bool := do
  let x ← get
  match x.rest with
  | d :: rest =>
    if c = d then
      set { x with rest := rest }
      return true
    else return false
  | [] => return false

/-- The longest run of at most `max` characters that satisfy `p` is taken. -/
def takeRun (max : Nat) (p : Char → Bool) : Read (List Char) := do
  let x ← get
  let run := (x.rest.take max).takeWhile p
  set { x with rest := x.rest.drop run.length }
  return run

/-- What lies before the next `c` is taken, and `c` with it; it must not be empty. -/
def takeUntil (c : Char) : Read (List Char) := do
  let x ← get
  match splitFirst c x.rest with
  | some (a :: before, after) =>
    set { x with rest := after }
    return a :: before
  | _ => fail

/-! ## Characters -/

/-- The value of digits in a base. -/
def valueOf (base : Nat) (ds : List Char) : Nat :=
  ds.foldl (fun n d => n * base + (hexDigit? d).getD 0) 0

/-- A code point of exactly `n` hexadecimal digits. -/
def codePoint (n : Nat) : Read Nat := do
  let ds ← takeRun n fun c => (hexDigit? c).isSome
  if ds.length < n then fail
  let code := valueOf 16 ds
  if 0x110000 ≤ code then fail
  return code

/-- The character is a digit of octal numbers. -/
def isOctal (c : Char) : Bool := '0' ≤ c && c ≤ '7'

/-- The code of a letter that stands for a control character. -/
def controlCode? (c : Char) : Option Nat :=
  match c with
  | 'a' => some 0x07
  | 'f' => some 0x0C
  | 'n' => some 0x0A
  | 'r' => some 0x0D
  | 't' => some 0x09
  | 'v' => some 0x0B
  | '\\' => some 0x5C
  | _ => none

/-- The kind of characters that an escape stands for. -/
def kind? (flags : Flags) (c : Char) : Option CharItem :=
  match c with
  | 'd' => some (.kind .digit flags.ascii false)
  | 'D' => some (.kind .digit flags.ascii true)
  | 's' => some (.kind .space flags.ascii false)
  | 'S' => some (.kind .space flags.ascii true)
  | 'w' => some (.kind .word flags.ascii false)
  | 'W' => some (.kind .word flags.ascii true)
  | _ => none

/-- The code of an escape that is written as a hexadecimal number, or of a character that stands for
itself. Letters and digits without a meaning are refused. -/
def plainEscape (c : Char) : Read Nat := do
  match c with
  | 'x' => codePoint 2
  | 'u' => codePoint 4
  | 'U' => codePoint 8
  | _ => if c.isAlphanum then fail else return c.toNat

/-- An escape inside brackets, from the character after the backslash on. -/
def escapeInSet (flags : Flags) : Read CharItem := do
  let c ← next
  match controlCode? c, kind? flags c with
  | some code, _ => return .between code code
  | none, some item => return item
  | none, none =>
    if c = 'b' then return .between 8 8
    else if isOctal c then
      let code := valueOf 8 (c :: (← takeRun 2 isOctal))
      if 0o377 < code then fail
      return .between code code
    else
      let code ← plainEscape c
      return .between code code

/-- The parts of a set up to the closing bracket; `fuel` bounds their number. -/
def setItems (flags : Flags) : Nat → Bool → Read (List CharItem)
  | 0, _ => fail
  | fuel + 1, isFirst => do
    let c ← next
    if c = ']' && !isFirst then return []
    let low ← if c = '\\' then escapeInSet flags else pure (.between c.toNat c.toNat)
    if ← takeIf '-' then
      let d ← next
      if d = ']' then return [low, .between 0x2D 0x2D]
      let high ← if d = '\\' then escapeInSet flags else pure (.between d.toNat d.toNat)
      match low, high with
      | .between a _, .between b _ =>
        if b < a then fail
        return .between a b :: (← setItems flags fuel false)
      | _, _ => fail
    else return low :: (← setItems flags fuel false)

/-! ## Groups -/

/-- The group is closed, so that its text can be recalled here. -/
def checkRecall (number : Nat) : Read Unit := do
  let x ← get
  if (x.widths.lookup number).isNone then fail
  match x.behind with
  | some limit => if limit ≤ number then fail
  | none => pure ()

/-- The name may be given to a group. -/
def isName (cs : List Char) : Bool :=
  match cs with
  | [] => false
  | c :: _ => cs.all isWordChar && (digitValue? c).isNone

/-- The number of a named group. -/
def namedGroup (cs : List Char) : Read Nat := do
  if !isName cs then fail
  match (← get).names.lookup (String.ofList cs) with
  | some number => return number
  | none => fail

/-- A new group, which may have a name. -/
def openGroup (name : Option (List Char)) : Read Nat := do
  let x ← get
  let number := x.nextGroup
  match name with
  | none => set { x with nextGroup := number + 1 }
  | some cs =>
    if !isName cs || (x.names.lookup (String.ofList cs)).isSome then fail
    set { x with nextGroup := number + 1, names := (String.ofList cs, number) :: x.names }
  return number

/-- The sum of two widths. -/
def addWidth (a b : Width) : Width :=
  (a.1 + b.1, do return (← a.2) + (← b.2))

/-- The width of a choice between two patterns. -/
def eitherWidth (a b : Width) : Width :=
  (min a.1 b.1, do return max (← a.2) (← b.2))

/-- The width of a pattern, given those of the groups that it recalls. -/
def width (widths : List (Nat × Width)) : Pattern → Width
  | .empty | .anchor _ | .look .. => (0, some 0)
  | .char _ => (1, some 1)
  | .seq a b => addWidth (width widths a) (width widths b)
  | .either a b => eitherWidth (width widths a) (width widths b)
  | .many p least most _ =>
    let w := width widths p
    (w.1 * least,
      match w.2, most with
      | some 0, _ => some 0
      | some n, some m => some (n * m)
      | _, _ => none)
  | .group _ p | .once p => width widths p
  | .backreference number _ => (widths.lookup number).getD (0, some 0)
  | .ifGroup _ a b => eitherWidth (width widths a) (width widths b)

/-! ## Options -/

/-- The letter stands for an option. -/
def isFlag (c : Char) : Bool := ['i', 'L', 'm', 's', 'x', 'a', 't', 'u'].contains c

/-- The options with one of them set or unset. -/
def withFlag (on : Bool) (flags : Flags) (c : Char) : Flags :=
  match c with
  | 'i' => { flags with ignoreCase := on }
  | 'm' => { flags with everyLine := on }
  | 's' => { flags with dotAll := on }
  | 'x' => { flags with spaced := on }
  | 'a' => { flags with ascii := on }
  | 'u' => { flags with ascii := false }
  | _ => flags

/-- Options to be set and to be unset. -/
structure Change where
  /-- The letters of options that are set. -/
  on : List Char
  /-- The letters of options that are unset. -/
  off : List Char

/-- The options after a change. -/
def Change.apply (change : Change) (flags : Flags) : Flags :=
  change.off.foldl (withFlag false) (change.on.foldl (withFlag true) flags)

/-- The options that start a group, from their first character `c` on, and whether the group ends
with them, so that they hold for the whole pattern. -/
def groupFlags (c : Char) : Read (Change × Bool) := do
  let x ← get
  let on := (c :: x.rest).takeWhile isFlag
  if on.contains 'L' || (on.contains 'a' && on.contains 'u') then fail
  set { x with rest := (c :: x.rest).drop on.length }
  match ← next with
  | ')' => if on.isEmpty then fail else return (⟨on, []⟩, true)
  | ':' => if on.isEmpty then fail else return (⟨on, []⟩, false)
  | '-' =>
    let x ← get
    let off := x.rest.takeWhile isFlag
    set { x with rest := x.rest.drop off.length }
    if off.isEmpty || off.any (['a', 'u', 'L'].contains ·) || on.any (off.contains ·) then fail
    if ← takeIf ':' then return (⟨on, off⟩, false) else fail
  | _ => fail

/-! ## Patterns -/

/-- A part of a sequence: a repetition and a place cannot be repeated. -/
inductive Part where
  /-- A place. -/
  | place (p : Pattern)
  /-- A repetition. -/
  | repetition (p : Pattern)
  /-- Anything else. -/
  | other (p : Pattern)

/-- The pattern of a part. -/
def Part.pattern : Part → Pattern
  | .place p => p
  | .repetition p => p
  | .other p => p

/-- The pattern of a sequence of parts, the last part first. -/
def inSequence (parts : List Part) : Pattern :=
  match parts with
  | [] => .empty
  | last :: before => before.foldl (fun p part => .seq part.pattern p) last.pattern

/-- The pattern of one character. -/
def literal (flags : Flags) (code : Nat) : Part := .other (.char (.single flags.ignoreCase code))

/-- An escape outside brackets, from the character after the backslash on. -/
def escape (flags : Flags) : Read Part := do
  let c ← next
  match controlCode? c, kind? flags c with
  | some code, _ => return literal flags code
  | none, some item => return .other (.char ⟨[item], false, flags.ignoreCase⟩)
  | none, none =>
    match c with
    | 'A' => return .place (.anchor .textStart)
    | 'Z' => return .place (.anchor .textEnd)
    | 'b' => return .place (.anchor (.wordBoundary flags.ascii false))
    | 'B' => return .place (.anchor (.wordBoundary flags.ascii true))
    | '0' => return literal flags (valueOf 8 (← takeRun 2 isOctal))
    | _ =>
      if c.isDigit then
        let more ← takeRun 1 Char.isDigit
        let last ← if isOctal c && more.all isOctal && !more.isEmpty then takeRun 1 isOctal
          else pure []
        match last with
        | [d] =>
          let code := valueOf 8 (c :: more ++ [d])
          if 0o377 < code then fail
          return literal flags code
        | _ =>
          let number := valueOf 10 (c :: more)
          checkRecall number
          return .other (.backreference number flags.ignoreCase)
      else return literal flags (← plainEscape c)

/-- The number of repetitions that digits ask for. -/
def bound (ds : List Char) : Read Nat := do
  if Numeral.maxDigits < ds.length then throw .countTooLong
  if 4294967295 ≤ valueOf 10 ds then throw .countTooLarge
  return valueOf 10 ds

/-- The bounds of a repetition in braces, from the opening brace on; none if the braces have another
form and stand for themselves. -/
def bounds : Read (Option (Nat × Option Nat)) := do
  let x ← get
  if x.rest.head? = some '\x7d' then return none
  let low ← takeRun x.rest.length Char.isDigit
  let high ← if ← takeIf ',' then takeRun x.rest.length Char.isDigit else pure low
  if ← takeIf '\x7d' then
    let least ← bound low
    let most ← if high.isEmpty then pure none else some <$> bound high
    if most.any (· < least) then fail
    return some (least, most)
  else
    set x
    return none

/-- The last part of a sequence, the last part first, repeated. -/
def repeated (least : Nat) (most : Option Nat) (parts : List Part) : Read (List Part) := do
  match parts with
  | .other p :: before =>
    if ← takeIf '?' then return .repetition (.many p least most true) :: before
    else if ← takeIf '+' then return .repetition (.once (.many p least most false)) :: before
    else return .repetition (.many p least most false) :: before
  | _ => fail

/-- The closing bracket of a group is taken. -/
def close : Read Unit := do
  unless ← takeIf ')' do fail

mutual

/-- Alternatives, up to a closing bracket or the end. `isTop` holds for the whole pattern. -/
def alternatives : Nat → Change → Bool → Read Pattern
  | 0, _, _ => fail
  | fuel + 1, change, isTop => do
    let first ← sequence fuel change isTop []
    if ← takeIf '|' then return .either first (← furtherAlternatives fuel change)
    else return first

/-- Alternatives after the first one. -/
def furtherAlternatives : Nat → Change → Read Pattern
  | 0, _ => fail
  | fuel + 1, change => do
    let first ← sequence fuel change false []
    if ← takeIf '|' then return .either first (← furtherAlternatives fuel change)
    else return first

/-- A sequence after the parts `parts`, the last one first. Options for the whole pattern may stand
only where `mayChange` holds and no part comes before. -/
def sequence : Nat → Change → Bool → List Part → Read Pattern
  | 0, _, _, _ => fail
  | fuel + 1, change, mayChange, parts => do
    let flags := change.apply (← get).flags
    match ← peek with
    | none | some '|' | some ')' => return inSequence parts
    | some c =>
      let _ ← next
      if flags.spaced && (c = ' ' || ('\t' ≤ c && c ≤ '\r')) then
        sequence fuel change mayChange parts
      else if flags.spaced && c = '#' then
        let _ ← takeRun (← get).rest.length (· != '\n')
        sequence fuel change mayChange parts
      else
        match c with
        | '\\' => sequence fuel change mayChange ((← escape flags) :: parts)
        | '[' =>
          let negated ← takeIf '^'
          let items ← setItems flags ((← get).rest.length + 1) true
          sequence fuel change mayChange
            (.other (.char ⟨items, negated, flags.ignoreCase⟩) :: parts)
        | '*' => sequence fuel change mayChange (← repeated 0 none parts)
        | '+' => sequence fuel change mayChange (← repeated 1 none parts)
        | '?' => sequence fuel change mayChange (← repeated 0 (some 1) parts)
        | '\x7b' =>
          match ← bounds with
          | some (least, most) => sequence fuel change mayChange (← repeated least most parts)
          | none => sequence fuel change mayChange (literal flags c.toNat :: parts)
        | '.' =>
          let set := if flags.dotAll then CharSet.all else CharSet.exceptLineFeed
          sequence fuel change mayChange (.other (.char set) :: parts)
        | '^' =>
          let a := if flags.everyLine then Anchor.lineStart else Anchor.textStart
          sequence fuel change mayChange (.place (.anchor a) :: parts)
        | '$' =>
          let a := if flags.everyLine then Anchor.lineEnd else Anchor.lastLineEnd
          sequence fuel change mayChange (.place (.anchor a) :: parts)
        | '(' =>
          match ← group fuel change (mayChange && parts.isEmpty) with
          | some part => sequence fuel change mayChange (part :: parts)
          | none => sequence fuel change mayChange parts
        | c => sequence fuel change mayChange (literal flags c.toNat :: parts)

/-- A group after its opening bracket; none for a comment and for options of the whole pattern,
which are allowed if `mayChange` holds. -/
def group : Nat → Change → Bool → Read (Option Part)
  | 0, _, _ => fail
  | fuel + 1, change, mayChange => do
    if ← takeIf '?' then
      match ← next with
      | 'P' =>
        if ← takeIf '<' then
          let number ← openGroup (some (← takeUntil '>'))
          return some (← captured fuel change number)
        else if ← takeIf '=' then
          let number ← namedGroup (← takeUntil ')')
          checkRecall number
          return some (.other (.backreference number (change.apply (← get).flags).ignoreCase))
        else fail
      | ':' =>
        let p ← alternatives fuel change false
        close
        return some (.other p)
      | '>' =>
        let p ← alternatives fuel change false
        close
        return some (.other (.once p))
      | '#' =>
        let _ ← takeRun (← get).rest.length (· != ')')
        close
        return none
      | '=' => return some (← condition fuel change none true)
      | '!' => return some (← condition fuel change none false)
      | '<' =>
        let x ← get
        let outer := x.behind
        match ← next with
        | '=' =>
          modify fun x => { x with behind := some (outer.getD x.nextGroup) }
          return some (← condition fuel change (some outer) true)
        | '!' =>
          modify fun x => { x with behind := some (outer.getD x.nextGroup) }
          return some (← condition fuel change (some outer) false)
        | _ => fail
      | '(' =>
        let name ← takeUntil ')'
        let number ←
          if isName name then namedGroup name
          else
            match Numeral.decimal name with
            | .ok (.ofNat (n + 1)) => pure (n + 1)
            | _ => fail
        modify fun x => { x with needed := max x.needed number }
        if (← get).behind.isSome then checkRecall number
        let yes ← sequence fuel change false []
        let no ← if ← takeIf '|' then sequence fuel change false [] else pure .empty
        close
        return some (.other (.ifGroup number yes no))
      | c =>
        if isFlag c || c = '-' then
          let (inner, isWhole) ← groupFlags c
          if isWhole then
            if !mayChange then fail
            let x ← get
            if inner.on.contains 'x' && !x.flags.spaced then throw .setsBlanksApart
            set { x with flags := inner.apply x.flags }
            return none
          else
            let p ← alternatives fuel ⟨change.on.filter (!inner.off.contains ·) ++ inner.on,
              change.off.filter (!inner.on.contains ·) ++ inner.off⟩ false
            close
            return some (.other p)
        else fail
    else
      let number ← openGroup none
      return some (← captured fuel change number)

/-- A group whose text is remembered. -/
def captured : Nat → Change → Nat → Read Part
  | 0, _, _ => fail
  | fuel + 1, change, number => do
    let p ← alternatives fuel change false
    close
    modify fun x => { x with widths := (number, width x.widths p) :: x.widths }
    return .other (.group number p)

/-- A condition on what follows, or on what lies before if `outer` says what held for `behind`
around it. What lies before has to be of fixed length. -/
def condition : Nat → Change → Option (Option Nat) → Bool → Read Part
  | 0, _, _, _ => fail
  | fuel + 1, change, outer, wanted => do
    let p ← alternatives fuel change false
    close
    match outer with
    | none => return .other (.look none wanted p)
    | some outer =>
      modify fun x => { x with behind := outer }
      let (least, most) := width (← get).widths p
      if most = some least then return .other (.look (some least) wanted p) else fail

end

/-- A whole pattern. -/
def whole : Read Pattern := do
  let p ← alternatives (2 * (← get).rest.length + 4) ⟨[], []⟩ true
  let x ← get
  if !x.rest.isEmpty || x.nextGroup ≤ x.needed then fail
  return p

end Read

/-- The pattern that a text stands for. -/
def parse (text : String) : Except Fault Pattern :=
  let read (spaced : Bool) : Except Fault Pattern :=
    (Read.whole.run ⟨text.toList, ⟨false, false, false, false, spaced⟩, 1, [], [], none, 0⟩).map
      (·.1)
  match read false with
  | .error .setsBlanksApart => read true
  | r => r

end InstallerGateway.Pattern
