import InstallerGateway.Yaml.Lexer
import InstallerGateway.Yaml.Scalar

/-!
# The nodes of a YAML document

The token sequence becomes a graph of nodes. An alias stands for the node that bears its anchor, so
that a node may occur in several places, and inside itself.
-/

namespace InstallerGateway.Yaml

/-- A node; other nodes are named by their numbers. -/
inductive Node where
  /-- A scalar. -/
  | scalar (tag : Tag) (text : List Char)
  /-- A sequence. -/
  | sequence (tag : Tag) (items : List Nat)
  /-- A mapping. -/
  | mapping (tag : Tag) (pairs : List (Nat × Nat))
  deriving Inhabited

/-- The tag of a node. -/
def Node.tag : Node → Tag
  | .scalar t _ => t
  | .sequence t _ => t
  | .mapping t _ => t

/-- The state of composition. -/
structure Composer where
  /-- The tokens still to be read. -/
  tokens : List Token
  /-- The nodes so far. -/
  nodes : Array Node
  /-- The nodes that bear anchors. -/
  anchors : List (String × Nat)
  /-- The meanings of tag handles. -/
  handles : List (String × String)

/-- A step of composition. -/
abbrev Compose := StateT Composer (Except Fault)

/-- Where a node stands. -/
inductive Position where
  /-- Inside brackets. -/
  | flow
  /-- An entry of an indented sequence, or the whole document. -/
  | block
  /-- The key or value of an indented mapping, where a sequence need not be indented. -/
  | blockOrEntry
  deriving DecidableEq

namespace Composer

/-- The next token; a fault if the text cannot be read so far. -/
def peek : Compose Token := do
  match (← get).tokens with
  | .fault cause :: _ => throw cause
  | t :: _ => return t
  | [] => throw .malformed

/-- The next token is taken. -/
def take : Compose Unit :=
  modify fun x => { x with tokens := x.tokens.tail }

/-- The next token is taken if it is the given one. -/
def takeIf (t : Token) : Compose Bool := do
  if (← peek) = t then
    take
    return true
  else return false

/-- The text does not follow the rules of the language. -/
def fail {α : Type} : Compose α := throw .malformed

/-- A new node. -/
def add (n : Node) : Compose Nat := do
  let x ← get
  set { x with nodes := x.nodes.push n }
  return x.nodes.size

/-- The node with a number becomes another one. -/
def replace (place : Nat) (n : Node) : Compose Unit :=
  modify fun x => { x with nodes := x.nodes.setIfInBounds place n }

/-- A scalar that is not written. -/
def addEmpty : Compose Nat := add (.scalar .null [])

/-- The anchor may be borne by a new node. -/
def checkAnchor (anchor : Option String) : Compose Unit := do
  match anchor with
  | none => pure ()
  | some name => if ((← get).anchors.lookup name).isSome then fail

/-- The node bears the anchor from now on. -/
def bear (anchor : Option String) (place : Nat) : Compose Unit :=
  match anchor with
  | none => pure ()
  | some name => modify fun x => { x with anchors := (name, place) :: x.anchors }

/-- A new node that bears an anchor. -/
def addAnchored (anchor : Option String) (n : Node) : Compose Nat := do
  checkAnchor anchor
  let place ← add n
  bear anchor place
  return place

/-- The anchor and the tag of a node, in either order. -/
def properties : Compose (Option String × Option (Option String × String)) := do
  match ← peek with
  | .anchor name =>
    take
    match ← peek with
    | .tag handle suffix =>
      take
      return (some name, some (handle, suffix))
    | _ => return (some name, none)
  | .tag handle suffix =>
    take
    match ← peek with
    | .anchor name =>
      take
      return (some name, some (handle, suffix))
    | _ => return (none, some (handle, suffix))
  | _ => return (none, none)

/-- The full name of a tag. The tag `!` alone is kept as it is. -/
def fullName (tag : Option String × String) : Compose String := do
  match tag with
  | (none, suffix) => return suffix
  | (some handle, suffix) =>
    match (← get).handles.lookup handle with
    | some meaning => return meaning ++ suffix
    | none => fail

/-- The tag of a node that would have the tag `implicit` without one. -/
def tagOr (implicit : Tag) (name : Option String) : Tag :=
  match name with
  | none => implicit
  | some "!" => implicit
  | some name => Tag.ofName name

/-- The tag of a scalar. Plain scalars, and those with the tag `!`, are what their text shows. -/
def scalarTag (name : Option String) (isPlain : Bool) (text : List Char) : Tag :=
  match name with
  | none => if isPlain then Scalar.resolve text else .text
  | some "!" => Scalar.resolve text
  | some name => Tag.ofName name

mutual

/-- A node and all that it contains; `fuel` bounds the depth. -/
def node : Nat → Position → Compose Nat
  | 0, _ => fail
  | fuel + 1, position => do
    match ← peek with
    | .alias name =>
      take
      match (← get).anchors.lookup name with
      | some place => return place
      | none => fail
    | _ =>
      let (anchor, property) ← properties
      let name ← property.mapM fullName
      match ← peek, position with
      | .blockEntry, .blockOrEntry =>
        let place ← addAnchored anchor (.sequence .unknown [])
        replace place (.sequence (tagOr .sequence name) (← entries fuel))
        return place
      | .scalar text isPlain, _ =>
        take
        addAnchored anchor (.scalar (scalarTag name isPlain text) text)
      | .flowSequenceStart, _ =>
        take
        let place ← addAnchored anchor (.sequence .unknown [])
        replace place (.sequence (tagOr .sequence name) (← flowItems fuel true))
        return place
      | .flowMappingStart, _ =>
        take
        let place ← addAnchored anchor (.mapping .unknown [])
        replace place (.mapping (tagOr .mapping name) (← flowPairs fuel true))
        return place
      | .blockSequenceStart, .block | .blockSequenceStart, .blockOrEntry =>
        take
        let place ← addAnchored anchor (.sequence .unknown [])
        replace place (.sequence (tagOr .sequence name) (← blockItems fuel))
        return place
      | .blockMappingStart, .block | .blockMappingStart, .blockOrEntry =>
        take
        let place ← addAnchored anchor (.mapping .unknown [])
        replace place (.mapping (tagOr .mapping name) (← blockPairs fuel))
        return place
      | _, _ =>
        if anchor.isSome || name.isSome then
          addAnchored anchor (.scalar (tagOr .null name) [])
        else fail

/-- A node, or an empty scalar before one of the tokens `ends`. -/
def nodeUnless : Nat → Position → List Token → Compose Nat
  | 0, _, _ => fail
  | fuel + 1, position, ends => do
    if ends.contains (← peek) then addEmpty else node fuel position

/-- The items of an indented sequence. -/
def blockItems : Nat → Compose (List Nat)
  | 0 => fail
  | fuel + 1 => do
    if ← takeIf .blockEntry then
      let item ← nodeUnless fuel .block [.blockEntry, .blockEnd]
      return item :: (← blockItems fuel)
    else if ← takeIf .blockEnd then return []
    else fail

/-- The items of a sequence that is not indented in its mapping. -/
def entries : Nat → Compose (List Nat)
  | 0 => fail
  | fuel + 1 => do
    if ← takeIf .blockEntry then
      let item ← nodeUnless fuel .block [.blockEntry, .key, .value, .blockEnd]
      return item :: (← entries fuel)
    else return []

/-- The pairs of an indented mapping. -/
def blockPairs : Nat → Compose (List (Nat × Nat))
  | 0 => fail
  | fuel + 1 => do
    if ← takeIf .key then
      let key ← nodeUnless fuel .blockOrEntry [.key, .value, .blockEnd]
      let value ←
        if ← takeIf .value then nodeUnless fuel .blockOrEntry [.key, .value, .blockEnd]
        else addEmpty
      return (key, value) :: (← blockPairs fuel)
    else if ← takeIf .blockEnd then return []
    else fail

/-- The items of a sequence in brackets, after its first ones if `isFirst` does not hold. A pair
may stand for a mapping that holds only it. -/
def flowItems : Nat → Bool → Compose (List Nat)
  | 0, _ => fail
  | fuel + 1, isFirst => do
    if ← takeIf .flowSequenceEnd then return []
    unless isFirst do
      unless ← takeIf .flowEntry do fail
    if ← takeIf .flowSequenceEnd then return []
    if ← takeIf .key then
      let place ← add (.mapping .mapping [])
      let key ← nodeUnless fuel .flow [.value, .flowEntry, .flowSequenceEnd]
      let value ←
        if ← takeIf .value then nodeUnless fuel .flow [.flowEntry, .flowSequenceEnd]
        else addEmpty
      replace place (.mapping .mapping [(key, value)])
      return place :: (← flowItems fuel false)
    else
      let item ← node fuel .flow
      return item :: (← flowItems fuel false)

/-- The pairs of a mapping in braces, after its first ones if `isFirst` does not hold. A key may
stand alone. -/
def flowPairs : Nat → Bool → Compose (List (Nat × Nat))
  | 0, _ => fail
  | fuel + 1, isFirst => do
    if ← takeIf .flowMappingEnd then return []
    unless isFirst do
      unless ← takeIf .flowEntry do fail
    if ← takeIf .flowMappingEnd then return []
    if ← takeIf .key then
      let key ← nodeUnless fuel .flow [.value, .flowEntry, .flowMappingEnd]
      let value ←
        if ← takeIf .value then nodeUnless fuel .flow [.flowEntry, .flowMappingEnd]
        else addEmpty
      return (key, value) :: (← flowPairs fuel false)
    else
      let key ← node fuel .flow
      let value ← addEmpty
      return (key, value) :: (← flowPairs fuel false)

end

/-! ## Documents -/

/-- The tag handles that need no directive. -/
def defaultHandles : List (String × String) :=
  [("!", "!"), ("!!", "tag:yaml.org,2002:")]

/-- The directives before a document; `fuel` bounds their number. The version of the language has to
begin with 1, and neither it nor a handle may be given twice. -/
def directives : Nat → Bool → List (String × String) → Compose Unit
  | 0, _, _ => fail
  | fuel + 1, hasVersion, handles => do
    match ← peek with
    | .versionDirective major =>
      take
      if hasVersion || major != 1 then fail
      directives fuel true handles
    | .tagDirective handle meaning =>
      take
      if (handles.lookup handle).isSome then fail
      directives fuel hasVersion ((handle, meaning) :: handles)
    | .otherDirective =>
      take
      directives fuel hasVersion handles
    | _ => modify fun x => { x with handles := handles ++ defaultHandles }

/-- The place of the next document, if there is one; `fuel` bounds the number of tokens before
it. -/
def nextDocument : Nat → Compose Bool
  | 0 => fail
  | fuel + 1 => do
    if ← takeIf .documentEnd then nextDocument fuel
    else if (← peek) = .streamEnd then return false
    else
      directives (fuel + 1) false []
      if ← takeIf .documentStart then return true else fail

/-- The token begins a directive, a document or the end of one. -/
def isBoundary (t : Token) : Bool :=
  match t with
  | .versionDirective _ | .tagDirective _ _ | .otherDirective => true
  | .documentStart | .documentEnd | .streamEnd => true
  | _ => false

/-- The one document of a text; none if the text holds nothing. -/
def document : Compose (Option Nat) := do
  let size := 2 * ((← get).tokens.length + 2)
  let root ←
    match ← peek with
    | .documentEnd => node size .block
    | t =>
      if isBoundary t then
        if ← nextDocument size then
          if isBoundary (← peek) then addEmpty else node size .block
        else return none
      else node size .block
  if ← nextDocument size then fail
  return some root

end Composer

/-- The nodes of a document and its root; none if the text holds nothing. -/
def compose (cs : List Char) : Except Fault (Array Node × Option Nat) := do
  let (root, x) ← Composer.document.run ⟨tokens cs, #[], [], Composer.defaultHandles⟩
  return (x.nodes, root)

end InstallerGateway.Yaml
