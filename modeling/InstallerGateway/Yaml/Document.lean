import InstallerGateway.Yaml.Composer

/-!
# The value of a YAML document

Each node of a document gets one value. Containers are opened when they are met and filled later, in
the order in which they were opened, so that the first fault in that order is the one reported.
Where a node occurs inside itself, the value refers to the place of that node.
-/

namespace InstallerGateway.Yaml

/-- The value of a node; values of other nodes are named by the numbers of these. -/
inductive Content where
  /-- A value that contains no other. -/
  | plain (d : Datum)
  /-- A list. -/
  | list (items : List Nat)
  /-- A list of pairs. -/
  | pairs (items : List (Nat × Nat))
  /-- A set. -/
  | set (members : List Datum)
  /-- A mapping. Of equal keys the first counts, and the last value. -/
  | map (entries : List (Datum × Nat))

/-- The state of construction. -/
structure Builder where
  /-- The nodes; mappings change when others are merged into them. -/
  nodes : Array Node
  /-- The values so far. An opened container has no items yet. -/
  values : Array (Option Content)
  /-- The containers to be filled, the first one first. -/
  now : List Nat
  /-- The containers to be filled after these, the last one first. -/
  later : List Nat

/-- A step of construction. -/
abbrev Build := StateT Builder (Except Fault)

namespace Builder

/-- The value of a document cannot be built. -/
def fail {α : Type} : Build α := throw .malformed

/-- The node with a number. -/
def nodeAt (place : Nat) : Build Node := do
  return (← get).nodes.getD place (.scalar .null [])

/-- The node with a number becomes another one. -/
def replace (place : Nat) (n : Node) : Build Unit :=
  modify fun x => { x with nodes := x.nodes.setIfInBounds place n }

/-- The value of the node with a number. -/
def define (place : Nat) (c : Content) : Build Unit :=
  modify fun x => { x with values := x.values.setIfInBounds place (some c) }

/-! ## Merging -/

/-- The first pair whose key asks for merging, and the pairs without it. -/
def splitMerge (nodes : Array Node) :
    List (Nat × Nat) → Option (Nat × List (Nat × Nat))
  | [] => none
  | (k, v) :: rest =>
    if (nodes.getD k (.scalar .null [])).tag = .merge then some (v, rest)
    else (splitMerge nodes rest).map fun r => (r.1, (k, v) :: r.2)

/-- The key `=` of a mapping that is built as a mapping is a text. -/
def settleKey (place : Nat) : Build Unit := do
  match ← nodeAt place with
  | .scalar .value text => replace place (.scalar .text text)
  | .sequence .value items => replace place (.sequence .text items)
  | .mapping .value pairs => replace place (.mapping .text pairs)
  | _ => pure ()

/-- The pairs put before the pairs of a mapping. -/
def prepend (place : Nat) (merged : List (Nat × Nat)) : Build Unit := do
  match ← nodeAt place with
  | .mapping tag own => replace place (.mapping tag (merged ++ own))
  | _ => pure ()

/-- The pairs of a mapping. -/
def pairsOf (place : Nat) : Build (List (Nat × Nat)) := do
  match ← nodeAt place with
  | .mapping _ own => return own
  | _ => fail

/-- The pairs that are merged into a mapping, from which the keys that ask for it are taken away.
Merged mappings are themselves merged first. Of several mappings in a list the first one comes
last, so that it prevails. Each call takes away one key, so their number bounds the depth. -/
def merged : Nat → Nat → Build (List (Nat × Nat))
  | 0, _ => return []
  | fuel + 1, place => do
    match ← nodeAt place with
    | .mapping tag own =>
      own.forM fun pair => settleKey pair.1
      match splitMerge (← get).nodes own with
      | none => return []
      | some (source, rest) =>
        replace place (.mapping tag rest)
        let settled (inner : Nat) : Build (List (Nat × Nat)) := do
          let more ← merged fuel inner
          prepend inner more
          pairsOf inner
        let more ←
          match ← nodeAt source with
          | .mapping .. => settled source
          | .sequence _ items =>
            let lists ← items.mapM settled
            pure lists.reverse.flatten
          | .scalar .. => fail
        return more ++ (← merged fuel place)
    | _ => fail

/-- The number of pairs that ask for merging. -/
def mergeCount (nodes : Array Node) : Nat :=
  nodes.foldl (fun n node =>
    match node with
    | .mapping _ pairs =>
      n + pairs.countP fun pair => (nodes.getD pair.1 (.scalar .null [])).tag = .merge
    | _ => n) 0

/-! ## Construction -/

/-- The text of a node that stands for a scalar. That of a mapping is the text of its value for the
key `=`; `fuel` bounds the depth of such mappings. -/
def scalarText : Nat → Nat → Build (List Char)
  | 0, _ => fail
  | fuel + 1, place => do
    match ← nodeAt place with
    | .scalar _ text => return text
    | .sequence .. => fail
    | .mapping _ pairs =>
      let x ← get
      match pairs.find? fun pair => (x.nodes.getD pair.1 (.scalar .null [])).tag = .value with
      | some (_, source) => scalarText fuel source
      | none => fail

/-- The value of a node that stands for a scalar. -/
def constructScalar (place : Nat) (node : Node) : Build Datum := do
  match node.tag with
  | .merge | .value | .unknown => fail
  | tag =>
    let text ← scalarText ((← get).nodes.size + 1) place
    match tag, node with
    | .timestamp, .mapping .. => throw .timestampOfMapping
    | _, _ => Scalar.construct tag text

/-- The node gets its value, unless it has one. A container is only opened. -/
def construct (place : Nat) : Build Unit := do
  if ((← get).values.getD place none).isSome then return
  let node ← nodeAt place
  match node.tag with
  | .sequence | .mapping | .set | .pairs =>
    define place (.list [])
    modify fun x => { x with later := place :: x.later }
  | _ => define place (.plain (← constructScalar place node))

/-- The value of a node that may be a key. -/
def keyAt (place : Nat) : Build Datum := do
  match (← get).values.getD place none with
  | some (.plain d) => return d
  | _ => fail

/-- The entries of a mapping, in the order of its pairs. -/
def constructEntries (pairs : List (Nat × Nat)) : Build (List (Datum × Nat)) :=
  pairs.mapM fun (k, v) => do
    construct k
    let key ← keyAt k
    construct v
    return (key, v)

/-- The one pair of a node. -/
def constructPair (place : Nat) : Build (Nat × Nat) := do
  match ← nodeAt place with
  | .mapping _ [(k, v)] =>
    construct k
    construct v
    return (k, v)
  | _ => fail

/-- An opened container is filled. `merges` bounds the number of pairs that ask for merging. -/
def fill (merges place : Nat) : Build Unit := do
  match ← nodeAt place with
  | .sequence .sequence items =>
    items.forM construct
    define place (.list items)
  | .sequence .pairs items =>
    define place (.pairs (← items.mapM constructPair))
  | .mapping tag _ =>
    if tag = .mapping || tag = .set then
      prepend place (← merged (merges + 1) place)
      let entries ← constructEntries (← pairsOf place)
      if tag = .set then define place (.set (entries.foldl (fun ms e => Datum.addMember e.1 ms) []))
      else define place (.map entries)
    else fail
  | _ => fail

/-- The next container to be filled. -/
def next : Build (Option Nat) := do
  let x ← get
  match x.now with
  | place :: rest =>
    set { x with now := rest }
    return some place
  | [] =>
    match x.later.reverse with
    | place :: rest =>
      set { x with now := rest, later := [] }
      return some place
    | [] => return none

/-- All opened containers are filled. Each node is opened once, so their number bounds the
steps. -/
def fillAll (merges : Nat) : Nat → Build Unit
  | 0 => return
  | fuel + 1 => do
    match ← next with
    | none => return
    | some place =>
      fill merges place
      fillAll merges fuel

end Builder

/-- The value of a node inside the nodes `within`; a path holds no node twice, so their number
bounds its length. -/
def assemble (values : Array (Option Content)) : Nat → List Nat → Nat → Datum
  | 0, _, _ => .null
  | fuel + 1, within, place =>
    if within.contains place then .enclosing (place + 1)
    else
      let inner := assemble values fuel (place :: within)
      match values.getD place none with
      | none => .null
      | some (.plain d) => d
      | some (.list items) => .list (place + 1) (items.map inner)
      | some (.pairs items) =>
        .list (place + 1) (items.map fun p => .tuple [inner p.1, inner p.2])
      | some (.set members) => .set members
      | some (.map entries) =>
        .map (place + 1) (entries.foldl (fun es e => Datum.assign e.1 (inner e.2) es) [])

/-- The value of the document in a text; null if it holds none. -/
def loadChars (cs : List Char) : Except Fault Datum := do
  match ← compose cs with
  | (_, none) => return .null
  | (nodes, some root) =>
    let build : Build Unit := do
      Builder.construct root
      Builder.fillAll (Builder.mergeCount nodes) (nodes.size + 1)
    let (_, x) ← build.run ⟨nodes, Array.replicate nodes.size none, [], []⟩
    return assemble x.values (nodes.size + 1) [] root

/-- The value of the document in a text. -/
def load (text : String) : Except Fault Datum := do
  loadChars (← checked text.toList)

/-- The value of the document in a byte string. -/
def loadBytes (b : ByteArray) : Except Fault Datum := do
  loadChars (← charsOfBytes b)

end InstallerGateway.Yaml
