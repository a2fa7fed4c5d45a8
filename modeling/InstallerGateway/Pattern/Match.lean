import InstallerGateway.Pattern.Basic

/-!
# Matching

A pattern is matched from a place in a text by trying its alternatives in order. What has to match
after it is given as a continuation, so that a later failure leads back to the next alternative.
-/

namespace InstallerGateway.Pattern

/-- A place in a text, and the texts remembered so far. -/
structure Spot where
  /-- The characters before the place, the last one first. -/
  before : List Char
  /-- The characters after the place. -/
  after : List Char
  /-- The texts of groups; of two entries for a group the first counts. -/
  groups : List (Nat × List Char)

namespace Spot

/-- The start of a text. -/
def start (text : List Char) : Spot := ⟨[], text, []⟩

/-- The place after the next character. -/
def forward? (s : Spot) : Option (Char × Spot) :=
  match s.after with
  | [] => none
  | c :: rest => some (c, { s with before := c :: s.before, after := rest })

/-- The place `n` characters ahead. -/
def forwardBy (s : Spot) (n : Nat) : Spot :=
  { s with before := (s.after.take n).reverse ++ s.before, after := s.after.drop n }

/-- The place `n` characters back, if there is one. -/
def back? (s : Spot) (n : Nat) : Option Spot :=
  if n ≤ s.before.length then
    some { s with before := s.before.drop n, after := (s.before.take n).reverse ++ s.after }
  else none

/-- The text of a group. -/
def group? (s : Spot) (number : Nat) : Option (List Char) := s.groups.lookup number

/-- The text between an earlier place and this one is remembered under a number. -/
def remember (number : Nat) (earlier s : Spot) : Spot :=
  { s with groups := (number, earlier.after.take (s.before.length - earlier.before.length)) ::
      s.groups }

/-- The condition holds at the place. -/
def satisfies (s : Spot) : Anchor → Bool
  | .textStart => s.before.isEmpty
  | .lineStart => s.before.isEmpty || s.before.head? == some '\n'
  | .textEnd => s.after.isEmpty
  | .lastLineEnd => s.after.isEmpty || s.after == ['\n']
  | .lineEnd => s.after.isEmpty || s.after.head? == some '\n'
  | .wordBoundary ascii inside =>
    let isWord (c : Option Char) : Bool := c.any (CharKind.word.holds ascii)
    !(s.before.isEmpty && s.after.isEmpty) &&
      ((isWord s.before.head? != isWord s.after.head?) != inside)

end Spot

/-- What has to match after a pattern. -/
abbrev Continuation := Spot → Option Spot

/-- A pattern matched between `least` and `most` times. A repetition that matches nothing is the
last one, unless more are needed; `fuel` bounds their number. -/
def iterate (once : Continuation → Continuation) (lazy : Bool) :
    Nat → Nat → Option Nat → Continuation → Continuation
  | 0, _, _, k, s => k s
  | fuel + 1, least, most, k, s =>
    let again : Unit → Option Spot := fun _ =>
      if most = some 0 then none
      else once (fun t =>
        if least = 0 && t.before.length = s.before.length then k t
        else iterate once lazy fuel (least - 1) (most.map (· - 1)) k t) s
    if 0 < least then again ()
    else if lazy then (k s).orElse again
    else (again ()).orElse fun _ => k s

/-- The texts are equal, letters in either case if `ignoreCase` holds. -/
def sameText (ignoreCase : Bool) (a b : List Char) : Bool :=
  if ignoreCase then a.map Char.toLower == b.map Char.toLower else a == b

/-- The first place that is reached by matching a pattern and then what follows. -/
def run : Pattern → Continuation → Continuation
  | .empty, k, s => k s
  | .char set, k, s =>
    match s.forward? with
    | some (c, t) => if set.holds c then k t else none
    | none => none
  | .seq a b, k, s => run a (run b k) s
  | .either a b, k, s => (run a k s).orElse fun _ => run b k s
  | .many p least most lazy, k, s =>
    iterate (run p) lazy (least + s.after.length + 1) least most k s
  | .anchor a, k, s => if s.satisfies a then k s else none
  | .group number p, k, s => run p (fun t => k (Spot.remember number s t)) s
  | .backreference number ignoreCase, k, s =>
    match s.group? number with
    | some text =>
      if sameText ignoreCase text (s.after.take text.length) then k (s.forwardBy text.length)
      else none
    | none => none
  | .look width wanted p, k, s =>
    let found := match width with
      | none => run p some s
      | some n => (s.back? n).bind (run p some)
    match found with
    | some t => if wanted then k { s with groups := t.groups } else none
    | none => if wanted then none else k s
  | .once p, k, s => (run p some s).bind k
  | .ifGroup number a b, k, s =>
    if (s.group? number).isSome then run a k s else run b k s

/-- The pattern matches somewhere from a place on. -/
def foundFrom (p : Pattern) : List Char → List Char → Bool
  | before, [] => (run p some ⟨before, [], []⟩).isSome
  | before, c :: rest =>
    (run p some ⟨before, c :: rest, []⟩).isSome || foundFrom p (c :: before) rest

/-- The pattern matches somewhere in a text. -/
def foundIn (p : Pattern) (text : String) : Bool := foundFrom p [] text.toList

end InstallerGateway.Pattern
