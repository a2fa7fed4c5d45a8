import InstallerGateway.Text.Character
import InstallerGateway.Text.Word

/-!
# Patterns

The patterns of the allow list: regular expressions with groups and references to them, lazy and
possessive repetition, and conditions on what lies before and after.
-/

namespace InstallerGateway

/-- A kind of characters that has a name of its own. -/
inductive CharKind where
  /-- Decimal digits. -/
  | digit
  /-- White space. -/
  | space
  /-- Letters, digits and the underscore. -/
  | word
  deriving DecidableEq

/-- A part of a set of characters. -/
inductive CharItem where
  /-- The characters from one code point to another. -/
  | between (low high : Nat)
  /-- The characters of a kind, or all others; of a kind only those of ASCII if `ascii` holds. -/
  | kind (k : CharKind) (ascii negated : Bool)
  deriving DecidableEq

/-- A set of characters. -/
structure CharSet where
  /-- The parts of the set. -/
  items : List CharItem
  /-- The set holds what the parts do not. -/
  negated : Bool
  /-- Letters count in either case. -/
  ignoreCase : Bool
  deriving DecidableEq

namespace CharKind

/-- The character is of the kind. -/
def holds (k : CharKind) (ascii : Bool) (c : Char) : Bool :=
  (!ascii || c.toNat < 0x80) &&
    (match k with
      | .digit => (digitValue? c).isSome
      | .space => isBlank c && !(ascii && 0x1C ≤ c.toNat && c.toNat < 0x20)
      | .word => isWordChar c)

end CharKind

namespace CharSet

/-- The character belongs to a part of a set. -/
def itemHolds (c : Char) : CharItem → Bool
  | .between low high => low ≤ c.toNat && c.toNat ≤ high
  | .kind k ascii negated => k.holds ascii c != negated

/-- The character belongs to the set. -/
def holds (s : CharSet) (c : Char) : Bool :=
  let found (c : Char) : Bool := s.items.any (itemHolds c)
  (found c || (s.ignoreCase && (found c.toLower || found c.toUpper))) != s.negated

/-- The set of one character. -/
def single (ignoreCase : Bool) (code : Nat) : CharSet := ⟨[.between code code], false, ignoreCase⟩

/-- All characters but the line feed. -/
def exceptLineFeed : CharSet := ⟨[.between 0x0A 0x0A], true, false⟩

/-- All characters. -/
def all : CharSet := ⟨[], true, false⟩

end CharSet

/-- A condition on a place in a text. -/
inductive Anchor where
  /-- The start of the text. -/
  | textStart
  /-- The start of the text or of a line. -/
  | lineStart
  /-- The end of the text. -/
  | textEnd
  /-- The end of the text, or the place before a line feed at its end. -/
  | lastLineEnd
  /-- The end of the text or of a line. -/
  | lineEnd
  /-- A place between a word and what is none, or with `inside` any other. -/
  | wordBoundary (ascii inside : Bool)
  deriving DecidableEq

/-- A pattern. -/
inductive Pattern where
  /-- Nothing. -/
  | empty
  /-- One character of a set. -/
  | char (s : CharSet)
  /-- One pattern after another. -/
  | seq (a b : Pattern)
  /-- One of two patterns, the first one preferred. -/
  | either (a b : Pattern)
  /-- Between `least` and `most` times a pattern; as often as possible, or with `lazy` as seldom. -/
  | many (p : Pattern) (least : Nat) (most : Option Nat) (lazy : Bool)
  /-- A place. -/
  | anchor (a : Anchor)
  /-- A pattern whose text is remembered under a number. -/
  | group (number : Nat) (p : Pattern)
  /-- The text that is remembered under a number. -/
  | backreference (number : Nat) (ignoreCase : Bool)
  /-- A place where a pattern matches, or if it is not `wanted`, does not match: what follows, or
  the `width` characters before. -/
  | look (width : Option Nat) (wanted : Bool) (p : Pattern)
  /-- The first way in which a pattern matches, and no other. -/
  | once (p : Pattern)
  /-- One of two patterns, according to whether a text is remembered under a number. -/
  | ifGroup (number : Nat) (a b : Pattern)

end InstallerGateway
