import InstallerGateway.Text.Character
import InstallerGateway.Text.Split

/-!
# Keys

The parts of a key, and which keys can name an object.
-/

namespace InstallerGateway

/-!
## Object keys

A key such as `desktop/app-latest_x64.deb` has a directory, a base name and an extension. A base
name without a point is its own extension. A base name that holds `latest` after a dash or
underscore and before an underscore or point asks for the newest release.
-/

/-- A key and its parts. -/
structure KeyDescriptor where
  /-- The whole key. -/
  key : String
  /-- What lies before the last slash; empty if there is none. -/
  directory : String
  /-- What lies after the last slash. -/
  baseName : String
  /-- What lies after the last point of the base name, or all of it if it has none. -/
  extension : String
  deriving DecidableEq

namespace KeyDescriptor

/-- The parts of a key. -/
def parse (key : String) : KeyDescriptor :=
  let (directory, base) := (splitLast '/' key.toList).getD ([], key.toList)
  let (_, ext) := (splitLast '.' base).getD ([], base)
  ⟨key, String.ofList directory, String.ofList base, String.ofList ext⟩

/-- The text begins with a marker of the newest release. -/
def beginsWithLatest : List Char → Bool
  | before :: rest =>
    (before == '-' || before == '_') &&
      (match afterWord? ['l', 'a', 't', 'e', 's', 't'] rest with
        | some (after :: _) => after == '_' || after == '.'
        | _ => false)
  | [] => false

/-- The text holds a marker of the newest release. -/
def holdsLatest : List Char → Bool
  | [] => false
  | c :: rest => beginsWithLatest (c :: rest) || holdsLatest rest

/-- The key asks for the newest release. -/
def isLatest (d : KeyDescriptor) : Bool := holdsLatest d.baseName.toList

/-- The key of another name in the same directory. -/
def join (d : KeyDescriptor) (name : String) : String :=
  if d.directory.isEmpty then name else d.directory ++ "/" ++ name

end KeyDescriptor

/-!
## Usable keys

A key is refused if it cannot name a stored object: if it is blank, holds a backslash or a control
character, or has a segment that steps upwards or is longer than 255 characters.
-/

/-- Why a key is refused. -/
inductive KeyFault where
  /-- It holds nothing but blanks. -/
  | blank
  /-- It holds a backslash. -/
  | backslash
  /-- It holds a control character. -/
  | control
  /-- It has a segment `..`. -/
  | traversal
  /-- It has a segment of more than 255 characters. -/
  | longSegment
  deriving DecidableEq

/-- What is said about a refused key. -/
def KeyFault.message : KeyFault → String
  | .blank => "Invalid key: empty"
  | .backslash => "Invalid key: backslashes not allowed"
  | .control => "Invalid key: contains control characters"
  | .traversal => "Invalid key: path traversal not allowed"
  | .longSegment => "Invalid key: segment too long"

namespace Key

/-- The greatest length of a segment. -/
def maxSegment : Nat := 255

/-- The character is a control character of ASCII. -/
def isControl (c : Char) : Bool := c.toNat < 0x20 || c.toNat == 0x7F

/-- What is wrong with a segment. -/
def segmentFault? (segment : List Char) : Option KeyFault :=
  if segment = ['.', '.'] then some .traversal
  else if maxSegment < segment.length then some .longSegment
  else none

/-- What is wrong with a key: of several faults the first in the order blank, backslash, control
character, and then the first faulty segment. -/
def fault? (key : String) : Option KeyFault :=
  let cs := key.toList
  if cs.all isBlank then some .blank
  else if cs.contains '\\' then some .backslash
  else if cs.any isControl then some .control
  else (splitAll '/' cs).findSome? segmentFault?

/-- The key can name a stored object. -/
def isValid (key : String) : Bool := (fault? key).isNone

/-- The key itself, if it can name a stored object. -/
def validate (key : String) : Except KeyFault String :=
  match fault? key with
  | some f => .error f
  | none => .ok key

end Key

end InstallerGateway
