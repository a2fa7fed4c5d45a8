import InstallerGateway.Text.Split

/-!
# Names of installers

The names under which releases are published tell platform, architecture and version: installers for
macOS and Windows are called `app-mac-arm64-1.2.dmg` and `app-win-x64-1.2.exe`, those for Linux
`app_1.2_amd64.deb`, where the version comes before the architecture. What follows the kind of file
belongs to the extension. A name may end with a line feed, which does not count.
-/

namespace InstallerGateway

/-- An operating system. -/
inductive OperatingSystem where
  /-- macOS. -/
  | darwin
  /-- Windows. -/
  | win32
  /-- Linux. -/
  | linux
  deriving DecidableEq

/-- The name of an operating system. -/
def OperatingSystem.name : OperatingSystem → String
  | .darwin => "darwin"
  | .win32 => "win32"
  | .linux => "linux"

/-- What the name of an installer tells. -/
structure InstallerName where
  /-- The operating system. -/
  system : OperatingSystem
  /-- The architecture. -/
  arch : String
  /-- The version. -/
  version : String
  /-- The kind of file and what follows it. -/
  ext : String
  deriving DecidableEq

namespace InstallerName

/-- The text without a line feed at its end, if that leaves it no other. -/
def singleLine? (cs : List Char) : Option (List Char) :=
  let body := dropFinalBreak cs
  if body.contains '\n' then none else some body

/-- The text before and after the last point that one of the kinds follows. -/
def splitAtKind? (kinds : List (List Char)) : List Char → Option (List Char × List Char)
  | [] => none
  | c :: rest =>
    match splitAtKind? kinds rest with
    | some (before, after) => some (c :: before, after)
    | none => if c = '.' && kinds.any (·.isPrefixOf rest) then some ([], rest) else none

/-- Architecture, version and extension at the start of a text: the marker, an architecture without
dashes, a dash, a version, a point and one of the kinds. The version is as long as possible. -/
def dashed? (marker : List Char) (kinds : List (List Char)) (cs : List Char) :
    Option (List Char × List Char × List Char) := do
  let rest ← afterWord? marker cs
  let (arch, rest) ← splitFirst '-' rest
  match arch, ← singleLine? rest with
  | _ :: _, first :: body =>
    let (version, ext) ← splitAtKind? kinds body
    some (arch, first :: version, ext)
  | _, _ => none

/-- Version, architecture and extension at the start of a text: an underscore, a version without
underscores, an underscore, an architecture without points, a point and `deb`. -/
def underscored? (cs : List Char) : Option (List Char × List Char × List Char) := do
  let rest ← afterWord? ['_'] cs
  let (version, rest) ← splitFirst '_' rest
  let (arch, rest) ← splitFirst '.' rest
  let ext ← singleLine? rest
  if !version.isEmpty && !arch.isEmpty && ['d', 'e', 'b'].isPrefixOf ext then
    some (version, arch, ext)
  else none

/-- What a name tells that holds one of the dashed markers. -/
def ofDashed? (system : OperatingSystem) (marker : List Char) (kinds : List (List Char))
    (cs : List Char) : Option InstallerName :=
  (firstFound? (dashed? marker kinds) cs).map fun (arch, version, ext) =>
    ⟨system, String.ofList arch, String.ofList version, String.ofList ext⟩

/-- What a name tells. The forms are tried in the order macOS, Windows, Linux, each at the first
place where it fits. -/
def parse? (name : String) : Option InstallerName :=
  let cs := name.toList
  (ofDashed? .darwin "-mac-".toList ["dmg".toList, "zip".toList] cs).or <|
  (ofDashed? .win32 "-win-".toList ["exe".toList] cs).or <|
  (firstFound? underscored? cs).map fun (version, arch, ext) =>
    ⟨.linux, String.ofList arch, String.ofList version, String.ofList ext⟩

end InstallerName

end InstallerGateway
