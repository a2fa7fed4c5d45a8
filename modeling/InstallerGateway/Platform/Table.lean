import InstallerGateway.Datum.Literal
import InstallerGateway.Manifest.Basic
import InstallerGateway.Store.Dictionary
import InstallerGateway.Text.Quoted
import InstallerGateway.Yaml.Document

/-!
# Manifests of platforms

The extension of a file tells its platform, and each platform has a manifest of its own:
`latest-mac.yml`, `latest-linux.yml` and so on. The table of suffixes comes from the settings or
from a document in the store.
-/

namespace InstallerGateway

/-- The suffixes of manifest names by extension. -/
structure PlatformTable where
  /-- The suffixes. -/
  suffixes : Dictionary String
  deriving DecidableEq

namespace PlatformTable

/-- A value of the document `root` as a suffix: its text, which is empty if it does not count as
true. -/
def suffix? (root v : Datum) : Option String :=
  if (Datum.resolve root v).isTruthy then Literal.display? root v else some ""

/-- An extension and its suffix, from an entry of a mapping of the document `root`. -/
def pair? (root : Datum) (entry : Datum × Datum) : Option (String × String) := do
  return (← Literal.display? root entry.1, ← suffix? root entry.2)

/-- The table of a mapping of the document `root`, if its keys and values have texts. -/
def ofEntries? (root : Datum) (entries : List (Datum × Datum)) : Option PlatformTable :=
  (entries.mapM (pair? root)).map fun suffixes => ⟨Dictionary.ofList suffixes⟩

/-- The table of a mapping of texts. -/
def ofSuffixes (suffixes : List (String × String)) : PlatformTable :=
  ⟨Dictionary.ofList suffixes⟩

/-- The table of a document, if it is a mapping that is not empty. -/
def ofDocument? (doc : Datum) : Except DocumentFault (Option PlatformTable) :=
  match doc with
  | .map _ (e :: entries) =>
    match ofEntries? doc (e :: entries) with
    | some t => .ok (some t)
    | none => .error .tooLong
  | _ => .ok none

/-- The name of the manifest for an extension. -/
def manifestName (t : PlatformTable) (extension : String) : Except ResolutionFault String :=
  match t.suffixes.find? extension with
  | some suffix => .ok ("latest" ++ suffix ++ ".yml")
  | none =>
    .error ⟨.unsupportedPlatform, "no manifest for extension " ++ Quoted.text extension, ""⟩

/-- The table that a document in the store makes of this one: a table that is found replaces it,
a byte string that is no document or no table leaves it as it is. A scalar without a value is a
fault, and so is an entry without a text. -/
def reloaded? (body : ByteArray) : Except DocumentFault (Option PlatformTable) :=
  match Yaml.loadBytes body with
  | .ok doc => ofDocument? doc
  | .error .malformed => .ok none
  | .error f => .error (.noValue f)

end PlatformTable

end InstallerGateway
