import InstallerGateway.Key.Basic
import InstallerGateway.Manifest.Basic
import InstallerGateway.Text.Quoted

/-!
# Choosing a file of a release

A key of the newest release stands for the file that has its name with the version of the manifest
in place of `latest`. If the manifest lists no such file, or lists none at all, its primary file is
chosen. No name may fit more than one file.
-/

namespace InstallerGateway.Manifest

/-- The manifest does not name one file. -/
def inconsistent {α : Type} (message key : String) : Except ResolutionFault α :=
  .error ⟨.manifestInconsistency, message, key⟩

/-- A name that fits another number of files than one. -/
def matchCount (name : String) (files : List ArtifactEntry) : String :=
  Quoted.text name ++ " matches " ++ toString files.length ++ " file entries"

/-- The primary file. -/
def primary (m : Manifest) : Except ResolutionFault ArtifactEntry :=
  if m.path.isEmpty then inconsistent "manifest has no primary path" ""
  else
    match m.findFiles m.path with
    | [e] => .ok e
    | found => inconsistent ("primary path " ++ matchCount m.path found) ""

/-- The key of the primary file. -/
def primaryKey (m : Manifest) (d : KeyDescriptor) : Except ResolutionFault String :=
  (primary m).map fun e => d.join e.url

/-- The base name of a key with the version in place of the first `latest`. -/
def wantedName (m : Manifest) (d : KeyDescriptor) : String :=
  String.ofList (replaceFirst "latest".toList m.version.toList d.baseName.toList)

/-- The key that stands for a key of the newest release. -/
def concreteKey (m : Manifest) (d : KeyDescriptor) : Except ResolutionFault String :=
  if m.schema = .primaryOnly then m.primaryKey d
  else
    match m.findFiles (m.wantedName d) with
    | [e] => .ok (d.join e.url)
    | found =>
      if found.isEmpty && m.schema = .filesWithPrimary then m.primaryKey d
      else inconsistent (matchCount (m.wantedName d) found) d.key

end InstallerGateway.Manifest
