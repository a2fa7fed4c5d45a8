import InstallerGateway.Datum.Literal
import InstallerGateway.Manifest.Basic
import InstallerGateway.Yaml.Document

/-!
# Reading manifests

A document is a manifest if it is a mapping with a version and with files or a path. Versions,
checksums and paths may be values of any kind, which are taken as text; the files have to be
mappings with a name, and sizes have to be integers that are not negative. A value that is taken as
text, or shown in a message, must not hold an integer of too many digits.
-/

namespace InstallerGateway.Manifest

/-- A document is no manifest. -/
def malformed {α : Type} (message : String) : Except ManifestFault α :=
  .error (.refused ⟨.manifestMalformed, message, ""⟩)

/-- What is written, unless it has too many digits. -/
def written : Option String → Except ManifestFault String
  | some s => .ok s
  | none => .error (.unusable .tooLong)

/-- The value of a name in the mapping `entries` of the document `root`; null if there is none. -/
def valueOf (root : Datum) (entries : List (Datum × Datum)) (name : String) : Datum :=
  Datum.resolve root ((Datum.field? name entries).getD .null)

/-- A value as text; null is empty. -/
def textOf (root d : Datum) : Except ManifestFault String :=
  match d with
  | .null => .ok ""
  | d => written (Literal.display? root d)

/-- A value as a size; null is 0. `place` says where the value stands. -/
def sizeOf (root : Datum) (place : String) (d : Datum) : Except ManifestFault Nat :=
  match d with
  | .null => .ok 0
  | .int n =>
    if n < 0 then do
      malformed (place ++ ": size must be non-negative, got " ++ (← written (Numeral.text? n)))
    else .ok n.toNat
  | d => do
    malformed (place ++ ": size must be an integer, got " ++ (← written (Literal.literal? root d)))

/-- The file that an item of the list stands for. -/
def entryOf (root : Datum) (index : Nat) (d : Datum) : Except ManifestFault ArtifactEntry :=
  let place := "files[" ++ toString index ++ "]"
  match Datum.resolve root d with
  | .map _ entries =>
    match valueOf root entries "url" with
    | .text url =>
      if url.isEmpty then malformed (place ++ ": missing url")
      else do
        let checksum ← textOf root (valueOf root entries "sha512")
        let size ← sizeOf root place (valueOf root entries "size")
        return ⟨url, checksum, size⟩
    | _ => malformed (place ++ ": missing url")
  | _ => malformed (place ++ ": expected a mapping")

/-- The files of a list whose first item has the number `index`. -/
def entriesOf (root : Datum) (index : Nat) :
    List Datum → Except ManifestFault (List ArtifactEntry)
  | [] => .ok []
  | d :: rest => do
    let e ← entryOf root index d
    return e :: (← entriesOf root (index + 1) rest)

/-- The manifest with a version, a path and a checksum, and the files that a document lists; without
a list the path is the only file. -/
def ofFiles (doc : Datum) (version path checksum : String) (files size : Datum) :
    Except ManifestFault Manifest :=
  match files with
  | .null =>
    if path.isEmpty then malformed "manifest has neither files nor path"
    else do
      let size ← sizeOf doc "manifest" size
      return ⟨version, [⟨path, checksum, size⟩], path, checksum, .primaryOnly⟩
  | .list _ items => do
    let files ← entriesOf doc 0 items
    let schema := if path.isEmpty then .filesOnly else .filesWithPrimary
    return ⟨version, files, path, checksum, schema⟩
  | _ => malformed "files must be a list"

/-- The manifest that a document is. -/
def ofDatum (doc : Datum) : Except ManifestFault Manifest :=
  match doc with
  | .map _ entries =>
    match valueOf doc entries "version" with
    | .null | .text "" => malformed "manifest has no version"
    | v => do
      let version ← written (Literal.display? doc v)
      let path ← textOf doc (valueOf doc entries "path")
      let checksum ← textOf doc (valueOf doc entries "sha512")
      ofFiles doc version path checksum (valueOf doc entries "files") (valueOf doc entries "size")
  | _ => malformed "manifest must be a mapping"

/-- The manifest that a loaded document is, or why it is none. -/
def ofLoaded (doc : Except Yaml.Fault Datum) : Except ManifestFault Manifest :=
  match doc with
  | .ok d => ofDatum d
  | .error .malformed => malformed "invalid YAML"
  | .error f => .error (.unusable (.noValue f))

/-- The manifest in a text. -/
def ofText (text : String) : Except ManifestFault Manifest := ofLoaded (Yaml.load text)

/-- The manifest in a byte string. -/
def ofBytes (b : ByteArray) : Except ManifestFault Manifest := ofLoaded (Yaml.loadBytes b)

end InstallerGateway.Manifest
