import InstallerGateway.Yaml.Source

/-!
# Manifests

What a manifest tells, and why there may be none for a key.
-/

namespace InstallerGateway

/-!
## What a manifest tells

A manifest tells the version of a release and the files that belong to it. It names its files in a
list, or names one primary file, or does both.
-/

/-- Which of the two ways of naming files a manifest uses. -/
inductive ManifestSchema where
  /-- A primary file and no list. -/
  | primaryOnly
  /-- A list and no primary file. -/
  | filesOnly
  /-- Both. -/
  | filesWithPrimary
  deriving DecidableEq

/-- The name of a schema. -/
def ManifestSchema.name : ManifestSchema → String
  | .primaryOnly => "primary_only"
  | .filesOnly => "files_only"
  | .filesWithPrimary => "files_with_primary"

/-- A file of a release. -/
structure ArtifactEntry where
  /-- Where it lies, relative to the manifest. -/
  url : String
  /-- Its checksum; empty if none is given. -/
  checksum : String
  /-- Its size in bytes; 0 if none is given. -/
  size : Nat
  deriving DecidableEq

/-- A manifest. -/
structure Manifest where
  /-- The version of the release. -/
  version : String
  /-- The files of the release. -/
  files : List ArtifactEntry
  /-- The name of the primary file; empty if there is none. -/
  path : String
  /-- The checksum of the primary file. -/
  checksum : String
  /-- How the manifest names its files. -/
  schema : ManifestSchema
  deriving DecidableEq

namespace Manifest

/-- The files with a name. -/
def findFiles (m : Manifest) (name : String) : List ArtifactEntry :=
  m.files.filter fun e => e.url = name

end Manifest

/-!
## Why a key is not resolved

A key of a newest release is not resolved if its platform is not known, or if the manifest is
missing, malformed or at odds with itself. Apart from these, the manifest may hold a scalar whose
tag promises a value that it does not have, or an integer that has too many digits for a text.
-/

/-- The kinds of failed resolutions. -/
inductive ResolutionKind where
  /-- No manifest is known for the extension. -/
  | unsupportedPlatform
  /-- The manifest is not in the store. -/
  | manifestNotFound
  /-- The manifest is none. -/
  | manifestMalformed
  /-- The manifest does not name one file for the key. -/
  | manifestInconsistency
  deriving DecidableEq

/-- A failed resolution. -/
structure ResolutionFault where
  /-- Its kind. -/
  kind : ResolutionKind
  /-- What is said about it. -/
  message : String
  /-- The key in question; empty if the fault lies in the manifest alone. -/
  key : String
  deriving DecidableEq

/-- Why no use can be made of a document. -/
inductive DocumentFault where
  /-- One of its scalars has no value. -/
  | noValue (f : Yaml.Fault)
  /-- A value of it that is to be text holds an integer of too many digits. -/
  | tooLong
  deriving DecidableEq

/-- Why a text is no manifest. -/
inductive ManifestFault where
  /-- It is no document, or a document of another shape. -/
  | refused (f : ResolutionFault)
  /-- No use can be made of the document. -/
  | unusable (f : DocumentFault)
  deriving DecidableEq

end InstallerGateway
