import InstallerGateway.Manifest.Choice
import InstallerGateway.Manifest.Reader
import InstallerGateway.World.Caching
import InstallerGateway.World.Storing

/-!
# Resolving keys of newest releases

A key that asks for the newest release stands for the key of a file, which the manifest of its
platform tells and which is kept for a time. If the manifest does not tell it, the key stands for
itself, and nothing is kept.
-/

namespace InstallerGateway.Resolving

/-- The key of the manifest that tells what a key stands for. -/
def manifestKey (t : PlatformTable) (d : KeyDescriptor) : Except ResolutionFault String :=
  (t.manifestName d.extension).map d.join

/-- The key that a key stands for, given what the store holds under the key of its manifest. -/
def fromManifest (d : KeyDescriptor) (key : String) (manifest : Option ByteArray) :
    Except ManifestFault String :=
  match manifest with
  | none =>
    .error (.refused ⟨.manifestNotFound, "unable to get " ++ key ++ ": object not found", d.key⟩)
  | some body => do
    let m ← Manifest.ofBytes body
    (m.concreteKey d).mapError .refused

/-- The key stands for itself, which is noted. -/
def givenUp (d : KeyDescriptor) (f : ResolutionFault) : Act (Option String) := do
  Act.note (.unresolved { f with key := d.key })
  return none

/-- The key that the manifest with a key tells, if it tells one. -/
def fetchFrom (d : KeyDescriptor) (manifest : String) : Act (Option String) := do
  let o ← Storing.get manifest
  match fromManifest d manifest (o.map (·.read)) with
  | .ok concrete => return some concrete
  | .error (.refused f) => givenUp d f
  | .error (.unusable f) => throw (.document f)

/-- The key that the manifest tells for a key, if it tells one. -/
def fetch (d : KeyDescriptor) : Act (Option String) := do
  match manifestKey (← MonadState.get).platforms.table d with
  | .error f => givenUp d f
  | .ok manifest => fetchFrom d manifest

/-- What the manifest tells is kept, for the usual time, and returned; without it the key stands for
itself. -/
def settle (usual : Int) (d : KeyDescriptor) (concrete : Option String) : Act String := do
  match concrete with
  | none => return d.key
  | some key =>
    Caching.store (.int usual) d.extension key .null
    return key

/-- The key that a key stands for. -/
def resolve (usual : Int) (d : KeyDescriptor) : Act String := do
  if !d.isLatest then return d.key
  match ← Caching.lookup d.extension with
  | some key => return key
  | none => settle usual d (← fetch d)

/-- The key that a key stands for, when something else happens in between, just before the manifest
is asked for; and what comes of that, if it happens. -/
def resolveAround {α : Type} (usual : Int) (d : KeyDescriptor) (meanwhile : Act α) :
    Act (String × Option α) := do
  if !d.isLatest then return (d.key, none)
  match ← Caching.lookup d.extension with
  | some key => return (key, none)
  | none =>
    match manifestKey (← MonadState.get).platforms.table d with
    | .error f => return (← settle usual d (← givenUp d f), none)
    | .ok manifest =>
      let a ← meanwhile
      return (← settle usual d (← fetchFrom d manifest), some a)

end InstallerGateway.Resolving
