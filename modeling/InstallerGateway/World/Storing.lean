import InstallerGateway.World.Basic

/-!
# Fetching, keeping and removing objects
-/

namespace InstallerGateway.Storing

/-- The object with a key, if there is one. -/
def get (key : String) : Act (Option StoredObject) := do
  Act.note (.storeGet key)
  let w ← MonadState.get
  match w.outage with
  | some message => throw (.storage (.outage message))
  | none =>
    match w.storage.bucket with
    | none => return w.storage.kept? key
    | some bucket =>
      let inBucket := w.storage.bucketKey key
      Act.note (.bucketGet bucket inBucket)
      match Storage.ofReply key (w.bucket.get inBucket) with
      | .ok o => return o
      | .error f => throw (.storage f)

/-- The content type that a bucket is told; an empty one is none. -/
def declared (contentType : Option String) : Option String := contentType.filter fun t => !t.isEmpty

/-- The store is told that an object is to be kept, before it has the bytes; a bucket may refuse. -/
def announce (key : String) (contentType : Option String) : Act Unit := do
  Act.note (.storePut key)
  let w ← MonadState.get
  match w.storage.bucket with
  | none => return
  | some bucket =>
    Act.note (.bucketPut bucket (w.storage.bucketKey key) (declared contentType))
    if w.bucket.failures.put then throw (.storage .refused)

/-- An object is kept under a key. -/
def put (key : String) (body : ByteArray) (contentType : Option String) : Act Unit := do
  announce key contentType
  modify fun w =>
    match w.storage.bucket with
    | none =>
      { w with storage :=
        { w.storage with memory := w.storage.memory.put key (body, contentType) } }
    | some _ =>
      { w with bucket := w.bucket.put (w.storage.bucketKey key) body (declared contentType) }

/-- The object with a key is removed, if there is one. -/
def delete (key : String) : Act Unit := do
  Act.note (.storeDelete key)
  let w ← MonadState.get
  match w.storage.bucket with
  | none => set { w with storage := { w.storage with memory := w.storage.memory.remove key } }
  | some bucket =>
    let inBucket := w.storage.bucketKey key
    Act.note (.bucketDelete bucket inBucket)
    match w.bucket.delete? inBucket with
    | some b => modify fun w => { w with bucket := b }
    | none => throw (.storage .refused)

end InstallerGateway.Storing
