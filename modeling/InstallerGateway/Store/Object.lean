import InstallerGateway.Bytes.Digest
import InstallerGateway.Store.Bucket

/-!
# Stored objects

Objects are kept in memory or in a bucket. In the bucket all keys lie under one directory, if the
settings name one.
-/

namespace InstallerGateway

/-- Why an object cannot be fetched, kept or removed. -/
inductive StorageFault where
  /-- The bucket refuses. -/
  | refused
  /-- The length of the object is no number. -/
  | noLength
  /-- The length of the object is a value that can be no number. -/
  | badLength
  /-- The length of the object is infinite. -/
  | endlessLength
  /-- The code with which the bucket refuses has too many digits. -/
  | longCode
  /-- The store is out of order. -/
  | outage (message : String)
  deriving DecidableEq

/-- An object from the store. -/
structure StoredObject where
  /-- Its key. -/
  key : String
  /-- Its body, in pieces. -/
  chunks : List ByteArray
  /-- The body arrives piece by piece, so that its length is not known before its end. -/
  isStream : Bool
  /-- The length that is told. -/
  size : Int
  /-- Its entity tag. -/
  etag : String
  /-- The content type under which it was stored. -/
  contentType : Option String
  /-- Further facts. -/
  metadata : List (Datum × Datum)

namespace StoredObject

/-- The whole body. -/
def read (o : StoredObject) : ByteArray :=
  o.chunks.foldl (· ++ ·) ByteArray.empty

/-- An object that is kept in memory. Its entity tag is the digest of its body. -/
def ofMemory (key : String) (body : ByteArray) (contentType : Option String) : StoredObject :=
  ⟨key, [body], false, body.size, "\"" ++ Digest.md5 body ++ "\"", contentType, []⟩

/-- The length that a bucket tells: nothing, and what does not count as true, is 0. -/
def sizeOf (length : Datum) : Except StorageFault Int :=
  if !length.isTruthy then .ok 0
  else
    match length with
    | .bool _ => .ok 1
    | .int n => .ok n
    | .float .nan => .error .noLength
    | .float x => (x.truncate?).elim (.error .endlessLength) .ok
    | .text s => (Numeral.decimal s.toList).mapError fun _ => .noLength
    | _ => .error .badLength

/-- An object from a bucket. -/
def ofBucket (key : String) (chunks : List ByteArray) (facts : ObjectFacts) :
    Except StorageFault StoredObject :=
  (sizeOf facts.length).map fun size =>
    ⟨key, chunks, true, size, facts.etag, facts.contentType, facts.metadata⟩

end StoredObject

/-- Where objects are kept. -/
structure Storage where
  /-- The objects in memory by key: their bytes and content types. -/
  memory : Dictionary (ByteArray × Option String)
  /-- The name of the bucket, if objects are kept there. -/
  bucket : Option String
  /-- The directory in the bucket; empty if there is none. -/
  directory : String

namespace Storage

/-- Objects are kept in memory; there are none yet. -/
def inMemory : Storage := ⟨[], none, ""⟩

/-- The key of an object in the bucket: slashes at its start are dropped, and the directory is put
before it. -/
def bucketKey (s : Storage) (key : String) : String :=
  let bare := String.ofList (key.toList.dropWhile (· == '/'))
  if s.directory.isEmpty then bare
  else if bare.isEmpty then s.directory
  else s.directory ++ "/" ++ bare

/-- The object with a key in memory. -/
def kept? (s : Storage) (key : String) : Option StoredObject :=
  (s.memory.find? key).map fun o => .ofMemory key o.1 o.2

/-- The codes with which a bucket says that it has no such object. -/
def missingCodes : List String := ["NoSuchKey", "404", "NotFound"]

/-- What a refusal with a code means: there is no such object, or a fault. -/
def ofCode (code : Option Datum) : Except StorageFault (Option StoredObject) :=
  match code with
  | none => .error .refused
  | some d =>
    match Literal.display? d d with
    | none => .error .longCode
    | some text => if missingCodes.contains text then .ok none else .error .refused

/-- The object that a bucket answers with; none if it says that it has no such object. -/
def ofReply (key : String) : BucketReply → Except StorageFault (Option StoredObject)
  | .refused code => ofCode code
  | .object body facts => (StoredObject.ofBucket key body.chunks facts).map some

end Storage

end InstallerGateway
