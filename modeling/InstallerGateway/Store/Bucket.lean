import InstallerGateway.Datum.Literal
import InstallerGateway.Number.Numeral
import InstallerGateway.Store.Delivery
import InstallerGateway.Store.Dictionary

/-!
# Buckets

A bucket keeps objects outside the gateway. Each request to it may be refused with a code. What it
tells about an object besides its bytes is up to it: any part may be missing, and the length may be
a value of any kind.
-/

namespace InstallerGateway

/-- What a bucket tells about an object. -/
structure ObjectFacts where
  /-- The length. -/
  length : Datum
  /-- The entity tag; empty if it tells none. -/
  etag : String
  /-- The content type. -/
  contentType : Option String
  /-- Further facts. -/
  metadata : List (Datum × Datum)

/-- The answer of a bucket to a request for an object. -/
inductive BucketReply where
  /-- The request is refused, with a code or without. -/
  | refused (code : Option Datum)
  /-- The object. -/
  | object (body : Delivery) (facts : ObjectFacts)

/-- What a bucket does to requests. -/
structure BucketFailures where
  /-- Requests for objects are refused, with a code or without. -/
  get : Option (Option Datum)
  /-- Requests to keep an object are refused. -/
  put : Bool
  /-- Requests to remove an object are refused. -/
  delete : Bool

/-- A bucket. -/
structure Bucket where
  /-- The objects by key: their bytes, and their content types if these are known. -/
  objects : Dictionary (ByteArray × Option String)
  /-- The length of the pieces in which bodies are handed over; if it is 0 they are streams. -/
  chunk : Nat
  /-- The lengths of the first pieces, or bounds on the first reads. -/
  cuts : List Nat := []
  /-- The code with which a request for an absent object is refused. -/
  missingCode : Datum
  /-- What is told about every object, if that is fixed. -/
  facts : Option ObjectFacts
  /-- What is refused. -/
  failures : BucketFailures

namespace Bucket

/-- Nothing is refused. -/
def noFailures : BucketFailures := ⟨none, false, false⟩

/-- A bucket without objects. -/
def empty : Bucket := ⟨[], 0, [], .text "NoSuchKey", none, noFailures⟩

/-- How a body is handed over. -/
def deliver (b : Bucket) (body : ByteArray) : Delivery :=
  let bytes := body.data.toList
  if b.chunk = 0 then .stream ⟨bytes, b.cuts⟩
  else .pieces ((pieces b.chunk b.cuts bytes).map fun bs => ⟨bs.toArray⟩)

/-- What is told about an object if nothing else is fixed. -/
def usualFacts (body : ByteArray) (contentType : Option String) : ObjectFacts :=
  ⟨.int body.size, "\"len-" ++ toString body.size ++ "\"", contentType, []⟩

/-- The answer to a request for an object. -/
def get (b : Bucket) (key : String) : BucketReply :=
  match b.failures.get with
  | some code => .refused code
  | none =>
    match b.objects.find? key with
    | none => .refused (some b.missingCode)
    | some (body, contentType) =>
      .object (b.deliver body) (b.facts.getD (usualFacts body contentType))

/-- The bucket with an object that is kept under a key. -/
def put (b : Bucket) (key : String) (body : ByteArray) (contentType : Option String) : Bucket :=
  { b with objects := b.objects.put key (body, contentType) }

/-- The bucket after a request to remove an object; none if that is refused. -/
def delete? (b : Bucket) (key : String) : Option Bucket :=
  if b.failures.delete then none else some { b with objects := b.objects.remove key }

end Bucket

end InstallerGateway
