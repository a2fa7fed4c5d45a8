import InstallerGateway.Proofs.Store.Delivering
import InstallerGateway.Proofs.World.Acting
import InstallerGateway.Settings.Load
import InstallerGateway.World.Basic
import Mathlib.Data.List.Induction

/-!
# Objects in a bucket and in memory

A bucket that refuses nothing, and tells about objects what it knows, serves the gateway as well as
memory does: after the same calls the same objects are found, with the same sizes, content types and
bytes. All that is asked of it concerns its directory for the gateway, so nothing else in it matters
or changes.
-/

namespace InstallerGateway

open Act

/-! ## Keys -/

/-- The key does not start with a slash. -/
def IsBare (key : String) : Prop := key.toList.head? ≠ some '/'

instance (key : String) : Decidable (IsBare key) := inferInstanceAs (Decidable (_ ≠ _))

/-- The key in the bucket is the directory itself or lies in it. Without a directory all do. -/
def LiesIn (directory inBucket : String) : Prop :=
  directory = "" ∨ inBucket = directory ∨ ∃ rest, inBucket = directory ++ "/" ++ rest

namespace Storage

variable {s : Storage} {key other : String}

/-- A key that does not start with a slash is put behind the directory. -/
theorem bucketKey_of_isBare (h : IsBare key) : s.bucketKey key =
    if s.directory = "" then key
    else if key = "" then s.directory
    else s.directory ++ "/" ++ key := by
  have hdrop : key.toList.dropWhile (· == '/') = key.toList := by
    unfold IsBare at h
    cases hkey : key.toList with
    | nil => rfl
    | cons c rest =>
      have hc : c ≠ '/' := by simpa [hkey] using h
      simp [hc]
  unfold bucketKey
  simp only [hdrop, String.ofList_toList, String.isEmpty_iff]

/-- Keys that do not start with a slash stay apart in the bucket, where the directory is shorter
than all others in it. -/
theorem bucketKey_injective (h : IsBare key) (hother : IsBare other)
    (heq : s.bucketKey key = s.bucketKey other) : key = other := by
  have hlonger (rest : String) : s.directory ++ "/" ++ rest ≠ s.directory := by
    intro hsame
    have hlength := congrArg String.length hsame
    simp only [String.length_append] at hlength
    have hslash : "/".length = 1 := rfl
    omega
  rw [bucketKey_of_isBare h, bucketKey_of_isBare hother] at heq
  split_ifs at heq with hdirectory hkey hsame hsame
  · exact heq
  · exact hkey.trans hsame.symm
  · exact absurd heq.symm (hlonger other)
  · exact absurd heq (hlonger key)
  · exact (String.append_right_inj _).mp heq

theorem liesIn_bucketKey (h : IsBare key) : LiesIn s.directory (s.bucketKey key) := by
  rw [bucketKey_of_isBare h]
  split_ifs with hdirectory hkey
  · exact .inl hdirectory
  · exact .inr (.inl rfl)
  · exact .inr (.inr ⟨key, rfl⟩)

end Storage

/-! ## Faithful buckets -/

/-- The codes with which buckets say that there is no such object. -/
def absentCodes : List Datum := [.text "NoSuchKey", .text "404", .int 404, .text "NotFound"]

theorem ofCode_of_mem {code : Datum} (h : code ∈ absentCodes) :
    Storage.ofCode (some code) = .ok none := by
  simp only [absentCodes, List.mem_cons, List.not_mem_nil, or_false] at h
  rcases h with rfl | rfl | rfl | rfl <;> rfl

/-- How a bucket answers when it is asked for an object: how it cuts the body, and what it says if
there is none. -/
structure Manner where
  /-- The length of the pieces in which the body is handed over; if it is 0 it is a stream. -/
  chunk : Nat
  /-- The lengths of the first pieces, or bounds on the first reads. -/
  cuts : List Nat
  /-- What it says if there is no such object. -/
  code : Datum
  saysAbsent : code ∈ absentCodes

namespace Bucket

variable {b : Bucket}

/-- The bucket answers in this manner from now on. -/
def answering (m : Manner) (b : Bucket) : Bucket :=
  { b with chunk := m.chunk, cuts := m.cuts, missingCode := m.code }

/-- The bucket refuses nothing, and tells about objects what it knows. -/
structure IsFaithful (b : Bucket) : Prop where
  failures : b.failures = noFailures
  facts : b.facts = none

/-- The object that the gateway gets from a bucket. -/
def sent (b : Bucket) (key : String) (body : ByteArray) (contentType : Option String) :
    StoredObject :=
  let facts := usualFacts body contentType
  ⟨key, (b.deliver body).chunks, true, body.size, facts.etag, contentType, []⟩

/-- What a faithful bucket replies tells what it holds. -/
theorem ofReply_get (h : b.IsFaithful) (m : Manner) (key inBucket : String) :
    Storage.ofReply key ((b.answering m).get inBucket) =
      .ok ((b.objects.find? inBucket).map fun o => (b.answering m).sent key o.1 o.2) := by
  have hsize (n : Nat) : StoredObject.sizeOf (.int n) = .ok n := by
    cases n <;> rfl
  unfold get
  simp only [answering, h.failures, h.facts, noFailures]
  rcases b.objects.find? inBucket with _ | ⟨body, contentType⟩
  · exact ofCode_of_mem m.saysAbsent
  · simp only [Storage.ofReply, StoredObject.ofBucket, usualFacts, Option.getD_none, hsize]
    rfl

end Bucket

/-- Two objects have the same size, content type and bytes. -/
structure StoredObject.Alike (o o' : StoredObject) : Prop where
  size : o'.size = o.size
  contentType : o'.contentType = o.contentType
  read : o'.read = o.read

theorem Bucket.alike_sent (b : Bucket) (key : String) (body : ByteArray)
    (contentType : Option String) :
    (StoredObject.ofMemory key body contentType).Alike (b.sent key body contentType) where
  size := rfl
  contentType := rfl
  read := by
    have hmemory : allBytes [body] = body.data.toList := by simp [allBytes]
    exact (foldl_append_eq (b.allBytes_deliver body)).trans (foldl_append_eq hmemory).symm

namespace World

/-- The world in which the bucket answers in this manner. -/
def answering (m : Manner) (w : World) : World :=
  { w with bucket := w.bucket.answering m }

/-- The world in which objects are kept where the settings say. -/
def opening (s : Settings) (c : Connection) (w : World) : World :=
  { w with storage := (openStorage s c).1 }

end World

namespace Storing

/-! ## Calls to a bucket -/

section InBucket

variable {w : World} {name : String}

/-- Putting an object in a bucket tells the bucket its key, its body and its type. -/
theorem put_bucket (h : w.storage.bucket = some name) (hput : w.bucket.failures.put = false)
    (key : String) (body : ByteArray) (contentType : Option String) :
    after (put key body contentType) w =
      { w.noting [.bucketPut name (w.storage.bucketKey key) (declared contentType),
          .storePut key] with
        bucket := w.bucket.put (w.storage.bucketKey key) body (declared contentType) } := by
  have hannounce : perform (announce key contentType) w = (.ok (), w.noting
      [.bucketPut name (w.storage.bucketKey key) (declared contentType), .storePut key]) := by
    unfold announce
    rw [perform_bind_ok (perform_note _ _), perform_bind_ok (perform_get _)]
    simp only [World.noting_storage, World.noting_bucket, h]
    rw [perform_bind_ok (perform_note _ _), hput]
    rfl
  unfold after put
  rw [perform_bind_ok hannounce, perform_modify]
  simp only [World.noting_storage, World.noting_bucket, h]

/-- Deleting an object tells the bucket its key. -/
theorem delete_bucket (h : w.storage.bucket = some name)
    (hdelete : w.bucket.failures.delete = false) (key : String) :
    after (delete key) w =
      { w.noting [.bucketDelete name (w.storage.bucketKey key), .storeDelete key] with
        bucket := { w.bucket with
          objects := w.bucket.objects.remove (w.storage.bucketKey key) } } := by
  unfold after delete
  rw [perform_bind_ok (perform_note _ _), perform_bind_ok (perform_get _)]
  simp only [World.noting_storage, World.noting_bucket, h]
  rw [perform_bind_ok (perform_note _ _)]
  simp only [Bucket.delete?, hdelete]
  rfl

/-- Getting an object changes nothing in the bucket. -/
theorem get_bucket (h : w.storage.bucket = some name) (houtage : w.outage = none) (key : String) :
    after (get key) w =
      w.noting [.bucketGet name (w.storage.bucketKey key), .storeGet key] := by
  unfold after get
  rw [perform_bind_ok (perform_note _ _), perform_bind_ok (perform_get _)]
  simp only [World.noting_outage, World.noting_storage, World.noting_bucket, houtage, h]
  rw [perform_bind_ok (perform_note _ _)]
  split <;> rfl

end InBucket

/-! ## Runs -/

/-- A call to the store. -/
inductive Step where
  | put (key : String) (body : ByteArray) (contentType : Option String)
  | get (key : String) (m : Manner)
  | delete (key : String)

/-- The key does not start with a slash, and the content type is not an empty text. -/
def Step.IsPlain : Step → Prop
  | .put key _ contentType => IsBare key ∧ contentType ≠ some ""
  | .get key _ | .delete key => IsBare key

/-- The world after a step; what is asked of a bucket is answered as the step says. -/
def Step.perform : Step → World → World
  | .put key body contentType, w => after (Storing.put key body contentType) w
  | .get key m, w => after (Storing.get key) (w.answering m)
  | .delete key, w => after (Storing.delete key) w

/-- The world after a run of calls. -/
def run (w : World) (steps : List Step) : World := steps.foldl (fun w s => s.perform w) w

theorem run_snoc (w : World) (steps : List Step) (s : Step) :
    run w (steps ++ [s]) = s.perform (run w steps) := by
  simp [run]

/-- If the event is a request to a bucket, then to this one, and for a key in the directory. -/
def StaysIn (name directory : String) : Event → Prop
  | .bucketGet bucket key | .bucketPut bucket key _ | .bucketDelete bucket key =>
    bucket = name ∧ LiesIn directory key
  | _ => True

/-- Two worlds that began as one: what the first has in memory is in the directory of a bucket in
the second. -/
structure Mirrors (name directory : String) (w₀ inMemory inBucket : World) : Prop where
  memory : inMemory.storage.bucket = none ∧ inMemory.outage = none
  bucket : inBucket.storage.bucket = some name ∧ inBucket.outage = none
  inDirectory : inBucket.storage.directory = directory
  faithful : inBucket.bucket.IsFaithful
  objects : ∀ key, IsBare key →
    inBucket.bucket.objects.find? (inBucket.storage.bucketKey key) =
      inMemory.storage.memory.find? key
  outside : ∀ key, ¬ LiesIn directory key →
    inBucket.bucket.objects.find? key = w₀.bucket.objects.find? key
  events : ∀ e ∈ inBucket.trace, e ∈ w₀.trace ∨ StaysIn name directory e

namespace Mirrors

variable {name directory key : String} {w₀ inMemory inBucket : World}

theorem liesIn (h : Mirrors name directory w₀ inMemory inBucket) (hkey : IsBare key) :
    LiesIn directory (inBucket.storage.bucketKey key) := by
  rw [← h.inDirectory]
  exact Storage.liesIn_bucketKey hkey

/-- A key of the bucket that does not lie in the directory belongs to no object of the gateway. -/
theorem ne_of_outside (h : Mirrors name directory w₀ inMemory inBucket) (hkey : IsBare key)
    {other : String} (hother : ¬ LiesIn directory other) :
    inBucket.storage.bucketKey key ≠ other := by
  rintro rfl
  exact hother (h.liesIn hkey)

theorem events_of_mem (h : Mirrors name directory w₀ inMemory inBucket) {events : List Event}
    (hevents : ∀ e ∈ events, StaysIn name directory e) :
    ∀ e ∈ events ++ inBucket.trace, e ∈ w₀.trace ∨ StaysIn name directory e := by
  intro e hmem
  rcases List.mem_append.mp hmem with hnew | hold
  · exact .inr (hevents e hnew)
  · exact h.events e hold

/-- A bucket still mirrors memory after an object is put in both. -/
theorem put (h : Mirrors name directory w₀ inMemory inBucket) (hkey : IsBare key)
    (body : ByteArray) {contentType : Option String} (htype : contentType ≠ some "") :
    Mirrors name directory w₀ (after (Storing.put key body contentType) inMemory)
      (after (Storing.put key body contentType) inBucket) := by
  have hdeclared : declared contentType = contentType := by
    cases contentType with
    | none => rfl
    | some t => simpa [declared, Option.filter] using htype
  have hmemory := (put_memory h.memory.1 key body contentType).2
  have hnone := put_keeps isBesideObjects_outage key body contentType inMemory
  rw [put_bucket h.bucket.1 (congrArg BucketFailures.put h.faithful.failures), hdeclared]
  refine ⟨⟨by rw [hmemory]; exact h.memory.1, hnone.trans h.memory.2⟩, h.bucket, h.inDirectory,
    ⟨h.faithful.failures, h.faithful.facts⟩, fun other hother => ?_, fun other hother => ?_, ?_⟩
  · rw [hmemory]
    by_cases hsame : key = other
    · subst hsame
      exact (Dictionary.find?_put_self _ _ _).trans (Dictionary.find?_put_self _ _ _).symm
    · have hapart : inBucket.storage.bucketKey key ≠ inBucket.storage.bucketKey other :=
        fun heq => hsame (Storage.bucketKey_injective hkey hother heq)
      refine (Dictionary.find?_put_of_ne hapart _ _).trans ?_
      rw [Dictionary.find?_put_of_ne hsame]
      exact h.objects other hother
  · refine (Dictionary.find?_put_of_ne (h.ne_of_outside hkey hother) _ _).trans ?_
    exact h.outside other hother
  · refine h.events_of_mem ?_
    simp [StaysIn, h.liesIn hkey]

/-- A bucket still mirrors memory after an object is deleted from both. -/
theorem delete (h : Mirrors name directory w₀ inMemory inBucket) (hkey : IsBare key) :
    Mirrors name directory w₀ (after (Storing.delete key) inMemory)
      (after (Storing.delete key) inBucket) := by
  have hmemory := (delete_memory h.memory.1 key).2
  have hnone := delete_keeps isBesideObjects_outage key inMemory
  rw [delete_bucket h.bucket.1 (congrArg BucketFailures.delete h.faithful.failures)]
  refine ⟨⟨by rw [hmemory]; exact h.memory.1, hnone.trans h.memory.2⟩, h.bucket, h.inDirectory,
    ⟨h.faithful.failures, h.faithful.facts⟩, fun other hother => ?_, fun other hother => ?_, ?_⟩
  · rw [hmemory]
    by_cases hsame : key = other
    · subst hsame
      exact (Dictionary.find?_remove_self _ _).trans (Dictionary.find?_remove_self _ _).symm
    · have hapart : inBucket.storage.bucketKey key ≠ inBucket.storage.bucketKey other :=
        fun heq => hsame (Storage.bucketKey_injective hkey hother heq)
      refine (Dictionary.find?_remove_of_ne hapart _).trans ?_
      rw [Dictionary.find?_remove_of_ne hsame]
      exact h.objects other hother
  · refine (Dictionary.find?_remove_of_ne (h.ne_of_outside hkey hother) _).trans ?_
    exact h.outside other hother
  · refine h.events_of_mem ?_
    simp [StaysIn, h.liesIn hkey]

/-- The manner in which a bucket answers has no effect on what it keeps. -/
theorem answering (h : Mirrors name directory w₀ inMemory inBucket) (m : Manner) :
    Mirrors name directory w₀ (inMemory.answering m) (inBucket.answering m) :=
  ⟨h.memory, h.bucket, h.inDirectory, ⟨h.faithful.failures, h.faithful.facts⟩, h.objects, h.outside,
    h.events⟩

/-- A bucket still mirrors memory after an object is got from both. -/
theorem get (h : Mirrors name directory w₀ inMemory inBucket) (hkey : IsBare key) :
    Mirrors name directory w₀ (after (Storing.get key) inMemory)
      (after (Storing.get key) inBucket) := by
  obtain ⟨events, hmemory, -⟩ := get_after key inMemory
  rw [hmemory, get_bucket h.bucket.1 h.bucket.2]
  refine ⟨h.memory, h.bucket, h.inDirectory, h.faithful, h.objects, h.outside, h.events_of_mem ?_⟩
  simp [StaysIn, h.liesIn hkey]

theorem perform (h : Mirrors name directory w₀ inMemory inBucket) {s : Step} (hs : s.IsPlain) :
    Mirrors name directory w₀ (s.perform inMemory) (s.perform inBucket) := by
  cases s with
  | put key body contentType => exact h.put hs.1 body hs.2
  | get key m => exact (h.answering m).get hs
  | delete key => exact h.delete hs

/-- What is found in memory is found in the bucket, and nothing else. -/
theorem result_get (h : Mirrors name directory w₀ inMemory inBucket) (hkey : IsBare key)
    (m : Manner) : ∃ kept sent,
      result (Storing.get key) (inMemory.answering m) = .ok kept ∧
      result (Storing.get key) (inBucket.answering m) = .ok sent ∧
      Option.Rel StoredObject.Alike kept sent := by
  have hmemory : result (Storing.get key) (inMemory.answering m) =
      .ok ((inMemory.storage.memory.find? key).map fun o => .ofMemory key o.1 o.2) := by
    rw [Storing.get_result]
    simp only [World.answering, h.memory.1, h.memory.2]
    rfl
  have hbucket : result (Storing.get key) (inBucket.answering m) =
      .ok ((inMemory.storage.memory.find? key).map fun o =>
        (inBucket.bucket.answering m).sent key o.1 o.2) := by
    rw [Storing.get_result]
    simp only [World.answering, h.bucket.1, h.bucket.2]
    rw [Bucket.ofReply_get h.faithful, h.objects key hkey]
    rfl
  refine ⟨_, _, hmemory, hbucket, ?_⟩
  cases inMemory.storage.memory.find? key with
  | none => exact .none
  | some o => exact .some (Bucket.alike_sent _ key o.1 o.2)

end Mirrors

/-- A bucket that mirrors memory does so after any run. -/
theorem run_mirrors {name directory : String} {w₀ inMemory inBucket : World} {steps : List Step}
    (h : Mirrors name directory w₀ inMemory inBucket) (hsteps : ∀ s ∈ steps, s.IsPlain) :
    Mirrors name directory w₀ (run inMemory steps) (run inBucket steps) := by
  induction steps using List.reverseRecOn with
  | nil => exact h
  | append_singleton steps s ih =>
    rw [run_snoc, run_snoc]
    have hbefore := ih fun t ht => hsteps t (List.mem_append_left _ ht)
    exact hbefore.perform (hsteps s (by simp))

/-- A text without slashes at its ends. -/
def stripped (text : String) : String := String.ofList (stripBy (· == '/') text.toList)

/-- A bucket that refuses nothing serves as memory does. The settings name it, and a directory in
it that may be any text; slashes at the ends of that count for nothing. The directory has no objects
to begin with. Then after any calls, with keys that do not start with a slash, every object is found
in the bucket exactly if it is found in memory, and it has the same size, content type and bytes, in
whatever manner the bucket answers. All requests to the bucket are for the directory or a key in it,
and objects elsewhere in the bucket stay as they are. -/
theorem bucket_serves_as_memory (s : Settings) (c : Connection) (name text : String) (w₀ : World)
    (steps : List Step) (huse : s.useS3 = true) (hname : s.s3BucketName = some name)
    (hnamed : name ≠ "") (hdirectory : Settings.asBareText (.text text) = .ok s.s3Prefix)
    (hconnected : c ≠ .refused) (houtage : w₀.outage = none) (hfaithful : w₀.bucket.IsFaithful)
    (hempty : ∀ key, LiesIn (stripped text) key → w₀.bucket.objects.find? key = none)
    (hsteps : ∀ step ∈ steps, step.IsPlain) :
    let inMemory := run (w₀.opening { s with useS3 := false } c) steps
    let inBucket := run (w₀.opening s c) steps
    (∀ key m, IsBare key → ∃ kept sent,
      result (get key) (inMemory.answering m) = .ok kept ∧
      result (get key) (inBucket.answering m) = .ok sent ∧
      Option.Rel StoredObject.Alike kept sent) ∧
    (∀ e ∈ inBucket.trace, e ∈ w₀.trace ∨ StaysIn name (stripped text) e) ∧
    ∀ key, ¬ LiesIn (stripped text) key →
      inBucket.bucket.objects.find? key = w₀.bucket.objects.find? key := by
  have hprefix : s.s3Prefix = stripped text := (Except.ok.inj hdirectory).symm
  have hopened : (World.openStorage s c).1 = ⟨[], some name, stripped text⟩ := by
    simp [World.openStorage, huse, hname, hnamed, hconnected, hprefix]
  have hstart : Mirrors name (stripped text) w₀ (w₀.opening { s with useS3 := false } c)
      (w₀.opening s c) := by
    refine ⟨⟨rfl, houtage⟩, ⟨congrArg Storage.bucket hopened, houtage⟩,
      congrArg Storage.directory hopened, hfaithful, fun key hkey => ?_, fun key _ => rfl,
      fun e he => .inl he⟩
    refine (hempty _ ?_).trans rfl
    show LiesIn (stripped text) ((World.openStorage s c).1.bucketKey key)
    rw [hopened]
    exact Storage.liesIn_bucketKey (s := ⟨[], some name, stripped text⟩) hkey
  have hmirrors := run_mirrors hstart hsteps
  exact ⟨fun key m hkey => hmirrors.result_get hkey m, hmirrors.events, hmirrors.outside⟩

/-- A bucket with an object elsewhere, and a directory that is written with slashes at its ends. An
object that is put is found again, though the bucket sends it byte by byte. -/
theorem bucket_serves_installer :
    let s := { Settings.default with
      useS3 := true, s3BucketName := some "releases", s3Prefix := "stable" }
    let elsewhere : Bucket := { Bucket.empty with objects := [("beta", (⟨#[0]⟩, none))] }
    let w₀ := { World.start 0 with bucket := elsewhere }
    let steps := [Step.put "desktop/app.zip" ⟨#[80, 75]⟩ (some "application/zip")]
    let m : Manner := ⟨1, [], .int 404, by simp [absentCodes]⟩
    ∃ kept sent,
      result (get "desktop/app.zip")
        ((run (w₀.opening { s with useS3 := false } .given) steps).answering m) = .ok kept ∧
      result (get "desktop/app.zip") ((run (w₀.opening s .given) steps).answering m) = .ok sent ∧
      Option.Rel StoredObject.Alike kept sent := by
  intro s elsewhere w₀ steps m
  refine (bucket_serves_as_memory s .given "releases" "/stable/" w₀ steps rfl rfl (by decide)
    (by decide +kernel) (by decide) rfl ⟨rfl, rfl⟩ (fun key hkey => ?_) ?_).1 _ m (by decide)
  · have hkey' : LiesIn "stable" key := hkey
    have hbeta : "beta" ≠ key := by
      rintro rfl
      rcases hkey' with h | h | ⟨rest, h⟩
      · exact absurd h (by decide)
      · exact absurd h (by decide)
      · exact absurd (congrArg (·.toList.head?) h) (by simp)
    simp [w₀, elsewhere, Dictionary.find?, hbeta]
  · simp [steps, Step.IsPlain, IsBare]

end Storing

end InstallerGateway
