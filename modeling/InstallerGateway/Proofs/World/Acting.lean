import InstallerGateway.Proofs.Result
import InstallerGateway.World.Storing
import Mathlib.Control.Monad.Basic
import Mathlib.Tactic.Simps.Basic

/-!
# What actions come to

An action is seen through its result and the world it leaves. Both are computed along its steps by
the equations below. Fetching an object notes what it does and changes nothing else, and its result
depends on the store alone.
-/

namespace InstallerGateway

namespace World

/-- The world with more events noted, the last one first. -/
@[simps]
def noting (events : List Event) (w : World) : World := { w with trace := events ++ w.trace }

@[simp] theorem noting_noting (earlier later : List Event) (w : World) :
    (w.noting earlier).noting later = w.noting (later ++ earlier) := by
  simp [noting]

/-- The world with other values in memory. -/
@[simps]
def withMemory (m : MemoryCache) (w : World) : World :=
  { w with cache := { w.cache with memory := m } }

end World

namespace Act

variable {α β : Type}

/-- The result of an action in a world. -/
def result (a : Act α) (w : World) : Except Fault α := (perform a w).1

/-- The world that an action leaves. -/
def after (a : Act α) (w : World) : World := (perform a w).2

theorem result_eq {a : Act α} {w w' : World} {r : Except Fault α} (h : perform a w = (r, w')) :
    result a w = r := congrArg Prod.fst h

theorem after_eq {a : Act α} {w w' : World} {r : Except Fault α} (h : perform a w = (r, w')) :
    after a w = w' := congrArg Prod.snd h

@[simp] theorem perform_pure (x : α) (w : World) : perform (pure x) w = (.ok x, w) := rfl

@[simp] theorem perform_get (w : World) :
    perform (MonadState.get : Act World) w = (.ok w, w) := rfl

@[simp] theorem perform_modify (f : World → World) (w : World) :
    perform (modify f : Act PUnit) w = (.ok (), f w) := rfl

@[simp] theorem perform_note (e : Event) (w : World) :
    perform (note e) w = (.ok (), w.noting [e]) := rfl

@[simp] theorem perform_report (r : AuditRecord) (w : World) :
    perform (report r) w = (.ok (), w.noting [.audit w.clock r]) := rfl

/-- An action after another takes place in the world that the first one leaves, unless this fails.
-/
theorem perform_bind (a : Act α) (f : α → Act β) (w : World) :
    perform (a >>= f) w =
      match perform a w with
      | (.ok x, w') => perform (f x) w'
      | (.error e, w') => (.error e, w') := by
  show (ExceptT.bindCont f (perform a w).1 : StateM World (Except Fault β)) (perform a w).2 = _
  rcases perform a w with ⟨_ | _, _⟩ <;> rfl

/-- After a step that succeeds the next one is performed. -/
theorem perform_bind_ok {a : Act α} {f : α → Act β} {w w' : World} {x : α}
    (h : perform a w = (.ok x, w')) : perform (a >>= f) w = perform (f x) w' := by
  rw [perform_bind, h]

/-- After a step with a result the next one is performed in the world that is left. -/
theorem perform_bind_of_ok {a : Act α} {f : α → Act β} {w : World} {x : α}
    (h : result a w = .ok x) : perform (a >>= f) w = perform (f x) (after a w) :=
  perform_bind_ok (Prod.ext h rfl)

theorem result_bind_of_ok {a : Act α} {f : α → Act β} {w : World} {x : α}
    (h : result a w = .ok x) : result (a >>= f) w = result (f x) (after a w) :=
  congrArg Prod.fst (perform_bind_of_ok h)

theorem after_bind_of_ok {a : Act α} {f : α → Act β} {w : World} {x : α}
    (h : result a w = .ok x) : after (a >>= f) w = after (f x) (after a w) :=
  congrArg Prod.snd (perform_bind_of_ok h)

/-- After a step that fails nothing more is done. -/
theorem perform_bind_of_error {a : Act α} {f : α → Act β} {w : World} {e : Fault}
    (h : result a w = .error e) : perform (a >>= f) w = (.error e, after a w) := by
  have ha : perform a w = (.error e, after a w) := Prod.ext h rfl
  rw [perform_bind, ha]

/-- Steps succeed exactly if they do so one after the other. -/
theorem result_bind_eq_ok_iff {a : Act α} {f : α → Act β} {w : World} {y : β} :
    result (a >>= f) w = .ok y ↔
      ∃ x, result a w = .ok x ∧ result (f x) (after a w) = .ok y := by
  cases hr : result a w with
  | error e =>
    have hp : result (a >>= f) w = .error e := result_eq (perform_bind_of_error hr)
    simp [hp]
  | ok x =>
    simp [result_bind_of_ok hr]

/-- If an action after another succeeds, so has the first one. -/
theorem result_bind_eq_ok {a : Act α} {f : α → Act β} {w : World} {y : β}
    (h : result (a >>= f) w = .ok y) :
    ∃ x, result a w = .ok x ∧ result (f x) (after a w) = .ok y := result_bind_eq_ok_iff.mp h

/-- What an action notes, the last event first. -/
def noted (a : Act α) (w : World) : List Event :=
  (after a w).trace.take ((after a w).trace.length - w.trace.length)

theorem noted_eq {a : Act α} {w : World} {events : List Event}
    (h : (after a w).trace = events ++ w.trace) : noted a w = events := by
  unfold noted
  rw [h, List.length_append, Nat.add_sub_cancel, List.take_left]

/-! ## Parts of the world that remain -/

variable {γ : Type} {part : World → γ}

/-- The action leaves a part of the world as it is. -/
def Keeps (part : World → γ) (a : Act α) : Prop := ∀ w, part (after a w) = part w

theorem keeps_pure (x : α) : Keeps part (pure x : Act α) := fun _ => rfl

theorem keeps_throw (f : Fault) : Keeps part (throw f : Act α) := fun _ => rfl

theorem keeps_get : Keeps part (MonadState.get : Act World) := fun _ => rfl

theorem keeps_note (h : ∀ events w, part (World.noting events w) = part w) (e : Event) :
    Keeps part (note e) := fun w => h [e] w

theorem keeps_modify {f : World → World} (h : ∀ w, part (f w) = part w) :
    Keeps part (modify f : Act PUnit) := h

theorem keeps_report (h : ∀ events w, part (World.noting events w) = part w) (r : AuditRecord) :
    Keeps part (report r) := fun w => h [.audit w.clock r] w

/-- If the steps after the first one leave a part as it is, it is what the first one leaves. -/
theorem part_after_bind {a : Act α} {f : α → Act β} (hf : ∀ x, Keeps part (f x)) (w : World) :
    part (after (a >>= f) w) = part (after a w) := by
  cases hr : result a w with
  | error e => rw [after_eq (perform_bind_of_error hr)]
  | ok x =>
    rw [after_bind_of_ok hr, hf]

theorem keeps_bind {a : Act α} {f : α → Act β} (ha : Keeps part a) (hf : ∀ x, Keeps part (f x)) :
    Keeps part (a >>= f) := fun w => (part_after_bind hf w).trans (ha w)

/-- The part of the world depends neither on what is noted nor on the clock. -/
structure IsLasting (part : World → γ) : Prop where
  noting : ∀ events w, part (World.noting events w) = part w
  advance : ∀ seconds w, part (World.advance seconds w) = part w

theorem isLasting_cache : IsLasting World.cache := ⟨fun _ _ => rfl, fun _ _ => rfl⟩

theorem isLasting_storage : IsLasting World.storage := ⟨fun _ _ => rfl, fun _ _ => rfl⟩

/-- The part of the world does not depend on the objects that are kept either. -/
structure IsBesideObjects (part : World → γ) : Prop extends IsLasting part where
  storage : ∀ s w, part { w with storage := s } = part w
  bucket : ∀ b w, part { w with bucket := b } = part w

theorem isBesideObjects_cache : IsBesideObjects World.cache :=
  ⟨isLasting_cache, fun _ _ => rfl, fun _ _ => rfl⟩

theorem isBesideObjects_outage : IsBesideObjects World.outage :=
  ⟨⟨fun _ _ => rfl, fun _ _ => rfl⟩, fun _ _ => rfl, fun _ _ => rfl⟩

/-- The part of the world does not depend on the resolved keys that are kept either. -/
structure IsBesideStores (part : World → γ) : Prop extends IsBesideObjects part where
  memory : ∀ m w, part (World.withMemory m w) = part w
  table : ∀ t w, part { w with table := t } = part w

theorem isBesideStores_outage : IsBesideStores World.outage :=
  ⟨isBesideObjects_outage, fun _ _ => rfl, fun _ _ => rfl⟩

theorem isBesideStores_hosts : IsBesideStores World.hosts :=
  ⟨⟨⟨fun _ _ => rfl, fun _ _ => rfl⟩, fun _ _ => rfl, fun _ _ => rfl⟩, fun _ _ => rfl,
    fun _ _ => rfl⟩

theorem isBesideStores_table : IsBesideStores fun w => w.cache.table :=
  ⟨⟨⟨fun _ _ => rfl, fun _ _ => rfl⟩, fun _ _ => rfl, fun _ _ => rfl⟩, fun _ _ => rfl,
    fun _ _ => rfl⟩

theorem isBesideStores_windows : IsBesideStores World.windows :=
  ⟨⟨⟨fun _ _ => rfl, fun _ _ => rfl⟩, fun _ _ => rfl, fun _ _ => rfl⟩, fun _ _ => rfl,
    fun _ _ => rfl⟩

theorem isBesideStores_statistics : IsBesideStores World.statistics :=
  ⟨⟨⟨fun _ _ => rfl, fun _ _ => rfl⟩, fun _ _ => rfl, fun _ _ => rfl⟩, fun _ _ => rfl,
    fun _ _ => rfl⟩

end Act

/-- What manifests are found through is the same in two worlds: the store and the table of
platforms. -/
structure World.SameSources (w w' : World) : Prop where
  /-- The objects in memory, and whether there is a bucket. -/
  storage : w'.storage = w.storage
  /-- The bucket. -/
  bucket : w'.bucket = w.bucket
  /-- Whether the store is out of order. -/
  outage : w'.outage = w.outage
  /-- The table of platforms. -/
  table : w'.platforms.table = w.platforms.table

theorem World.SameSources.symm {w₁ w₂ : World} (h : w₁.SameSources w₂) : w₂.SameSources w₁ :=
  ⟨h.storage.symm, h.bucket.symm, h.outage.symm, h.table.symm⟩

theorem World.SameSources.trans {w₁ w₂ w₃ : World} (h : w₁.SameSources w₂)
    (h' : w₂.SameSources w₃) : w₁.SameSources w₃ :=
  ⟨h'.storage.trans h.storage, h'.bucket.trans h.bucket, h'.outage.trans h.outage,
    h'.table.trans h.table⟩

/-- Two worlds are at the same instant, and manifests are found through the same in both. -/
structure World.SameMoment (w w' : World) : Prop extends World.SameSources w w' where
  /-- The present instant. -/
  clock : w'.clock = w.clock

theorem World.SameMoment.trans {w₁ w₂ w₃ : World} (h : w₁.SameMoment w₂)
    (h' : w₂.SameMoment w₃) : w₁.SameMoment w₃ :=
  ⟨h.toSameSources.trans h'.toSameSources, h'.clock.trans h.clock⟩

theorem World.sameMoment_noting (events : List Event) (w : World) :
    w.SameMoment (w.noting events) := ⟨⟨rfl, rfl, rfl, rfl⟩, rfl⟩

theorem World.sameMoment_withMemory (m : MemoryCache) (w : World) :
    w.SameMoment (w.withMemory m) := ⟨⟨rfl, rfl, rfl, rfl⟩, rfl⟩

namespace World

/-- What keeps objects: memory and the bucket. -/
def stores (w : World) : Storage × Bucket := (w.storage, w.bucket)

/-- The world in which an object is kept under a key. -/
def withObject (key : String) (body : ByteArray) (contentType : Option String) (w : World) :
    World :=
  match w.storage.bucket with
  | none =>
    { w with storage :=
      { w.storage with memory := w.storage.memory.put key (body, contentType) } }
  | some _ =>
    { w with bucket := w.bucket.put (w.storage.bucketKey key) body (Storing.declared contentType) }

/-- The world in which no object is kept under a key. -/
def withoutObject (key : String) (w : World) : World :=
  match w.storage.bucket with
  | none => { w with storage := { w.storage with memory := w.storage.memory.remove key } }
  | some _ =>
    { w with bucket :=
      { w.bucket with objects := w.bucket.objects.remove (w.storage.bucketKey key) } }

variable {w w' : World} {key : String}

/-- Putting an object changes stores that are the same alike. -/
theorem withObject_congr (h : w'.stores = w.stores) (key : String) (body : ByteArray)
    (contentType : Option String) :
    (w'.withObject key body contentType).stores = (w.withObject key body contentType).stores := by
  obtain ⟨hstorage, hbucket⟩ := Prod.mk.inj h
  unfold withObject
  rw [hstorage, hbucket]
  split <;> rfl

theorem withoutObject_congr (h : w'.stores = w.stores) (key : String) :
    (w'.withoutObject key).stores = (w.withoutObject key).stores := by
  obtain ⟨hstorage, hbucket⟩ := Prod.mk.inj h
  unfold withoutObject
  rw [hstorage, hbucket]
  split <;> rfl

theorem withObject_memory (h : w.storage.bucket = none) (key : String) (body : ByteArray)
    (contentType : Option String) : (w.withObject key body contentType).stores.1 =
      { w.storage with memory := w.storage.memory.put key (body, contentType) } := by
  unfold withObject
  split
  · rfl
  · rename_i hbucket
    cases h.symm.trans hbucket

theorem withoutObject_memory (h : w.storage.bucket = none) (key : String) :
    (w.withoutObject key).stores.1 =
      { w.storage with memory := w.storage.memory.remove key } := by
  unfold withoutObject
  split
  · rfl
  · rename_i hbucket
    cases h.symm.trans hbucket

end World

theorem Act.isLasting_stores : Act.IsLasting World.stores := ⟨fun _ _ => rfl, fun _ _ => rfl⟩

namespace Storing

open Act

/-- Fetching an object notes that it is asked for, and changes nothing else. -/
theorem get_after (key : String) (w : World) : ∃ events,
    after (get key) w = w.noting (events ++ [.storeGet key]) ∧
      ∀ e ∈ events, ∃ bucket inBucket, e = .bucketGet bucket inBucket := by
  unfold after get
  rw [perform_bind_ok (perform_note _ _), perform_bind_ok (perform_get _)]
  simp only [World.noting_outage, World.noting_storage, World.noting_bucket]
  rcases w.outage with _ | message
  · rcases w.storage.bucket with _ | bucket
    · exact ⟨[], rfl, by simp⟩
    · refine ⟨[.bucketGet bucket (w.storage.bucketKey key)], ?_, by simp⟩
      dsimp only
      rw [perform_bind_ok (perform_note _ _)]
      split <;> rfl
  · exact ⟨[], rfl, by simp⟩

/-- What is fetched, by the state of the store. -/
theorem get_result (key : String) (w : World) :
    result (get key) w =
      match w.outage with
      | some message => .error (.storage (.outage message))
      | none =>
        match w.storage.bucket with
        | none => .ok (w.storage.kept? key)
        | some _ =>
          (Storage.ofReply key (w.bucket.get (w.storage.bucketKey key))).mapError .storage := by
  unfold result get
  rw [perform_bind_ok (perform_note _ _), perform_bind_ok (perform_get _)]
  simp only [World.noting_outage, World.noting_storage, World.noting_bucket]
  rcases w.outage with _ | message
  · rcases w.storage.bucket with _ | bucket
    · rfl
    · dsimp only
      rw [perform_bind_ok (perform_note _ _)]
      rcases Storage.ofReply key (w.bucket.get (w.storage.bucketKey key)) with _ | _ <;> rfl
  · rfl

/-- What is fetched depends on the store alone. -/
theorem get_result_congr {w w' : World} (h : w.SameSources w') (key : String) :
    result (get key) w' = result (get key) w := by
  rw [get_result, get_result, h.outage, h.storage, h.bucket]

theorem get_keeps {γ : Type} {part : World → γ} (hp : IsLasting part) (key : String) :
    Keeps part (get key) := by
  intro w
  obtain ⟨events, hw, -⟩ := get_after key w
  rw [hw, hp.noting]

/-! ## Keeping and removing objects -/

section Keeping

variable {γ : Type} {part : World → γ}

theorem announce_keeps (hp : IsLasting part) (key : String) (contentType : Option String) :
    Keeps part (announce key contentType) := by
  unfold announce
  refine keeps_bind (keeps_note hp.noting _) fun _ => keeps_bind keeps_get fun w => ?_
  split
  · exact keeps_pure _
  · refine keeps_bind (keeps_note hp.noting _) fun _ => ?_
    split
    · exact keeps_throw _
    · exact keeps_pure _

/-- Keeping an object changes nothing but the objects. -/
theorem put_keeps (hp : IsBesideObjects part) (key : String) (body : ByteArray)
    (contentType : Option String) : Keeps part (put key body contentType) := by
  have hannounce := announce_keeps hp.toIsLasting key contentType
  refine keeps_bind hannounce fun _ => keeps_modify fun w => ?_
  split
  · exact hp.storage _ w
  · exact hp.bucket _ w

/-- Removing an object changes nothing but the objects. -/
theorem delete_keeps (hp : IsBesideObjects part) (key : String) : Keeps part (delete key) := by
  intro w
  unfold after delete
  rw [perform_bind_ok (perform_note _ _), perform_bind_ok (perform_get _)]
  dsimp only
  split
  · exact (hp.storage _ _).trans (hp.noting [.storeDelete key] w)
  · rename_i bucket _
    rw [perform_bind_ok (perform_note _ _), World.noting_noting]
    split
    · exact (hp.bucket _ _).trans (hp.noting _ w)
    · exact hp.noting _ w

end Keeping

/-! ### In memory or in a bucket -/

/-- Keeping an object fails and changes no objects, or the object is kept. -/
theorem put_cases (key : String) (body : ByteArray) (contentType : Option String) (w : World) :
    (∃ f, result (put key body contentType) w = .error f ∧
      (after (put key body contentType) w).stores = w.stores) ∨
    result (put key body contentType) w = .ok () ∧
      (after (put key body contentType) w).stores = (w.withObject key body contentType).stores := by
  have hannounce := announce_keeps isLasting_stores key contentType w
  cases hr : result (announce key contentType) w with
  | error f =>
    have hp : perform (put key body contentType) w = _ := perform_bind_of_error hr
    rw [result_eq hp, after_eq hp]
    exact .inl ⟨f, rfl, hannounce⟩
  | ok _ =>
    have hp : perform (put key body contentType) w =
        (.ok (), (after (announce key contentType) w).withObject key body contentType) :=
      perform_bind_of_ok hr
    rw [result_eq hp, after_eq hp]
    exact .inr ⟨rfl, World.withObject_congr hannounce key body contentType⟩

/-- Removing an object fails and changes no objects, or the object is removed. -/
theorem delete_cases (key : String) (w : World) :
    (∃ f, result (delete key) w = .error f ∧ (after (delete key) w).stores = w.stores) ∨
    result (delete key) w = .ok () ∧
      (after (delete key) w).stores = (w.withoutObject key).stores := by
  unfold result after delete
  rw [perform_bind_ok (perform_note _ _), perform_bind_ok (perform_get _)]
  unfold World.withoutObject
  cases hbucket : w.storage.bucket with
  | none =>
    simp only [World.noting_storage, hbucket]
    exact .inr ⟨rfl, rfl⟩
  | some bucket =>
    simp only [World.noting_storage, World.noting_bucket, hbucket]
    rw [perform_bind_ok (perform_note _ _)]
    unfold Bucket.delete?
    cases w.bucket.failures.delete with
    | true => exact .inl ⟨_, rfl, rfl⟩
    | false => exact .inr ⟨rfl, rfl⟩

/-! ### In memory -/

section InMemory

variable {w : World}

theorem announce_memory (h : w.storage.bucket = none) (key : String) (contentType : Option String) :
    perform (announce key contentType) w = (.ok (), w.noting [.storePut key]) := by
  unfold announce
  rw [perform_bind_ok (perform_note _ _), perform_bind_ok (perform_get _)]
  simp only [World.noting_storage, h]
  rfl

/-- Without a bucket, an object is put in memory. -/
theorem put_memory (h : w.storage.bucket = none) (key : String) (body : ByteArray)
    (contentType : Option String) :
    result (put key body contentType) w = .ok () ∧ (after (put key body contentType) w).storage =
      { w.storage with memory := w.storage.memory.put key (body, contentType) } := by
  have hp : perform (put key body contentType) w = _ :=
    (perform_bind_ok (announce_memory h key contentType)).trans (perform_modify _ _)
  rw [result_eq hp, after_eq hp]
  refine ⟨rfl, ?_⟩
  simp only [World.noting_storage, h]

/-- Without a bucket, an object is deleted from memory. -/
theorem delete_memory (h : w.storage.bucket = none) (key : String) :
    result (delete key) w = .ok () ∧ (after (delete key) w).storage =
      { w.storage with memory := w.storage.memory.remove key } := by
  unfold result after delete
  rw [perform_bind_ok (perform_note _ _), perform_bind_ok (perform_get _)]
  simp only [World.noting_storage, h]
  exact ⟨rfl, rfl⟩

end InMemory

end Storing

/-!
## The audit log

What the audit log tells is read off the trace: the records that were reported, the first one first.
-/

/-- The record is marked as an alert about security. -/
def AuditRecord.isAlert (r : AuditRecord) : Bool :=
  match r.extras.find? "alert_type" with
  | some (.text kind) => kind == "security"
  | _ => false

/-- The record that an event reports, if it reports one. -/
def Event.record? : Event → Option AuditRecord
  | .audit _ record => some record
  | _ => none

/-- The records that events report, the first one first. Of events, the last one comes first. -/
def records (events : List Event) : List AuditRecord := events.reverse.filterMap Event.record?

@[simp] theorem records_nil : records [] = [] := rfl

@[simp] theorem records_append (later earlier : List Event) :
    records (later ++ earlier) = records earlier ++ records later := by
  simp [records]

theorem records_cons (e : Event) (earlier : List Event) :
    records (e :: earlier) = records earlier ++ e.record?.toList := by
  cases h : e.record? <;> simp [records, h]

/-- The alerts among the records that events report. -/
def alerts (events : List Event) : List AuditRecord := (records events).filter AuditRecord.isAlert

theorem alerts_append (later earlier : List Event) :
    alerts (later ++ earlier) = alerts earlier ++ alerts later := by
  simp [alerts]

/-- All that the audit log tells. -/
def World.auditLog (w : World) : List AuditRecord := records w.trace

@[simp] theorem World.auditLog_noting (events : List Event) (w : World) :
    (w.noting events).auditLog = w.auditLog ++ records events := by
  simp [auditLog]

end InstallerGateway
