import InstallerGateway.Proofs.World.Acting
import InstallerGateway.World.Resolving

/-!
# What actions note

Everything that an action does to the store, to resolved keys and to other hosts is noted, so what
it may do is said of its notes. The notes of an action are those of its steps.
-/

namespace InstallerGateway

/-- The event reaches the store, resolved keys or another host. -/
def Event.isAccess : Event → Bool
  | .storeGet _ | .storePut _ | .storeDelete _ | .bucketGet .. | .bucketPut .. | .bucketDelete ..
  | .cacheGet _ | .cachePut _ | .tableGet _ | .tablePut _ | .fetch .. => true
  | _ => false

/-- The event changes the store. -/
def Event.isStoreChange : Event → Bool
  | .storePut _ | .storeDelete _ | .bucketPut .. | .bucketDelete .. => true
  | _ => false

namespace Act

variable {α β : Type} {kind kind' : Event → Prop}

/-- Everything that the action notes is of a kind. -/
def Notes (kind : Event → Prop) (a : Act α) : Prop :=
  ∀ w, ∃ events, (after a w).trace = events ++ w.trace ∧ ∀ e ∈ events, kind e

theorem Notes.mono {a : Act α} (h : Notes kind a) (himp : ∀ e, kind e → kind' e) :
    Notes kind' a := by
  intro w
  obtain ⟨events, ht, he⟩ := h w
  exact ⟨events, ht, fun e hmem => himp e (he e hmem)⟩

theorem notes_of_keeps {a : Act α} (h : Keeps World.trace a) : Notes kind a :=
  fun w => ⟨[], h w, nofun⟩

theorem notes_pure (x : α) : Notes kind (pure x : Act α) := notes_of_keeps (keeps_pure x)

theorem notes_throw (f : Fault) : Notes kind (throw f : Act α) := notes_of_keeps (keeps_throw f)

theorem notes_get : Notes kind (MonadState.get : Act World) := notes_of_keeps keeps_get

theorem notes_note {e : Event} (h : kind e) : Notes kind (note e) :=
  fun w => ⟨[e], rfl, by simpa using h⟩

theorem notes_report {r : AuditRecord} (h : ∀ now, kind (.audit now r)) : Notes kind (report r) :=
  fun w => ⟨[.audit w.clock r], rfl, by simpa using h w.clock⟩

/-- Actions one after the other note what each of them notes. -/
theorem notes_bind {a : Act α} {f : α → Act β} (ha : Notes kind a) (hf : ∀ x, Notes kind (f x)) :
    Notes kind (a >>= f) := by
  intro w
  obtain ⟨first, hfirst, hk⟩ := ha w
  cases hr : result a w with
  | error e =>
    rw [after_eq (perform_bind_of_error hr)]
    exact ⟨first, hfirst, hk⟩
  | ok x =>
    obtain ⟨more, hmore, hk'⟩ := hf x (after a w)
    refine ⟨more ++ first, ?_, ?_⟩
    · rw [after_bind_of_ok hr, hmore, hfirst, List.append_assoc]
    · intro e hmem
      rcases List.mem_append.mp hmem with h | h
      · exact hk' e h
      · exact hk e h

end Act

open Act

/-- Whatever the action notes, no event changes the store. -/
abbrev Act.SparesStore {α : Type} (a : Act α) : Prop := Notes (fun e => e.isStoreChange = false) a

/-- Whatever the action notes, something is asked for, and the store is not changed. -/
abbrev Act.OnlyReads {α : Type} (a : Act α) : Prop :=
  Notes (fun e => e.isAccess = true ∧ e.isStoreChange = false) a

namespace Storing

theorem get_onlyReads (key : String) : OnlyReads (get key) := by
  intro w
  obtain ⟨events, hw, he⟩ := get_after key w
  refine ⟨events ++ [.storeGet key], by rw [hw, World.noting_trace], ?_⟩
  intro e hmem
  rcases List.mem_append.mp hmem with h | h
  · obtain ⟨bucket, inBucket, rfl⟩ := he e h
    exact ⟨rfl, rfl⟩
  · rw [List.mem_singleton.mp h]
    exact ⟨rfl, rfl⟩

theorem get_sparesStore (key : String) : SparesStore (get key) :=
  (get_onlyReads key).mono fun _ he => he.2

theorem announce_notes (key : String) (contentType : Option String) :
    Notes (fun e => e.isAccess = true) (announce key contentType) := by
  refine notes_bind (notes_note rfl) fun _ => notes_bind notes_get fun w => ?_
  split
  · exact notes_pure _
  · refine notes_bind (notes_note rfl) fun _ => ?_
    split
    · exact notes_throw _
    · exact notes_pure _

theorem put_notes (key : String) (body : ByteArray) (contentType : Option String) :
    Notes (fun e => e.isAccess = true) (put key body contentType) := by
  refine notes_bind (announce_notes key contentType) fun _ => notes_of_keeps ?_
  exact keeps_modify fun w => by split <;> rfl

/-- Deleting an object notes access alone. -/
theorem delete_notes (key : String) : Notes (fun e => e.isAccess = true) (delete key) := by
  intro w
  unfold after delete
  rw [perform_bind_ok (perform_note _ _), perform_bind_ok (perform_get _)]
  dsimp only
  split
  · exact ⟨[.storeDelete key], rfl, by simp [Event.isAccess]⟩
  · rename_i bucket _
    rw [perform_bind_ok (perform_note _ _)]
    split
    · exact ⟨[.bucketDelete bucket _, .storeDelete key], rfl, by simp [Event.isAccess]⟩
    · exact ⟨[.bucketDelete bucket _, .storeDelete key], rfl, by simp [Event.isAccess]⟩

end Storing

namespace Caching

theorem fromMemory_keeps_trace (token : String) : Keeps World.trace (fromMemory token) :=
  fun _ => rfl

theorem remember_keeps_trace (token value : String) (seconds : Datum) :
    Keeps World.trace (remember token value seconds) := by
  intro w
  unfold after remember
  rw [perform_bind_ok (perform_get _)]
  split
  · split <;> rfl
  · rfl

theorem get_sparesStore (token : String) : SparesStore (get token) := by
  refine notes_bind (notes_note rfl) fun _ => notes_bind notes_get fun w => ?_
  split
  · exact notes_of_keeps (fromMemory_keeps_trace token)
  · refine notes_bind (notes_note rfl) fun _ => ?_
    have failed (table reason : String) : SparesStore (do
        Act.report (tableAlert "dynamodb_cache_get_failed" table token reason)
        fromMemory token) :=
      notes_bind (notes_report fun _ => rfl) fun _ =>
        notes_of_keeps (fromMemory_keeps_trace token)
    dsimp only
    split
    · exact failed _ _
    · refine notes_bind (notes_report fun _ => rfl) fun _ => ?_
      split
      · exact failed _ _
      · exact notes_pure _

theorem put_sparesStore (token value : String) (seconds : Datum) :
    SparesStore (put token value seconds) := by
  refine notes_bind (notes_note rfl) fun _ => notes_bind notes_get fun w => ?_
  split
  · exact notes_of_keeps (remember_keeps_trace token value seconds)
  · have failed (table reason : String) : SparesStore (do
        Act.report (tableAlert "dynamodb_cache_put_failed" table token reason)
        remember token value seconds) :=
      notes_bind (notes_report fun _ => rfl) fun _ =>
        notes_of_keeps (remember_keeps_trace token value seconds)
    dsimp only
    split
    · exact failed _ _
    · refine notes_bind (notes_note rfl) fun _ => ?_
      split
      · exact failed _ _
      · exact notes_bind (notes_of_keeps (keeps_modify fun _ => rfl)) fun _ =>
          notes_report fun _ => rfl

end Caching

namespace Resolving

/-- Asking for a manifest changes nothing in the store. -/
theorem fetch_sparesStore (d : KeyDescriptor) : SparesStore (fetch d) := by
  refine notes_bind notes_get fun w => ?_
  have givenUp (f : ResolutionFault) : SparesStore (givenUp d f) :=
    notes_bind (notes_note rfl) fun _ => notes_pure _
  split
  · exact givenUp _
  · refine notes_bind (Storing.get_sparesStore _) fun o => ?_
    split
    · exact notes_pure _
    · exact givenUp _
    · exact notes_throw _

theorem settle_sparesStore (usual : Int) (d : KeyDescriptor) (concrete : Option String) :
    SparesStore (settle usual d concrete) := by
  cases concrete with
  | none => exact notes_pure _
  | some key => exact notes_bind (Caching.put_sparesStore _ _ _) fun _ => notes_pure _

/-- Resolving a key changes nothing in the store. -/
theorem resolve_sparesStore (usual : Int) (d : KeyDescriptor) :
    SparesStore (resolve usual d) := by
  unfold resolve
  split
  · exact notes_pure _
  · have lookup : SparesStore (Caching.lookup d.extension) :=
      notes_bind (Caching.get_sparesStore _) fun _ => notes_pure _
    refine notes_bind lookup fun found => ?_
    cases found with
    | some key => exact notes_pure _
    | none => exact notes_bind (fetch_sparesStore d) fun _ => settle_sparesStore usual d _

end Resolving

end InstallerGateway
