import InstallerGateway.Proofs.Gateway.Mediation
import InstallerGateway.Proofs.Gateway.Run
import Mathlib.Data.List.Induction

/-!
# What requests do to the store

With objects in memory, a request changes the store only if it is a `PUT` or a `DELETE` that is
answered with status 200: the one sets its key to the body, the other removes its key, and nothing
else changes. So whatever goes wrong on the way leaves the store as it was, and only usable keys are
ever kept.
-/

namespace InstallerGateway

open Act

/-- The world with these objects, which are kept in memory. -/
def World.holding (objects : Dictionary (ByteArray × Option String)) (w : World) : World :=
  { w with storage := ⟨objects, none, w.storage.directory⟩ }

/-- The body is received as it is sent if its length is declared. -/
theorem Request.received?_of_declared {r : Request} (h : r.contentLength? = some r.body.size) :
    r.received? = some r.body := by
  unfold received?
  rw [h]
  simp

namespace Gateway

variable {g : Gateway} {r : Request} {w : World} {key : String}

/-- Reading an object leaves alone what resolving keys leaves alone. -/
theorem read_keeps {γ : Type} {part : World → γ} (hp : IsLasting part)
    (hresolve : ∀ usual d, Keeps part (Resolving.resolve usual d)) (g : Gateway) (r : Request)
    (key : String) : Keeps part (g.read r key) := by
  unfold read
  split
  · exact passOn_keeps hp g key
  · refine keeps_bind (hresolve _ _) fun resolved => ?_
    refine keeps_bind (Storing.get_keeps hp resolved) fun found => ?_
    cases found with
    | none => exact keeps_pure _
    | some o => exact sendObject_keeps hp g r _ o

/-- Serving an object changes nothing but the objects and the resolved keys that are kept. -/
theorem serveObject_keeps {γ : Type} {part : World → γ} (hp : IsBesideStores part) (g : Gateway)
    (r : Request) (key : String) : Keeps part (g.serveObject r key) := by
  unfold serveObject
  split
  · exact keeps_pure _
  · split
    · exact forbid_keeps hp.toIsLasting g r key
    · split
      · exact keep_keeps hp.toIsBesideObjects r key
      · split
        · exact remove_keeps hp.toIsBesideObjects key
        · exact read_keeps hp.toIsLasting (Resolving.resolve_keeps hp) g r key

/-- Answering a request changes nothing but the objects, the resolved keys and the records that are
kept. -/
theorem answer_keeps {γ : Type} {part : World → γ} (hp : IsBesideStores part)
    (hwindows : ∀ windows w, part (World.withWindows windows w) = part w)
    (hstatistics : ∀ s w, part { w with statistics := s } = part w) (g : Gateway) (r : Request)
    (w : World) : part (g.answer r w).2 = part w := by
  obtain ⟨response, fields, w', events, hcourse, -, hw⟩ := answer_course g r w
  rw [hw, hp.noting]
  cases hcourse with
  | error windows _ => exact hwindows windows w
  | health windows _ => exact hwindows windows w
  | @served key windows _ _ =>
    rw [timed_snd, hstatistics, serveObject_keeps hp, hwindows]

/-- Requests do not put the store out of order. -/
theorem answer_outage (g : Gateway) (r : Request) (w : World) :
    (g.answer r w).2.outage = w.outage :=
  answer_keeps isBesideStores_outage (fun _ _ => rfl) (fun _ _ => rfl) g r w

theorem answer_hosts (g : Gateway) (r : Request) (w : World) :
    (g.answer r w).2.hosts = w.hosts :=
  answer_keeps isBesideStores_hosts (fun _ _ => rfl) (fun _ _ => rfl) g r w

/-- How a request that is answered with a status changes the store. -/
inductive StoreEffect (r : Request) (key : String) (s : Storage) : Nat → Storage → Prop where
  | kept {body : ByteArray} (hput : r.method = "PUT") (hbody : r.received? = some body) :
      StoreEffect r key s 200
        { s with memory := s.memory.put key (body, some (uploadType r key)) }
  | removed (hdelete : r.method = "DELETE") :
      StoreEffect r key s 200 { s with memory := s.memory.remove key }
  | unchanged {status : Nat} (h : Access.isWrite r.method = true → status ≠ 200) :
      StoreEffect r key s status s

section Reading

variable {s s' : Storage} {status : Nat}

/-- An upload that succeeds has put its body under its key. -/
theorem StoreEffect.of_put (h : StoreEffect r key s 200 s') (hput : r.method = "PUT") :
    ∃ body, r.received? = some body ∧
      s' = { s with memory := s.memory.put key (body, some (uploadType r key)) } := by
  cases h with
  | kept _ hbody => exact ⟨_, hbody, rfl⟩
  | removed hdelete => simp [hput] at hdelete
  | unchanged h => exact absurd rfl (h (by simp [Access.isWrite, hput]))

theorem StoreEffect.of_delete (h : StoreEffect r key s 200 s') (hdelete : r.method = "DELETE") :
    s' = { s with memory := s.memory.remove key } := by
  cases h with
  | kept hput _ => simp [hdelete] at hput
  | removed _ => rfl
  | unchanged h => exact absurd rfl (h (by simp [Access.isWrite, hdelete]))

theorem StoreEffect.of_other (h : StoreEffect r key s status s')
    (hother : Access.isWrite r.method = true → status ≠ 200) : s' = s := by
  cases h with
  | kept hput _ => exact absurd rfl (hother (by simp [Access.isWrite, hput]))
  | removed hdelete => exact absurd rfl (hother (by simp [Access.isWrite, hdelete]))
  | unchanged _ => rfl

theorem StoreEffect.bucket (h : StoreEffect r key s status s') : s'.bucket = s.bucket := by
  cases h <;> rfl

theorem StoreEffect.find?_of_ne (h : StoreEffect r key s status s') {other : String}
    (hne : key ≠ other) : s'.memory.find? other = s.memory.find? other := by
  cases h with
  | kept _ _ => exact Dictionary.find?_put_of_ne hne _ _
  | removed _ => exact Dictionary.find?_remove_of_ne hne _
  | unchanged _ => rfl

end Reading

/-- How a request that is answered with a status changes the objects that are kept, wherever they
are. -/
inductive ObjectEffect (r : Request) (key : String) (w : World) :
    Nat → Storage × Bucket → Prop where
  | kept {body : ByteArray} (hput : r.method = "PUT") (hbody : r.received? = some body) :
      ObjectEffect r key w 200 (w.withObject key body (some (uploadType r key))).stores
  | removed (hdelete : r.method = "DELETE") : ObjectEffect r key w 200 (w.withoutObject key).stores
  | unchanged {status : Nat} (h : Access.isWrite r.method = true → status ≠ 200) :
      ObjectEffect r key w status w.stores

theorem ObjectEffect.of_same {w' : World} {status : Nat} {stores : Storage × Bucket}
    (h : ObjectEffect r key w' status stores) (hsame : w'.stores = w.stores) :
    ObjectEffect r key w status stores := by
  cases h with
  | kept hput hbody =>
    rw [World.withObject_congr hsame]
    exact .kept hput hbody
  | removed hdelete =>
    rw [World.withoutObject_congr hsame]
    exact .removed hdelete
  | unchanged h =>
    rw [hsame]
    exact .unchanged h

/-- With objects in memory, the bucket does not matter. -/
theorem ObjectEffect.inMemory {w' : World} {status : Nat} (h : w.storage.bucket = none)
    (heffect : ObjectEffect r key w status w'.stores) :
    StoreEffect r key w.storage status w'.storage := by
  have hstorage : w'.stores.1 = w'.storage := rfl
  rw [← hstorage]
  generalize w'.stores = stores at heffect
  cases heffect with
  | kept hput hbody =>
    rw [World.withObject_memory h]
    exact .kept hput hbody
  | removed hdelete =>
    rw [World.withoutObject_memory h]
    exact .removed hdelete
  | unchanged h => exact .unchanged h

theorem ending_error_status (f : Fault) : (ending (.error f)).response.status ≠ 200 :=
  show failure.status ≠ 200 by decide

/-- An upload has its effect on the store, or none if it fails. -/
theorem keep_effect (hput : r.method = "PUT") :
    ObjectEffect r key w (ending (result (keep r key) w)).response.status
      (after (keep r key) w).stores := by
  unfold keep
  cases hbody : r.received? with
  | none =>
    have hannounce := Storing.announce_keeps isLasting_stores key (some (uploadType r key))
    have hkeeps : Keeps World.stores (do
        Storing.announce key (some (uploadType r key))
        return ⟨badRequest, false⟩ : Act Answer) :=
      keeps_bind hannounce fun _ => keeps_pure _
    dsimp only
    rw [hkeeps]
    refine .unchanged fun _ => ?_
    cases hr : result (Storing.announce key (some (uploadType r key))) w with
    | error f =>
      rw [result_eq (perform_bind_of_error hr)]
      exact ending_error_status f
    | ok _ =>
      rw [result_bind_of_ok hr]
      show badRequest.status ≠ 200
      decide
  | some body =>
    dsimp only
    rcases Storing.put_cases key body (some (uploadType r key)) w with ⟨f, hr, hs⟩ | ⟨hr, hs⟩
    · have hp : perform (do
          Storing.put key body (some (uploadType r key))
          Act.report <| .event "object_put"
            [("key", .text key), ("content_type", .text (uploadType r key))]
          return .full (.plain ("Put " ++ key ++ " successfully!")) : Act Answer) w = _ :=
        perform_bind_of_error hr
      rw [result_eq hp, after_eq hp, hs]
      exact .unchanged fun _ => ending_error_status f
    · have heffect : ObjectEffect r key w 200 _ := .kept hput hbody
      rw [← hs] at heffect
      rw [result_bind_of_ok hr, after_bind_of_ok hr]
      exact heffect

/-- A deletion has its effect on the store, or none if it fails. -/
theorem remove_effect (hdelete : r.method = "DELETE") :
    ObjectEffect r key w (ending (result (remove key) w)).response.status
      (after (remove key) w).stores := by
  rcases Storing.delete_cases key w with ⟨f, hr, hs⟩ | ⟨hr, hs⟩
  · have hp : perform (remove key) w = _ := perform_bind_of_error hr
    rw [result_eq hp, after_eq hp, hs]
    exact .unchanged fun _ => ending_error_status f
  · have hp : perform (remove key) w = _ := perform_bind_of_ok hr
    rw [result_eq hp, after_eq hp]
    have heffect : ObjectEffect r key w 200 _ := .removed hdelete
    rw [← hs] at heffect
    exact heffect

theorem read_keeps_stores (g : Gateway) (r : Request) (key : String) :
    Keeps World.stores (g.read r key) := by
  refine read_keeps isLasting_stores (fun usual d w => ?_) g r key
  have hsame := Resolving.resolve_sameMoment usual d w
  exact congrArg₂ Prod.mk hsame.storage hsame.bucket

/-- A request for an object has its effect on the store, or none if it fails. -/
theorem serveObject_effect (g : Gateway) (r : Request) (key : String) (w : World) :
    ObjectEffect r key w (ending (result (g.serveObject r key) w)).response.status
      (after (g.serveObject r key) w).stores := by
  by_cases hmay : g.MayServe r key
  · unfold serveObject
    rw [if_neg (by simp [hmay.isServed]), if_neg (by simp [authorizes_iff.mpr hmay])]
    split
    · exact keep_effect ‹_›
    · split
      · exact remove_effect ‹_›
      · rename_i hput hdelete
        rw [read_keeps_stores g r key w]
        exact .unchanged fun hw => by simp [Access.isWrite, hput, hdelete] at hw
  · obtain ⟨herror, hdiff⟩ := serveObject_of_not_mayServe (w := w) hmay
    rw [hdiff]
    have hstatus := herror.status
    exact .unchanged fun _ => by omega

/-- Nothing is changed by asking for the health of the gateway. -/
theorem isWrite_of_health {method path : String} (h : Route.ofRequest method path = .health) :
    Access.isWrite method = false := by
  unfold Route.ofRequest at h
  dsimp only at h
  split at h
  · rename_i hhealth
    have hmethod : method ∈ Route.healthMethods := by
      simpa using (Bool.and_eq_true_iff.mp hhealth).2
    have hreads : ∀ m ∈ Route.healthMethods, Access.isWrite m = false := by decide
    exact hreads method hmethod
  · split at h
    · cases h
    · split at h <;> cases h

/-- What a request does to the objects that are kept: it has the effect of its method on the usable
key that it is for, or none. -/
theorem answer_objects (g : Gateway) (r : Request) (w : World) :
    (∃ key, Route.ofRequest r.method r.path = .object key ∧
      (Access.isWrite r.method = true → Key.isValid key = true) ∧
      ObjectEffect r key w (g.answer r w).1.status (g.answer r w).2.stores) ∨
    (g.answer r w).2.stores = w.stores ∧
      (Access.isWrite r.method = true → (g.answer r w).1.status ≠ 200) := by
  obtain ⟨response, fields, w', events, hcourse, hresponse, hw⟩ := answer_course g r w
  rw [hresponse, hw, isLasting_stores.noting]
  cases hcourse with
  | error windows herror =>
    have hstatus := herror.status
    exact .inr ⟨rfl, fun _ => show response.status ≠ 200 by omega⟩
  | health windows hhealth =>
    refine .inr ⟨rfl, fun hwrite => ?_⟩
    cases hwrite.symm.trans (isWrite_of_health hhealth)
  | @served key windows hroute hvalid =>
    refine .inl ⟨key, hroute, fun hwrite => isValid_of_refusal (by simp [hwrite]) hvalid, ?_⟩
    show ObjectEffect r key w
      (timed (g.serveObject r key) (w.withWindows windows)).1.status _
    rw [timed_fst, timed_snd]
    exact (serveObject_effect g r key (w.withWindows windows)).of_same rfl

/-- What a request does to the store in memory. -/
theorem answer_effect (g : Gateway) (r : Request) (h : w.storage.bucket = none) :
    (∃ key, Route.ofRequest r.method r.path = .object key ∧
      (Access.isWrite r.method = true → Key.isValid key = true) ∧
      StoreEffect r key w.storage (g.answer r w).1.status (g.answer r w).2.storage) ∨
    (g.answer r w).2.storage = w.storage ∧
      (Access.isWrite r.method = true → (g.answer r w).1.status ≠ 200) := by
  rcases answer_objects g r w with ⟨key, hroute, hvalid, heffect⟩ | ⟨hsame, hfail⟩
  · exact .inl ⟨key, hroute, hvalid, heffect.inMemory h⟩
  · exact .inr ⟨congrArg Prod.fst hsame, hfail⟩

theorem answer_bucket (g : Gateway) (r : Request) (h : w.storage.bucket = none) :
    (g.answer r w).2.storage.bucket = none := by
  rcases answer_effect g r h with ⟨_, -, -, heffect⟩ | ⟨hsame, -⟩
  · exact heffect.bucket.trans h
  · rw [hsame]
    exact h

/-- A request that is not for writing to an object leaves it as it was. -/
theorem answer_find? (g : Gateway) (r : Request) (h : w.storage.bucket = none)
    (hspares : Access.isWrite r.method = true → Route.ofRequest r.method r.path ≠ .object key) :
    (g.answer r w).2.storage.memory.find? key = w.storage.memory.find? key := by
  rcases answer_effect g r h with ⟨own, hroute, -, heffect⟩ | ⟨hsame, -⟩
  · by_cases hwrite : Access.isWrite r.method = true
    · have hne : own ≠ key := by
        rintro rfl
        exact hspares hwrite hroute
      exact heffect.find?_of_ne hne
    · rw [heffect.of_other fun h => absurd h hwrite]
  · rw [hsame]

/-! ## Runs -/

/-- After any run that starts with nothing, only valid keys are kept. -/
theorem run_store (g : Gateway) (w₀ : World) (steps : List Step) :
    (g.run (w₀.holding []) steps).storage.bucket = none ∧ ∀ key object,
      Dictionary.find? key (g.run (w₀.holding []) steps).storage.memory = some object →
        Key.isValid key = true := by
  induction steps using List.reverseRecOn with
  | nil => exact ⟨rfl, nofun⟩
  | append_singleton steps s ih =>
    rw [run_snoc]
    generalize g.run (w₀.holding []) steps = w at ih
    obtain ⟨hbucket, hkeys⟩ := ih
    cases s with
    | wait seconds => exact ⟨hbucket, hkeys⟩
    | refresh =>
      have hs := Refreshing.refresh_keeps isLasting_storage (fun _ _ => rfl) w
      unfold Step.perform
      rw [hs]
      exact ⟨hbucket, hkeys⟩
    | request r =>
      unfold Step.perform
      rcases answer_effect g r hbucket with ⟨key, -, hvalid, heffect⟩ | ⟨hs, -⟩
      · generalize (g.answer r w).2.storage = s at heffect ⊢
        generalize (g.answer r w).1.status = status at heffect
        cases heffect with
        | unchanged _ => exact ⟨hbucket, hkeys⟩
        | kept hput _ =>
          refine ⟨hbucket, fun other object hfind => ?_⟩
          by_cases hother : key = other
          · rw [← hother]
            exact hvalid (by simp [Access.isWrite, hput])
          · rw [Dictionary.find?_put_of_ne hother] at hfind
            exact hkeys other object hfind
        | removed _ =>
          refine ⟨hbucket, fun other object hfind => ?_⟩
          by_cases hother : key = other
          · rw [← hother, Dictionary.find?_remove_self] at hfind
            cases hfind
          · rw [Dictionary.find?_remove_of_ne hother] at hfind
            exact hkeys other object hfind
      · rw [hs]
        exact ⟨hbucket, hkeys⟩

/-- With objects in memory, a `PUT` that is answered with status 200 sets its key to the body that
was received, a `DELETE` that is answered with status 200 removes its key, and every other request
leaves the store as it was. In a run that starts with an empty store only usable keys are kept. -/
theorem answer_changes_store (g : Gateway) (w₀ : World) :
    (∀ objects r,
      let w := w₀.holding objects
      let status := (g.answer r w).1.status
      let store := (g.answer r w).2.storage
      (r.method = "PUT" → status = 200 → ∃ key body,
        Route.ofRequest r.method r.path = .object key ∧ r.received? = some body ∧
        (r.contentLength? = some r.body.size → body = r.body) ∧
        store = { w.storage with
          memory := Dictionary.put key (body, some (uploadType r key)) objects }) ∧
      (r.method = "DELETE" → status = 200 → ∃ key,
        Route.ofRequest r.method r.path = .object key ∧
        store = { w.storage with memory := Dictionary.remove key objects }) ∧
      ((Access.isWrite r.method = true → status ≠ 200) → store = w.storage)) ∧
    ∀ steps key object,
      Dictionary.find? key (g.run (w₀.holding []) steps).storage.memory = some object →
        Key.isValid key = true := by
  refine ⟨fun objects r => ?_, fun steps => (run_store g w₀ steps).2⟩
  intro w status store
  have hbucket : w.storage.bucket = none := rfl
  rcases answer_effect g r hbucket with ⟨key, hroute, -, heffect⟩ | ⟨hsame, hstatus⟩
  · refine ⟨fun hput hok => ?_, fun hdelete hok => ?_, heffect.of_other⟩
    · rw [show (g.answer r w).1.status = 200 from hok] at heffect
      obtain ⟨body, hbody, hstore⟩ := heffect.of_put hput
      refine ⟨key, body, hroute, hbody, fun hdeclared => ?_, hstore⟩
      exact Option.some.inj (hbody.symm.trans (Request.received?_of_declared hdeclared))
    · rw [show (g.answer r w).1.status = 200 from hok] at heffect
      exact ⟨key, hroute, heffect.of_delete hdelete⟩
  · refine ⟨fun hput hok => ?_, fun hdelete hok => ?_, fun _ => hsame⟩
    · exact absurd hok (hstatus (by simp [Access.isWrite, hput]))
    · exact absurd hok (hstatus (by simp [Access.isWrite, hdelete]))

end Gateway

end InstallerGateway
