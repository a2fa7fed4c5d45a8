import InstallerGateway.Proofs.Gateway.StoreEffects
import InstallerGateway.Proofs.Store.Mirroring

/-!
# What is held under a key

Objects may be kept in memory or in a bucket. Either way, what is held under a key changes only by a
request that writes to this key and is answered with success.
-/

namespace InstallerGateway

open Act

variable {w w' : World} {key other : String} {body : ByteArray} {contentType : Option String}

/-! ## Stores -/

namespace World

/-- The object that is held under a key, and its content type if that is known. -/
def held? (key : String) (w : World) : Option (ByteArray × Option String) :=
  match w.storage.bucket with
  | none => w.storage.memory.find? key
  | some _ => w.bucket.objects.find? (w.storage.bucketKey key)

theorem held?_congr (h : w'.stores = w.stores) (key : String) : w'.held? key = w.held? key := by
  obtain ⟨hstorage, hbucket⟩ := Prod.mk.inj h
  unfold held?
  rw [hstorage, hbucket]

/-- A bucket is told an empty content type as none. -/
theorem held?_withObject_self (w : World) (key : String) (body : ByteArray)
    (contentType : Option String) : ∃ stored,
      (stored = contentType ∨ stored = Storing.declared contentType) ∧
      (w.withObject key body contentType).held? key = some (body, stored) := by
  unfold withObject
  split
  · rename_i hbucket
    refine ⟨contentType, .inl rfl, ?_⟩
    unfold held?
    simp only [hbucket]
    exact Dictionary.find?_put_self _ _ _
  · rename_i name hbucket
    refine ⟨Storing.declared contentType, .inr rfl, ?_⟩
    unfold held?
    simp only [hbucket]
    exact Dictionary.find?_put_self _ _ _

/-- Putting an object changes nothing that is held under other keys. -/
theorem held?_withObject_of_ne (hkey : IsBare key) (hother : IsBare other) (hne : key ≠ other) :
    (w.withObject key body contentType).held? other = w.held? other := by
  unfold withObject held?
  cases hbucket : w.storage.bucket with
  | none =>
    simp only [hbucket]
    exact Dictionary.find?_put_of_ne hne _ _
  | some name =>
    have hapart : w.storage.bucketKey key ≠ w.storage.bucketKey other :=
      fun heq => hne (Storage.bucketKey_injective hkey hother heq)
    simp only [hbucket]
    exact Dictionary.find?_put_of_ne hapart _ _

/-- Deleting an object changes nothing that is held under other keys. -/
theorem held?_withoutObject_of_ne (hkey : IsBare key) (hother : IsBare other) (hne : key ≠ other) :
    (w.withoutObject key).held? other = w.held? other := by
  unfold withoutObject held?
  cases hbucket : w.storage.bucket with
  | none =>
    simp only [hbucket]
    exact Dictionary.find?_remove_of_ne hne _
  | some name =>
    have hapart : w.storage.bucketKey key ≠ w.storage.bucketKey other :=
      fun heq => hne (Storage.bucketKey_injective hkey hother heq)
    simp only [hbucket]
    exact Dictionary.find?_remove_of_ne hapart _

/-- If objects are kept in a bucket, it tells about each object what it was told. -/
def TellsTypes (w : World) : Prop := w.storage.bucket ≠ none → w.bucket.facts = none

theorem tellsTypes_congr (h : w'.stores = w.stores) : w'.TellsTypes ↔ w.TellsTypes := by
  obtain ⟨hstorage, hbucket⟩ := Prod.mk.inj h
  unfold TellsTypes
  rw [hstorage, hbucket]

theorem TellsTypes.withObject (h : w.TellsTypes) (key : String) (body : ByteArray)
    (contentType : Option String) : (w.withObject key body contentType).TellsTypes := by
  unfold World.withObject
  split
  · exact h
  · exact h

theorem TellsTypes.withoutObject (h : w.TellsTypes) (key : String) :
    (w.withoutObject key).TellsTypes := by
  unfold World.withoutObject
  split
  · exact h
  · exact h

end World

/-- A refused request finds no object. -/
theorem Storage.ofReply_refused_ne (key : String) (code : Option Datum) (o : StoredObject) :
    Storage.ofReply key (.refused code) ≠ .ok (some o) := by
  show Storage.ofCode code ≠ _
  unfold Storage.ofCode
  split
  · exact nofun
  · split
    · exact nofun
    · split <;> exact nofun

/-- A bucket that tells what it was told hands over what it holds. -/
theorem Bucket.find?_of_ofReply {b : Bucket} {inBucket : String} {o : StoredObject}
    (hfacts : b.facts = none) (h : Storage.ofReply key (b.get inBucket) = .ok (some o)) :
    ∃ body, b.objects.find? inBucket = some (body, o.contentType) := by
  unfold Bucket.get at h
  split at h
  · exact absurd h (Storage.ofReply_refused_ne _ _ _)
  · split at h
    · exact absurd h (Storage.ofReply_refused_ne _ _ _)
    · rename_i body stored hfind
      rw [hfacts] at h
      unfold Storage.ofReply StoredObject.ofBucket at h
      dsimp only at h
      generalize StoredObject.sizeOf _ = size at h
      cases size with
      | error f => cases h
      | ok n =>
        cases h
        exact ⟨body, hfind⟩

/-- What is fetched is what is held, with the type that was told. -/
theorem Storing.held?_of_get {o : StoredObject} (htells : w.TellsTypes)
    (h : result (Storing.get key) w = .ok (some o)) :
    ∃ body, w.held? key = some (body, o.contentType) := by
  rw [Storing.get_result] at h
  unfold World.held?
  cases houtage : w.outage with
  | some message =>
    rw [houtage] at h
    cases h
  | none =>
    rw [houtage] at h
    cases hbucket : w.storage.bucket with
    | none =>
      simp only [hbucket] at h ⊢
      obtain ⟨held, hfind, rfl⟩ := Option.map_eq_some_iff.mp (Except.ok.inj h)
      exact ⟨held.1, hfind⟩
    | some name =>
      simp only [hbucket] at h ⊢
      have hfacts : w.bucket.facts = none := htells (by simp [hbucket])
      exact Bucket.find?_of_ofReply hfacts (eq_ok_of_mapError h)

/-! ## Requests -/

/-- The key of a request does not start with a slash. -/
theorem isBare_of_route {method path : String} (h : Route.ofRequest method path = .object key) :
    IsBare key := by
  have hbare (cs : List Char) : (cs.dropWhile (· == '/')).head? ≠ some '/' := by
    intro hslash
    have hnot := List.head?_dropWhile_not (· == '/') cs
    rw [hslash] at hnot
    simp at hnot
  unfold Route.ofRequest at h
  dsimp only at h
  split_ifs at h
  cases h
  unfold IsBare
  rw [String.toList_ofList]
  exact hbare _

namespace Gateway

variable {g : Gateway} {r : Request} {type? : Option String}

/-- A request that is not a successful one to write to a key leaves alone what is held under it. -/
theorem answer_held? (hother : IsBare other) (hspares : Access.isWrite r.method = true →
    Route.ofRequest r.method r.path = .object other → (g.answer r w).1.status ≠ 200) :
    (g.answer r w).2.held? other = w.held? other := by
  rcases answer_objects g r w with ⟨key, hroute, -, heffect⟩ | ⟨hsame, -⟩
  · have hkey := isBare_of_route hroute
    have hapart (hwrite : Access.isWrite r.method = true) (hok : (g.answer r w).1.status = 200) :
        key ≠ other := by
      rintro rfl
      exact hspares hwrite hroute hok
    generalize (g.answer r w).1.status = status at heffect hapart
    generalize hstores : (g.answer r w).2.stores = stores at heffect
    cases heffect with
    | kept hput _ =>
      have hne := hapart (by simp [Access.isWrite, hput]) rfl
      rw [World.held?_congr hstores, World.held?_withObject_of_ne hkey hother hne]
    | removed hdelete =>
      have hne := hapart (by simp [Access.isWrite, hdelete]) rfl
      rw [World.held?_congr hstores, World.held?_withoutObject_of_ne hkey hother hne]
    | unchanged _ => exact World.held?_congr hstores other
  · exact World.held?_congr hsame other

/-- A bucket that tells types still does after a request. -/
theorem answer_tellsTypes (g : Gateway) (r : Request) (h : w.TellsTypes) :
    (g.answer r w).2.TellsTypes := by
  rcases answer_objects g r w with ⟨key, -, -, heffect⟩ | ⟨hsame, -⟩
  · generalize hstores : (g.answer r w).2.stores = stores at heffect
    generalize (g.answer r w).1.status = status at heffect
    cases heffect with
    | kept _ _ => exact (World.tellsTypes_congr hstores).mpr (h.withObject _ _ _)
    | removed _ => exact (World.tellsTypes_congr hstores).mpr (h.withoutObject _)
    | unchanged _ => exact (World.tellsTypes_congr hstores).mpr h
  · exact (World.tellsTypes_congr hsame).mpr h

/-- An upload that is answered with success is held under its key. -/
theorem answer_held?_of_put (hput : r.method = "PUT")
    (hroute : Route.ofRequest r.method r.path = .object key)
    (hok : (g.answer r w).1.status = 200) : ∃ body stored,
      (stored = some (uploadType r key) ∨ stored = Storing.declared (some (uploadType r key))) ∧
      (g.answer r w).2.held? key = some (body, stored) := by
  have hwrite : Access.isWrite r.method = true := by simp [Access.isWrite, hput]
  rcases answer_objects g r w with ⟨other, hother, -, heffect⟩ | ⟨-, hfail⟩
  · cases hroute.symm.trans hother
    generalize hstores : (g.answer r w).2.stores = stores at heffect
    generalize (g.answer r w).1.status = status at heffect hok
    cases heffect with
    | @kept body _ _ =>
      obtain ⟨stored, hstored, hheld⟩ :=
        w.held?_withObject_self key body (some (uploadType r key))
      exact ⟨body, stored, hstored, (World.held?_congr hstores key).trans hheld⟩
    | removed hdelete => simp [hput] at hdelete
    | unchanged hfail => exact absurd hok (hfail hwrite)
  · exact absurd hok (hfail hwrite)

/-! ## Runs -/

/-- No request of the run that writes to the key is answered with success. -/
def LeavesAlone (g : Gateway) (key : String) : World → List Step → Prop
  | _, [] => True
  | w, s :: rest =>
    (∀ r, s = .request r → Access.isWrite r.method = true →
      Route.ofRequest r.method r.path = .object key → (g.answer r w).1.status ≠ 200) ∧
    LeavesAlone g key (s.perform g w) rest

theorem refresh_stores (w : World) : (after Refreshing.refresh w).stores = w.stores :=
  Refreshing.refresh_keeps isLasting_stores (fun _ _ => rfl) w

/-- What is held under a key stays as long as nothing is written to it. -/
theorem LeavesAlone.held? {steps : List Step} (h : g.LeavesAlone key w steps)
    (hkey : IsBare key) : (g.run w steps).held? key = w.held? key := by
  induction steps generalizing w with
  | nil => rfl
  | cons s rest ih =>
    obtain ⟨hfirst, hrest⟩ := h
    have hstep : (s.perform g w).held? key = w.held? key := by
      cases s with
      | request r => exact answer_held? hkey (hfirst r rfl)
      | wait seconds => exact World.held?_congr rfl key
      | refresh => exact World.held?_congr (refresh_stores w) key
    exact (ih hrest).trans hstep

/-- A bucket that tells types does so after any run. -/
theorem run_tellsTypes (g : Gateway) (steps : List Step) (h : w.TellsTypes) :
    (g.run w steps).TellsTypes := by
  induction steps generalizing w with
  | nil => exact h
  | cons s rest ih =>
    refine ih ?_
    cases s with
    | request r => exact answer_tellsTypes g r h
    | wait seconds => exact h
    | refresh => exact (World.tellsTypes_congr (refresh_stores w)).mpr h

end Gateway

end InstallerGateway
