import InstallerGateway.Proofs.Gateway.Reading
import InstallerGateway.Proofs.World.Noting

/-!
# Mediation

Nothing outside of the gateway is reached for a request unless it has passed every check: its key is
usable, its body is not too long, it is within the limits, and it is authorized. A request that
fails one of them is answered with an error and leaves no trace but reports.
-/

namespace InstallerGateway.Gateway

open Act

variable {g : Gateway} {r : Request} {w : World} {key : String}

/-! ## Checks -/

/-- There is a secret, and the request presents it. -/
def PresentsSecret (g : Gateway) (r : Request) : Prop :=
  g.settings.releasesAuthKey ≠ "" ∧ Access.presented r.headers = g.settings.releasesAuthKey

/-- Who presents the secret may do everything that is served; everybody else may read the keys that
the allow list matches. -/
def MayServe (g : Gateway) (r : Request) (key : String) : Prop :=
  Access.isWrite r.method = true ∧ g.PresentsSecret r ∨
    Access.isRead r.method = true ∧ (g.PresentsSecret r ∨ ∃ p ∈ g.allowList, p.foundIn key = true)

/-- The request for the object with a key passes every check. -/
structure Admits (g : Gateway) (r : Request) (w : World) (key : String) : Prop where
  route : Route.ofRequest r.method r.path = .object key
  isValid : Key.isValid key = true
  length : ∀ n, r.contentLength? = some n → (n : Int) ≤ g.maxContentLength
  limits : g.IsWithinLimits r .objects w
  access : g.MayServe r key

theorem isPublisher_iff : g.isPublisher r = true ↔ g.PresentsSecret r := by
  unfold isPublisher Access.hasCredential PresentsSecret
  simp

theorem not_isRead_of_isWrite {method : String} (h : Access.isWrite method = true) :
    Access.isRead method = false := by
  unfold Access.isWrite at h
  unfold Access.isRead
  rcases Bool.or_eq_true_iff.mp h with hm | hm
  · rw [eq_of_beq hm]
    decide
  · rw [eq_of_beq hm]
    decide

/-- What is authorized is what may be served. -/
theorem authorizes_iff : g.authorizes r key = true ↔ g.MayServe r key := by
  unfold authorizes Access.isAuthorized MayServe
  rw [← isPublisher_iff]
  cases hw : Access.isWrite r.method with
  | true =>
    rw [not_isRead_of_isWrite hw]
    simp
  | false =>
    cases Access.isRead r.method with
    | true => simp [Access.isPublic]
    | false => simp

theorem MayServe.isServed (h : g.MayServe r key) :
    (Access.isRead r.method || Access.isWrite r.method) = true := by
  rcases h with ⟨hm, -⟩ | ⟨hm, -⟩ <;> simp [hm]

theorem refusal?_eq_none {route : Route} (h : g.refusal? r route = none) :
    g.isTooLarge r = false ∧ keyFault? r route = none := by
  unfold refusal? at h
  split at h
  · cases h
  · rename_i hfits
    exact ⟨by simpa using hfits, by simpa using h⟩

theorem length_le_of_refusal {route : Route} (h : g.refusal? r route = none) {n : Nat}
    (hn : r.contentLength? = some n) : (n : Int) ≤ g.maxContentLength := by
  have hfits := (refusal?_eq_none h).1
  unfold isTooLarge at hfits
  rw [hn] at hfits
  simpa using hfits

/-- A key that is not refused is valid. -/
theorem isValid_of_refusal (hm : (Access.isRead r.method || Access.isWrite r.method) = true)
    (h : g.refusal? r (.object key) = none) : Key.isValid key = true := by
  have hnone := (refusal?_eq_none h).2
  unfold keyFault? at hnone
  dsimp only at hnone
  rw [if_pos hm] at hnone
  unfold Key.isValid
  rw [hnone]
  rfl

/-! ## What serving an object notes -/

/-- Passing a request on changes nothing in the store. -/
theorem passOn_onlyReads (g : Gateway) (key : String) : OnlyReads (g.passOn key) := by
  have request (url : String) : OnlyReads (g.request url) := by
    refine notes_bind (notes_note ⟨rfl, rfl⟩) fun _ => notes_bind notes_get fun w => ?_
    exact notes_bind (notes_of_keeps (keeps_modify fun _ => rfl)) fun _ => notes_pure _
  refine notes_bind (request _) fun answer => ?_
  rcases answer with (_ | _) | a
  · exact notes_pure _
  · exact notes_throw _
  · exact notes_bind (notes_of_keeps (sendable_keeps _)) fun _ => notes_pure _

/-- Sending an object changes nothing in the store. -/
theorem sendObject_sparesStore (g : Gateway) (r : Request) (d : KeyDescriptor) (o : StoredObject) :
    SparesStore (g.sendObject r d o) := by
  have report : SparesStore (g.reportDownload r d.baseName) := by
    unfold reportDownload
    split
    · exact notes_pure _
    · exact notes_report fun _ => rfl
  have send : SparesStore (do
      let fields ← sendable (objectFields d o)
      let more ← g.cacheFields
      return Answer.full ⟨200, fields ++ more, o.chunks, !o.isStream, none⟩) :=
    notes_bind (notes_of_keeps (sendable_keeps _)) fun _ =>
      notes_bind (notes_of_keeps (cacheFields_keeps g)) fun _ => notes_pure _
  unfold sendObject
  dsimp only
  split
  · exact notes_bind report fun _ => send
  · exact send

/-- A request to read changes nothing in the store. -/
theorem read_sparesStore (g : Gateway) (r : Request) (key : String) :
    SparesStore (g.read r key) := by
  unfold read
  split
  · exact (passOn_onlyReads g key).mono fun _ he => he.2
  · refine notes_bind (Resolving.resolve_sparesStore _ _) fun resolved => ?_
    refine notes_bind (Storing.get_sparesStore resolved) fun found => ?_
    cases found with
    | none => exact notes_pure _
    | some o => exact sendObject_sparesStore g r _ o

theorem keep_notes (r : Request) (key : String) : Notes (fun _ => True) (keep r key) := by
  unfold keep
  split
  · exact notes_bind ((Storing.announce_notes key _).mono fun _ _ => trivial) fun _ =>
      notes_pure _
  · exact notes_bind ((Storing.put_notes key _ _).mono fun _ _ => trivial) fun _ =>
      notes_bind (notes_report fun _ => trivial) fun _ => notes_pure _

theorem remove_notes (key : String) : Notes (fun _ => True) (remove key) :=
  notes_bind ((Storing.delete_notes key).mono fun _ _ => trivial) fun _ =>
    notes_bind (notes_report fun _ => trivial) fun _ => notes_pure _

/-- Serving an object reaches nothing unless the request may use its method on the key, and changes
the store only by a method that changes objects. -/
theorem serveObject_notes (g : Gateway) (r : Request) (key : String) :
    Notes (fun e => (e.isAccess = true → g.MayServe r key) ∧
      (e.isStoreChange = true → Access.isWrite r.method = true)) (g.serveObject r key) := by
  unfold serveObject
  split
  · exact notes_pure _
  · split
    · exact notes_bind (notes_report fun _ => ⟨nofun, nofun⟩) fun _ => notes_pure _
    · rename_i hauth
      have hmay : g.MayServe r key := authorizes_iff.mp (by simpa using hauth)
      split
      · rename_i hput
        exact (keep_notes r key).mono fun _ _ =>
          ⟨fun _ => hmay, fun _ => by simp [Access.isWrite, hput]⟩
      · split
        · rename_i hdelete
          exact (remove_notes key).mono fun _ _ =>
            ⟨fun _ => hmay, fun _ => by simp [Access.isWrite, hdelete]⟩
        · refine (read_sparesStore g r key).mono fun e he => ⟨fun _ => hmay, fun hc => ?_⟩
          cases he.symm.trans hc

/-- The worlds differ in nothing but what is known about past requests. -/
def DiffersInRecords (w w' : World) : Prop :=
  w' = { w with windows := w'.windows, statistics := w'.statistics, trace := w'.trace }

/-- What may not be served is answered with an error, and at most reported. -/
theorem serveObject_of_not_mayServe (h : ¬ g.MayServe r key) :
    (ending (result (g.serveObject r key) w)).response.IsError ∧
      DiffersInRecords w (after (g.serveObject r key) w) := by
  unfold serveObject
  split
  · exact ⟨(Response.isError_ofMessage (by decide) _).withFields _, rfl⟩
  · have hno : g.authorizes r key = false := by simpa [← authorizes_iff] using h
    rw [if_pos (by simp [hno])]
    exact ⟨Response.isError_ofMessage (by decide) _, rfl⟩

/-! ## Requests -/

theorem isAccess_of_isReport {e : Event} (h : IsReport e) : e.isAccess = false := by
  cases e <;> first | rfl | cases h

theorem isStoreChange_of_isReport {e : Event} (h : IsReport e) : e.isStoreChange = false := by
  cases e <;> first | rfl | cases h

/-- What is reached while a request is dealt with, and what comes of it if it fails a check. -/
theorem dispatch_mediated (g : Gateway) (r : Request) (w : World) :
    let p := g.dispatch r (Route.ofRequest r.method r.path) w
    ∃ events, p.2.trace = events ++ w.trace ∧
      (∀ e ∈ events, e.isAccess = true → ∃ key, g.Admits r w key) ∧
      (∀ e ∈ events, e.isStoreChange = true → Access.isWrite r.method = true) ∧
      ((¬ ∃ key, g.Admits r w key) →
        (Route.ofRequest r.method r.path = .health ∨ p.1.1.IsError) ∧ DiffersInRecords w p.2) := by
  intro p
  have counted {windows : Windows} (hw : p.2 = w.withWindows windows) :
      p.2.trace = [] ++ w.trace ∧ DiffersInRecords w p.2 := by
    rw [hw]
    exact ⟨rfl, rfl⟩
  rcases dispatch_cases g r w with ⟨herror, windows, hw⟩ | ⟨hhealth, -, windows, hw⟩ |
    ⟨key, windows, hroute, hvalid, hlimits, hresponse, hw⟩
  · exact ⟨[], (counted hw).1, nofun, nofun, fun _ => ⟨.inr herror, (counted hw).2⟩⟩
  · exact ⟨[], (counted hw).1, nofun, nofun, fun _ => ⟨.inl hhealth, (counted hw).2⟩⟩
  · have hserved : p.2 = _ := hw.trans (timed_snd _ _)
    obtain ⟨events, htrace, hevents⟩ := serveObject_notes g r key (w.withWindows windows)
    have admits (hmay : g.MayServe r key) : g.Admits r w key :=
      ⟨hroute, isValid_of_refusal hmay.isServed hvalid, fun n hn => length_le_of_refusal hvalid hn,
        hlimits, hmay⟩
    refine ⟨events, ?_, ?_, fun e he => (hevents e he).2, fun hnone => ?_⟩
    · rw [hserved]
      exact htrace
    · exact fun e he haccess => ⟨key, admits ((hevents e he).1 haccess)⟩
    · have hno : ¬ g.MayServe r key := fun hmay => hnone ⟨key, admits hmay⟩
      obtain ⟨herror, hdiff⟩ := serveObject_of_not_mayServe (w := w.withWindows windows) hno
      have hanswer : p.1.1 = _ := hresponse.trans (timed_fst _ _)
      rw [hanswer, hserved]
      refine ⟨.inr herror, ?_⟩
      rw [hdiff]
      rfl

/-- Complete mediation: whatever is reached while a request is answered, the request has passed
every check; the store is changed only by a method that changes objects; and a request that fails a
check is answered with an error, unless it asks for the health of the gateway, and reaches and
changes nothing. -/
theorem answer_mediated (g : Gateway) (r : Request) (w : World) :
    ∃ events, (g.answer r w).2.trace = events ++ w.trace ∧
      (∀ e ∈ events, e.isAccess = true → ∃ key, g.Admits r w key) ∧
      (∀ e ∈ events, e.isStoreChange = true → Access.isWrite r.method = true) ∧
      ((¬ ∃ key, g.Admits r w key) →
        (Route.ofRequest r.method r.path = .health ∨ (g.answer r w).1.IsError) ∧
        (∀ e ∈ events, e.isAccess = false) ∧ DiffersInRecords w (g.answer r w).2) := by
  obtain ⟨fields, reports, hresponse, hw, hreports, -⟩ := answer_of_dispatch g r w
  obtain ⟨events, htrace, haccess, hchange, hrefused⟩ := dispatch_mediated g r w
  have reached : ∀ e ∈ reports ++ events, e.isAccess = true → ∃ key, g.Admits r w key := by
    intro e he ha
    rcases List.mem_append.mp he with h | h
    · cases (isAccess_of_isReport (hreports e h)).symm.trans ha
    · exact haccess e h ha
  refine ⟨reports ++ events, ?_, reached, ?_, fun hnone => ?_⟩
  · rw [hw, World.noting_trace, htrace, List.append_assoc]
  · intro e he hc
    rcases List.mem_append.mp he with h | h
    · cases (isStoreChange_of_isReport (hreports e h)).symm.trans hc
    · exact hchange e h hc
  · obtain ⟨hanswer, hdiff⟩ := hrefused hnone
    refine ⟨?_, fun e he => Bool.eq_false_iff.mpr fun ha => hnone (reached e he ha), ?_⟩
    · rw [hresponse]
      exact hanswer.imp_right fun h => h.withFields fields
    · rw [hw, hdiff]
      rfl

end InstallerGateway.Gateway
