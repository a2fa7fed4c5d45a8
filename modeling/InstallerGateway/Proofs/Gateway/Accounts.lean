import InstallerGateway.Proofs.Audit.Reporting
import InstallerGateway.Proofs.Gateway.Rulings

/-!
# What the audit log tells about requests

With everything in memory, the audit log of a run is made of one account of each request, in order.
An account tells whether the request was forbidden, what became of the object it was for, how it was
answered, and gives an alert if that calls for attention. It tells nothing that did not happen, and
leaves nothing out.
-/

namespace InstallerGateway

/-- The key that the path of a request stands for. -/
def Request.objectKey (r : Request) : String := String.ofList (r.path.toList.dropWhile (· == '/'))

theorem Request.objectKey_of_route {r : Request} {key : String}
    (h : Route.ofRequest r.method r.path = .object key) : r.objectKey = key := by
  unfold Route.ofRequest at h
  dsimp only at h
  split_ifs at h
  exact Route.object.inj h

/-- The values of header fields stay on their lines, as HTTP has it. -/
def Request.IsWellFormed (r : Request) : Prop := ∀ f ∈ r.headers, IsLine f.2

instance (r : Request) : Decidable r.IsWellFormed :=
  inferInstanceAs (Decidable (∀ f ∈ r.headers, IsLine f.2))

namespace Gateway

open Act

variable {g : Gateway} {r : Request} {key : String} {w : World}

/-- The request comes to an object, and is not authorized to do what it asks for. -/
def isForbidden (g : Gateway) (r : Request) (w : World) : Bool :=
  match Route.ofRequest r.method r.path with
  | .object key =>
    g.isDispatched r w && (Access.isRead r.method || Access.isWrite r.method) &&
      !g.authorizes r key
  | _ => false

/-- The record that a request for an object from the store was a download, if it was one. -/
def storeRecords (g : Gateway) (r : Request) (w : World) : List AuditRecord :=
  match Route.ofRequest r.method r.path with
  | .object key => g.servedRecords r key w
  | _ => []

/-- The record of a request that came in at one instant and was answered at another, and an alert if
its status calls for attention. -/
def requestRecords (g : Gateway) (r : Request) (status : Nat) (start now : Instant) :
    List AuditRecord :=
  let fields := g.requestFields r status start now
  .event "http_request" fields ::
    if status = 401 ∨ status = 403 ∨ status = 500 then [.alert "security_alert" fields] else []

/-- What the audit log has to tell about the object that a request is for, if the request is
answered with a status. -/
def objectRecords (g : Gateway) (r : Request) (w : World) (status : Nat) : List AuditRecord :=
  (if g.isForbidden r w then [g.forbiddenRecord r r.objectKey] else []) ++
    (if r.method = "PUT" ∧ status = 200 then [keptRecord r r.objectKey] else []) ++
    (if r.method = "DELETE" ∧ status = 200 then [removedRecord r.objectKey] else []) ++
    (if Access.isRead r.method = true ∧ status = 200 then g.storeRecords r w else [])

/-- All that the audit log has to tell about a request that comes in. -/
def account (g : Gateway) (r : Request) (w : World) : List AuditRecord :=
  let (response, w') := g.answer r w
  g.objectRecords r w response.status ++ g.requestRecords r response.status w.clock w'.clock

/-! ## Serving -/

/-- What is reported while the object with a key is served, if that is answered with a status. -/
def servingRecords (g : Gateway) (r : Request) (key : String) (w : World) (status : Nat) :
    List AuditRecord :=
  (if (Access.isRead r.method || Access.isWrite r.method) && !g.authorizes r key then
      [g.forbiddenRecord r key] else []) ++
    (if r.method = "PUT" ∧ status = 200 then [keptRecord r key] else []) ++
    (if r.method = "DELETE" ∧ status = 200 then [removedRecord key] else []) ++
    (if Access.isRead r.method = true ∧ status = 200 then g.servedRecords r key w else [])

/-- What is reported while an object is served, with the store and resolved keys in memory. -/
theorem serveObject_auditLog (h : KeepsInMemory w) {more : Headers}
    (hdate : CacheControl.fields w.clock g.settings.cacheMaxAge = .ok more) :
    (after (g.serveObject r key) w).auditLog = w.auditLog ++
      g.servingRecords r key w (ending (result (g.serveObject r key) w)).response.status := by
  unfold serveObject servingRecords
  cases hserved : (Access.isRead r.method || Access.isWrite r.method) with
  | false =>
    have hstatus : (ending (result (pure (.full methodRefused) : Act Answer) w)).response.status =
        405 := rfl
    have hafter : (after (pure (.full methodRefused) : Act Answer) w).auditLog = w.auditLog := rfl
    simp [hstatus, hafter]
  | true =>
    cases hauth : g.authorizes r key with
    | false =>
      have hstatus : (ending (result (g.forbid r key) w)).response.status = 403 := rfl
      have hafter : (after (g.forbid r key) w).auditLog = w.auditLog ++ [g.forbiddenRecord r key] :=
        auditLog_report (g.forbiddenRecord r key) w
      simp [hstatus, hafter]
    | true =>
      by_cases hput : r.method = "PUT"
      · have hlog := keep_auditLog (r := r) h.bucket key
        simpa [hput, Access.isRead] using hlog
      by_cases hdelete : r.method = "DELETE"
      · have hlog := remove_auditLog h.bucket key
        simpa [hput, hdelete, Access.isRead] using hlog
      have hread : Access.isRead r.method = true := by
        simpa [Access.isWrite, hput, hdelete] using hserved
      have hlog : (after (g.read r key) w).auditLog = _ := read_auditLog h hdate
      simpa [hput, hdelete, hread] using hlog

/-! ## Requests -/

theorem KeepsInMemory.withWindows (h : KeepsInMemory w) (windows : Windows) :
    KeepsInMemory (w.withWindows windows) := ⟨h.bucket, h.table, h.lines⟩

/-- How often clients have asked makes no difference to what a key stands for. -/
theorem servingRecords_withWindows (h : KeepsInMemory w) (windows : Windows) (status : Nat) :
    g.servingRecords r key (w.withWindows windows) status =
      g.servingRecords r key w status := by
  have hsame := (w.sameMoment_withWindows windows).toSameSources
  unfold servingRecords servedRecords
  rw [Resolving.resolve_result (h.withWindows windows).table, Resolving.resolve_result h.table,
    Resolving.fetch_result_congr hsame]
  rfl

/-- A request that does not come to the part of the gateway that it is for tells nothing about an
object. -/
theorem objectRecords_of_not_isDispatched (h : g.isDispatched r w = false) {status : Nat}
    (hstatus : status ≠ 200) : g.objectRecords r w status = [] := by
  have hforbidden : g.isForbidden r w = false := by
    unfold isForbidden
    split
    · rw [h]
      rfl
    · rfl
  unfold objectRecords
  rw [hforbidden]
  simp [hstatus]

theorem objectRecords_of_health (h : Route.ofRequest r.method r.path = .health) (status : Nat) :
    g.objectRecords r w status = [] := by
  obtain ⟨hput, hdelete⟩ : r.method ≠ "PUT" ∧ r.method ≠ "DELETE" := by
    simpa [Access.isWrite] using isWrite_of_health h
  unfold objectRecords isForbidden storeRecords
  rw [h]
  simp [hput, hdelete]

/-- What is reported of a request that is dispatched is what is reported while its object is served.
-/
theorem objectRecords_of_object (hroute : Route.ofRequest r.method r.path = .object key)
    (h : g.isDispatched r w = true) (status : Nat) :
    g.objectRecords r w status = g.servingRecords r key w status := by
  unfold objectRecords isForbidden storeRecords servingRecords
  rw [hroute, Request.objectKey_of_route hroute]
  dsimp only
  rw [h, Bool.true_and]

theorem reached?_of_view? (h : (Route.ofRequest r.method r.path).view? = none) :
    g.reached? r = none := by
  unfold reached?
  dsimp only
  rw [h, ite_self]

/-- What is reported while a request is dealt with. That the limits have counted it by then changes
nothing about what its key stands for. -/
theorem dispatch_auditLog (h : KeepsInMemory w) {more : Headers}
    (hdate : CacheControl.fields w.clock g.settings.cacheMaxAge = .ok more) :
    let p := g.dispatch r (Route.ofRequest r.method r.path) w
    p.2.auditLog = w.auditLog ++ g.objectRecords r w p.1.1.status := by
  intro p
  cases hdispatched : g.isDispatched r w with
  | false =>
    obtain ⟨response, windows, told, herror, -, hp⟩ := dispatch_of_not_isDispatched hdispatched
    have hstatus := herror.status
    rw [show p = _ from hp, objectRecords_of_not_isDispatched hdispatched
      (show response.status ≠ 200 by omega)]
    exact (List.append_nil _).symm
  | true =>
    obtain ⟨windows, told, hp⟩ := dispatch_of_isDispatched hdispatched
    obtain ⟨view, hreached, -⟩ := isWithinLimits_of_isDispatched hdispatched
    rw [show p = _ from hp]
    unfold viewed
    cases hroute : Route.ofRequest r.method r.path with
    | object key =>
      dsimp only
      rw [timed_snd, timed_fst, objectRecords_of_object hroute hdispatched,
        ← servingRecords_withWindows h windows]
      exact serveObject_auditLog (h.withWindows windows) hdate
    | health =>
      rw [objectRecords_of_health hroute]
      exact (List.append_nil _).symm
    | refused =>
      rw [reached?_of_view? (by rw [hroute]; rfl)] at hreached
      cases hreached
    | nowhere =>
      rw [reached?_of_view? (by rw [hroute]; rfl)] at hreached
      cases hreached

/-- A request is reported once, when it is answered. -/
theorem reportRequest_auditLog (g : Gateway) (r : Request) (status : Nat) (start : Instant)
    (w : World) : (g.reportRequest r status start w).2.auditLog =
      w.auditLog ++ g.requestRecords r status start w.clock := by
  have hlog : (g.reportRequest r status start w).2.auditLog =
      records ((if isAlarming status then
          [.audit w.clock (.alert "security_alert" (g.requestFields r status start w.clock))]
        else []) ++ .audit w.clock
          (.event "http_request" (g.requestFields r status start w.clock)) :: w.trace) := rfl
  rw [hlog, records_append, records_cons]
  unfold requestRecords World.auditLog
  dsimp only
  have halarming : isAlarming status = true ↔ status = 401 ∨ status = 403 ∨ status = 500 := by
    simp [isAlarming, or_assoc]
  by_cases h : isAlarming status = true
  · rw [if_pos h, if_pos (halarming.mp h), List.append_assoc]
    rfl
  · rw [if_neg h, if_neg fun h' => h (halarming.mpr h')]
    exact List.append_nil _

theorem close_auditLog (response : Response) (w : World) :
    (close response w).2.auditLog = w.auditLog := by
  unfold close
  cases response.source with
  | none => rfl
  | some url => exact (w.auditLog_noting [.close url]).trans (List.append_nil _)

/-- The audit log gains the account of a request while the request is answered. Nothing is waited
for once the request is dealt with, so the report is made at its end. -/
theorem answer_auditLog (h : KeepsInMemory w) {more : Headers}
    (hdate : CacheControl.fields w.clock g.settings.cacheMaxAge = .ok more) :
    (g.answer r w).2.auditLog = w.auditLog ++ g.account r w := by
  have hdispatch := dispatch_auditLog (r := r) h hdate
  have hreported : (g.answer r w).2.auditLog =
      (g.dispatch r (Route.ofRequest r.method r.path) w).2.auditLog ++
        g.requestRecords r (g.answer r w).1.status w.clock
          (g.dispatch r (Route.ofRequest r.method r.path) w).2.clock := by
    rw [answer_eq]
    exact (close_auditLog _ _).trans (reportRequest_auditLog g r _ _ _)
  obtain ⟨-, events, -, hw, -⟩ := answer_of_dispatch g r w
  have hclock : (g.answer r w).2.clock =
      (g.dispatch r (Route.ofRequest r.method r.path) w).2.clock := by
    rw [hw]
    rfl
  show _ = w.auditLog ++ (g.objectRecords r w (g.answer r w).1.status ++
    g.requestRecords r (g.answer r w).1.status w.clock (g.answer r w).2.clock)
  rw [hreported, hdispatch, hclock, answer_status, List.append_assoc]

/-! ## Runs -/

/-- The store and resolved keys stay in memory. -/
theorem KeepsInMemory.step (h : KeepsInMemory w) {s : Step}
    (hform : ∀ r, s = .request r → r.IsWellFormed) : KeepsInMemory (s.perform g w) := by
  cases s with
  | request r =>
    refine ⟨answer_bucket g r h.bucket, ?_, ?_⟩
    · exact (answer_keeps isBesideStores_table (fun _ _ => rfl) (fun _ _ => rfl) g r w).trans
        h.table
    · show ∀ key, ∀ o ∈ (g.answer r w).2.storage.memory.find? key, ∀ t ∈ o.2, IsLine t
      rcases answer_effect g r h.bucket with ⟨key, -, -, heffect⟩ | ⟨hsame, -⟩
      · exact heffect.lines (hform r rfl) h.lines
      · rw [hsame]
        exact h.lines
  | wait seconds => exact ⟨h.bucket, h.table, h.lines⟩
  | refresh =>
    have hstorage := Refreshing.refresh_keeps isLasting_storage (fun _ _ => rfl) w
    have hcache := Refreshing.refresh_keeps isLasting_cache (fun _ _ => rfl) w
    refine ⟨?_, ?_, ?_⟩
    · exact (congrArg Storage.bucket hstorage).trans h.bucket
    · exact (congrArg LatestCache.table hcache).trans h.table
    · show ∀ key, ∀ o ∈ (after Refreshing.refresh w).storage.memory.find? key, ∀ t ∈ o.2, IsLine t
      rw [hstorage]
      exact h.lines

/-- What the audit log has to tell about a step of a run. -/
def Step.account (g : Gateway) : Step → World → List AuditRecord
  | .request r, w => g.account r w
  | .wait _, _ | .refresh, _ => []

/-- What the audit log has to tell about a run, step by step. -/
def accounts (g : Gateway) : World → List Step → List AuditRecord
  | _, [] => []
  | w, s :: steps => s.account g w ++ g.accounts (s.perform g w) steps

/-- The audit log gains the account of a step. -/
theorem KeepsInMemory.step_auditLog (h : KeepsInMemory w) {s : Step}
    (hdate : ∀ r, s = .request r →
      (CacheControl.fields w.clock g.settings.cacheMaxAge).isOk = true) :
    (s.perform g w).auditLog = w.auditLog ++ s.account g w := by
  cases s with
  | request r =>
    obtain ⟨more, hmore⟩ := exists_eq_ok_of_isOk (hdate r rfl)
    exact answer_auditLog h hmore
  | wait seconds => exact (List.append_nil _).symm
  | refresh => exact (Refreshing.refresh_auditLog w).trans (List.append_nil _).symm

/-- The audit log is a faithful record of any run of requests with everything in memory, as long as
there is a date until which an answer may be kept: it gains one account of each request, in order,
and nothing else. -/
theorem run_auditLog (g : Gateway) (w₀ : World) (steps : List Step) (hmemory : KeepsInMemory w₀)
    (hform : ∀ r, .request r ∈ steps → r.IsWellFormed)
    (hdates : ∀ i r, steps[i]? = some (.request r) →
      (CacheControl.fields (g.run w₀ (steps.take i)).clock g.settings.cacheMaxAge).isOk = true) :
    (g.run w₀ steps).auditLog = w₀.auditLog ++ g.accounts w₀ steps := by
  induction steps generalizing w₀ with
  | nil => exact (List.append_nil _).symm
  | cons s steps ih =>
    have hstep : (s.perform g w₀).auditLog = w₀.auditLog ++ s.account g w₀ :=
      hmemory.step_auditLog fun r hs => hdates 0 r (by rw [hs]; rfl)
    have hrest := ih (s.perform g w₀) (hmemory.step fun r hs => hform r (by simp [hs]))
      (fun r hr => hform r (List.mem_cons_of_mem _ hr)) fun i r hi => hdates (i + 1) r hi
    calc (g.run w₀ (s :: steps)).auditLog
        = (s.perform g w₀).auditLog ++ g.accounts (s.perform g w₀) steps := hrest
      _ = w₀.auditLog ++ g.accounts w₀ (s :: steps) := by
        rw [hstep, List.append_assoc]
        rfl

/-- The message of a record, if it is a text. -/
def messageOf (record : AuditRecord) : String :=
  match record.message with
  | .text message => message
  | _ => ""

/-- An installer is put, downloaded and removed, and somebody without the secret tries to put
another one. -/
theorem run_auditLog_of_upload :
    let path := "/desktop/app-mac-arm64-1.0.dmg"
    let steps := [.request (publisherOf "PUT" path ⟨#[80, 75]⟩), .wait 1,
      .request (getOf path []), .request (.ofSent "PUT" path [] ByteArray.empty none),
      .request (publisherOf "DELETE" path ByteArray.empty)]
    let w := World.start 0
    (secretGateway.run w steps).auditLog = w.auditLog ++ secretGateway.accounts w steps ∧
      (secretGateway.accounts w steps).map messageOf =
        ["object_put", "http_request", "download", "http_request", "request_forbidden",
          "http_request", "security_alert", "object_deleted", "http_request"] := by
  intro path steps w
  refine ⟨run_auditLog secretGateway w steps ⟨rfl, rfl, nofun⟩ ?_ ?_, by decide +kernel⟩
  · intro r hr
    simp only [steps, List.mem_cons, Step.request.injEq, reduceCtorEq, List.not_mem_nil, false_or,
      or_false] at hr
    rcases hr with rfl | rfl | rfl | rfl <;> decide +kernel
  · intro i r hi
    rcases i with _ | _ | _ | _ | _ | i
    · decide +kernel
    · cases hi
    · decide +kernel
    · decide +kernel
    · decide +kernel
    · cases hi

end Gateway

end InstallerGateway
