import InstallerGateway.Proofs.Gateway.Admission
import InstallerGateway.Proofs.Resolving.Run
import InstallerGateway.Proofs.World.Acting

/-!
# What is reported while an object is served

The store and other hosts are asked without a report, and so is memory. With everything in memory,
an object is served with at most one report: that the request is forbidden, that the object was kept
or removed, or that it was downloaded.
-/

namespace InstallerGateway

open Act

theorem Event.record?_of_isAccess {e : Event} (h : e.isAccess = true) : e.record? = none := by
  cases e <;> first | rfl | cases h

theorem records_eq_nil {events : List Event} (h : ∀ e ∈ events, e.record? = none) :
    records events = [] := by
  simpa [records] using h

/-- Asking and keeping is not reported. -/
theorem Act.Notes.keeps_auditLog {α : Type} {a : Act α}
    (h : Notes (fun e => e.isAccess = true) a) : Keeps World.auditLog a := by
  intro w
  obtain ⟨events, htrace, he⟩ := h w
  unfold World.auditLog
  rw [htrace, records_append, records_eq_nil fun e hmem => Event.record?_of_isAccess (he e hmem),
    List.append_nil]

theorem Act.auditLog_report (record : AuditRecord) (w : World) :
    (after (report record) w).auditLog = w.auditLog ++ [record] :=
  World.auditLog_noting [.audit w.clock record] w

namespace Storing

theorem get_auditLog (key : String) : Keeps World.auditLog (get key) :=
  Notes.keeps_auditLog ((get_onlyReads key).mono fun _ he => he.1)

end Storing

namespace Resolving

theorem fetch_auditLog (d : KeyDescriptor) : Keeps World.auditLog (fetch d) := by
  intro w
  obtain ⟨-, events, hw, he, -⟩ := fetch_spec d w
  have hsilent : ∀ e ∈ events, e.record? = none := by
    intro e hmem
    have hsearch := he e hmem
    cases e <;> first | rfl | cases hsearch
  rw [hw, World.auditLog_noting, records_eq_nil hsilent, List.append_nil]

/-- With resolved keys in memory, keeping one is not reported. -/
theorem store_auditLog {w : World} (h : w.cache.table = none) (usual : Int)
    (extension value : String) :
    (after (Caching.store (.int usual) extension value .null) w).auditLog = w.auditLog := by
  cases hcounts : w.cache.counts usual with
  | true =>
    rw [after_eq (Caching.store_memory h extension value hcounts), World.auditLog_noting]
    exact List.append_nil _
  | false =>
    rw [after_eq (Caching.store_endless h extension value hcounts), World.auditLog_noting]
    exact List.append_nil _

/-- With resolved keys in memory, a resolution is not reported: it is over once it has asked, or
else keeps what it was told. -/
theorem resolve_auditLog {w : World} (h : w.cache.table = none) (usual : Int) (d : KeyDescriptor) :
    (after (resolve usual d) w).auditLog = w.auditLog := by
  have hlookup : (after (Caching.lookup d.extension) w).auditLog = w.auditLog := by
    rw [after_eq (Caching.lookup_memory h d.extension), World.auditLog_noting]
    exact List.append_nil _
  have hfetch := (fetch_auditLog d (after (Caching.lookup d.extension) w)).trans hlookup
  have htable : (after (fetch d) (after (Caching.lookup d.extension) w)).cache.table = none := by
    rw [after_fetch_cache, after_lookup_cache h]
    exact h
  have hstore (v : String) := (store_auditLog htable usual d.extension v).trans hfetch
  have ho := resolve_outcome usual d w
  generalize hp : perform (resolve usual d) w = p at ho
  rw [after_eq hp]
  cases ho with
  | unmarked _ => rfl
  | kept _ _ => exact hlookup
  | failed _ _ _ => exact hfetch
  | givenUp _ _ _ => exact hfetch
  | settled _ _ _ _ => exact hstore _
  | overrun _ _ _ _ => exact hstore _

end Resolving

namespace Refreshing

/-- Reading the table of platforms again is not reported. -/
theorem refresh_auditLog : Keeps World.auditLog refresh := by
  have hfetch (key : String) : Keeps World.auditLog (fetch? key) := by
    intro w
    rw [after_eq (fetch?_perform key w)]
    exact Storing.get_auditLog key w
  have hreplace (t : PlatformTable) : Keeps World.auditLog (replace t) := by
    refine keeps_bind (fun w => ?_) fun _ => keeps_modify fun w => rfl
    exact (w.auditLog_noting [.platformsLoaded]).trans (List.append_nil _)
  refine keeps_bind keeps_get fun w => ?_
  split
  · exact keeps_throw _
  · refine keeps_bind (hfetch _) fun found => ?_
    split
    · exact keeps_pure _
    · split
      · exact keeps_throw _
      · exact keeps_pure _
      · exact hreplace _

end Refreshing

namespace Gateway

variable {g : Gateway} {r : Request} {key : String} {w : World}

/-! ## Records -/

/-- The record that a request is not authorized to do what it asks for. -/
def forbiddenRecord (g : Gateway) (r : Request) (key : String) : AuditRecord :=
  .alert "request_forbidden"
    [("method", .text r.method), ("key", .text key), ("client_ip", .text (g.clientAddress r))]

/-- The record that an object was kept. -/
def keptRecord (r : Request) (key : String) : AuditRecord :=
  .event "object_put" [("key", .text key), ("content_type", .text (uploadType r key))]

/-- The record that an object was removed. -/
def removedRecord (key : String) : AuditRecord := .event "object_deleted" [("key", .text key)]

/-- The record that an object was downloaded, if it is no manifest and its name tells what it is. -/
def downloadRecords (g : Gateway) (r : Request) (d : KeyDescriptor) : List AuditRecord :=
  if d.extension = "yml" then []
  else (InstallerName.parse? d.baseName).toList.map fun n =>
    .event "download" (("client_ip", .text (g.clientAddress r)) :: nameFields n)

/-- The record that the object for which a key stands was downloaded from the store. -/
def servedRecords (g : Gateway) (r : Request) (key : String) (w : World) : List AuditRecord :=
  if key.startsWith g.settings.staticPrefix then []
  else
    match result (Resolving.resolve g.settings.latestCacheTtl (KeyDescriptor.parse key)) w with
    | .ok resolved => g.downloadRecords r (KeyDescriptor.parse resolved)
    | .error _ => []

/-! ## Reading -/

/-- A download is reported unless it is that of a manifest. -/
theorem reportDownload_auditLog (g : Gateway) (r : Request) {d : KeyDescriptor}
    (h : d.extension ≠ "yml") (w : World) :
    (after (g.reportDownload r d.baseName) w).auditLog = w.auditLog ++ g.downloadRecords r d := by
  unfold reportDownload downloadRecords
  rw [if_neg h]
  cases InstallerName.parse? d.baseName with
  | none => exact (List.append_nil _).symm
  | some n => exact auditLog_report _ w

/-- Sending an object reports its download and nothing else. -/
theorem sendObject_auditLog (g : Gateway) (r : Request) (d : KeyDescriptor) (o : StoredObject)
    (w : World) :
    (after (g.sendObject r d o) w).auditLog = w.auditLog ++ g.downloadRecords r d := by
  have hsend : Keeps World.auditLog (do
      let fields ← sendable (objectFields d o)
      let more ← g.cacheFields
      return Answer.full ⟨200, fields ++ more, o.chunks, !o.isStream, none⟩) :=
    keeps_bind (sendable_keeps _) fun _ => keeps_bind (cacheFields_keeps g) fun _ => keeps_pure _
  unfold sendObject
  dsimp only
  by_cases h : d.extension = "yml"
  · rw [if_neg (not_not.mpr h)]
    unfold downloadRecords
    rw [if_pos h, List.append_nil]
    exact hsend w
  · rw [if_pos h]
    exact (part_after_bind (fun _ => hsend) w).trans (reportDownload_auditLog g r h w)

/-- Objects and resolved keys are kept in memory, and the content types of objects can be sent. -/
structure KeepsInMemory (w : World) : Prop where
  bucket : w.storage.bucket = none
  table : w.cache.table = none
  lines : ∀ key, ∀ o ∈ w.storage.memory.find? key, ∀ t ∈ o.2, IsLine t

/-- An object that is got from memory was kept there. -/
theorem exists_kept_of_get (hbucket : w.storage.bucket = none) {o : StoredObject}
    (h : result (Storing.get key) w = .ok (some o)) :
    ∃ kept, w.storage.memory.find? key = some kept ∧
      StoredObject.ofMemory key kept.1 kept.2 = o := by
  rw [Storing.get_result, hbucket] at h
  cases houtage : w.outage with
  | some message =>
    rw [houtage] at h
    cases h
  | none =>
    rw [houtage] at h
    exact Option.map_eq_some_iff.mp (Except.ok.inj h)

/-- The object with a resolved key is looked for and sent. -/
def deliver (g : Gateway) (r : Request) (resolved : String) : Act Answer := do
  match ← Storing.get resolved with
  | none => return .brokenOff 404 "Object Not Found"
  | some o => g.sendObject r (KeyDescriptor.parse resolved) o

/-- That an object is sent is reported exactly if it is. -/
theorem deliver_auditLog (h : KeepsInMemory w) {more : Headers}
    (hdate : CacheControl.fields w.clock g.settings.cacheMaxAge = .ok more) (resolved : String) :
    (after (g.deliver r resolved) w).auditLog = w.auditLog ++
      if (ending (result (g.deliver r resolved) w)).response.status = 200 then
        g.downloadRecords r (KeyDescriptor.parse resolved)
      else [] := by
  have hget := Storing.get_auditLog resolved w
  obtain ⟨events, hafter, -⟩ := Storing.get_after resolved w
  unfold deliver
  cases hr : result (Storing.get resolved) w with
  | error f =>
    rw [after_eq (perform_bind_of_error hr), result_eq (perform_bind_of_error hr), hget]
    exact (List.append_nil _).symm
  | ok found =>
    rw [after_bind_of_ok hr, result_bind_of_ok hr]
    cases found with
    | none => exact hget.trans (List.append_nil _).symm
    | some o =>
      obtain ⟨kept, hkept, rfl⟩ := exists_kept_of_get h.bucket hr
      have hsent : result (g.sendObject r (KeyDescriptor.parse resolved)
          (.ofMemory resolved kept.1 kept.2)) (after (Storing.get resolved) w) = .ok (.full _) :=
        sendObject_perform _ _ _ (h.lines resolved kept hkept) (by rw [hafter]; exact hdate)
      rw [hsent, sendObject_auditLog, hget]
      rfl

/-- A download is reported exactly if it is answered with success. -/
theorem read_auditLog (h : KeepsInMemory w) {more : Headers}
    (hdate : CacheControl.fields w.clock g.settings.cacheMaxAge = .ok more) :
    (after (g.read r key) w).auditLog = w.auditLog ++
      if (ending (result (g.read r key) w)).response.status = 200 then g.servedRecords r key w
      else [] := by
  have hread : g.read r key = if key.startsWith g.settings.staticPrefix then g.passOn key
      else Resolving.resolve g.settings.latestCacheTtl (KeyDescriptor.parse key) >>=
        g.deliver r := rfl
  unfold servedRecords
  rw [hread]
  by_cases hs : key.startsWith g.settings.staticPrefix = true
  · rw [if_pos hs, if_pos hs, ite_self, List.append_nil]
    exact Notes.keeps_auditLog ((passOn_onlyReads g key).mono fun _ he => he.1) w
  rw [if_neg hs, if_neg hs]
  have hlog := Resolving.resolve_auditLog h.table g.settings.latestCacheTtl
    (KeyDescriptor.parse key)
  have hsame := Resolving.resolve_sameMoment g.settings.latestCacheTtl (KeyDescriptor.parse key) w
  cases hr : result (Resolving.resolve g.settings.latestCacheTtl (KeyDescriptor.parse key)) w with
  | error f =>
    rw [after_eq (perform_bind_of_error hr), result_eq (perform_bind_of_error hr), hlog]
    exact (List.append_nil _).symm
  | ok resolved =>
    generalize hw' : after (Resolving.resolve g.settings.latestCacheTtl (KeyDescriptor.parse key)) w
      = w' at hlog hsame
    have hmemory : KeepsInMemory w' := by
      refine ⟨?_, ?_, ?_⟩
      · rw [hsame.storage]
        exact h.bucket
      · rw [← hw']
        exact (Resolving.resolve_keeps isBesideStores_table _ _ w).trans h.table
      · rw [hsame.storage]
        exact h.lines
    have hdate' : CacheControl.fields w'.clock g.settings.cacheMaxAge = .ok more := by
      rw [hsame.clock]
      exact hdate
    rw [after_bind_of_ok hr, result_bind_of_ok hr, hw', ← hlog]
    exact deliver_auditLog hmemory hdate' resolved

/-! ## Keeping and removing -/

/-- Keeping an object is reported exactly if it succeeds. -/
theorem keep_auditLog (h : w.storage.bucket = none) (key : String) :
    (after (keep r key) w).auditLog = w.auditLog ++
      if (ending (result (keep r key) w)).response.status = 200 then [keptRecord r key]
      else [] := by
  unfold keep
  cases r.received? with
  | none =>
    have hannounce : result (Storing.announce key (some (uploadType r key))) w = .ok () :=
      result_eq (Storing.announce_memory h key _)
    dsimp only
    rw [after_bind_of_ok hannounce, result_bind_of_ok hannounce]
    exact (Notes.keeps_auditLog (Storing.announce_notes key _) w).trans (List.append_nil _).symm
  | some body =>
    have hput := (Storing.put_memory h key body (some (uploadType r key))).1
    dsimp only
    rw [after_bind_of_ok hput, result_bind_of_ok hput,
      ← Notes.keeps_auditLog (Storing.put_notes key body _) w]
    exact auditLog_report (keptRecord r key) _

/-- Removing an object is reported exactly if it succeeds. -/
theorem remove_auditLog (h : w.storage.bucket = none) (key : String) :
    (after (remove key) w).auditLog = w.auditLog ++
      if (ending (result (remove key) w)).response.status = 200 then [removedRecord key]
      else [] := by
  have hdelete := (Storing.delete_memory h key).1
  unfold remove
  rw [after_bind_of_ok hdelete, result_bind_of_ok hdelete,
    ← Notes.keeps_auditLog (Storing.delete_notes key) w]
  exact auditLog_report (removedRecord key) _

end Gateway

end InstallerGateway
