import InstallerGateway.Proofs.Gateway.Mediation
import InstallerGateway.Proofs.Gateway.Sending
import InstallerGateway.Proofs.Gateway.StoreEffects

/-!
# Admitted requests

A request that passes every check is served, and answered with what comes of that. With objects in
memory, writing always succeeds, unless the body is not complete, and reading a plain key finds what
is kept under it.
-/

namespace InstallerGateway.Gateway

open Act

variable {g : Gateway} {r : Request} {w : World} {key : String}

/-- The limit that is told to the client. -/
def Verdict.told? : Verdict → Option Counted
  | .unlimited => none
  | .within told | .exceeded told => some told

/-! ## Checks -/

/-- Publishers are within the limits if these can be read. -/
theorem isWithinLimits_of_presentsSecret (hlimits : g.limits? ≠ none) (h : g.PresentsSecret r)
    (view : View) (w : World) : g.IsWithinLimits r view w := by
  refine ⟨.unlimited, ?_, nofun⟩
  unfold result judge
  cases hl : g.limits? with
  | none => exact absurd hl hlimits
  | some limits =>
    cases limits with
    | nil => rfl
    | cons first rest =>
      dsimp only
      rw [if_pos (isPublisher_iff.mpr h)]
      rfl

/-- A request that does not exceed a limit is served after it was counted. -/
theorem limited_of_ruling {view : View} {verdict : Verdict}
    (hverdict : result (g.judge r view) w = .ok verdict) (hnot : ∀ told, verdict ≠ .exceeded told)
    (served : StateM World Response) :
    let now := after (g.judge r view) w
    g.limited r view served w = (((served now).1, verdict.told?), (served now).2) := by
  have hjudge : perform (g.judge r view) w = (.ok verdict, after (g.judge r view) w) :=
    Prod.ext hverdict rfl
  rw [limited_eq, hjudge]
  cases verdict with
  | unlimited => rfl
  | within told => rfl
  | exceeded told => exact absurd rfl (hnot told)

/-- What is within the limits is served. -/
theorem limited_of_isWithinLimits {view : View} (h : g.IsWithinLimits r view w)
    (served : StateM World Response) : ∃ windows told, g.limited r view served w =
      (((served (w.withWindows windows)).1, told), (served (w.withWindows windows)).2) := by
  obtain ⟨verdict, hverdict, hnot⟩ := h
  obtain ⟨judged, windows, hjudge⟩ := judge_perform g r view w
  refine ⟨windows, verdict.told?, ?_⟩
  rw [limited_of_ruling hverdict hnot, after_eq hjudge]

/-- What the gateway admits it does not refuse. -/
theorem Admits.refusal?_eq_none (h : g.Admits r w key) : g.refusal? r (.object key) = none := by
  have hfits : g.isTooLarge r = false := by
    unfold isTooLarge
    cases hlength : r.contentLength? with
    | none => rfl
    | some n => simpa using h.length n hlength
  have hkey : keyFault? r (.object key) = none := by
    have hvalid := h.isValid
    unfold Key.isValid at hvalid
    unfold keyFault?
    dsimp only
    rw [if_pos h.access.isServed]
    exact Option.isNone_iff_eq_none.mp hvalid
  unfold refusal?
  rw [hfits, hkey]
  rfl

/-- A request that passes every check is served after it was counted, and the limit is told. -/
theorem answer_of_ruling (h : g.Admits r w key) {verdict : Verdict}
    (hverdict : result (g.judge r .objects) w = .ok verdict)
    (hnot : ∀ told, verdict ≠ .exceeded told) :
    let now := after (g.judge r .objects) w
    let served := g.serveObject r key
    (g.answer r w).1 = (ending (result served now)).response.withFields
      (limitFields verdict.told? (after served now)) := by
  intro now served
  have hdispatch : g.dispatch r (.object key) w =
      (((timed served now).1, verdict.told?), (timed served now).2) := by
    unfold dispatch
    rw [h.refusal?_eq_none]
    exact limited_of_ruling hverdict hnot (timed served)
  have hfields : limitFields verdict.told? (timed served now).2 =
      limitFields verdict.told? (after served now) := by
    rw [timed_snd]
    cases verdict.told? <;> rfl
  rw [answer_eq, h.route, hdispatch]
  dsimp only
  rw [hfields, timed_fst]

/-- A request that passes every check is served, and nothing but header fields about the limit is
added. -/
theorem answer_of_admits (h : g.Admits r w key) :
    ∃ windows fields, (g.answer r w).1 =
      (ending (result (g.serveObject r key) (w.withWindows windows))).response.withFields
        fields ∧ ∀ f ∈ fields, f.1 ∈ limitNames := by
  obtain ⟨verdict, hverdict, hnot⟩ := h.limits
  obtain ⟨judged, windows, hjudge⟩ := judge_perform g r .objects w
  have hanswer := answer_of_ruling h hverdict hnot
  rw [after_eq hjudge] at hanswer
  exact ⟨windows, _, hanswer, fun f => name_of_mem_limitFields⟩

/-- Only a request that passes every check is answered with success about an object. -/
theorem admits_of_ok (hroute : Route.ofRequest r.method r.path = .object key)
    (h : (g.answer r w).1.status = 200) : g.Admits r w key := by
  obtain ⟨fields, -, hanswer, -, -⟩ := answer_of_dispatch g r w
  obtain ⟨-, -, -, -, hrefused⟩ := dispatch_mediated g r w
  by_contra hno
  have hnone : ¬ ∃ other, g.Admits r w other := by
    rintro ⟨other, hother⟩
    have hsame : other = key := by
      have := hother.route.symm.trans hroute
      injection this
    exact hno (hsame ▸ hother)
  rcases (hrefused hnone).1 with hhealth | herror
  · cases hhealth.symm.trans hroute
  · have hstatus := herror.status
    rw [hanswer] at h
    have hok : (g.dispatch r (Route.ofRequest r.method r.path) w).1.1.status = 200 := h
    omega

/-! ## Serving -/

/-- What may be served is served by the method of the request. -/
theorem serveObject_of_mayServe (h : g.MayServe r key) : g.serveObject r key =
    if r.method = "PUT" then keep r key
    else if r.method = "DELETE" then remove key
    else g.read r key := by
  unfold serveObject
  rw [if_neg (by simp [h.isServed]), if_neg (by simp [authorizes_iff.mpr h])]

/-- Without a bucket, an upload whose body has been received succeeds. -/
theorem keep_result (key : String) (hbucket : w.storage.bucket = none) {body : ByteArray}
    (hbody : r.received? = some body) :
    result (keep r key) w = .ok (.full (.plain ("Put " ++ key ++ " successfully!"))) := by
  unfold result keep
  rw [hbody]
  have hput := (Storing.put_memory hbucket key body (some (uploadType r key))).1
  exact result_bind_of_ok hput

theorem remove_result (key : String) (hbucket : w.storage.bucket = none) :
    result (remove key) w = .ok (.full (.plain "Deleted!")) :=
  result_bind_of_ok (Storing.delete_memory hbucket key).1

/-- An upload that is admitted succeeds. -/
theorem Admits.put_status (h : g.Admits r w key) (hbucket : w.storage.bucket = none)
    (hput : r.method = "PUT") {body : ByteArray} (hbody : r.received? = some body) :
    (g.answer r w).1.status = 200 := by
  obtain ⟨windows, fields, hanswer, -⟩ := answer_of_admits h
  have hkept := keep_result (w := w.withWindows windows) key hbucket hbody
  rw [hanswer, serveObject_of_mayServe h.access, if_pos hput, hkept]
  rfl

theorem Admits.delete_status (h : g.Admits r w key) (hbucket : w.storage.bucket = none)
    (hdelete : r.method = "DELETE") : (g.answer r w).1.status = 200 := by
  obtain ⟨windows, fields, hanswer, -⟩ := answer_of_admits h
  have hput : r.method ≠ "PUT" := by simp [hdelete]
  have hremoved := remove_result (w := w.withWindows windows) key hbucket
  rw [hanswer, serveObject_of_mayServe h.access, if_neg hput, if_pos hdelete, hremoved]
  rfl

/-- Reading a plain key is answered with what is kept under it. -/
theorem Admits.get_answer (h : g.Admits r w key) (hget : r.method = "GET")
    (hkey : g.IsPlain key) (hbucket : w.storage.bucket = none) (houtage : w.outage = none)
    (hlines : ∀ o ∈ w.storage.memory.find? key, ∀ t ∈ o.2, IsLine t) {more : Headers}
    (hdate : CacheControl.fields w.clock g.settings.cacheMaxAge = .ok more) :
    ∃ fields, (g.answer r w).1 = ((w.storage.memory.find? key).elim
      (Response.ofMessage 404 "Object Not Found") fun o =>
        sending (KeyDescriptor.parse key) (.ofMemory key o.1 o.2) more).withFields fields := by
  obtain ⟨windows, fields, hanswer, -⟩ := answer_of_admits h
  have hread := read_plain (r := r) (w := w.withWindows windows) hkey hbucket houtage hlines hdate
  refine ⟨fields, ?_⟩
  rw [hanswer, serveObject_of_mayServe h.access, if_neg (by simp [hget]), if_neg (by simp [hget]),
    hread]
  have hsame : (w.withWindows windows).storage = w.storage := rfl
  rw [hsame]
  cases w.storage.memory.find? key <;> rfl

end InstallerGateway.Gateway
