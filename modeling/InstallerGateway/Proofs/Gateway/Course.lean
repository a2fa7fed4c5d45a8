import InstallerGateway.Gateway.Serving
import InstallerGateway.Proofs.World.Acting

/-!
# The course of a request

A request is answered with an error of the gateway itself, with its health, or by serving the
object that it is for. Counting it changes nothing but the counts, and reporting it nothing but the
trace.
-/

namespace InstallerGateway

/-- The world with other counts of requests. -/
def World.withWindows (windows : Windows) (w : World) : World := { w with windows := windows }

theorem World.sameMoment_withWindows (windows : Windows) (w : World) :
    w.SameMoment (w.withWindows windows) := ⟨⟨rfl, rfl, rfl, rfl⟩, rfl⟩

/-- The response reports an error by a message or a page of the gateway itself. -/
structure Response.IsError (r : Response) : Prop where
  source : r.source = none
  status : 400 ≤ r.status
  chunks : ∃ text, r.chunks = (Response.ofMessage r.status text).chunks ∨
    r.chunks = (Response.page r.status text).chunks

theorem Response.isError_ofMessage {status : Nat} (h : 400 ≤ status) (text : String) :
    (Response.ofMessage status text).IsError := ⟨rfl, h, text, .inl rfl⟩

theorem Response.isError_page {status : Nat} (h : 400 ≤ status) (text : String) :
    (Response.page status text).IsError := ⟨rfl, h, text, .inr rfl⟩

theorem Response.IsError.withFields {r : Response} (h : r.IsError) (fields : Headers) :
    (r.withFields fields).IsError := ⟨h.source, h.status, h.chunks⟩

namespace Gateway

open Act

variable {g : Gateway} {r : Request} {w : World}

/-! ## Counting -/

/-- Finding out which limit is exceeded changes the windows alone. -/
theorem firstExceeded_perform (client : String) (view : View) (limits : List RateLimit)
    (w : World) : ∃ found windows,
      perform (firstExceeded client view limits) w = (.ok found, w.withWindows windows) := by
  induction limits generalizing w with
  | nil => exact ⟨none, w.windows, rfl⟩
  | cons l rest ih =>
    have hhit : perform (hit ⟨l, client, view⟩) w =
        (.ok (w.windows.next w.clock ⟨l, client, view⟩).hits,
          w.withWindows (w.windows.hit w.clock ⟨l, client, view⟩)) := rfl
    unfold firstExceeded
    rw [perform_bind_ok hhit]
    split
    · exact ⟨_, _, rfl⟩
    · obtain ⟨found, windows, h⟩ := ih (w.withWindows _)
      exact ⟨found, windows, h⟩

/-- Judging a request changes the windows alone. -/
theorem judge_perform (g : Gateway) (r : Request) (view : View) (w : World) :
    ∃ verdict windows, perform (g.judge r view) w = (verdict, w.withWindows windows) := by
  unfold judge
  split
  · exact ⟨_, w.windows, rfl⟩
  · exact ⟨_, w.windows, rfl⟩
  · rename_i first rest _
    cases g.isPublisher r with
    | true => exact ⟨_, w.windows, rfl⟩
    | false =>
      obtain ⟨found, windows, h⟩ :=
        firstExceeded_perform (g.countedAddress r) view (first :: rest) w
      rw [if_neg Bool.false_ne_true, perform_bind_ok h]
      cases found <;> exact ⟨_, windows, rfl⟩

/-- The limits can be read, and the request does not exceed one. -/
def IsWithinLimits (g : Gateway) (r : Request) (view : View) (w : World) : Prop :=
  ∃ verdict, result (g.judge r view) w = .ok verdict ∧ ∀ told, verdict ≠ .exceeded told

/-- What is done about a request, by what the limits say about it. -/
theorem limited_eq (g : Gateway) (r : Request) (view : View) (served : StateM World Response)
    (w : World) : g.limited r view served w =
      (match (perform (g.judge r view) w).1 with
        | .error _ => return (failure, none)
        | .ok .unlimited => return (← served, none)
        | .ok (.within c) => return (← served, some c)
        | .ok (.exceeded c) => return (tooMany c.limit, some c) :
        StateM World (Response × Option Counted)) (perform (g.judge r view) w).2 := rfl

/-- A request is refused with an error, or it is within the limits and served after it was
counted. -/
theorem limited_course (g : Gateway) (r : Request) (view : View)
    (served : StateM World Response) (w : World) : ∃ windows told,
      (∃ response, response.IsError ∧
        g.limited r view served w = ((response, told), w.withWindows windows)) ∨
      g.IsWithinLimits r view w ∧ g.limited r view served w =
        (((served (w.withWindows windows)).1, told), (served (w.withWindows windows)).2) := by
  obtain ⟨verdict, windows, h⟩ := judge_perform g r view w
  have hv : result (g.judge r view) w = verdict := result_eq h
  rw [limited_eq, h]
  rcases verdict with _ | (_ | c | c)
  · exact ⟨windows, none, .inl ⟨failure, Response.isError_page (by decide) _, rfl⟩⟩
  · exact ⟨windows, none, .inr ⟨⟨_, hv, nofun⟩, rfl⟩⟩
  · exact ⟨windows, some c, .inr ⟨⟨_, hv, nofun⟩, rfl⟩⟩
  · exact ⟨windows, some c, .inl ⟨tooMany c.limit, Response.isError_page (by decide) _, rfl⟩⟩

/-! ## Answering -/

theorem healthAnswer_status (method : String) (s : Statistics) :
    (healthAnswer method s).status = 200 := by
  unfold healthAnswer
  split <;> rfl

/-- How a request for objects ends, whether or not something goes wrong on the way. -/
def ending (result : Except Fault Answer) : Answer :=
  match result with
  | .ok a => a
  | .error _ => ⟨failure, false⟩

/-- The ways in which a request is dealt with: the response, and the world that is left. -/
inductive Course (g : Gateway) (r : Request) (w : World) : Response → World → Prop where
  /-- It is answered with an error of the gateway itself. -/
  | error {response : Response} (windows : Windows) (h : response.IsError) :
      Course g r w response (w.withWindows windows)
  /-- It asks for the health of the gateway. -/
  | health (windows : Windows) (h : Route.ofRequest r.method r.path = .health) :
      Course g r w (healthAnswer r.method w.statistics) (w.withWindows windows)
  /-- It is served, and how it went is added to the statistics. -/
  | served {key : String} (windows : Windows)
      (hroute : Route.ofRequest r.method r.path = .object key)
      (hvalid : g.refusal? r (.object key) = none) :
      Course g r w (timed (g.serveObject r key) (w.withWindows windows)).1
        (timed (g.serveObject r key) (w.withWindows windows)).2

theorem timed_fst (served : Act Answer) (w : World) :
    (timed served w).1 = (ending (result served w)).response := by
  unfold timed result ending
  rcases perform served w with ⟨_ | _, _⟩ <;> rfl

/-- Serving takes its time and enters it in the statistics. -/
theorem timed_snd (served : Act Answer) (w : World) :
    (timed served w).2 = { after served w with
      statistics := (after served w).statistics.record (ending (result served w)).isFull
        ((after served w).clock - w.clock) } := by
  unfold timed result after ending
  rcases perform served w with ⟨_ | _, _⟩ <;> rfl

/-- A request is refused by a message. -/
theorem eq_ofMessage_of_refusal? {route : Route} {refused : Response}
    (h : g.refusal? r route = some refused) :
    ∃ text, refused = .ofMessage 413 text ∨ refused = .ofMessage 400 text := by
  unfold refusal? at h
  split at h
  · exact ⟨_, .inl (Option.some.inj h).symm⟩
  · obtain ⟨f, -, hf⟩ := Option.map_eq_some_iff.mp h
    exact ⟨_, .inr hf.symm⟩

theorem isError_of_refusal? {route : Route} {refused : Response}
    (h : g.refusal? r route = some refused) : refused.IsError := by
  obtain ⟨text, rfl | rfl⟩ := eq_ofMessage_of_refusal? h
  · exact Response.isError_ofMessage (by decide) text
  · exact Response.isError_ofMessage (by decide) text

/-- A request is refused, or it asks for the health of the gateway, or it passes the screening and
the limits and is served. -/
theorem dispatch_cases (g : Gateway) (r : Request) (w : World) :
    let p := g.dispatch r (Route.ofRequest r.method r.path) w
    (p.1.1.IsError ∧ ∃ windows, p.2 = w.withWindows windows) ∨
    (Route.ofRequest r.method r.path = .health ∧
      p.1.1 = healthAnswer r.method w.statistics ∧ ∃ windows, p.2 = w.withWindows windows) ∨
    ∃ key windows, Route.ofRequest r.method r.path = .object key ∧
      g.refusal? r (.object key) = none ∧ g.IsWithinLimits r .objects w ∧
      p.1.1 = (timed (g.serveObject r key) (w.withWindows windows)).1 ∧
      p.2 = (timed (g.serveObject r key) (w.withWindows windows)).2 := by
  unfold dispatch
  cases hv : g.refusal? r (Route.ofRequest r.method r.path) with
  | some refused => exact .inl ⟨isError_of_refusal? hv, w.windows, rfl⟩
  | none =>
    cases hr : Route.ofRequest r.method r.path with
    | refused =>
      exact .inl ⟨(Response.isError_ofMessage (by decide) _).withFields _, w.windows, rfl⟩
    | nowhere => exact .inl ⟨Response.isError_page (by decide) _, w.windows, rfl⟩
    | health =>
      obtain ⟨windows, told, ⟨response, hm, hl⟩ | ⟨-, hl⟩⟩ :=
        limited_course g r .health (fun w => (healthAnswer r.method w.statistics, w)) w
      · dsimp only
        rw [hl]
        exact .inl ⟨hm, windows, rfl⟩
      · dsimp only
        rw [hl]
        exact .inr (.inl ⟨rfl, rfl, windows, rfl⟩)
    | object key =>
      rw [hr] at hv
      obtain ⟨windows, told, ⟨response, hm, hl⟩ | ⟨hlimits, hl⟩⟩ :=
        limited_course g r .objects (timed (g.serveObject r key)) w
      · dsimp only
        rw [hl]
        exact .inl ⟨hm, windows, rfl⟩
      · dsimp only
        rw [hl]
        exact .inr (.inr ⟨key, windows, rfl, hv, hlimits, rfl, rfl⟩)

/-- A request that is dispatched takes one of the courses. -/
theorem dispatch_course (g : Gateway) (r : Request) (w : World) :
    Course g r w (g.dispatch r (Route.ofRequest r.method r.path) w).1.1
      (g.dispatch r (Route.ofRequest r.method r.path) w).2 := by
  rcases dispatch_cases g r w with ⟨herror, windows, hw⟩ | ⟨hhealth, hresponse, windows, hw⟩ |
    ⟨key, windows, hroute, hvalid, -, hresponse, hw⟩
  · rw [hw]
    exact .error windows herror
  · rw [hw, hresponse]
    exact .health windows hhealth
  · rw [hw, hresponse]
    exact .served windows hroute hvalid

/-- The event tells about a request that has been answered. -/
def IsReport : Event → Prop
  | .audit .. | .close _ => True
  | _ => False

/-- Reporting a request changes the trace alone. -/
theorem reportRequest_snd (g : Gateway) (r : Request) (status : Nat) (start : Instant)
    (w : World) : ∃ events, (g.reportRequest r status start w).2 = w.noting events ∧
      ∀ e ∈ events, IsReport e := by
  let now := w.clock
  let fields := g.requestFields r status start now
  let alerts := if isAlarming status then
      [Event.audit now (.alert "security_alert" fields)]
    else []
  refine ⟨alerts ++ [.audit now (.event "http_request" fields)], ?_, ?_⟩
  · unfold World.noting
    rw [List.append_assoc]
    rfl
  · intro e he
    rcases List.mem_append.mp he with h | h
    · have halerts : e ∈ [Event.audit now (.alert "security_alert" fields)] := by
        dsimp only [alerts] at h
        split at h
        · exact h
        · cases h
      rw [List.mem_singleton.mp halerts]
      trivial
    · rw [List.mem_singleton.mp h]
      trivial

theorem close_snd (response : Response) (w : World) :
    ∃ events, (close response w).2 = w.noting events ∧ ∀ e ∈ events, IsReport e := by
  unfold close
  cases response.source with
  | none => exact ⟨[], rfl, nofun⟩
  | some url => exact ⟨[.close url], rfl, by simp [IsReport]⟩

/-- After a request was dealt with, header fields about the limit are added, the request is
reported, and the answer of another host is done with. -/
theorem answer_eq (g : Gateway) (r : Request) (w : World) :
    let p := g.dispatch r (Route.ofRequest r.method r.path) w
    let response := p.1.1.withFields (limitFields p.1.2 p.2)
    g.answer r w =
      (response, (close response (g.reportRequest r response.status w.clock p.2).2).2) := rfl

/-- The names of the header fields about the limit. -/
def limitNames : List String :=
  ["X-RateLimit-Limit", "X-RateLimit-Remaining", "X-RateLimit-Reset", "Retry-After"]

theorem name_of_mem_limitFields {told : Option Counted} {f : String × String}
    (h : f ∈ limitFields told w) : f.1 ∈ limitNames := by
  cases told with
  | none => cases h
  | some c => exact List.mem_map_of_mem h

/-- The answer is what comes of dispatching the request, with fields that tell of the limits, and
the request is reported then. -/
theorem answer_of_dispatch (g : Gateway) (r : Request) (w : World) :
    let p := g.dispatch r (Route.ofRequest r.method r.path) w
    ∃ fields events, (g.answer r w).1 = p.1.1.withFields fields ∧
      (g.answer r w).2 = p.2.noting events ∧ (∀ e ∈ events, IsReport e) ∧
      ∀ f ∈ fields, f.1 ∈ limitNames := by
  rw [answer_eq]
  generalize g.dispatch r (Route.ofRequest r.method r.path) w = p
  obtain ⟨⟨response, told⟩, w'⟩ := p
  obtain ⟨events, hreport, he⟩ := reportRequest_snd g r
    (response.withFields (limitFields told w')).status w.clock w'
  obtain ⟨more, hclose, he'⟩ := close_snd (response.withFields (limitFields told w'))
    (w'.noting events)
  refine ⟨limitFields told w', more ++ events, rfl, ?_, ?_, fun f => name_of_mem_limitFields⟩
  · dsimp only
    rw [hreport, hclose, World.noting_noting]
  · intro e hmem
    rcases List.mem_append.mp hmem with h | h
    · exact he' e h
    · exact he e h

/-- Every request takes one of the courses; after that it is reported. -/
theorem answer_course (g : Gateway) (r : Request) (w : World) : ∃ response fields w' events,
    Course g r w response w' ∧ (g.answer r w).1 = response.withFields fields ∧
      (g.answer r w).2 = w'.noting events := by
  obtain ⟨fields, events, hresponse, hw, -⟩ := answer_of_dispatch g r w
  exact ⟨_, fields, _, events, dispatch_course g r w, hresponse, hw⟩

end Gateway

end InstallerGateway
