import InstallerGateway.Proofs.Gateway.Admission
import InstallerGateway.Proofs.Limit.Counting

/-!
# Rulings

What the limits say about a request, unless it is refused before it comes to that. A ruling depends
on the request, the clock and the windows of time alone, and windows change by rulings alone. The
part of the gateway that a request is for deals with it unless the ruling is that a limit is
exceeded or cannot be read.
-/

namespace InstallerGateway

/-- The part of the gateway that a route leads to. -/
def Route.view? : Route → Option View
  | .health => some .health
  | .object _ => some .objects
  | .refused | .nowhere => none

namespace Gateway

open Act

variable {g : Gateway} {r : Request} {view : View} {w w' : World}

/-- The part of the gateway that a request is for, unless the request is refused before it is
counted. -/
def reached? (g : Gateway) (r : Request) : Option View :=
  let route := Route.ofRequest r.method r.path
  if (g.refusal? r route).isSome then none else route.view?

/-- What the limits say about a request, if it comes to that. -/
def ruling? (g : Gateway) (r : Request) (w : World) : Option (Except Fault Verdict) :=
  (g.reached? r).map fun view => result (g.judge r view) w

/-- What the part of the gateway that a request is for does about it. -/
def viewed (g : Gateway) (r : Request) : StateM World Response :=
  match Route.ofRequest r.method r.path with
  | .object key => timed (g.serveObject r key)
  | _ => fun w => (healthAnswer r.method w.statistics, w)

/-- The request comes to the part of the gateway that it is for. -/
def isDispatched (g : Gateway) (r : Request) (w : World) : Bool :=
  match g.ruling? r w with
  | none | some (.error _) | some (.ok (.exceeded _)) => false
  | some (.ok .unlimited) | some (.ok (.within _)) => true

/-- A limit says that the request is one too many. -/
def isExceeding (g : Gateway) (r : Request) (w : World) : Bool :=
  match g.ruling? r w with
  | some (.ok (.exceeded _)) => true
  | _ => false

/-- What is dispatched exceeds no limit. -/
theorem isExceeding_of_isDispatched (h : g.isDispatched r w = true) :
    g.isExceeding r w = false := by
  unfold isDispatched at h
  unfold isExceeding
  generalize g.ruling? r w = ruling? at h ⊢
  rcases ruling? with _ | _ | (_ | told | told)
  · rfl
  · rfl
  · rfl
  · rfl
  · cases h

/-! ## What depends on rulings -/

/-- A request that is not counted is refused, and nothing else is done about it. -/
theorem dispatch_of_not_reached (h : g.reached? r = none) (w : World) :
    ∃ response, response.IsError ∧ response.status ≠ 429 ∧
      g.dispatch r (Route.ofRequest r.method r.path) w = ((response, none), w) := by
  unfold reached? at h
  dsimp only at h
  unfold dispatch
  cases hv : g.refusal? r (Route.ofRequest r.method r.path) with
  | some refused =>
    refine ⟨refused, isError_of_refusal? hv, ?_, rfl⟩
    obtain ⟨text, rfl | rfl⟩ := eq_ofMessage_of_refusal? hv
    · show (413 : Nat) ≠ 429
      decide
    · show (400 : Nat) ≠ 429
      decide
  | none =>
    rw [hv, if_neg (by simp)] at h
    cases hroute : Route.ofRequest r.method r.path with
    | refused =>
      exact ⟨methodRefused, (Response.isError_ofMessage (by decide) _).withFields _, by decide, rfl⟩
    | nowhere => exact ⟨notFound, Response.isError_page (by decide) _, by decide, rfl⟩
    | health =>
      rw [hroute] at h
      cases h
    | object key =>
      rw [hroute] at h
      cases h

/-- What reaches a part of the gateway is limited there. -/
theorem dispatch_of_reached (h : g.reached? r = some view) :
    g.dispatch r (Route.ofRequest r.method r.path) = g.limited r view (g.viewed r) := by
  unfold reached? at h
  dsimp only at h
  split at h
  · cases h
  · rename_i hv
    rw [Option.not_isSome_iff_eq_none] at hv
    unfold dispatch viewed
    rw [hv]
    cases hroute : Route.ofRequest r.method r.path <;> rw [hroute] at h <;> cases h <;> rfl

/-- What is dispatched is within the limits of its part. -/
theorem isWithinLimits_of_isDispatched (h : g.isDispatched r w = true) :
    ∃ view, g.reached? r = some view ∧ g.IsWithinLimits r view w := by
  unfold isDispatched ruling? at h
  cases hreached : g.reached? r with
  | none =>
    rw [hreached] at h
    cases h
  | some view =>
    rw [hreached, Option.map_some] at h
    refine ⟨view, rfl, ?_⟩
    rcases hruling : result (g.judge r view) w with _ | (_ | told | told) <;> rw [hruling] at h
    · cases h
    · exact ⟨.unlimited, hruling, nofun⟩
    · exact ⟨.within told, hruling, nofun⟩
    · cases h

/-- What is dispatched is dealt with by its part, after the windows have counted it. -/
theorem dispatch_of_isDispatched (h : g.isDispatched r w = true) : ∃ windows told,
    g.dispatch r (Route.ofRequest r.method r.path) w =
      (((g.viewed r (w.withWindows windows)).1, told), (g.viewed r (w.withWindows windows)).2) := by
  obtain ⟨view, hreached, hlimits⟩ := isWithinLimits_of_isDispatched h
  rw [dispatch_of_reached hreached]
  exact limited_of_isWithinLimits hlimits _

/-- A request that is not dispatched is answered with an error, and at most counted. It is answered
with status 429 exactly if a limit says that it is one too many. -/
theorem dispatch_of_not_isDispatched (h : g.isDispatched r w = false) : ∃ response windows told,
    response.IsError ∧ (response.status = 429 ↔ g.isExceeding r w = true) ∧
      g.dispatch r (Route.ofRequest r.method r.path) w =
        ((response, told), w.withWindows windows) := by
  unfold isDispatched at h
  unfold isExceeding
  cases hreached : g.reached? r with
  | none =>
    obtain ⟨response, herror, hstatus, hdispatch⟩ := dispatch_of_not_reached hreached w
    have hruling : g.ruling? r w = none := by
      unfold ruling?
      rw [hreached]
      rfl
    rw [hruling]
    exact ⟨response, w.windows, none, herror, by simpa using hstatus, hdispatch⟩
  | some view =>
    obtain ⟨verdict, windows, hjudge⟩ := judge_perform g r view w
    have hruling : g.ruling? r w = some verdict := by
      unfold ruling?
      rw [hreached, Option.map_some, result_eq hjudge]
    rw [hruling] at h ⊢
    rw [dispatch_of_reached hreached, limited_eq, hjudge]
    rcases verdict with _ | (_ | told | told)
    · exact ⟨failure, windows, none, Response.isError_page (by decide) _,
        iff_of_false (by decide) Bool.false_ne_true, rfl⟩
    · cases h
    · cases h
    · exact ⟨tooMany told.limit, windows, some told, Response.isError_page (by decide) _,
        iff_of_true rfl rfl, rfl⟩

/-- That is all that comes of such a request, but for reports. -/
theorem answer_of_not_isDispatched (h : g.isDispatched r w = false) :
    (g.answer r w).1.IsError ∧ ∃ windows events, (∀ e ∈ events, IsReport e) ∧
      (g.answer r w).2 = (w.withWindows windows).noting events := by
  obtain ⟨response, windows, told, herror, -, hdispatch⟩ := dispatch_of_not_isDispatched h
  obtain ⟨fields, events, hresponse, hworld, hreports, -⟩ := answer_of_dispatch g r w
  rw [hresponse, hworld, hdispatch]
  exact ⟨herror.withFields fields, windows, events, hreports, rfl⟩

theorem answer_status (g : Gateway) (r : Request) (w : World) : (g.answer r w).1.status =
    (g.dispatch r (Route.ofRequest r.method r.path) w).1.1.status := by
  obtain ⟨fields, -, hanswer, -, -⟩ := answer_of_dispatch g r w
  rw [hanswer]
  rfl

/-! ## Counting under limits -/

/-- The first limit that a client exceeds now, and the windows after the hits up to it. -/
def tally (now : Instant) (client : String) (view : View) :
    List RateLimit → Windows → Option Counted × Windows
  | [], ws => (none, ws)
  | l :: rest, ws =>
    let c : Counted := ⟨l, client, view⟩
    if l.count < (ws.next now c).hits then (some c, ws.hit now c)
    else tally now client view rest (ws.hit now c)

/-- Which limit is exceeded, and what the windows are then, is a matter of tallying. -/
theorem firstExceeded_eq (client : String) (view : View) (limits : List RateLimit) (w : World) :
    perform (firstExceeded client view limits) w =
      (.ok (tally w.clock client view limits w.windows).1,
        w.withWindows (tally w.clock client view limits w.windows).2) := by
  induction limits generalizing w with
  | nil => rfl
  | cons l rest ih =>
    have hhit : perform (hit ⟨l, client, view⟩) w =
        (.ok (w.windows.next w.clock ⟨l, client, view⟩).hits,
          w.withWindows (w.windows.hit w.clock ⟨l, client, view⟩)) := rfl
    unfold firstExceeded tally
    rw [perform_bind_ok hhit]
    dsimp only
    split
    · rfl
    · exact ih _

/-- Only the open windows of the client matter. -/
theorem tally_congr {now : Instant} {client : String} {ws ws' : Windows}
    (hopen : ∀ c : Counted, c.client = client → ws'.open? now c = ws.open? now c) (view : View)
    (limits : List RateLimit) :
    (tally now client view limits ws').1 = (tally now client view limits ws).1 := by
  induction limits generalizing ws ws' with
  | nil => rfl
  | cons l rest ih =>
    have hnext : ws'.next now ⟨l, client, view⟩ = ws.next now ⟨l, client, view⟩ := by
      unfold Windows.next
      rw [hopen _ rfl]
    unfold tally
    dsimp only
    rw [hnext]
    split
    · rfl
    · -- After the hit the open windows of the client agree again, the one that was hit included.
      refine ih fun c hc => ?_
      unfold Windows.open?
      by_cases hself : c = ⟨l, client, view⟩
      · rw [hself, Windows.lookup_hit_self, Windows.lookup_hit_self, hnext]
      · rw [Windows.lookup_hit_of_ne hself, Windows.lookup_hit_of_ne hself]
        exact hopen c hc

/-! ## What rulings depend on -/

/-- Requests that do not present the secret are counted if there are limits. -/
theorem judge_of_limits {first : RateLimit} {rest : List RateLimit}
    (hlimits : g.limits? = some (first :: rest)) (h : g.isPublisher r = false) (view : View)
    (w : World) :
    let counted := tally w.clock (g.countedAddress r) view (first :: rest) w.windows
    perform (g.judge r view) w =
      (.ok (counted.1.elim (.within ⟨first, g.countedAddress r, view⟩) .exceeded),
        w.withWindows counted.2) := by
  intro counted
  have hfirst : perform (firstExceeded (g.countedAddress r) view (first :: rest)) w =
      (.ok counted.1, w.withWindows counted.2) := firstExceeded_eq _ _ _ _
  unfold judge
  rw [hlimits]
  dsimp only
  rw [if_neg (by simp [h]), perform_bind_ok hfirst]
  cases counted.1 <;> rfl

/-- All other requests are ruled on without being counted. -/
theorem judge_of_not_counted (h : g.limits? = none ∨ g.limits? = some [] ∨ g.isPublisher r = true)
    (view : View) : ∃ verdict : Except Fault Verdict, (∀ told, verdict ≠ .ok (.exceeded told)) ∧
      ∀ w, perform (g.judge r view) w = (verdict, w) := by
  unfold judge
  split
  · exact ⟨.error .badLimit, nofun, fun _ => rfl⟩
  · exact ⟨.ok .unlimited, nofun, fun _ => rfl⟩
  · rename_i hlimits
    have hpublisher : g.isPublisher r = true := by simpa [hlimits] using h
    rw [if_pos hpublisher]
    exact ⟨.ok .unlimited, nofun, fun _ => rfl⟩

/-- A request is counted unless there are no limits or it is a publisher's. -/
theorem counted_or_not (g : Gateway) (r : Request) :
    (g.limits? = none ∨ g.limits? = some [] ∨ g.isPublisher r = true) ∨
      g.isPublisher r = false ∧ ∃ first rest, g.limits? = some (first :: rest) := by
  rcases hlimits : g.limits? with _ | _ | ⟨first, rest⟩
  · exact .inl (.inl rfl)
  · exact .inl (.inr (.inl rfl))
  · cases hpublisher : g.isPublisher r with
    | true => exact .inl (.inr (.inr rfl))
    | false => exact .inr ⟨rfl, first, rest, rfl⟩

/-- What the limits say about a request, and the windows after that, depend on the clock and the
windows alone. -/
theorem judge_congr (hclock : w'.clock = w.clock) (hwindows : w'.windows = w.windows)
    (g : Gateway) (r : Request) (view : View) :
    result (g.judge r view) w' = result (g.judge r view) w ∧
      (after (g.judge r view) w').windows = (after (g.judge r view) w).windows := by
  rcases counted_or_not g r with hnot | ⟨hpublisher, first, rest, hlimits⟩
  · obtain ⟨verdict, -, hjudge⟩ := judge_of_not_counted hnot view
    rw [result_eq (hjudge w'), result_eq (hjudge w), after_eq (hjudge w'), after_eq (hjudge w)]
    exact ⟨rfl, hwindows⟩
  · have hjudge := judge_of_limits hlimits hpublisher view
    rw [result_eq (hjudge w'), result_eq (hjudge w), after_eq (hjudge w'), after_eq (hjudge w),
      hclock, hwindows]
    exact ⟨rfl, rfl⟩

theorem ruling?_congr (hclock : w'.clock = w.clock) (hwindows : w'.windows = w.windows)
    (g : Gateway) (r : Request) : g.ruling? r w' = g.ruling? r w := by
  unfold ruling?
  simp only [(judge_congr hclock hwindows g r _).1]

/-- What the limits say about a request depends on the open windows of its client alone. -/
theorem ruling?_of_open (hclock : w'.clock = w.clock)
    (hopen : ∀ c : Counted, c.client = g.countedAddress r →
      w'.windows.open? w.clock c = w.windows.open? w.clock c) :
    g.ruling? r w' = g.ruling? r w := by
  have hjudge (view : View) : result (g.judge r view) w' = result (g.judge r view) w := by
    rcases counted_or_not g r with hnot | ⟨hpublisher, first, rest, hlimits⟩
    · obtain ⟨verdict, -, hjudge⟩ := judge_of_not_counted hnot view
      rw [result_eq (hjudge w'), result_eq (hjudge w)]
    · have hjudge := judge_of_limits hlimits hpublisher view
      rw [result_eq (hjudge w'), result_eq (hjudge w), hclock, tally_congr hopen]
  unfold ruling?
  simp only [hjudge]

theorem judge_of_isPublisher (h : g.isPublisher r = true) (view : View) (w : World) :
    after (g.judge r view) w = w ∧ ∀ told, result (g.judge r view) w ≠ .ok (.exceeded told) := by
  obtain ⟨verdict, hverdict, hjudge⟩ := judge_of_not_counted (.inr (.inr h)) view
  rw [after_eq (hjudge w), result_eq (hjudge w)]
  exact ⟨rfl, hverdict⟩

/-- A publisher exceeds no limit. -/
theorem isExceeding_of_isPublisher (h : g.isPublisher r = true) (w : World) :
    g.isExceeding r w = false := by
  unfold isExceeding ruling?
  cases hreached : g.reached? r with
  | none => rfl
  | some view =>
    have hnot := (judge_of_isPublisher h view w).2
    rw [Option.map_some]
    rcases hruling : result (g.judge r view) w with _ | (_ | told | told)
    · rfl
    · rfl
    · rfl
    · exact absurd hruling (hnot told)

theorem isExceeding_congr (h : g.ruling? r w' = g.ruling? r w) :
    g.isExceeding r w' = g.isExceeding r w ∧ g.isDispatched r w' = g.isDispatched r w := by
  unfold isExceeding isDispatched
  rw [h]
  exact ⟨rfl, rfl⟩

/-- Under a single limit, each request of others is counted, and is one too many if the count of the
window is beyond the limit. -/
theorem judge_of_single {l : RateLimit} (hlimits : g.limits? = some [l])
    (h : g.isPublisher r = false) (view : View) (w : World) :
    let c : Counted := ⟨l, g.countedAddress r, view⟩
    perform (g.judge r view) w =
      (.ok (if l.count < (w.windows.next w.clock c).hits then .exceeded c else .within c),
        w.withWindows (w.windows.hit w.clock c)) := by
  intro c
  have htally : tally w.clock (g.countedAddress r) view [l] w.windows =
      (if l.count < (w.windows.next w.clock c).hits then some c else none,
        w.windows.hit w.clock c) := by
    unfold tally
    dsimp only
    split <;> rfl
  rw [judge_of_limits hlimits h view w, htally]
  dsimp only
  split <;> rfl

/-! ## What changes windows -/

/-- Dealing with a request leaves the windows as they are. -/
theorem viewed_windows (g : Gateway) (r : Request) (w : World) :
    (g.viewed r w).2.windows = w.windows := by
  unfold viewed
  cases Route.ofRequest r.method r.path with
  | object key =>
    dsimp only
    rw [timed_snd]
    exact serveObject_keeps isBesideStores_windows g r key w
  | health => rfl
  | refused => rfl
  | nowhere => rfl

/-- A request changes the windows as the limits do that are asked about it. -/
theorem answer_windows (g : Gateway) (r : Request) (w : World) : (g.answer r w).2.windows =
    (g.reached? r).elim w.windows fun view => (after (g.judge r view) w).windows := by
  obtain ⟨-, events, -, hanswer, -⟩ := answer_of_dispatch g r w
  have hsame : (g.answer r w).2.windows =
      (g.dispatch r (Route.ofRequest r.method r.path) w).2.windows := by
    rw [hanswer]
    rfl
  rw [hsame]
  cases hreached : g.reached? r with
  | none =>
    obtain ⟨response, -, -, hdispatch⟩ := dispatch_of_not_reached hreached w
    rw [hdispatch]
    rfl
  | some view =>
    obtain ⟨verdict, windows, hjudge⟩ := judge_perform g r view w
    rw [dispatch_of_reached hreached, limited_eq, hjudge, Option.elim_some, after_eq hjudge]
    rcases verdict with _ | (_ | told | told)
    · rfl
    · exact viewed_windows g r _
    · exact viewed_windows g r _
    · rfl

end Gateway

end InstallerGateway
