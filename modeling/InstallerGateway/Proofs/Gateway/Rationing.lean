import InstallerGateway.Proofs.Gateway.Refusing

/-!
# Rationing under a limit

Requests arrive at any instants. Under a single limit each client gets as many of them through to
each part of the gateway, in each window of time, as the limit says. One that asks for the methods
of the health is counted like the others, but answered without looking at the health. Publishers are
not counted, and whether they ask makes no difference to others.
-/

namespace InstallerGateway.Gateway

open Act

/-- A request and the instant at which it arrives. -/
structure Arrival where
  instant : Instant
  request : Request

/-- A request and the world in which it arrives. -/
structure Visit where
  request : Request
  world : World

/-- The visits that come of arrivals one after the other. -/
def visits (g : Gateway) : World → List Arrival → List Visit
  | _, [] => []
  | w, a :: rest =>
    let now := { w with clock := a.instant }
    ⟨a.request, now⟩ :: g.visits (g.answer a.request now).2 rest

/-- The visit is counted under this. -/
def isCounted (g : Gateway) (c : Counted) (v : Visit) : Bool :=
  g.reached? v.request == some c.view && !g.isPublisher v.request &&
    g.countedAddress v.request == c.client

/-- The visits that are counted under this, by windows of time. -/
def windowsOf (g : Gateway) (c : Counted) (visits : List Visit) : List (List Visit) :=
  windowed c.limit.length (·.world.clock) (visits.filter (g.isCounted c))

/-- What the limits say about a visit, and whether it is answered with status 429. -/
def decision (g : Gateway) (v : Visit) : Option (Except Fault Verdict) × Bool :=
  (g.ruling? v.request v.world, (g.answer v.request v.world).1.status == 429)

/-- The request asks for the methods by which the health of the gateway may be addressed. -/
def asksForMethods (r : Request) : Bool :=
  Route.ofRequest r.method r.path == .health && r.method == "OPTIONS"

/-- The part of the gateway that the request is for deals with it itself. -/
def isViewed (g : Gateway) (v : Visit) : Bool :=
  g.isDispatched v.request v.world && !asksForMethods v.request

variable {g : Gateway} {l : RateLimit} {c : Counted} {v : Visit} {w w' : World}

theorem isCounted_iff : g.isCounted c v = true ↔ g.reached? v.request = some c.view ∧
    g.isPublisher v.request = false ∧ g.countedAddress v.request = c.client := by
  unfold isCounted
  simp [and_assoc]

/-! ## Single visits -/

/-- A visit opens or extends the window of what it is counted under, and no other window. -/
theorem answer_lookup (hlimits : g.limits? = some [l]) (hc : c.limit = l) (v : Visit) :
    (g.answer v.request v.world).2.windows.lookup c =
      if g.isCounted c v then some (v.world.windows.next v.world.clock c)
      else v.world.windows.lookup c := by
  rw [answer_windows]
  cases hreached : g.reached? v.request with
  | none =>
    rw [if_neg fun h => ?_]
    · rfl
    · cases hreached.symm.trans (isCounted_iff.mp h).1
  | some view =>
    rw [Option.elim_some]
    cases hpublisher : g.isPublisher v.request with
    | true =>
      rw [(judge_of_isPublisher hpublisher view v.world).1, if_neg fun h => ?_]
      cases hpublisher.symm.trans (isCounted_iff.mp h).2.1
    | false =>
      rw [after_eq (judge_of_single hlimits hpublisher view v.world)]
      by_cases hself : c = ⟨l, g.countedAddress v.request, view⟩
      · have hcounted : g.isCounted c v = true :=
          isCounted_iff.mpr ⟨by rw [hreached, hself], hpublisher, by rw [hself]⟩
        rw [if_pos hcounted, hself]
        exact Windows.lookup_hit_self _ _ _
      · have hother : ¬ g.isCounted c v = true := by
          intro h
          obtain ⟨hview, -, hclient⟩ := isCounted_iff.mp h
          rw [hreached] at hview
          cases hview
          subst hc
          exact hself (by rw [hclient])
        rw [if_neg hother]
        exact Windows.lookup_hit_of_ne hself _ _

/-- A counted visit is dispatched as long as its number in the window is within the limit. -/
theorem isDispatched_of_isCounted (hlimits : g.limits? = some [l]) (hc : c.limit = l)
    (h : g.isCounted c v = true) : g.isDispatched v.request v.world =
      decide ((v.world.windows.next v.world.clock c).hits ≤ c.limit.count) := by
  obtain ⟨hreached, hpublisher, hclient⟩ := isCounted_iff.mp h
  have hself : c = ⟨l, g.countedAddress v.request, c.view⟩ := by
    subst hc
    rw [hclient]
  have hjudge := judge_of_single hlimits hpublisher c.view v.world
  rw [← hself] at hjudge
  unfold isDispatched ruling?
  rw [hreached, Option.map_some, result_eq hjudge]
  by_cases hover : c.limit.count < (v.world.windows.next v.world.clock c).hits
  · rw [if_pos (hc ▸ hover), decide_eq_false (by omega)]
  · rw [if_neg (hc ▸ hover), decide_eq_true (by omega)]

/-! ## Runs -/

/-- The visits that are counted under something see the hits under it. The last window, from which
the next visit is counted, is the one that the world holds. -/
theorem visits_seesHits (hlimits : g.limits? = some [l]) (hc : c.limit = l) (w : World)
    (arrivals : List Arrival) :
    SeesHits c.limit.length (·.world.clock)
      (fun v : Visit => (v.world.windows.next v.world.clock c).hits) (w.windows.lookup c)
      ((g.visits w arrivals).filter (g.isCounted c)) := by
  induction arrivals generalizing w with
  | nil => exact trivial
  | cons a rest ih =>
    let v : Visit := ⟨a.request, { w with clock := a.instant }⟩
    have hlookup := answer_lookup hlimits hc v
    have hlater := ih (g.answer v.request v.world).2
    rw [hlookup, Windows.next_eq] at hlater
    show SeesHits _ _ _ _ ((v :: g.visits (g.answer v.request v.world).2 rest).filter _)
    by_cases hcounted : g.isCounted c v = true
    · rw [List.filter_cons_of_pos hcounted]
      rw [if_pos hcounted] at hlater
      exact ⟨congrArg Window.hits (Windows.next_eq _ _ _), hlater⟩
    · rw [List.filter_cons_of_neg hcounted]
      rw [if_neg hcounted] at hlater
      exact hlater

/-- Of the visits in a window as many are dispatched as the limit says, or all if they are fewer. -/
theorem countP_isDispatched (hlimits : g.limits? = some [l]) (hc : c.limit = l)
    (hstart : w.windows = []) (arrivals : List Arrival) {window : List Visit}
    (hwindow : window ∈ g.windowsOf c (g.visits w arrivals)) :
    window.countP (fun v => g.isDispatched v.request v.world) =
      min c.limit.count window.length := by
  have hseen := visits_seesHits hlimits hc w arrivals
  have hcounted : ∀ v ∈ window, g.isCounted c v = true := by
    intro v hv
    have hmem : v ∈ (g.windowsOf c (g.visits w arrivals)).flatten :=
      List.mem_flatten.mpr ⟨window, hwindow, hv⟩
    unfold windowsOf at hmem
    rw [flatten_windowed] at hmem
    exact (List.mem_filter.mp hmem).2
  have hfirst : ∀ last ∈ w.windows.lookup c, ∀ v ∈
      ((g.visits w arrivals).filter (g.isCounted c)).head?, last.closes ≤ v.world.clock := by
    rw [hstart]
    nofun
  have hnumbers := hseen.map_seen hfirst hwindow
  calc window.countP (fun v => g.isDispatched v.request v.world)
      = window.countP fun v =>
          decide ((v.world.windows.next v.world.clock c).hits ≤ c.limit.count) :=
        List.countP_congr fun v hv => by
          rw [isDispatched_of_isCounted hlimits hc (hcounted v hv)]
    _ = (List.range' 1 window.length).countP (· ≤ c.limit.count) := by
        rw [← hnumbers, List.countP_map]
        rfl
    _ = min c.limit.count window.length := by
        rw [countP_range'_le, Nat.add_sub_cancel]

theorem countP_isViewed_le (window : List Visit) :
    window.countP g.isViewed ≤ window.countP fun v => g.isDispatched v.request v.world :=
  List.countP_mono_left fun _ _ hviewed => (Bool.and_eq_true_iff.mp hviewed).1

/-- Who asks for the methods of the health and gets through is told them. -/
theorem answer_of_asksForMethods (hdispatched : g.isDispatched v.request v.world = true)
    (h : asksForMethods v.request = true) :
    ∃ fields, (g.answer v.request v.world).1 = healthMethodsTold.withFields fields := by
  obtain ⟨hroute, hmethod⟩ := Bool.and_eq_true_iff.mp h
  have hroute : Route.ofRequest v.request.method v.request.path = .health := by simpa using hroute
  have hmethod : v.request.method = "OPTIONS" := by simpa using hmethod
  have hviewed : g.viewed v.request = fun w => (healthMethodsTold, w) := by
    unfold viewed healthAnswer
    rw [hroute]
    simp only [hmethod, if_true]
  obtain ⟨windows, told, hdispatch⟩ := dispatch_of_isDispatched hdispatched
  obtain ⟨fields, -, hanswer, -⟩ := answer_of_dispatch g v.request v.world
  refine ⟨fields, ?_⟩
  rw [hanswer, hdispatch, hviewed]

/-- Every visit without the secret that is dispatched is in a window. -/
theorem mem_windowsOf {visits : List Visit} (hv : v ∈ visits)
    (hpublisher : g.isPublisher v.request = false)
    (hdispatched : g.isDispatched v.request v.world = true) (l : RateLimit) :
    ∃ view, ∃ window ∈ g.windowsOf ⟨l, g.countedAddress v.request, view⟩ visits, v ∈ window := by
  obtain ⟨view, hreached, -⟩ := isWithinLimits_of_isDispatched hdispatched
  have hcounted : g.isCounted ⟨l, g.countedAddress v.request, view⟩ v = true :=
    isCounted_iff.mpr ⟨hreached, hpublisher, rfl⟩
  refine ⟨view, List.mem_flatten.mp ?_⟩
  unfold windowsOf
  rw [flatten_windowed]
  exact List.mem_filter.mpr ⟨hv, hcounted⟩

/-- What is decided about a request depends on the clock, the windows and the other host alone. -/
theorem decision_congr (r : Request) (hclock : w'.clock = w.clock)
    (hwindows : w'.windows = w.windows) (hhosts : w'.hosts = w.hosts) :
    g.decision ⟨r, w'⟩ = g.decision ⟨r, w⟩ := by
  have hruling := ruling?_congr hclock hwindows g r
  have hstatus : (g.answer r w').1.status = 429 ↔ (g.answer r w).1.status = 429 := by
    obtain ⟨hexceeding, hdispatched⟩ := isExceeding_congr hruling
    rw [answer_status_eq_429_iff, answer_status_eq_429_iff, hexceeding, hdispatched, hhosts]
  have hsame : ((g.answer r w').1.status == 429) = ((g.answer r w).1.status == 429) := by
    rw [Bool.eq_iff_iff, beq_iff_eq, beq_iff_eq]
    exact hstatus
  unfold decision
  rw [hruling, hsame]

/-- Leaving out the visits of publishers changes nothing that is decided about the others, since the
worlds of the two runs agree in the windows and the other hosts all along. -/
theorem decisions_of_others (g : Gateway) (arrivals : List Arrival)
    (hwindows : w'.windows = w.windows) (hhosts : w'.hosts = w.hosts) :
    (g.visits w' (arrivals.filter fun a => !g.isPublisher a.request)).map g.decision =
      ((g.visits w arrivals).filter fun v => !g.isPublisher v.request).map g.decision := by
  induction arrivals generalizing w w' with
  | nil => rfl
  | cons a rest ih =>
    let now : World := { w with clock := a.instant }
    let now' : World := { w' with clock := a.instant }
    have hclock : now'.clock = now.clock := rfl
    have hkept : (g.answer a.request now).2.hosts = w.hosts :=
      answer_hosts g a.request now
    show _ = ((⟨a.request, now⟩ :: g.visits (g.answer a.request now).2 rest).filter _).map _
    cases hpublisher : g.isPublisher a.request with
    | true =>
      rw [List.filter_cons_of_neg (by simp [hpublisher]),
        List.filter_cons_of_neg (by simp [hpublisher])]
      refine ih ?_ (hhosts.trans hkept.symm)
      rw [hwindows, answer_windows]
      cases g.reached? a.request with
      | none => rfl
      | some view =>
        rw [Option.elim_some, (judge_of_isPublisher hpublisher view now).1]
    | false =>
      rw [List.filter_cons_of_pos (by simp [hpublisher]),
        List.filter_cons_of_pos (by simp [hpublisher]), List.map_cons]
      show g.decision ⟨a.request, now'⟩ :: (g.visits (g.answer a.request now').2 _).map _ = _
      have hkept' : (g.answer a.request now').2.hosts = w'.hosts :=
        answer_hosts g a.request now'
      have hafter : (g.answer a.request now').2.windows = (g.answer a.request now).2.windows := by
        rw [answer_windows, answer_windows]
        cases g.reached? a.request with
        | none => exact hwindows
        | some view => exact (judge_congr hclock hwindows g a.request view).2
      rw [decision_congr a.request hclock hwindows hhosts,
        ih hafter (hkept'.trans (hhosts.trans hkept.symm))]

/-- A single limit, and any arrivals at a gateway that has not been asked before. In each window of
time as many requests of a client without the secret are dispatched to a part of the gateway as the
limit says, or all if they are fewer, and none is dispatched outside of the windows. This part deals
with all of them itself but those that ask for the methods of the health, which are told them. What
is not dispatched is answered with an error, and at most counted and reported. Publishers never
exceed the limit, and are answered with status 429 only if that is what the other host answers. What
is decided about all others is the same if publishers do not ask at all. -/
theorem visits_rationed (hlimits : g.limits? = some [l]) (hstart : w.windows = [])
    (arrivals : List Arrival) :
    let visits := g.visits w arrivals
    (∀ c : Counted, c.limit = l → ∀ window ∈ g.windowsOf c visits,
      window.countP (fun v => g.isDispatched v.request v.world) = min l.count window.length ∧
        window.countP g.isViewed ≤ l.count) ∧
    (∀ v ∈ visits, g.isPublisher v.request = false → g.isDispatched v.request v.world = true →
      ∃ view, ∃ window ∈ g.windowsOf ⟨l, g.countedAddress v.request, view⟩ visits, v ∈ window) ∧
    (∀ v ∈ visits, g.isDispatched v.request v.world = true → g.isViewed v = false →
      ∃ fields, (g.answer v.request v.world).1 = healthMethodsTold.withFields fields) ∧
    (∀ v ∈ visits, g.isDispatched v.request v.world = false →
      (g.answer v.request v.world).1.IsError ∧ ∃ windows events, (∀ e ∈ events, IsReport e) ∧
        (g.answer v.request v.world).2 = (v.world.withWindows windows).noting events) ∧
    (∀ v ∈ visits, g.isPublisher v.request = true →
      g.isExceeding v.request v.world = false ∧
        ((g.answer v.request v.world).1.status = 429 →
          ∃ key, g.IsRefusedElsewhere v.request v.world.hosts key)) ∧
    (g.visits w (arrivals.filter fun a => !g.isPublisher a.request)).map g.decision =
      (visits.filter fun v => !g.isPublisher v.request).map g.decision := by
  intro visits
  refine ⟨?windows, ?within, ?methods, ?others, ?publishers, decisions_of_others g arrivals rfl rfl⟩
  case windows =>
    intro c hc window hwindow
    have hcount := countP_isDispatched hlimits hc hstart arrivals hwindow
    rw [hc] at hcount
    refine ⟨hcount, (countP_isViewed_le window).trans ?_⟩
    rw [hcount]
    exact Nat.min_le_left _ _
  case within =>
    intro v hv hpublisher hdispatched
    exact mem_windowsOf hv hpublisher hdispatched l
  case methods =>
    intro v _ hdispatched hviewed
    refine answer_of_asksForMethods hdispatched ?_
    simpa [isViewed, hdispatched] using hviewed
  case others =>
    intro v _ hnot
    exact answer_of_not_isDispatched hnot
  case publishers =>
    intro v hv hpublisher
    have hnot := isExceeding_of_isPublisher hpublisher v.world
    refine ⟨hnot, fun hstatus => ?_⟩
    rcases (answer_status_eq_429_iff g v.request v.world).mp hstatus with hexceeding | hrefused
    · rw [hnot] at hexceeding
      cases hexceeding
    · exact hrefused.2

/-- A client without the secret has to wait for the next window, whatever a publisher does. Asking
for the methods of the health is counted too. -/
theorem visits_of_hurried_client :
    let l : RateLimit := ⟨1, 1, .minute⟩
    let methods := Request.ofSent "OPTIONS" "/health" [] ByteArray.empty none
    let arrivals : List Arrival := [⟨0, methods⟩, ⟨10, getOf "/health" []⟩,
      ⟨20, publisherOf "GET" "/health" ByteArray.empty⟩, ⟨60, getOf "/health" []⟩]
    let visits := limitedGateway.visits (World.start 0) arrivals
    limitedGateway.limits? = some [l] ∧
      visits.map (fun v => (limitedGateway.decision v).2) = [false, true, false, false] ∧
      visits.map limitedGateway.isViewed = [false, false, true, true] ∧
      (∀ c : Counted, c.limit = l → ∀ window ∈ limitedGateway.windowsOf c visits,
        window.countP (fun v => limitedGateway.isDispatched v.request v.world) =
          min 1 window.length) ∧
      (limitedGateway.visits (World.start 0)
        (arrivals.filter fun a => !limitedGateway.isPublisher a.request)).map
          limitedGateway.decision =
        (visits.filter fun v => !limitedGateway.isPublisher v.request).map
          limitedGateway.decision := by
  intro l methods arrivals visits
  have hlimits : limitedGateway.limits? = some [l] := by decide +kernel
  obtain ⟨hwindows, -, -, -, -, hothers⟩ :=
    visits_rationed hlimits (rfl : (World.start 0).windows = []) arrivals
  exact ⟨hlimits, by decide +kernel, by decide +kernel,
    fun c hc window hwindow => (hwindows c hc window hwindow).1, hothers⟩

/-- A publisher is answered with status 429 if the other host answers so. -/
theorem answer_of_refused_publisher :
    let url := limitedGateway.remoteUrl "static/app.js"
    let w := { World.start 0 with hosts := [(url, ⟨0, .ok ⟨429, [], ["slow down".toUTF8]⟩⟩)] }
    let r := publisherOf "GET" "/static/app.js" ByteArray.empty
    limitedGateway.limits? = some [⟨1, 1, .minute⟩] ∧ w.windows.isEmpty = true ∧
      limitedGateway.isPublisher r = true ∧ (limitedGateway.answer r w).1.status = 429 := by
  decide +kernel

end InstallerGateway.Gateway
