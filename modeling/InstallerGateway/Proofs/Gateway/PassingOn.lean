import InstallerGateway.Proofs.Gateway.Rulings
import InstallerGateway.Proofs.Gateway.Run
import InstallerGateway.Proofs.Http.Values

/-!
# Passing on the answer of another host

A key that belongs to another host is answered with what that host answers: its status, its body,
and five of its header fields, under whichever case it writes their names. No other field of it has
an influence. The content type is the exception: it is always told, and if the other host tells
none, it is the one of pages.
-/

namespace InstallerGateway

namespace Headers

variable {name : String} {names : List String} {value? : String → Option String}

theorem name_of_mem_filterMap {f : String × String}
    (h : f ∈ names.filterMap fun n => (value? n).map fun v => (n, v)) : f.1 ∈ names := by
  obtain ⟨n, hn, hf⟩ := List.mem_filterMap.mp h
  obtain ⟨v, -, rfl⟩ := Option.map_eq_some_iff.mp hf
  exact hn

/-- Fields that are chosen by name have the chosen values, if no name is chosen twice. -/
theorem values_filterMap (hdistinct : names.Pairwise fun a b => sameName a b = false)
    (hname : name ∈ names) :
    values name (names.filterMap fun n => (value? n).map fun v => (n, v)) =
      (value? name).toList := by
  induction names with
  | nil => cases hname
  | cons n rest ih =>
    obtain ⟨hother, hrest⟩ := List.pairwise_cons.mp hdistinct
    rw [List.filterMap_cons]
    rcases List.mem_cons.mp hname with rfl | hmem
    · have hnone : values name (rest.filterMap fun n => (value? n).map fun v => (n, v)) = [] := by
        refine values_eq_nil (fun f => name_of_mem_filterMap) fun other hmem => ?_
        rw [sameName_comm]
        exact hother other hmem
      cases value? name with
      | none => exact hnone
      | some v =>
        show values name ((name, v) :: _) = [v]
        rw [values_cons_self, hnone]
    · cases value? n with
      | none => exact ih hrest hmem
      | some v =>
        have hne : sameName (n, v).1 name = false := hother name hmem
        exact (values_cons_of_ne hne).trans (ih hrest hmem)

end Headers

/-- The world with other hosts. -/
def World.withHosts (hosts : RemoteHosts) (w : World) : World := { w with hosts := hosts }

namespace Gateway

open Act

variable {g : Gateway} {r : Request} {key : String} {w : World} {a : RemoteAnswer} {delay : Rat}

/-! ## The fields that are passed on -/

theorem values_passedFields {name : String} (h : name ∈ passedOn) (a : RemoteAnswer) :
    Headers.values name (passedFields a) = (a.headers.getLast? name).toList :=
  Headers.values_filterMap (by decide) h

/-- What is passed on depends on the last values of its fields alone. -/
theorem passedFields_congr {headers : Headers}
    (h : ∀ name ∈ passedOn, headers.getLast? name = a.headers.getLast? name) :
    passedFields { a with headers := headers } = passedFields a := by
  unfold passedFields
  refine List.filterMap_congr fun name hname => ?_
  rw [h name hname]

/-- The type of what is passed on is the one that is told, or that of pages. -/
theorem values_withContentType {fields : Headers} {type? : Option String}
    (h : Headers.values "Content-Type" fields = type?.toList) :
    Headers.values "Content-Type" (withContentType fields) =
      [type?.getD Response.pageType] := by
  have hget : fields.get? "Content-Type" = type? := by
    rw [Headers.get?_eq_head?, h]
    cases type? <;> rfl
  unfold withContentType
  rw [hget]
  cases type? with
  | none =>
    show Headers.values "Content-Type" (fields ++ [("Content-Type", Response.pageType)]) = _
    rw [Headers.values_append, h, Headers.values_cons_self]
    rfl
  | some type => exact h

/-- Adding a type changes no other field. -/
theorem values_withContentType_of_ne {name : String} (h : sameName "Content-Type" name = false)
    (fields : Headers) :
    Headers.values name (withContentType fields) = Headers.values name fields := by
  have htype : Headers.values name [("Content-Type", Response.pageType)] = [] :=
    Headers.values_cons_of_ne h
  unfold withContentType
  split
  · rfl
  · rw [Headers.values_append, htype, List.append_nil]

theorem name_of_mem_withContentType {f : String × String}
    (h : f ∈ withContentType (passedFields a)) : f.1 ∈ passedOn := by
  unfold withContentType at h
  split at h
  · exact Headers.name_of_mem_filterMap h
  · rcases List.mem_append.mp h with h | h
    · exact Headers.name_of_mem_filterMap h
    · rw [List.mem_singleton.mp h]
      decide

/-! ## Passing on -/

/-- An answer of another host as it is passed on. -/
def relayed (url : String) (a : RemoteAnswer) : Response :=
  ⟨a.status, withContentType (passedFields a), a.chunks, false, some url⟩

/-- Asking the other host takes its time, and notes the URL. -/
theorem request_perform (g : Gateway) (url : String) (w : World) :
    perform (g.request url) w = (.ok (w.hosts.request url).answer,
      (w.noting [.fetch url g.settings.staticTimeoutS]).advance (w.hosts.request url).delay) := rfl

/-- If the other host answers, its answer is passed on. -/
theorem passOn_perform (h : w.hosts.request (g.remoteUrl key) = ⟨delay, .ok a⟩)
    (hlines : ∀ f ∈ passedFields a, IsLine f.2) :
    perform (g.passOn key) w = (.ok (.full (relayed (g.remoteUrl key) a)),
      (w.noting [.fetch (g.remoteUrl key) g.settings.staticTimeoutS]).advance delay) := by
  have hrequest := request_perform g (g.remoteUrl key) w
  rw [h] at hrequest
  unfold passOn
  rw [perform_bind_ok hrequest]
  exact perform_bind_ok (sendable_perform hlines _)

/-- A value that breaks the line of its field is not passed on. -/
theorem passOn_of_break (h : w.hosts.request (g.remoteUrl key) = ⟨delay, .ok a⟩)
    (hbreak : ¬ ∀ f ∈ passedFields a, IsLine f.2) :
    ∃ f, result (g.passOn key) w = .error f := by
  have hrequest := result_eq (request_perform g (g.remoteUrl key) w)
  rw [h] at hrequest
  cases hresult : result (g.passOn key) w with
  | error f => exact ⟨f, rfl⟩
  | ok answer =>
    obtain ⟨answered, hanswered, hresult⟩ := result_bind_eq_ok hresult
    obtain rfl : .ok a = answered := Except.ok.inj (hrequest.symm.trans hanswered)
    obtain ⟨fields, hfields, -⟩ := result_bind_eq_ok hresult
    exact absurd (sendable_result hfields) hbreak

/-! ## The limit that is told -/

/-- The header fields about the limit that are told with an answer for which another host takes some
seconds. -/
def toldFields (g : Gateway) (r : Request) (w : World) (delay : Rat) : Headers :=
  match result (g.judge r .objects) w with
  | .ok verdict => limitFields verdict.told? ((after (g.judge r .objects) w).advance delay)
  | .error _ => []

theorem judge_keeps {γ : Type} {part : World → γ}
    (hp : ∀ windows w, part (World.withWindows windows w) = part w) (g : Gateway) (r : Request)
    (view : View) : Keeps part (g.judge r view) := by
  intro w
  obtain ⟨verdict, windows, hjudge⟩ := judge_perform g r view w
  rw [after_eq hjudge, hp]

/-- What another host answers has no influence on the limits. -/
theorem judge_withHosts (g : Gateway) (r : Request) (view : View) (w : World)
    (hosts : RemoteHosts) :
    result (g.judge r view) (w.withHosts hosts) = result (g.judge r view) w ∧
      (after (g.judge r view) (w.withHosts hosts)).windows =
        (after (g.judge r view) w).windows := by
  have hclock : (w.withHosts hosts).clock = w.clock := rfl
  have hwindows : (w.withHosts hosts).windows = w.windows := rfl
  exact judge_congr hclock hwindows g r view

/-- Which limit is told does not depend on other hosts. -/
theorem toldFields_withHosts (g : Gateway) (r : Request) (w : World) (hosts : RemoteHosts)
    (delay : Rat) : g.toldFields r (w.withHosts hosts) delay = g.toldFields r w delay := by
  obtain ⟨hruling, hwindows⟩ := judge_withHosts g r .objects w hosts
  have hkeeps : Keeps World.clock (g.judge r .objects) := judge_keeps (fun _ _ => rfl) g r .objects
  have hclock : (after (g.judge r .objects) (w.withHosts hosts)).clock =
      (after (g.judge r .objects) w).clock :=
    (hkeeps (w.withHosts hosts)).trans (hkeeps w).symm
  have hfields (c : Counted) :
      limitFields (some c) ((after (g.judge r .objects) (w.withHosts hosts)).advance delay) =
        limitFields (some c) ((after (g.judge r .objects) w).advance delay) := by
    unfold limitFields World.advance
    dsimp only
    rw [hwindows, hclock]
  unfold toldFields
  rw [hruling]
  rcases result (g.judge r .objects) w with _ | (_ | told | told)
  · rfl
  · rfl
  · exact hfields told
  · exact hfields told

theorem name_of_mem_toldFields {f : String × String} (h : f ∈ g.toldFields r w delay) :
    f.1 ∈ limitNames := by
  unfold toldFields at h
  split at h
  · exact name_of_mem_limitFields h
  · cases h

/-! ## Answering -/

theorem Admits.withHosts (h : g.Admits r w key) (hosts : RemoteHosts) :
    g.Admits r (w.withHosts hosts) key := by
  obtain ⟨verdict, hverdict, hnot⟩ := h.limits
  have hruling := (judge_withHosts g r .objects w hosts).1
  exact ⟨h.route, h.isValid, h.length, ⟨verdict, hruling.trans hverdict, hnot⟩, h.access⟩

/-- A request to get a key that belongs to the other host is passed on. -/
theorem serveObject_of_get (h : g.MayServe r key) (hget : r.method = "GET")
    (hstatic : key.startsWith g.settings.staticPrefix = true) :
    g.serveObject r key = g.passOn key := by
  rw [serveObject_of_mayServe h, if_neg (by simp [hget]), if_neg (by simp [hget])]
  unfold read
  rw [if_pos hstatic]

/-- The request is passed on after it was counted, and the limit is told. -/
theorem answer_of_passOn (h : g.Admits r w key) (hget : r.method = "GET")
    (hstatic : key.startsWith g.settings.staticPrefix = true) : ∃ verdict,
      result (g.judge r .objects) w = .ok verdict ∧
      let now := after (g.judge r .objects) w
      now.hosts = w.hosts ∧
      (g.answer r w).1 = (ending (result (g.passOn key) now)).response.withFields
        (limitFields verdict.told? (after (g.passOn key) now)) := by
  obtain ⟨verdict, hverdict, hnot⟩ := h.limits
  have hhosts : Keeps World.hosts (g.judge r .objects) := judge_keeps (fun _ _ => rfl) g r .objects
  refine ⟨verdict, hverdict, hhosts w, ?_⟩
  rw [answer_of_ruling h hverdict hnot, serveObject_of_get h.access hget hstatic]

/-- The answer of the other host is passed on, with nothing but the limit added. -/
theorem answer_eq_relayed (h : g.Admits r w key) (hget : r.method = "GET")
    (hstatic : key.startsWith g.settings.staticPrefix = true)
    (hanswer : w.hosts.request (g.remoteUrl key) = ⟨delay, .ok a⟩)
    (hlines : ∀ f ∈ passedFields a, IsLine f.2) :
    (g.answer r w).1 = (relayed (g.remoteUrl key) a).withFields (g.toldFields r w delay) := by
  obtain ⟨verdict, hverdict, hhosts, hresponse⟩ := answer_of_passOn h hget hstatic
  rw [← hhosts] at hanswer
  have hpassed := passOn_perform hanswer hlines
  have htold : g.toldFields r w delay =
      limitFields verdict.told? ((after (g.judge r .objects) w).advance delay) := by
    unfold toldFields
    rw [hverdict]
  rw [hresponse, result_eq hpassed, after_eq hpassed, htold]
  rfl

/-- The request fails if a field that is passed on does not stay on its line. -/
theorem answer_of_break (h : g.Admits r w key) (hget : r.method = "GET")
    (hstatic : key.startsWith g.settings.staticPrefix = true)
    (hanswer : w.hosts.request (g.remoteUrl key) = ⟨delay, .ok a⟩)
    (hbreak : ¬ ∀ f ∈ passedFields a, IsLine f.2) : (g.answer r w).1.status = 500 := by
  obtain ⟨verdict, -, hhosts, hresponse⟩ := answer_of_passOn h hget hstatic
  rw [← hhosts] at hanswer
  obtain ⟨f, hfailed⟩ := passOn_of_break hanswer hbreak
  rw [hresponse, hfailed]
  rfl

/-- The response gives a client the answer of another host: its status, its body and, of its header
fields, those that are passed on. A content type is told even if the other host tells none. -/
structure Relays (a : RemoteAnswer) (response : Response) : Prop where
  status : response.status = a.status
  body : response.sentBody "GET" = a.chunks.foldl (· ++ ·) ByteArray.empty
  values : ∀ name ∈ passedOn, name ≠ "Content-Type" →
    response.sentHeaders.values name = (a.headers.getLast? name).toList
  contentType : response.sentHeaders.values "Content-Type" =
    [(a.headers.getLast? "Content-Type").getD Response.pageType]
  names : ∀ f ∈ response.sentHeaders, f.1 ∈ passedOn ∨ f.1 ∈ limitNames

/-- The header that is sent is the one that is passed on, and what tells of limits. -/
theorem sentHeaders_relayed (url : String) (fields : Headers)
    (hbody : Status.isBodiless a.status = false) :
    ((relayed url a).withFields fields).sentHeaders =
      withContentType (passedFields a) ++ fields :=
  Response.sentHeaders_eq hbody

/-- An answer that is passed on is relayed, whatever fields tell of limits. -/
theorem relays_relayed {fields : Headers} (url : String)
    (hbody : Status.isBodiless a.status = false) (hnames : ∀ f ∈ fields, f.1 ∈ limitNames) :
    Relays a ((relayed url a).withFields fields) := by
  have hsent := sentHeaders_relayed url fields hbody
  have hvalues {name : String} (hname : name ∈ passedOn) :
      Headers.values name (withContentType (passedFields a) ++ fields) =
        Headers.values name (withContentType (passedFields a)) := by
    have hdisjoint : ∀ name ∈ passedOn, ∀ limit ∈ limitNames, sameName limit name = false := by
      decide
    rw [Headers.values_append, Headers.values_eq_nil hnames (hdisjoint name hname),
      List.append_nil]
  refine ⟨rfl, ?body, ?values, ?contentType, ?names⟩
  case body =>
    have hfull : ("GET" == "HEAD" || Status.isBodiless a.status) = false := by
      rw [hbody]
      decide
    show (if "GET" == "HEAD" || Status.isBodiless a.status then _ else _) = _
    rw [hfull]
    rfl
  case values =>
    intro name hname hne
    have hother : ∀ name ∈ passedOn, name ≠ "Content-Type" →
        sameName "Content-Type" name = false := by decide
    rw [hsent, hvalues hname, values_withContentType_of_ne (hother name hname hne),
      values_passedFields hname]
  case contentType =>
    have hname : "Content-Type" ∈ passedOn := by decide
    rw [hsent, hvalues hname]
    exact values_withContentType (values_passedFields hname a)
  case names =>
    intro f hf
    rw [hsent] at hf
    rcases List.mem_append.mp hf with hpassed | htold
    · exact .inl (name_of_mem_withContentType hpassed)
    · exact .inr (hnames f htold)

/-- A request for a key that belongs to another host, which answers with a status that allows a
body, gets that status, the body, and the header fields that are passed on, each exactly if the
other host tells it and with the value that it tells last, whatever the case of its name. Only the
content type is told in any case; it is the one of pages if the other host tells none. No other
field of the answer has an influence on the response. The request fails if a field that is passed
on does not stay on its line. -/
theorem answer_relays (g : Gateway) (r : Request) (w : World) (key : String) (a : RemoteAnswer)
    (delay : Rat) (hadmits : g.Admits r w key) (hget : r.method = "GET")
    (hstatic : key.startsWith g.settings.staticPrefix = true)
    (hanswer : w.hosts.request (g.remoteUrl key) = ⟨delay, .ok a⟩)
    (hbody : Status.isBodiless a.status = false) :
    ((∀ f ∈ passedFields a, IsLine f.2) → Relays a (g.answer r w).1 ∧
      ∀ (hosts : RemoteHosts) (headers : Headers),
        hosts.request (g.remoteUrl key) = ⟨delay, .ok { a with headers := headers }⟩ →
        (∀ name ∈ passedOn, headers.getLast? name = a.headers.getLast? name) →
        (g.answer r (w.withHosts hosts)).1 = (g.answer r w).1) ∧
    ((¬ ∀ f ∈ passedFields a, IsLine f.2) → (g.answer r w).1.status = 500) := by
  refine ⟨fun hlines => ⟨?relays, ?unaffected⟩, answer_of_break hadmits hget hstatic hanswer⟩
  case relays =>
    rw [answer_eq_relayed hadmits hget hstatic hanswer hlines]
    exact relays_relayed _ hbody fun f => name_of_mem_toldFields
  case unaffected =>
    intro hosts headers hother hsame
    have hpassed := passedFields_congr hsame
    have hlines' : ∀ f ∈ passedFields { a with headers := headers }, IsLine f.2 := by
      rw [hpassed]
      exact hlines
    have hrelayed : relayed (g.remoteUrl key) { a with headers := headers } =
        relayed (g.remoteUrl key) a := by
      unfold relayed
      rw [hpassed]
    rw [answer_eq_relayed (hadmits.withHosts hosts) hget hstatic hother hlines', hrelayed,
      toldFields_withHosts, answer_eq_relayed hadmits hget hstatic hanswer hlines]

/-- A script is passed on with the later of two tags, and without a field of another name. -/
theorem answer_relays_script :
    let url := "https://static.example.com/static/app.js"
    let fields : Headers := [("etag", "1"), ("X-Served-By", "cache"),
      ("CONTENT-TYPE", "text/javascript"), ("ETag", "2")]
    let a : RemoteAnswer := ⟨404, fields, [⟨#[110, 111]⟩, ⟨#[112, 101]⟩]⟩
    let w := (World.start 0).withHosts [(url, ⟨3, .ok a⟩)]
    let response := (secretGateway.answer (getOf "/static/app.js" []) w).1
    response.status = 404 ∧ response.sentBody "GET" = ⟨#[110, 111, 112, 101]⟩ ∧
      response.sentHeaders.values "ETag" = ["2"] ∧
      response.sentHeaders.values "Expires" = [] ∧
      response.sentHeaders.values "Content-Type" = ["text/javascript"] ∧
      response.sentHeaders.values "X-Served-By" = [] := by
  intro url fields a w response
  let get := getOf "/static/app.js" []
  have hlength : ∀ n, get.contentLength? = some n → (n : Int) ≤ secretGateway.maxContentLength := by
    intro n hn
    have hnone : get.contentLength? = none := by decide +kernel
    cases hnone.symm.trans hn
  have hadmits : secretGateway.Admits get w "static/app.js" :=
    ⟨by decide +kernel, by decide +kernel, hlength, ⟨.unlimited, rfl, nofun⟩,
      authorizes_iff.mp (by decide +kernel)⟩
  have hpassed := answer_relays secretGateway get w "static/app.js" a 3 hadmits rfl
    (by decide +kernel) rfl (by decide)
  have hrelays : Relays a response := (hpassed.1 (by decide +kernel)).1
  have hnames : ∀ f ∈ response.sentHeaders, f.1 ∈ passedOn ++ limitNames := fun f hf =>
    List.mem_append.mpr (hrelays.names f hf)
  refine ⟨hrelays.status, hrelays.body, ?_, ?_, ?_, Headers.values_eq_nil hnames (by decide)⟩
  · exact (hrelays.values "ETag" (by decide) (by decide)).trans (by decide +kernel)
  · exact (hrelays.values "Expires" (by decide) (by decide)).trans (by decide +kernel)
  · exact hrelays.contentType.trans (by decide +kernel)

/-- A script without a content type is passed on as a page. -/
theorem untyped_script_as_page :
    let a : RemoteAnswer := ⟨200, [], [⟨#[120]⟩]⟩
    let w := (World.start 0).withHosts
      [("https://static.example.com/static/app.js", ⟨0, .ok a⟩)]
    let response := (secretGateway.answer (getOf "/static/app.js" []) w).1
    response.status = 200 ∧ a.headers.getLast? "Content-Type" = none ∧
      response.sentHeaders.values "Content-Type" = ["text/html; charset=utf-8"] := by
  decide +kernel

end Gateway

end InstallerGateway
