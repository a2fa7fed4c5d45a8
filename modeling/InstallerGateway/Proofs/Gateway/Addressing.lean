import InstallerGateway.Proofs.Gateway.PassingOn
import InstallerGateway.Proofs.Http.Url
import InstallerGateway.Settings.Load

/-!
# Where keys are fetched from

A key that belongs to another host is written behind the name of that host as it is, and the other
host takes the URL apart again. So the URL stands for the key if nothing in the key is syntax of
URLs, and only then: what follows a question mark becomes a query, what follows a number sign is
never sent, and an escape stands for another character. Keys are checked before that happens.
-/

namespace InstallerGateway

/-- Where another host is found. -/
structure Origin where
  scheme : String
  authority : String
  scheme_ne : scheme ≠ ""
  scheme_free : ∀ c ∈ scheme.toList, c ∉ [':', '/', '?', '#']
  authority_ne : authority ≠ ""
  authority_free : ∀ c ∈ authority.toList, c ∉ ['/', '?', '#']

/-- Nothing in the key is syntax of URLs. -/
structure Key.IsLiteral (key : String) : Prop where
  noQuery : '?' ∉ key.toList
  noFragment : '#' ∉ key.toList
  noEscape : ¬ Url.HoldsEscape key.toList

instance {key : String} : Decidable (Key.IsLiteral key) :=
  decidable_of_iff ('?' ∉ key.toList ∧ '#' ∉ key.toList ∧ ¬ Url.HoldsEscape key.toList)
    ⟨fun ⟨query, fragment, escape⟩ => ⟨query, fragment, escape⟩,
      fun h => ⟨h.noQuery, h.noFragment, h.noEscape⟩⟩

namespace Origin

variable {o : Origin} {key other : String} {u u' : Url}

/-- The origin as the settings name it. -/
def text (o : Origin) : String := o.scheme ++ "://" ++ o.authority

/-- The URL is what becomes of the key behind the origin: the marks of a query and of a fragment
count where they stand in the key. -/
structure ReadsAs (o : Origin) (key : String) (u : Url) : Prop where
  scheme : u.scheme = some o.scheme.toList
  authority : u.authority = some o.authority.toList
  parts : '/' :: key.toList = u.path ++ (Url.withMark '?' u.query ++ Url.withMark '#' u.fragment)
  path : ∀ c ∈ u.path, c ∉ ['?', '#']
  query : ∀ q ∈ u.query, ∀ c ∈ q, c ∉ ['#']

/-- The URL stands for the key at the origin. -/
structure Locates (o : Origin) (key : String) (u : Url) : Prop where
  scheme : u.scheme = some o.scheme.toList
  authority : u.authority = some o.authority.toList
  query : u.query = none
  fragment : u.fragment = none
  path : Url.octets u.path = Url.utf8 ('/' :: key.toList)

theorem holdsEscape_slash : Url.HoldsEscape ('/' :: key.toList) ↔ Url.HoldsEscape key.toList := by
  refine ⟨fun h => ?_, Url.HoldsEscape.cons⟩
  rcases Url.holdsEscape_cons h with ⟨_, _, _, hsign, -⟩ | h
  · exact absurd hsign (by decide)
  · exact h

/-- A key without marks is the whole path. -/
theorem ReadsAs.path_eq (h : o.ReadsAs key u) (hquery : u.query = none)
    (hfragment : u.fragment = none) : u.path = '/' :: key.toList := by
  have hparts := h.parts
  rw [hquery, hfragment] at hparts
  simpa [Url.withMark] using hparts.symm

/-- A key without a question mark leads to a URL without a query. -/
theorem ReadsAs.query_eq_none (h : o.ReadsAs key u) (hkey : '?' ∉ key.toList) : u.query = none := by
  cases hquery : u.query with
  | none => rfl
  | some q =>
    have hmem : '?' ∈ '/' :: key.toList := by
      rw [h.parts, hquery]
      simp [Url.withMark]
    exact absurd hmem (by simp [hkey])

/-- A key without a hash leads to a URL without a fragment. -/
theorem ReadsAs.fragment_eq_none (h : o.ReadsAs key u) (hkey : '#' ∉ key.toList) :
    u.fragment = none := by
  cases hfragment : u.fragment with
  | none => rfl
  | some f =>
    have hmem : '#' ∈ '/' :: key.toList := by
      rw [h.parts, hfragment]
      simp [Url.withMark]
    exact absurd hmem (by simp [hkey])

/-- What becomes of a key behind an origin stands for the key exactly if the key is literal. -/
theorem ReadsAs.locates_iff (h : o.ReadsAs key u) : o.Locates key u ↔ Key.IsLiteral key := by
  constructor
  · intro hlocates
    have hpath := h.path_eq hlocates.query hlocates.fragment
    have hfree : ∀ c ∈ '/' :: key.toList, c ∉ ['?', '#'] := hpath ▸ h.path
    have hoctets : Url.octets ('/' :: key.toList) = Url.utf8 ('/' :: key.toList) :=
      hpath ▸ hlocates.path
    refine ⟨fun hmem => ?query, fun hmem => ?fragment, ?escape⟩
    case query => exact hfree '?' (List.mem_cons_of_mem _ hmem) (by simp)
    case fragment => exact hfree '#' (List.mem_cons_of_mem _ hmem) (by simp)
    case escape => exact fun he => Url.octets_eq_utf8_iff.mp hoctets (holdsEscape_slash.mpr he)
  · intro hliteral
    have hquery := h.query_eq_none hliteral.noQuery
    have hfragment := h.fragment_eq_none hliteral.noFragment
    refine ⟨h.scheme, h.authority, hquery, hfragment, ?_⟩
    rw [h.path_eq hquery hfragment]
    exact Url.octets_eq_utf8_iff.mpr fun he => hliteral.noEscape (holdsEscape_slash.mp he)

/-- What two URLs that stand for keys ask for tells the keys apart. -/
theorem Locates.key_eq (h : o.Locates key u) (h' : o.Locates other u')
    (hsame : u.resource = u'.resource) : key = other := by
  have hpath : Url.octets u.path = Url.octets u'.path := congrArg (·.2.2.1) hsame
  have hkeys : Url.utf8 ('/' :: key.toList) = Url.utf8 ('/' :: other.toList) :=
    h.path.symm.trans (hpath.trans h'.path)
  exact String.toList_inj.mp (List.cons.inj (Url.utf8_injective hkeys)).2

end Origin

/-- The URL that another host is asked for. -/
def Event.fetched? : Event → Option String
  | .fetch url _ => some url
  | _ => none

namespace Gateway

open Act

variable {g : Gateway} {r : Request} {w : World} {key : String} {o : Origin}

/-! ## The URL of a key -/

/-- The setting for the other host is the text of the origin. -/
def FetchesFrom (g : Gateway) (o : Origin) : Prop :=
  Settings.asHost (.text o.text) = .ok g.settings.staticHost

/-- The text of an origin has no slash at its end that would be taken off. -/
theorem FetchesFrom.staticHost (h : g.FetchesFrom o) : g.settings.staticHost = o.text := by
  obtain ⟨start, last, hauthority⟩ : ∃ start last, o.authority.toList = start ++ [last] :=
    (List.eq_nil_or_concat' o.authority.toList).resolve_left (by simpa using o.authority_ne)
  have hlast : last ≠ '/' := by
    rintro rfl
    exact o.authority_free '/' (by simp [hauthority]) (by simp)
  have htext : stripEndBy (· == '/') o.text.toList = o.text.toList := by
    simp [stripEndBy, Origin.text, hauthority, hlast]
  have hhost : Settings.asHost (.text o.text) = .ok o.text := by
    show Except.ok (String.ofList (stripEndBy (· == '/') o.text.toList)) = _
    rw [htext, String.ofList_toList]
  exact Except.ok.inj (h.symm.trans hhost)

/-- The URL of a key is what becomes of it behind the origin. -/
theorem FetchesFrom.readsAs (h : g.FetchesFrom o) (key : String) :
    o.ReadsAs key (Url.split (g.remoteUrl key)) := by
  obtain ⟨path, query, fragment, hparts, hpath, hquery⟩ := Url.exists_parts key.toList
  have hurl : g.remoteUrl key = String.ofList
      (Url.join o.scheme.toList o.authority.toList ('/' :: path) query fragment) := by
    apply String.toList_inj.mp
    unfold remoteUrl
    rw [h.staticHost]
    simp [Origin.text, Url.join, hparts]
  have hne : o.scheme.toList ≠ [] := by simpa using o.scheme_ne
  have hrooted : ∀ c ∈ '/' :: path, c ∉ ['?', '#'] := by
    intro c hc
    rcases List.mem_cons.mp hc with rfl | hc
    · decide
    · exact hpath c hc
  rw [hurl, Url.split_join hne o.scheme_free o.authority_free hrooted hquery]
  exact ⟨rfl, rfl, congrArg ('/' :: ·) hparts, hrooted, hquery⟩

/-! ## The URL that is asked for -/

/-- Passing a request on fetches one URL, once. -/
theorem passOn_trace (g : Gateway) (key : String) (w : World) :
    (after (g.passOn key) w).trace =
      .fetch (g.remoteUrl key) g.settings.staticTimeoutS :: w.trace := by
  unfold after passOn
  rw [perform_bind_ok (request_perform g (g.remoteUrl key) w)]
  rcases (w.hosts.request (g.remoteUrl key)).answer with (_ | _) | a
  · rfl
  · rfl
  · exact keeps_bind (sendable_keeps _) (fun _ => keeps_pure _) _

/-- A key that belongs to the other host is asked for there. -/
theorem serveObject_of_isRead (h : g.MayServe r key) (hread : Access.isRead r.method = true)
    (hstatic : key.startsWith g.settings.staticPrefix = true) :
    g.serveObject r key = g.passOn key := by
  have hput : r.method ≠ "PUT" := by
    intro he
    rw [he] at hread
    cases hread
  have hdelete : r.method ≠ "DELETE" := by
    intro he
    rw [he] at hread
    cases hread
  rw [serveObject_of_mayServe h, if_neg hput, if_neg hdelete]
  unfold read
  rw [if_pos hstatic]

theorem fetched?_of_isReport {e : Event} (h : IsReport e) : e.fetched? = none := by
  cases e <;> first | rfl | cases h

/-- While a request for the key is answered, its URL is asked for, once, and no other. -/
theorem answer_fetches (h : g.Admits r w key) (hread : Access.isRead r.method = true)
    (hstatic : key.startsWith g.settings.staticPrefix = true) :
    ∃ events, (g.answer r w).2.trace = events ++ w.trace ∧
      events.filterMap Event.fetched? = [g.remoteUrl key] := by
  obtain ⟨-, reports, -, hworld, hreports, -⟩ := answer_of_dispatch g r w
  obtain ⟨windows, told, hlimited⟩ := limited_of_isWithinLimits h.limits
    (timed (g.serveObject r key))
  have hdispatch : g.dispatch r (.object key) w =
      g.limited r .objects (timed (g.serveObject r key)) w := by
    unfold dispatch
    rw [h.refusal?_eq_none]
  refine ⟨reports ++ [.fetch (g.remoteUrl key) g.settings.staticTimeoutS], ?trace, ?fetched⟩
  case trace =>
    rw [hworld, World.noting_trace, h.route, hdispatch, hlimited, timed_snd]
    show reports ++ (after (g.serveObject r key) (w.withWindows windows)).trace = _
    rw [serveObject_of_isRead h.access hread hstatic, passOn_trace]
    simp [World.withWindows]
  case fetched =>
    have hnone : reports.filterMap Event.fetched? = [] :=
      List.filterMap_eq_nil_iff.mpr fun e he => fetched?_of_isReport (hreports e he)
    rw [List.filterMap_append, hnone]
    rfl

/-- Let the other host be set to the text of an origin. Whatever the key, its URL goes to this
origin; behind that it is taken apart where marks of URLs stand in the key. So it stands for the key
exactly if nothing in the key is syntax of URLs, and no two keys of this kind are fetched from the
same resource. This URL, and no other, is asked for while an admitted request for the key is
answered. -/
theorem fetched_url_locates_iff (g : Gateway) (o : Origin) (hhost : g.FetchesFrom o)
    (key : String) :
    o.ReadsAs key (Url.split (g.remoteUrl key)) ∧
    (o.Locates key (Url.split (g.remoteUrl key)) ↔ Key.IsLiteral key) ∧
    (∀ other, Key.IsLiteral key → Key.IsLiteral other →
      (Url.split (g.remoteUrl key)).resource = (Url.split (g.remoteUrl other)).resource →
        key = other) ∧
    ∀ r w, g.Admits r w key → Access.isRead r.method = true →
      key.startsWith g.settings.staticPrefix = true →
        ∃ events, (g.answer r w).2.trace = events ++ w.trace ∧
          events.filterMap Event.fetched? = [g.remoteUrl key] := by
  have hlocates (key : String) := (hhost.readsAs key).locates_iff
  refine ⟨hhost.readsAs key, hlocates key, fun other hkey hother => ?_, fun _ _ => answer_fetches⟩
  exact ((hlocates key).mpr hkey).key_eq ((hlocates other).mpr hother)

/-- The origin that the other host is set to if nothing else is set. -/
def staticOrigin : Origin where
  scheme := "https"
  authority := "static.example.com"
  scheme_ne := by decide
  scheme_free := by simp
  authority_ne := by decide
  authority_free := by simp

theorem fetchesFrom_staticOrigin : secretGateway.FetchesFrom staticOrigin := by
  show Settings.asHost _ = _
  decide

/-- A script with a percent sign in its path that begins no escape is fetched from a URL that stands
for its key. -/
theorem script_located :
    let key := "static/100%/app.js"
    let get := getOf "/static/100%/app.js" []
    let w := World.start 0
    secretGateway.FetchesFrom staticOrigin ∧ Key.IsLiteral key ∧
    staticOrigin.Locates key (Url.split (secretGateway.remoteUrl key)) ∧
    ∃ events, (secretGateway.answer get w).2.trace = events ++ w.trace ∧
      events.filterMap Event.fetched? = ["https://static.example.com/static/100%/app.js"] := by
  intro key get w
  have hliteral : Key.IsLiteral key := by decide
  have hlength : ∀ n, get.contentLength? = some n → (n : Int) ≤ secretGateway.maxContentLength := by
    intro n hn
    have hnone : get.contentLength? = none := by decide +kernel
    cases hnone.symm.trans hn
  have hadmits : secretGateway.Admits get w key :=
    ⟨by decide +kernel, by decide +kernel, hlength, ⟨.unlimited, rfl, nofun⟩,
      authorizes_iff.mp (by decide +kernel)⟩
  have hurl : secretGateway.remoteUrl key = "https://static.example.com/static/100%/app.js" := by
    decide
  obtain ⟨-, hlocates, -, hfetches⟩ :=
    fetched_url_locates_iff secretGateway staticOrigin fetchesFrom_staticOrigin key
  have hfetched := hfetches get w hadmits (by decide) (by decide +kernel)
  rw [hurl] at hfetched
  exact ⟨fetchesFrom_staticOrigin, hliteral, hlocates.mpr hliteral, hfetched⟩

/-- Keys are accepted that are not fetched as themselves: one is cut at a question mark, another one
is fetched from where a third one is, and an escape leads upwards. -/
theorem accepted_keys_not_located :
    secretGateway.FetchesFrom staticOrigin ∧
    (∀ key ∈ ["static/a?b", "static/a#b", "static/%2e%2e/b"],
      Key.validate key = .ok key ∧ key.startsWith secretGateway.settings.staticPrefix = true ∧
        ¬ staticOrigin.Locates key (Url.split (secretGateway.remoteUrl key))) ∧
    (Url.split (secretGateway.remoteUrl "static/a?b")).query = some "b".toList ∧
    (Url.split (secretGateway.remoteUrl "static/a#b")).resource =
      (Url.split (secretGateway.remoteUrl "static/a")).resource ∧
    Url.octets (Url.split (secretGateway.remoteUrl "static/%2e%2e/b")).path =
      Url.utf8 "/static/../b".toList := by
  have haccepted : ∀ key ∈ ["static/a?b", "static/a#b", "static/%2e%2e/b"],
      Key.validate key = .ok key ∧ key.startsWith secretGateway.settings.staticPrefix = true ∧
        ¬ Key.IsLiteral key := by decide +kernel
  refine ⟨fetchesFrom_staticOrigin, fun key hkey => ?_, by decide, by decide, by decide⟩
  obtain ⟨hvalid, hstatic, hnot⟩ := haccepted key hkey
  have hlocates := (fetchesFrom_staticOrigin.readsAs key).locates_iff
  exact ⟨hvalid, hstatic, fun h => hnot (hlocates.mp h)⟩

end Gateway

end InstallerGateway
