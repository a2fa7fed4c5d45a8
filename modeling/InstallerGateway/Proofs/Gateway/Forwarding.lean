import InstallerGateway.Proofs.Gateway.Events
import InstallerGateway.Proofs.Gateway.Influence

/-!
# Events that are forwarded

A gateway that is called with events takes the first address for which an event was forwarded as
that of the client, whether it trusts forwarding fields or not. Apart from that address the values
of forwarding fields have no influence.
-/

namespace InstallerGateway

/-- Both fail alike, or the values stand in a relation. -/
inductive Agree {ε α β : Type} (rel : α → β → Prop) : Except ε α → Except ε β → Prop
  | error (e : ε) : Agree rel (.error e) (.error e)
  | ok {a : α} {b : β} (h : rel a b) : Agree rel (.ok a) (.ok b)

namespace Agree

variable {ε ε' α α' β β' : Type} {rel : α → α' → Prop} {rel' : β → β' → Prop}

/-- Computations that agree on their first parts and then on what follows agree. -/
theorem bind {x : Except ε α} {x' : Except ε α'} {f : α → Except ε β} {f' : α' → Except ε β'}
    (hx : Agree rel x x') (hf : ∀ a a', rel a a' → Agree rel' (f a) (f' a')) :
    Agree rel' (x >>= f) (x' >>= f') := by
  cases hx with
  | error e => exact .error e
  | ok h => exact hf _ _ h

/-- What both begin with may be the same. -/
theorem bind_same {x : Except ε α} {f : α → Except ε β} {f' : α → Except ε β'}
    (hf : ∀ a, Agree rel' (f a) (f' a)) : Agree rel' (x >>= f) (x >>= f') := by
  cases x with
  | error e => exact .error e
  | ok a => exact hf a

theorem mapError {x : Except ε α} {x' : Except ε α'} (h : Agree rel x x') (f : ε → ε') :
    Agree rel (x.mapError f) (x'.mapError f) := by
  cases h with
  | error e => exact .error (f e)
  | ok h => exact .ok h

end Agree

namespace Invocation

/-! ## Events that differ in forwarding fields -/

/-- The header fields of an event are the same, or forwarding fields of the same name. -/
inductive SameHeader : Datum × Datum → Datum × Datum → Prop
  | same (e : Datum × Datum) : SameHeader e e
  | forwarding {name value value' : String}
      (h : Headers.isAmong Gateway.forwardingNames name = true) :
      SameHeader (.text name, .text value) (.text name, .text value')

/-- The header fields of the events are the same, but for the values of forwarding fields. -/
inductive SameHeaders : Datum → Datum → Prop
  | same (d : Datum) : SameHeaders d d
  | entries {place : Nat} {es es' : List (Datum × Datum)} (h : List.Forall₂ SameHeader es es') :
      SameHeaders (.map place es) (.map place es')

/-- The parts of the events are the same, but for the values of forwarding fields. -/
structure SameParts (es es' : List (Datum × Datum)) : Prop where
  headers : Option.Rel SameHeaders (Datum.field? "headers" es) (Datum.field? "headers" es')
  part : ∀ name, name ≠ "headers" → Datum.field? name es' = Datum.field? name es

/-- The events are the same, but for the values of forwarding fields. -/
inductive SameEvent : Datum → Datum → Prop
  | same (event : Datum) : SameEvent event event
  | parts {place : Nat} {es es' : List (Datum × Datum)} (h : SameParts es es') :
      SameEvent (.map place es) (.map place es')

variable {g : Gateway} {d d' event event' : Datum} {es es' : List (Datum × Datum)}

theorem SameParts.headers_getD (h : SameParts es es') (other : Datum) :
    SameHeaders ((Datum.field? "headers" es).getD other)
      ((Datum.field? "headers" es').getD other) := by
  have hrel := h.headers
  generalize Datum.field? "headers" es = headers? at hrel ⊢
  generalize Datum.field? "headers" es' = headers?' at hrel ⊢
  cases hrel with
  | some h => exact h
  | none => exact .same other

theorem field?_append (name : String) (before after : List (Datum × Datum)) :
    Datum.field? name (before ++ after) =
      (Datum.field? name before).or (Datum.field? name after) := by
  induction before with
  | nil => rfl
  | cons e rest ih =>
    obtain ⟨k, v⟩ := e
    rw [List.cons_append]
    cases k with
    | text k =>
      show (if k = name then some v else Datum.field? name (rest ++ after)) =
        (if k = name then some v else Datum.field? name rest).or _
      rw [ih]
      split <;> rfl
    | _ => exact ih

/-- Events that differ in one part, which holds the header fields. -/
theorem sameParts_of_headers (before after : List (Datum × Datum)) (h : SameHeaders d d') :
    SameParts (before ++ (.text "headers", d) :: after)
      (before ++ (.text "headers", d') :: after) := by
  constructor
  · rw [field?_append, field?_append]
    cases Datum.field? "headers" before with
    | none => exact .some h
    | some v => exact .some (.same v)
  · intro name hname
    have hother (d : Datum) :
        Datum.field? name ((.text "headers", d) :: after) = Datum.field? name after :=
      if_neg hname.symm
    rw [field?_append, field?_append, hother, hother]

/-- The fields of events that differ in the forwarding fields alone differ in these alone. -/
theorem fieldsOf_of_same (h : SameHeaders d d') :
    Agree (List.Forall₂ (Headers.SameFieldBeside Gateway.forwardingNames)) (fieldsOf d)
      (fieldsOf d') := by
  cases h with
  | same =>
    cases fieldsOf d with
    | error f => exact .error f
    | ok fields => exact .ok (Headers.same_refl fields)
  | @entries place es es' h =>
    have hbad : es'.any isBadForwarding = es.any isBadForwarding := by
      induction h with
      | nil => rfl
      | cons hheader _ ih =>
        rw [List.any_cons, List.any_cons, ih]
        cases hheader <;> rfl
    have hempty : (Datum.map place es').isTruthy = (Datum.map place es).isTruthy := by
      cases h <;> rfl
    unfold fieldsOf
    rw [hempty]
    split
    · exact .ok .nil
    · dsimp only
      rw [hbad]
      split
      · exact .error _
      · refine .ok (List.rel_filterMap ?_ h)
        intro e e' hheader
        cases hheader with
        | same =>
          dsimp only
          split
          · exact .some (.refl _)
          · exact .none
        | forwarding hname => exact .some ⟨rfl, .inr hname⟩

/-- Transforming events that differ in the forwarding fields alone makes events that do so. -/
theorem transform?_of_same {place : Nat} (h : SameParts es es') :
    Agree (fun t t' => SameEvent (t.getD (.map place es)) (t'.getD (.map place es')))
      (FunctionUrl.transform? (.map place es)) (FunctionUrl.transform? (.map place es')) := by
  have hpart (name : String) (hname : name ≠ "headers") (other : Datum) :
      FunctionUrl.valueOr es' name other = FunctionUrl.valueOr es name other := by
    unfold FunctionUrl.valueOr
    rw [h.part name hname]
  have hheaders : SameHeaders (FunctionUrl.valueOr es "headers" (.map 0 []))
      (FunctionUrl.valueOr es' "headers" (.map 0 [])) := h.headers_getD _
  have hholds : FunctionUrl.holds (.map place es') "requestContext" =
      FunctionUrl.holds (.map place es) "requestContext" := by
    show Except.ok (Datum.field? _ es').isSome = Except.ok (Datum.field? _ es).isSome
    rw [h.part _ (by decide)]
  unfold FunctionUrl.transform?
  rw [hholds]
  refine .bind_same fun found => ?_
  split
  · exact .ok (.parts h)
  · have hentries : Agree (fun a b => a = es ∧ b = es') (FunctionUrl.entriesOf (.map place es))
        (FunctionUrl.entriesOf (.map place es')) := .ok ⟨rfl, rfl⟩
    refine hentries.bind ?_
    rintro _ _ ⟨rfl, rfl⟩
    simp only [hpart "requestContext" (by decide), hpart "rawPath" (by decide),
      hpart "queryStringParameters" (by decide), hpart "body" (by decide),
      hpart "isBase64Encoded" (by decide)]
    refine .bind_same fun hasHttp => ?_
    split
    · exact .ok (.parts h)
    · split
      · -- In the other words of an event the header fields are one part of seven.
        refine .bind_same fun http => .ok (.parts ?_)
        exact sameParts_of_headers [_, _, _] [_, _, _] hheaders
      · exact .error _

theorem optional_of_same (h : SameParts es es') {name : String} (hname : name ≠ "headers") :
    optional es' name = optional es name := by
  unfold optional
  rw [h.part name hname]

theorem required_of_same (h : SameParts es es') {name : String} (hname : name ≠ "headers") :
    required es' name = required es name := by
  unfold required
  rw [h.part name hname]

/-- Events that differ in the forwarding fields alone ask for requests that differ in them alone.
The fields are set twice: as they are sent, and with the declared length at their end. -/
theorem requestOf_of_same (h : SameParts es es') :
    Agree (fun a a' => a'.1 = a.1 ∧ a.2.SameBeside Gateway.forwardingNames a'.2)
      (requestOf es) (requestOf es') := by
  have hheaders : SameHeaders (optional es "headers") (optional es' "headers") :=
    h.headers_getD _
  unfold requestOf
  rw [optional_of_same h (by decide), optional_of_same h (by decide),
    required_of_same h (by decide), required_of_same h (by decide),
    required_of_same h (by decide)]
  refine .bind_same fun body => .bind_same fun method => .bind_same fun path =>
    .bind_same fun query => .bind_same fun _ => ?_
  refine (fieldsOf_of_same hheaders).bind fun fields fields' hfields => ?_
  refine .bind_same fun path => .bind_same fun method => .bind_same fun length =>
    .ok ⟨rfl, rfl, rfl, rfl, ?_⟩
  intro name hname
  have hnames : ∀ n ∈ Gateway.forwardingNames, '_' ∉ (lower n).toList := by decide
  have hsent := Headers.without_of_same (Headers.ofSent_of_same hnames hfields) "Content-Length"
  have hall := List.rel_append hsent
    (Headers.same_refl [("Content-Length", length)])
  exact Headers.get?_of_same (Headers.ofSent_of_same hnames hall) hname

theorem SameParts.refl (es : List (Datum × Datum)) : SameParts es es := by
  refine ⟨?_, fun _ _ => rfl⟩
  cases Datum.field? "headers" es with
  | none => exact .none
  | some d => exact .some (.same d)

theorem entriesOf_of_same (h : SameEvent event event') :
    Agree SameParts (entriesOf event) (entriesOf event') := by
  cases h with
  | parts h => exact .ok h
  | same =>
    cases event with
    | map place es => exact .ok (.refl es)
    | _ => exact .error _

/-- The events ask for requests that are the same, but for the values of forwarding fields and the
address from which they come. -/
theorem asked_of_same (h : SameEvent event event') :
    Agree (fun a a' => a'.1 = a.1 ∧ a'.2.1 = a.2.1 ∧
      a.2.2.SameBeside Gateway.forwardingNames a'.2.2) (asked event) (asked event') := by
  cases h with
  | same =>
    cases asked event with
    | error f => exact .error f
    | ok a => exact .ok ⟨rfl, rfl, rfl, rfl, rfl, fun _ _ => rfl⟩
  | @parts place es es' h =>
    have hbegin : Agree SameParts (entriesOf (.map place es)) (entriesOf (.map place es')) := .ok h
    unfold asked
    refine hbegin.bind fun _ _ _ => ?_
    refine ((transform?_of_same h).mapError _).bind fun told told' htold => ?_
    refine (entriesOf_of_same htold).bind fun entries entries' hentries => ?_
    rw [hentries.part "requestContext" (by decide)]
    refine .bind_same fun balanced => ?_
    refine (requestOf_of_same hentries).bind fun a a' ha => ?_
    exact .ok ⟨rfl, ha⟩

/-! ## Addresses -/

/-- The header fields of an event. -/
def headersOf : Datum → Datum
  | .map _ entries => optional entries "headers"
  | _ => .null

/-- The first address for which an event was forwarded. -/
def addressOf (event : Datum) : Except Fault String :=
  (fieldsOf (headersOf event)).map fun fields => remoteOf (Headers.ofSent fields)

/-- Transforming an event leaves its fields as they are. -/
theorem fieldsOf_transform? {told : Option Datum} (h : FunctionUrl.transform? event = .ok told) :
    fieldsOf (headersOf (told.getD event)) = fieldsOf (headersOf event) := by
  cases told with
  | none => rfl
  | some other =>
    unfold FunctionUrl.transform? at h
    obtain ⟨_, -, h⟩ := bind_eq_ok h
    split at h
    · cases h
    · obtain ⟨entries, hentries, h⟩ := bind_eq_ok h
      obtain ⟨_, -, h⟩ := bind_eq_ok h
      split at h
      · cases h
      · split at h
        · obtain ⟨http, -, h⟩ := bind_eq_ok h
          cases h
          cases event with
          | map place es =>
            obtain rfl : es = entries := by
              cases hentries
              rfl
            show fieldsOf (FunctionUrl.valueOr es "headers" (.map 0 [])) =
              fieldsOf (optional es "headers")
            unfold FunctionUrl.valueOr optional
            cases Datum.field? "headers" es <;> rfl
          | _ => cases hentries
        · cases h

/-- The request of an event comes from the first address for which the event was forwarded. -/
theorem remote_of_asked {balanced : Bool} {method : String} {r : Request}
    (h : asked event = .ok (balanced, method, r)) :
    ∃ address, addressOf event = .ok address ∧ r.remote = some address := by
  obtain ⟨_, -, h⟩ := bind_eq_ok h
  obtain ⟨told, htold, h⟩ := bind_eq_ok h
  obtain ⟨entries, hentries, h⟩ := bind_eq_ok h
  obtain ⟨_, -, h⟩ := bind_eq_ok h
  obtain ⟨⟨method', r'⟩, hrequest, h⟩ := bind_eq_ok h
  cases h
  obtain ⟨body, -, h⟩ := bind_eq_ok hrequest
  obtain ⟨_, -, h⟩ := bind_eq_ok h
  obtain ⟨_, -, h⟩ := bind_eq_ok h
  obtain ⟨_, -, h⟩ := bind_eq_ok h
  obtain ⟨_, -, h⟩ := bind_eq_ok h
  obtain ⟨fields, hfields, h⟩ := bind_eq_ok h
  obtain ⟨path, -, h⟩ := bind_eq_ok h
  obtain ⟨_, -, h⟩ := bind_eq_ok h
  obtain ⟨_, -, h⟩ := bind_eq_ok h
  cases h
  have hsame : fieldsOf (headersOf event) = .ok fields := by
    rw [← fieldsOf_transform? (eq_ok_of_mapError htold)]
    cases hd : told.getD event with
    | map place es =>
      rw [hd] at hentries
      cases hentries
      exact hfields
    | _ =>
      rw [hd] at hentries
      cases hentries
  refine ⟨remoteOf (Headers.ofSent fields), ?_, ?_⟩
  · unfold addressOf
    rw [hsame]
    rfl
  · show some (remoteOf ((Headers.ofSent fields).without "Content-Length")) = _
    unfold remoteOf
    rw [Headers.get?_without (by decide)]

/-! ## Runs -/

/-- Two steps are the same, or call with events that stand in a relation. -/
inductive Step.Like (rel : Datum → Datum → Prop) : Step → Step → Prop where
  | invoke {event event' : Datum} (h : rel event event') : Like rel (.invoke event) (.invoke event')
  | wait (seconds : NNRat) : Like rel (.wait seconds) (.wait seconds)

/-- What the limits say about the request of an event. -/
def ruling? (g : Gateway) (event : Datum) (w : World) :
    Option (Except InstallerGateway.Fault Gateway.Verdict) :=
  (asked event).toOption.bind fun a => g.ruling? a.2.2 w

/-- The answer to an event, and what the limits say about its request. -/
def Step.outcome (g : Gateway) : Step → World →
    Option (Except Fault Datum × Option (Except InstallerGateway.Fault Gateway.Verdict))
  | .invoke event, w => some ((answer g event w).1, ruling? g event w)
  | .wait _, _ => none

/-- What comes of the steps of a run. -/
def outcomes (g : Gateway) (w : World) (steps : List Step) :
    List (Option (Except Fault Datum × Option (Except InstallerGateway.Fault Gateway.Verdict))) :=
  Gateway.observed (Step.outcome g) (Step.perform g) w steps

/-- The events are the same, but for the values of forwarding fields, and were forwarded for the
same address first. -/
structure SameBesideForwarding (event event' : Datum) : Prop where
  rest : SameEvent event event'
  address : addressOf event' = addressOf event

/-- Events that differ in the forwarding fields alone ask for requests that do so. -/
theorem SameBesideForwarding.asked (h : SameBesideForwarding event event') :
    Agree (fun a a' => a'.1 = a.1 ∧ a'.2.1 = a.2.1 ∧
      Gateway.SameBesideForwarding a.2.2 a'.2.2) (asked event) (asked event') := by
  have hasked := asked_of_same h.rest
  generalize hx : Invocation.asked event = x at hasked ⊢
  generalize hx' : Invocation.asked event' = x' at hasked ⊢
  cases hasked with
  | error f => exact .error f
  | @ok a a' hsame =>
    obtain ⟨hbalanced, hmethod, hrest⟩ := hsame
    obtain ⟨address, haddress, hremote⟩ := remote_of_asked hx
    obtain ⟨address', haddress', hremote'⟩ := remote_of_asked hx'
    rw [h.address, haddress] at haddress'
    cases haddress'
    exact .ok ⟨hbalanced, hmethod, hrest, hremote'.trans hremote.symm⟩

/-- Without trust in the forwarding fields, such events have the same answer and count alike. -/
theorem SameBesideForwarding.answer (h : SameBesideForwarding event event')
    (htrusts : g.trustsForwarding = false) (w : World) :
    answer g event' w = answer g event w ∧ ruling? g event' w = ruling? g event w := by
  have hasked := h.asked
  unfold Invocation.answer ruling?
  generalize Invocation.asked event = x at hasked ⊢
  generalize Invocation.asked event' = x' at hasked ⊢
  cases hasked with
  | error f => exact ⟨rfl, rfl⟩
  | @ok a a' hsame =>
    obtain ⟨balanced, method, r⟩ := a
    obtain ⟨balanced', method', r'⟩ := a'
    obtain ⟨rfl, rfl, hrequest⟩ := hsame
    have halike := hrequest.alike htrusts
    refine ⟨?_, halike.ruling? w⟩
    dsimp only
    rw [halike.serve]

/-- The requests of events are counted and recorded by the address for which they were forwarded
first: a gateway that trusts nobody rules on events, answers them and changes the world as before if
the values of forwarding fields are others, as long as that address is the same. But it is the
address of the client to it, and an address under which nothing is being counted is ruled on as if
nothing had ever been counted. -/
theorem run_congr_of_address (htrusts : g.trustsForwarding = false) :
    (∀ steps steps', List.Forall₂ (Step.Like SameBesideForwarding) steps steps' → ∀ w,
      outcomes g w steps' = outcomes g w steps ∧ run g w steps' = run g w steps) ∧
    ∀ event balanced method r, asked event = .ok (balanced, method, r) →
      addressOf event = .ok (g.clientAddress r) ∧
      ∀ w, (∀ c : Counted, c.client = g.countedAddress r → w.windows.open? w.clock c = none) →
        ruling? g event w = ruling? g event (w.withWindows []) := by
  constructor
  · intro steps steps' h w
    refine Gateway.lockstep ?_ h w
    intro s s' hlike w
    cases hlike with
    | @invoke event event' hsame =>
      obtain ⟨hanswer, hruling⟩ := hsame.answer htrusts w
      unfold Step.outcome Step.perform
      dsimp only
      rw [hanswer, hruling]
      exact ⟨rfl, rfl⟩
    | wait seconds => exact ⟨rfl, rfl⟩
  · intro event balanced method r h
    obtain ⟨address, haddress, hremote⟩ := remote_of_asked h
    constructor
    · rw [Gateway.clientAddress_of_not_trusts htrusts, hremote]
      exact haddress
    · intro w hfresh
      unfold ruling?
      rw [h]
      exact Gateway.ruling?_of_open rfl hfresh

/-- An event of a function URL that asks for the health of the gateway. -/
def healthEvent (fields : List (String × String)) : Datum :=
  .object [
    ("rawPath", .text "/health"),
    ("requestContext", .object [("http", .object [("method", .text "GET")])]),
    ("headers", .object (fields.map fun f => (f.1, .text f.2)))]

theorem sameEvent_healthEvent {name : String} (value value' : String)
    (hname : Headers.isAmong Gateway.forwardingNames name = true) :
    SameEvent (healthEvent [(name, value)]) (healthEvent [(name, value')]) :=
  .parts (sameParts_of_headers [_, _] [] (.entries (.cons (.forwarding hname) .nil)))

/-- Who is forwarded in other ways after the first address is one client all the same. -/
theorem run_of_rotated_forwarders :
    let g := Gateway.limitedGateway
    let event := healthEvent [("x-forwarded-for", "198.51.100.1, 203.0.113.1")]
    let event' := healthEvent [("x-forwarded-for", "198.51.100.1, 203.0.113.2")]
    let w := World.start 0
    (outcomes g w [.invoke event, .wait 1, .invoke event']).map
        (Option.map fun o => o.1.toOption.map saysOk) =
        [some (some true), none, some (some false)] ∧
      outcomes g w [.invoke event, .wait 1, .invoke event'] =
        outcomes g w [.invoke event, .wait 1, .invoke event] ∧
      run g w [.invoke event, .wait 1, .invoke event'] =
        run g w [.invoke event, .wait 1, .invoke event] := by
  intro g event event' w
  have hsame : SameBesideForwarding event event' :=
    ⟨sameEvent_healthEvent _ _ (by decide), by decide +kernel⟩
  refine ⟨by decide +kernel, (run_congr_of_address rfl).1 _ _ ?_ w⟩
  exact .cons (.invoke ⟨.same event, rfl⟩) (.cons (.wait 1) (.cons (.invoke hsame) .nil))

/-- Who claims another address is another client, though the gateway trusts nobody. -/
theorem run_of_rotated_addresses :
    let g := Gateway.limitedGateway
    let event := healthEvent [("x-forwarded-for", "198.51.100.1")]
    let event' := healthEvent [("x-forwarded-for", "198.51.100.2")]
    let w := World.start 0
    g.trustsForwarding = false ∧
      List.Forall₂ (Step.Like SameEvent) [.invoke event, .invoke event]
        [.invoke event, .invoke event'] ∧
      (outcomes g w [.invoke event, .invoke event]).map
        (Option.map fun o => o.1.toOption.map saysOk) =
        [some (some true), some (some false)] ∧
      (outcomes g w [.invoke event, .invoke event']).map
        (Option.map fun o => o.1.toOption.map saysOk) =
        [some (some true), some (some true)] := by
  intro g event event' w
  refine ⟨rfl, ?_, by decide +kernel, by decide +kernel⟩
  exact .cons (.invoke (.same event))
    (.cons (.invoke (sameEvent_healthEvent _ _ (by decide))) .nil)

end Invocation

end InstallerGateway
