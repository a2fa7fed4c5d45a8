import InstallerGateway.Proofs.Gateway.PassingOn

/-!
# Requests that are too many

A response has the status of too many requests in two cases only: a limit of the gateway is
exceeded, or the request is passed on to another host, and the status is what that host answers.
-/

namespace InstallerGateway.Gateway

open Act

variable {g : Gateway} {r : Request} {key : String} {w : World} {a : Answer}

/-! ## Parts of serving -/

theorem keep_status (h : result (keep r key) w = .ok a) : a.response.status ≠ 429 := by
  unfold keep at h
  split at h
  · obtain ⟨_, -, h⟩ := result_bind_eq_ok h
    cases h
    show (400 : Nat) ≠ 429
    decide
  · obtain ⟨_, -, h⟩ := result_bind_eq_ok h
    obtain ⟨_, -, h⟩ := result_bind_eq_ok h
    cases h
    show (200 : Nat) ≠ 429
    decide

theorem remove_status (h : result (remove key) w = .ok a) : a.response.status ≠ 429 := by
  obtain ⟨_, -, h⟩ := result_bind_eq_ok h
  obtain ⟨_, -, h⟩ := result_bind_eq_ok h
  cases h
  show (200 : Nat) ≠ 429
  decide

theorem forbid_status (h : result (g.forbid r key) w = .ok a) : a.response.status ≠ 429 := by
  obtain ⟨_, -, h⟩ := result_bind_eq_ok h
  cases h
  show (403 : Nat) ≠ 429
  decide

/-- Reading from the store never has the status 429. -/
theorem read_status (hs : key.startsWith g.settings.staticPrefix = false)
    (h : result (g.read r key) w = .ok a) : a.response.status ≠ 429 := by
  unfold read at h
  rw [if_neg (by simp [hs])] at h
  obtain ⟨k, -, h⟩ := result_bind_eq_ok h
  obtain ⟨found, -, h⟩ := result_bind_eq_ok h
  cases found with
  | none =>
    cases h
    show (404 : Nat) ≠ 429
    decide
  | some o =>
    rw [(sendObject_result h).1]
    decide

theorem ending_status {result : Except Fault Answer}
    (h : ∀ a, result = .ok a → a.response.status ≠ 429) :
    (ending result).response.status ≠ 429 := by
  cases result with
  | error f =>
    show (500 : Nat) ≠ 429
    decide
  | ok a => exact h a rfl

/-! ## Another host -/

/-- The other host answers a request for a key with status 429, and with fields that can be passed
on. -/
def RefusesElsewhere (g : Gateway) (hosts : RemoteHosts) (key : String) : Prop :=
  ∃ a, (hosts.request (g.remoteUrl key)).answer = .ok a ∧ a.status = 429 ∧
    ∀ f ∈ passedFields a, IsLine f.2

/-- The request reads an object of the other host, which answers with status 429. -/
structure IsRefusedElsewhere (g : Gateway) (r : Request) (hosts : RemoteHosts) (key : String) :
    Prop where
  route : Route.ofRequest r.method r.path = .object key
  isRead : Access.isRead r.method = true
  isAuthorized : g.authorizes r key = true
  isStatic : key.startsWith g.settings.staticPrefix = true
  refuses : g.RefusesElsewhere hosts key

/-- What is passed on has the status 429 exactly if the other host answers so. -/
theorem passOn_status (g : Gateway) (key : String) (w : World) :
    (ending (result (g.passOn key) w)).response.status = 429 ↔ g.RefusesElsewhere w.hosts key := by
  have hrequest := result_eq (request_perform g (g.remoteUrl key) w)
  unfold RefusesElsewhere
  rcases hanswer : w.hosts.request (g.remoteUrl key) with ⟨delay, (_ | message) | a⟩
  · rw [hanswer] at hrequest
    refine iff_of_false ?_ nofun
    rw [passOn, result_bind_of_ok hrequest]
    show (502 : Nat) ≠ 429
    decide
  · rw [hanswer] at hrequest
    refine iff_of_false ?_ nofun
    rw [passOn, result_bind_of_ok hrequest]
    show (500 : Nat) ≠ 429
    decide
  · by_cases hlines : ∀ f ∈ passedFields a, IsLine f.2
    · rw [result_eq (passOn_perform hanswer hlines)]
      constructor
      · intro hstatus
        exact ⟨a, rfl, hstatus, hlines⟩
      · rintro ⟨b, hb, hstatus, -⟩
        cases hb
        exact hstatus
    · obtain ⟨f, hfailed⟩ := passOn_of_break hanswer hlines
      rw [hfailed]
      refine iff_of_false ?_ ?_
      · show (500 : Nat) ≠ 429
        decide
      · rintro ⟨b, hb, -, hb'⟩
        cases hb
        exact hlines hb'

/-- A request for an object has the status 429 exactly if it is passed on to a host that answers so.
-/
theorem serveObject_status (g : Gateway) (r : Request) (key : String) (w : World) :
    (ending (result (g.serveObject r key) w)).response.status = 429 ↔
      Access.isRead r.method = true ∧ g.authorizes r key = true ∧
        key.startsWith g.settings.staticPrefix = true ∧ g.RefusesElsewhere w.hosts key := by
  unfold serveObject
  split
  · rename_i hserved
    refine iff_of_false ?_ fun h => ?_
    · show (405 : Nat) ≠ 429
      decide
    · simp [h.1] at hserved
  · rename_i hserved
    split
    · rename_i hauth
      refine iff_of_false (ending_status fun a => forbid_status) fun h => ?_
      simp [h.2.1] at hauth
    · rename_i hauth
      split
      · rename_i hput
        refine iff_of_false (ending_status fun a => keep_status) fun h => ?_
        simp [Access.isRead, hput] at h
      · split
        · rename_i hdelete
          refine iff_of_false (ending_status fun a => remove_status) fun h => ?_
          simp [Access.isRead, hdelete] at h
        · rename_i hput hdelete
          have hread : Access.isRead r.method = true := by
            simpa [Access.isWrite, hput, hdelete] using hserved
          have hauthorized : g.authorizes r key = true := by simpa using hauth
          cases hs : key.startsWith g.settings.staticPrefix with
          | true =>
            unfold read
            rw [if_pos hs, passOn_status]
            simp [hread, hauthorized]
          | false =>
            refine iff_of_false (ending_status fun a => read_status hs) fun h => ?_
            cases h.2.2.1

/-- What is dispatched has the status 429 exactly if another host answers so. -/
theorem viewed_status (g : Gateway) (r : Request) (w : World) :
    (g.viewed r w).1.status = 429 ↔ ∃ key, g.IsRefusedElsewhere r w.hosts key := by
  unfold viewed
  cases hroute : Route.ofRequest r.method r.path with
  | object key =>
    dsimp only
    rw [timed_fst, serveObject_status]
    constructor
    · rintro ⟨hread, hauthorized, hstatic, hrefuses⟩
      exact ⟨key, hroute, hread, hauthorized, hstatic, hrefuses⟩
    · rintro ⟨other, h⟩
      obtain rfl : key = other := by
        have hsame := hroute.symm.trans h.route
        injection hsame
      exact ⟨h.isRead, h.isAuthorized, h.isStatic, h.refuses⟩
  | _ =>
    refine iff_of_false ?_ ?_
    · show (healthAnswer r.method w.statistics).status ≠ 429
      rw [healthAnswer_status]
      decide
    · rintro ⟨key, h⟩
      cases hroute.symm.trans h.route

/-- A request is answered with status 429 exactly if a limit says that it is one too many, or if it
is dispatched and the other host answers so. -/
theorem answer_status_eq_429_iff (g : Gateway) (r : Request) (w : World) :
    (g.answer r w).1.status = 429 ↔ g.isExceeding r w = true ∨
      g.isDispatched r w = true ∧ ∃ key, g.IsRefusedElsewhere r w.hosts key := by
  rw [answer_status]
  cases hdispatched : g.isDispatched r w with
  | true =>
    obtain ⟨windows, told, hdispatch⟩ := dispatch_of_isDispatched hdispatched
    have hnot : g.isExceeding r w = false := isExceeding_of_isDispatched hdispatched
    rw [hdispatch, viewed_status, hnot]
    simp
    rfl
  | false =>
    obtain ⟨response, windows, told, -, hstatus, hdispatch⟩ :=
      dispatch_of_not_isDispatched hdispatched
    rw [hdispatch]
    simp [hstatus]

end InstallerGateway.Gateway
