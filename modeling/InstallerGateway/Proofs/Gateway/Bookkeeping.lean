import InstallerGateway.Proofs.Gateway.Events
import InstallerGateway.Proofs.Gateway.Rulings
import Mathlib.Data.List.DropRight

/-!
# What the gateway knows about past requests

Every request that comes to be served an object is entered into the statistics once: as answered if
a response is returned, and as broken off otherwise. Of the durations the last ones are kept, in
order. Nothing else that happens to the gateway changes the statistics.
-/

namespace InstallerGateway

open Act

theorem rtake_append_singleton {α : Type} (xs : List α) (x : α) (n : Nat) :
    (xs.rtake n ++ [x]).rtake n = (xs ++ [x]).rtake n := by
  cases n with
  | zero => rw [List.rtake_zero, List.rtake_zero]
  | succ n =>
    rw [List.rtake_concat_succ, List.rtake_concat_succ]
    unfold List.rtake
    rw [List.length_drop, List.drop_drop]
    congr 2
    omega

/-! ## Records -/

namespace Statistics

/-- The statistics tell about requests that ended, the first one first: whether each was answered,
and how long it took. -/
structure TellsOf (s : Statistics) (endings : List (Bool × Rat)) : Prop where
  ok : s.ok = endings.countP (·.1)
  err : s.err = endings.countP (!·.1)
  durations : s.durations = (endings.map (·.2)).rtake kept

theorem tellsOf_start : start.TellsOf [] := by
  refine ⟨rfl, rfl, ?_⟩
  rw [List.map_nil, List.rtake_nil]
  rfl

/-- One more request is counted once, and only the duration of the oldest one is dropped. -/
theorem TellsOf.record {s : Statistics} {endings : List (Bool × Rat)} (h : s.TellsOf endings)
    (answered : Bool) (duration : Rat) :
    (s.record answered duration).TellsOf (endings ++ [(answered, duration)]) := by
  refine ⟨?_, ?_, ?_⟩
  · rw [List.countP_append, ← h.ok]
    cases answered <;> rfl
  · rw [List.countP_append, ← h.err]
    cases answered <;> rfl
  · have hrecord : (s.record answered duration).durations =
        (s.durations ++ [duration]).rtake kept := by
      simp only [Statistics.record, List.rtake]
    rw [hrecord, h.durations]
    generalize kept = n
    rw [rtake_append_singleton, List.map_append]
    rfl

end Statistics

namespace Gateway

variable {g : Gateway} {r : Request} {key : String} {w : World}

/-! ## Requests that are served an object -/

/-- A request for the object with a key, in the world in which it comes to be served. -/
structure Handling where
  request : Request
  key : String
  world : World

namespace Handling

/-- What comes of serving the object. -/
def outcome (g : Gateway) (c : Handling) : Except Fault Answer :=
  result (g.serveObject c.request c.key) c.world

/-- A response is returned. -/
def isAnswered (g : Gateway) (c : Handling) : Bool := (ending (c.outcome g)).isFull

/-- The status of the response. -/
def status (g : Gateway) (c : Handling) : Nat := (ending (c.outcome g)).response.status

/-- The seconds that serving the object takes. -/
def duration (g : Gateway) (c : Handling) : Rat :=
  (after (g.serveObject c.request c.key) c.world).clock - c.world.clock

/-- How it ended, as it is entered into the statistics. -/
def entry (g : Gateway) (c : Handling) : Bool × Rat := (c.isAnswered g, c.duration g)

/-- The request is authorized to read the object, which is one of the other host. -/
def ReadsElsewhere (g : Gateway) (c : Handling) : Prop :=
  Access.isRead c.request.method = true ∧ g.authorizes c.request c.key = true ∧
    c.key.startsWith g.settings.staticPrefix = true

/-- The request is authorized to read the object, and the store is asked for it under a resolved
key. -/
def ReadsFromStore (g : Gateway) (c : Handling) (resolved : String) (found : Option StoredObject) :
    Prop :=
  Access.isRead c.request.method = true ∧ g.authorizes c.request c.key = true ∧
    c.key.startsWith g.settings.staticPrefix = false ∧
    let resolve := Resolving.resolve g.settings.latestCacheTtl (KeyDescriptor.parse c.key)
    result resolve c.world = .ok resolved ∧
      result (Storing.get resolved) (after resolve c.world) = .ok found

/-- The ways in which serving an object ends: whether a response is returned, and the status. -/
inductive Ends (g : Gateway) (c : Handling) : Bool → Nat → Prop where
  /-- The method is not served. -/
  | methodRefused
      (h : (Access.isRead c.request.method || Access.isWrite c.request.method) = false) :
      Ends g c true 405
  /-- The request is not authorized. -/
  | forbidden (h : g.authorizes c.request c.key = false) : Ends g c false 403
  /-- The body that is to be kept is not complete. -/
  | incomplete (hput : c.request.method = "PUT") (h : c.request.received? = none) :
      Ends g c false 400
  /-- The body is kept. -/
  | kept {body : ByteArray} (hput : c.request.method = "PUT")
      (h : c.request.received? = some body) : Ends g c true 200
  /-- The object is removed. -/
  | removed (hdelete : c.request.method = "DELETE") : Ends g c true 200
  /-- The answer of the other host is passed on. -/
  | passedOn {a : RemoteAnswer} (hreads : c.ReadsElsewhere g)
      (h : (c.world.hosts.request (g.remoteUrl c.key)).answer = .ok a) : Ends g c true a.status
  /-- The other host does not answer. -/
  | unavailable (hreads : c.ReadsElsewhere g)
      (h : (c.world.hosts.request (g.remoteUrl c.key)).answer = .error .unavailable) :
      Ends g c false 502
  /-- There is no such object. -/
  | missing {resolved : String} (h : c.ReadsFromStore g resolved none) : Ends g c false 404
  /-- The object is sent. -/
  | sent {resolved : String} {o : StoredObject} (h : c.ReadsFromStore g resolved (some o)) :
      Ends g c true 200
  /-- Something goes wrong. -/
  | failed {f : Fault} (h : c.outcome g = .error f) : Ends g c false 500

end Handling

/-! ### Parts of serving -/

section Parts

variable {c : Handling} {a : Answer}

/-- An upload is counted as it ends. -/
theorem keep_ends (hput : c.request.method = "PUT")
    (h : result (keep c.request c.key) c.world = .ok a) :
    c.Ends g a.isFull a.response.status := by
  unfold keep at h
  cases hbody : c.request.received? with
  | none =>
    rw [hbody] at h
    obtain ⟨_, -, h⟩ := result_bind_eq_ok h
    cases h
    exact .incomplete hput hbody
  | some body =>
    rw [hbody] at h
    obtain ⟨_, -, h⟩ := result_bind_eq_ok h
    obtain ⟨_, -, h⟩ := result_bind_eq_ok h
    cases h
    exact .kept hput hbody

theorem remove_ends (hdelete : c.request.method = "DELETE")
    (h : result (remove c.key) c.world = .ok a) : c.Ends g a.isFull a.response.status := by
  obtain ⟨_, -, h⟩ := result_bind_eq_ok h
  obtain ⟨_, -, h⟩ := result_bind_eq_ok h
  cases h
  exact .removed hdelete

/-- A request that is passed on is counted as it ends. -/
theorem passOn_ends (hreads : c.ReadsElsewhere g)
    (h : result (g.passOn c.key) c.world = .ok a) : c.Ends g a.isFull a.response.status := by
  obtain ⟨answer, hanswer, h⟩ := result_bind_eq_ok h
  have hrequest : (c.world.hosts.request (g.remoteUrl c.key)).answer = answer :=
    Except.ok.inj hanswer
  rcases answer with (_ | _) | b
  · cases h
    exact .unavailable hreads hrequest
  · cases h
  · obtain ⟨fields, -, h⟩ := result_bind_eq_ok h
    cases h
    exact .passedOn hreads hrequest

/-- An object that is sent ends its request. -/
theorem isFull_of_sendObject {d : KeyDescriptor} {o : StoredObject}
    (h : result (g.sendObject r d o) w = .ok a) : a.isFull = true := by
  have hsend {w : World} (h : result (do
      let fields ← sendable (objectFields d o)
      let more ← g.cacheFields
      return Answer.full ⟨200, fields ++ more, o.chunks, !o.isStream, none⟩) w = .ok a) :
      a.isFull = true := by
    obtain ⟨_, -, h⟩ := result_bind_eq_ok h
    obtain ⟨_, -, h⟩ := result_bind_eq_ok h
    cases h
    rfl
  unfold sendObject at h
  dsimp only at h
  split at h
  · obtain ⟨_, -, h⟩ := result_bind_eq_ok h
    exact hsend h
  · exact hsend h

/-- A request to read is counted as it ends. -/
theorem read_ends (hread : Access.isRead c.request.method = true)
    (hauth : g.authorizes c.request c.key = true)
    (h : result (g.read c.request c.key) c.world = .ok a) :
    c.Ends g a.isFull a.response.status := by
  unfold read at h
  cases hstatic : c.key.startsWith g.settings.staticPrefix with
  | true =>
    rw [if_pos hstatic] at h
    exact passOn_ends ⟨hread, hauth, hstatic⟩ h
  | false =>
    rw [if_neg (by simp [hstatic])] at h
    obtain ⟨resolved, hresolve, h⟩ := result_bind_eq_ok h
    obtain ⟨found, hfound, h⟩ := result_bind_eq_ok h
    have hreads : c.ReadsFromStore g resolved found := ⟨hread, hauth, hstatic, hresolve, hfound⟩
    cases found with
    | none =>
      cases h
      exact .missing hreads
    | some o =>
      rw [isFull_of_sendObject h, (sendObject_result h).1]
      exact .sent hreads

end Parts

/-- Serving an object ends in one of these ways. -/
theorem Handling.ends (g : Gateway) (c : Handling) : c.Ends g (c.isAnswered g) (c.status g) := by
  unfold isAnswered status
  cases houtcome : c.outcome g with
  | error f => exact .failed houtcome
  | ok a =>
    show c.Ends g a.isFull a.response.status
    have h : result (g.serveObject c.request c.key) c.world = .ok a := houtcome
    unfold serveObject at h
    cases hserved : (Access.isRead c.request.method || Access.isWrite c.request.method) with
    | false =>
      rw [if_pos (by simp [hserved])] at h
      cases h
      exact .methodRefused hserved
    | true =>
      rw [if_neg (by simp [hserved])] at h
      cases hauth : g.authorizes c.request c.key with
      | false =>
        rw [if_pos (by simp [hauth])] at h
        obtain ⟨_, -, h⟩ := result_bind_eq_ok h
        cases h
        exact .forbidden hauth
      | true =>
        rw [if_neg (by simp [hauth])] at h
        split at h
        · rename_i hput
          exact keep_ends hput h
        · rename_i hput
          split at h
          · rename_i hdelete
            exact remove_ends hdelete h
          · rename_i hdelete
            have hread : Access.isRead c.request.method = true := by
              simpa [Access.isWrite, hput, hdelete] using hserved
            exact read_ends hread hauth h

/-! ## What changes the statistics -/

/-- The request as it comes to be served an object, if it does. -/
def handling? (g : Gateway) (r : Request) (w : World) : Option Handling :=
  match Route.ofRequest r.method r.path with
  | .object key =>
    if g.isDispatched r w then some ⟨r, key, after (g.judge r .objects) w⟩ else none
  | _ => none

/-- The statistics with an entry for a request that was served an object, if there is one. -/
def entered (g : Gateway) (c : Option Handling) (s : Statistics) : Statistics :=
  c.elim s fun c => s.record (c.isAnswered g) (c.duration g)

/-- Serving an object enters one request in the statistics. -/
theorem timed_statistics (g : Gateway) (c : Handling) :
    (timed (g.serveObject c.request c.key) c.world).2.statistics =
      g.entered (some c) c.world.statistics := by
  have hkept := serveObject_keeps isBesideStores_statistics g c.request c.key c.world
  rw [timed_snd]
  dsimp only
  rw [hkept]
  rfl

theorem judge_statistics (g : Gateway) (r : Request) (view : View) (w : World) :
    (after (g.judge r view) w).statistics = w.statistics := by
  obtain ⟨verdict, windows, hjudge⟩ := judge_perform g r view w
  rw [after_eq hjudge]
  rfl

theorem view?_of_reached? {view : View} (h : g.reached? r = some view) :
    (Route.ofRequest r.method r.path).view? = some view := by
  unfold reached? at h
  dsimp only at h
  split_ifs at h
  exact h

/-- A request enters the statistics if it comes to be served an object. -/
theorem dispatch_statistics (g : Gateway) (r : Request) (w : World) :
    (g.dispatch r (Route.ofRequest r.method r.path) w).2.statistics =
      g.entered (g.handling? r w) w.statistics := by
  unfold handling?
  cases hdispatched : g.isDispatched r w with
  | false =>
    obtain ⟨response, windows, told, -, -, hp⟩ := dispatch_of_not_isDispatched hdispatched
    rw [hp]
    split <;> rfl
  | true =>
    obtain ⟨view, hreached, verdict, hverdict, hnot⟩ := isWithinLimits_of_isDispatched hdispatched
    rw [dispatch_of_reached hreached, limited_of_ruling hverdict hnot]
    unfold viewed
    cases hroute : Route.ofRequest r.method r.path with
    | object key =>
      obtain rfl : view = .objects := by
        have hview := view?_of_reached? hreached
        rw [hroute] at hview
        exact (Option.some.inj hview).symm
      rw [← judge_statistics g r .objects w]
      exact timed_statistics g ⟨r, key, after (g.judge r .objects) w⟩
    | health => exact judge_statistics g r view w
    | refused => exact judge_statistics g r view w
    | nowhere => exact judge_statistics g r view w

theorem answer_statistics (g : Gateway) (r : Request) (w : World) :
    (g.answer r w).2.statistics = g.entered (g.handling? r w) w.statistics := by
  obtain ⟨-, events, -, hw, -⟩ := answer_of_dispatch g r w
  rw [hw]
  exact dispatch_statistics g r w

/-- Closing a response does not change the statistics. -/
theorem serve_statistics (g : Gateway) (r : Request) (w : World) :
    (g.serve r w).2.statistics = g.entered (g.handling? r w) w.statistics := by
  obtain ⟨events, hclose, -⟩ := close_snd (g.serve r w).1 (g.serve r w).2
  have hw : (g.answer r w).2 = (g.serve r w).2.noting events := hclose
  rw [← answer_statistics, hw]
  rfl

/-! ## Runs -/

/-- Something that happens to a gateway: a request comes in, or an event that asks for one, time
passes, or the table of platforms is read again. -/
inductive Occurrence where
  | request (r : Request)
  | invoke (event : Datum)
  | wait (seconds : NNRat)
  | refresh

namespace Occurrence

/-- The world after an occurrence. -/
def perform (g : Gateway) : Occurrence → World → World
  | .request r, w => (g.answer r w).2
  | .invoke event, w => (Invocation.answer g event w).2
  | .wait seconds, w => w.advance seconds
  | .refresh, w => after Refreshing.refresh w

/-- The request that comes to be served an object, if one does. -/
def handling? (g : Gateway) : Occurrence → World → Option Handling
  | .request r, w => g.handling? r w
  | .invoke event, w =>
    match Invocation.asked event with
    | .ok (_, _, r) => g.handling? r w
    | .error _ => none
  | .wait _, _ | .refresh, _ => none

/-- An occurrence enters one request in the statistics at most. -/
theorem perform_statistics (g : Gateway) (o : Occurrence) (w : World) :
    (o.perform g w).statistics = g.entered (o.handling? g w) w.statistics := by
  cases o with
  | request r => exact answer_statistics g r w
  | invoke event =>
    unfold perform handling?
    dsimp only
    cases hasked : Invocation.asked event with
    | error f =>
      rw [Invocation.answer_of_not_asked hasked]
      rfl
    | ok parts =>
      obtain ⟨balanced, method, r⟩ := parts
      rw [Invocation.answer_of_asked hasked]
      exact serve_statistics g r w
  | wait seconds => rfl
  | refresh =>
    exact Refreshing.refresh_keeps isBesideStores_statistics.toIsLasting (fun _ _ => rfl) w

end Occurrence

/-- The world after a gateway has lived through occurrences. -/
def world (g : Gateway) (w : World) (occurrences : List Occurrence) : World :=
  occurrences.foldl (fun w o => o.perform g w) w

/-- The requests that come to be served an object, the first one first. -/
def handlings (g : Gateway) : World → List Occurrence → List Handling
  | _, [] => []
  | w, o :: rest => (o.handling? g w).toList ++ g.handlings (o.perform g w) rest

/-- What is entered goes on from what was entered before. -/
theorem world_tellsOf (g : Gateway) (w : World) (occurrences : List Occurrence)
    {before : List (Bool × Rat)} (h : w.statistics.TellsOf before) :
    (g.world w occurrences).statistics.TellsOf
      (before ++ (g.handlings w occurrences).map (Handling.entry g)) := by
  induction occurrences generalizing w before with
  | nil =>
    rw [handlings, List.map_nil, List.append_nil]
    exact h
  | cons o rest ih =>
    have hstep := o.perform_statistics g w
    unfold handlings
    cases hhandling : o.handling? g w with
    | none =>
      rw [hhandling] at hstep
      exact ih (o.perform g w) (hstep ▸ h)
    | some c =>
      rw [hhandling] at hstep
      have hrecord : (g.entered (some c) w.statistics).TellsOf (before ++ [c.entry g]) :=
        h.record (c.isAnswered g) (c.duration g)
      have hentered := ih (o.perform g w) (hstep ▸ hrecord)
      rw [List.append_assoc] at hentered
      exact hentered

/-- Let a gateway that knows of no requests yet live through any occurrences. Of the requests that
came to be served an object, those for which a response was returned are counted as answered, the
others as broken off, and each is counted once. The durations that are known are those of the last
5000 of them, or of all if they are fewer, in order. A response is returned if an object was kept,
removed or sent, if the answer of the other host was passed on, and if the method is not served; the
request is broken off if it is not authorized or not complete, if there is no such object, if the
other host does not answer, and if anything goes wrong. -/
theorem world_statistics (g : Gateway) (w₀ : World) (occurrences : List Occurrence)
    (h : w₀.statistics = .start) :
    let handlings := g.handlings w₀ occurrences
    let s := (g.world w₀ occurrences).statistics
    s.ok = handlings.countP (·.isAnswered g) ∧
      s.err = handlings.countP (!·.isAnswered g) ∧
      s.ok + s.err = handlings.length ∧
      s.durations = (handlings.map (·.duration g)).rtake 5000 ∧
      s.durations.length = min handlings.length 5000 ∧
      ∀ c ∈ handlings, c.Ends g (c.isAnswered g) (c.status g) := by
  intro handlings s
  have htells : s.TellsOf (handlings.map (Handling.entry g)) :=
    g.world_tellsOf w₀ occurrences (h ▸ Statistics.tellsOf_start)
  have hok : s.ok = handlings.countP (·.isAnswered g) := by
    rw [htells.ok, List.countP_map]
    rfl
  have herr : s.err = handlings.countP (!·.isAnswered g) := by
    rw [htells.err, List.countP_map]
    rfl
  have hdurations : s.durations = (handlings.map (·.duration g)).rtake 5000 := by
    rw [htells.durations, List.map_map]
    rfl
  have hlength : s.durations.length = min handlings.length 5000 := by
    rw [hdurations, List.rtake, List.length_drop, List.length_map]
    omega
  have hall : s.ok + s.err = handlings.length := by
    have hcount := handlings.length_eq_countP_add_countP (·.isAnswered g)
    simp only [Bool.not_eq_true, Bool.decide_eq_false] at hcount
    rw [hok, herr, hcount]
  exact ⟨hok, herr, hall, hdurations, hlength, fun c _ => c.ends g⟩

/-- A publisher puts and reads an object, somebody uses a method that is not served, somebody reads
without being authorized, and two requests are for what is not there; the health of the gateway is
asked for as well. -/
theorem world_statistics_of_six_requests :
    let url := secretGateway.remoteUrl "static/app.js"
    let w₀ := { World.start 0 with hosts := [(url, ⟨2, .error .unavailable⟩)] }
    let occurrences : List Occurrence := [
      .request (publisherOf "PUT" "/desktop/app.zip" "PK".toUTF8), .wait 10,
      .request (publisherOf "GET" "/desktop/app.zip" ByteArray.empty),
      .request (.ofSent "POST" "/desktop/app.zip" [] ByteArray.empty none),
      .request (getOf "/desktop/app.zip" []), .request (getOf "/health" []),
      .request (publisherOf "GET" "/desktop/other.zip" ByteArray.empty),
      .request (getOf "/static/app.js" [])]
    let s := (secretGateway.world w₀ occurrences).statistics
    w₀.statistics = .start ∧
      (secretGateway.handlings w₀ occurrences).map (fun c => (c.status secretGateway,
        c.entry secretGateway)) = [(200, true, 0), (200, true, 0), (405, true, 0),
          (403, false, 0), (404, false, 0), (502, false, 2)] ∧
      s.ok = 3 ∧ s.err = 3 ∧ s.durations = [0, 0, 0, 0, 0, 2] := by
  intro url w₀ occurrences s
  have hstart : w₀.statistics = .start := rfl
  obtain ⟨hok, herr, -, hdurations, -, -⟩ :=
    world_statistics secretGateway w₀ occurrences hstart
  have hended : (secretGateway.handlings w₀ occurrences).map (fun c => (c.status secretGateway,
      c.entry secretGateway)) = [(200, true, 0), (200, true, 0), (405, true, 0),
        (403, false, 0), (404, false, 0), (502, false, 2)] := by decide +kernel
  have hanswered := congrArg (List.countP fun e => e.2.1) hended
  have hbroken := congrArg (List.countP fun e => !e.2.1) hended
  have htook := congrArg (List.map fun e => e.2.2) hended
  rw [List.countP_map] at hanswered hbroken
  rw [List.map_map] at htook
  have htook : (secretGateway.handlings w₀ occurrences).map (·.duration secretGateway) =
      [0, 0, 0, 0, 0, 2] := htook
  rw [htook] at hdurations
  have hlast : ([0, 0, 0, 0, 0, 2] : List Rat).rtake 5000 = [0, 0, 0, 0, 0, 2] := by decide +kernel
  exact ⟨hstart, hended, hok.trans hanswered, herr.trans hbroken, hdurations.trans hlast⟩

end Gateway

end InstallerGateway
