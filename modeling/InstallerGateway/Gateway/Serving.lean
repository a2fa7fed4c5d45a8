import InstallerGateway.Gateway.Limiting
import InstallerGateway.Gateway.Objects
import InstallerGateway.Gateway.Route

/-!
# Serving requests

A request is routed, screened, counted and served, in this order, and reported at the end. What goes
wrong on the way is answered as a failure.
-/

namespace InstallerGateway.Gateway

/-- A request for objects is served to its end; how it went is added to the statistics. -/
def timed (served : Act Answer) : StateM World Response := fun w =>
  let (result, w') := served.perform w
  let answer := match result with
    | .ok a => a
    | .error _ => ⟨failure, false⟩
  (answer.response,
    { w' with statistics := w'.statistics.record answer.isFull (w'.clock - w.clock) })

/-- The quantile of the durations of past requests, in whole milliseconds. -/
def quantile (s : Statistics) (p : Rat) : Int :=
  milliseconds (Statistics.percentile roundTo53 s.durations p)

/-- The health of the gateway. -/
def health (s : Statistics) : Response :=
  .ofDatum 200 <| .object [
    ("ok", .bool true),
    ("p50_ms", .int (quantile s (roundTo53 (1 / 2)))),
    ("p95_ms", .int (quantile s (roundTo53 (19 / 20)))),
    ("requests", .object [("err", .int s.err), ("ok", .int s.ok)])]

/-- The methods by which the path of the health may be addressed, told without looking at the
health. They are those of all routes there, the one of objects included, in no particular order. -/
def healthMethodsTold : Response :=
  (Response.ofText 200 Response.pageType "").withFields
    [("Allow", String.intercalate ", " Route.methods)]

/-- The answer to a request about the health of the gateway. -/
def healthAnswer (method : String) (s : Statistics) : Response :=
  if method = "OPTIONS" then healthMethodsTold else health s

/-- What is done about a request with a route, and the limit that is told to the client. -/
def dispatch (g : Gateway) (r : Request) (route : Route) :
    StateM World (Response × Option Counted) :=
  match g.refusal? r route with
  | some refused => return (refused, none)
  | none =>
    match route with
    | .health => g.limited r .health fun w => (healthAnswer r.method w.statistics, w)
    | .object key => g.limited r .objects (timed (g.serveObject r key))
    | .refused => return (methodRefused, none)
    | .nowhere => return (notFound, none)

/-! ## Reports -/

/-- What is reported about a request that came in at one instant and is answered at another. -/
def requestFields (g : Gateway) (r : Request) (status : Nat) (start now : Instant) :
    List (String × Datum) :=
  [("type", .text "http_request"), ("method", .text r.method), ("path", .text r.path),
    ("status_code", .int status), ("duration_ms", .int (milliseconds (now - start))),
    ("client_ip", .text (g.clientAddress r)),
    ("credential_present", .bool (!(Access.presented r.headers).isEmpty)),
    ("request_id", .text ("r_" ++ toString (milliseconds start)))]

/-- A status that calls for attention. -/
def isAlarming (status : Nat) : Bool := status == 401 || status == 403 || status == 500

/-- The request is reported, and once more as an alert if its status calls for attention. -/
def reportRequest (g : Gateway) (r : Request) (status : Nat) (start : Instant) :
    StateM World Unit := do
  let now := (← get).clock
  let fields := g.requestFields r status start now
  let alerts := if isAlarming status then
      [Event.audit now (.alert "security_alert" fields)]
    else []
  modify fun w => { w with trace := alerts ++ .audit now (.event "http_request" fields) :: w.trace }

/-! ## Requests -/

/-- The header fields about the limit that is told to the client. -/
def limitFields (told : Option Counted) (w : World) : Headers :=
  match told with
  | none => []
  | some c => w.windows.fields w.clock c

/-- The response to a request. -/
def serve (g : Gateway) (r : Request) : StateM World Response := do
  let start := (← get).clock
  let (response, told) ← g.dispatch r (Route.ofRequest r.method r.path)
  let response := response.withFields (limitFields told (← get))
  g.reportRequest r response.status start
  return response

/-- A response has been sent: another host's answer is done with. -/
def close (r : Response) : StateM World Unit :=
  match r.source with
  | none => return
  | some url => modify fun w => { w with trace := .close url :: w.trace }

/-- The response to a request, sent to its end. -/
def answer (g : Gateway) (r : Request) : StateM World Response := do
  let response ← g.serve r
  close response
  return response

end InstallerGateway.Gateway
