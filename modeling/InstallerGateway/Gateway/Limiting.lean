import InstallerGateway.Gateway.Client
import InstallerGateway.World.Basic

/-!
# Limiting of requests

How often each client may ask. Publishers may ask as often as they like. Of several limits those of
shorter units are hit first, and none is hit after one that is exceeded.
-/

namespace InstallerGateway.Gateway

/-- What the limits say about a request. -/
inductive Verdict where
  /-- It is not counted. -/
  | unlimited
  /-- It is within the limits, of which this one is told to the client. -/
  | within (told : Counted)
  /-- It exceeds this limit. -/
  | exceeded (told : Counted)
  deriving DecidableEq

/-- The request is counted, and the number of hits in the window that is open then. -/
def hit (c : Counted) : Act Nat := do
  let w ← MonadState.get
  set { w with windows := w.windows.hit w.clock c }
  return (w.windows.next w.clock c).hits

/-- The request is counted under limits one after the other, up to the first that it exceeds. -/
def firstExceeded (client : String) (view : View) : List RateLimit → Act (Option Counted)
  | [] => return none
  | l :: rest => do
    let n ← hit ⟨l, client, view⟩
    if l.count < n then return some ⟨l, client, view⟩ else firstExceeded client view rest

/-- The limits of a gateway; a text without any limit is one that cannot be read. -/
def limits? (g : Gateway) : Option (List RateLimit) :=
  match g.rateLimit with
  | none | some "" => some []
  | some text => (RateLimit.parseAll? text).map RateLimit.ordered

/-- What the limits say about a request for a part of the gateway. -/
def judge (g : Gateway) (r : Request) (view : View) : Act Verdict :=
  match g.limits? with
  | none => throw .badLimit
  | some [] => return .unlimited
  | some (first :: rest) => do
    if g.isPublisher r then return .unlimited
    match ← firstExceeded (g.countedAddress r) view (first :: rest) with
    | some c => return .exceeded c
    | none => return .within ⟨first, g.countedAddress r, view⟩

/-- The response to a request that exceeds a limit. -/
def tooMany (l : RateLimit) : Response := .page 429 l.text

/-- What is done about a request for a part of the gateway unless it exceeds a limit, and the limit
that is told to the client. -/
def limited (g : Gateway) (r : Request) (view : View) (served : StateM World Response) :
    StateM World (Response × Option Counted) := do
  match ← (g.judge r view).run with
  | .error _ => return (failure, none)
  | .ok .unlimited => return (← served, none)
  | .ok (.within c) => return (← served, some c)
  | .ok (.exceeded c) => return (tooMany c.limit, some c)

end InstallerGateway.Gateway
