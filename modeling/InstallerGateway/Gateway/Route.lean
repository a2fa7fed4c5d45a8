import InstallerGateway.Gateway.Basic
import InstallerGateway.Gateway.Client
import InstallerGateway.Http.Request
import InstallerGateway.Key.Basic

/-!
# Routes and screening

Where a request leads, and what is refused before anything else is done about it.
-/

namespace InstallerGateway

/-!
## Routes

Which part of the gateway a request is for. Apart from its health, which can only be read and asked
for its methods, all paths are keys of objects.
-/

/-- The part of the gateway that a request is for. -/
inductive Route where
  /-- Its health. -/
  | health
  /-- The object with a key. -/
  | object (key : String)
  /-- There is something at the path, but nothing can be done to it by the method. -/
  | refused
  /-- There is nothing at the path. -/
  | nowhere
  deriving DecidableEq

namespace Route

/-- The methods by which objects may be addressed, though not all of them are served. -/
def methods : List String := ["GET", "HEAD", "PUT", "DELETE", "POST", "PATCH", "OPTIONS"]

/-- The methods by which the health of the gateway may be addressed. The last one asks for these
methods. -/
def healthMethods : List String := ["GET", "HEAD", "OPTIONS"]

/-- The path goes on in another line after its first character. -/
def isBroken (path : List Char) : Bool := path.tail.contains '\n'

/-- The route of a request. -/
def ofRequest (method path : String) : Route :=
  let cs := path.toList.dropWhile (· == '/')
  if cs = "health".toList && healthMethods.contains method then .health
  else if isBroken cs then .nowhere
  else if methods.contains method then .object (String.ofList cs)
  else .refused

end Route

/-!
## Screening of requests

Requests whose bodies are too long, or whose keys can name no object, are refused before anything
else is done about them.
-/

namespace Gateway

/-- The declared length of the body is too great. -/
def isTooLarge (g : Gateway) (r : Request) : Bool :=
  r.contentLength?.any fun n => g.maxContentLength < (n : Int)

/-- What is wrong with the key of a request. The key of a method that is not served does not
matter. -/
def keyFault? (r : Request) : Route → Option KeyFault
  | .object key =>
    if Access.isRead r.method || Access.isWrite r.method then Key.fault? key else none
  | _ => none

/-- The response to a request that is refused. -/
def refusal? (g : Gateway) (r : Request) (route : Route) : Option Response :=
  if g.isTooLarge r then some (.ofMessage 413 "Request payload too large")
  else (keyFault? r route).map fun f => .ofMessage 400 f.message

end Gateway

end InstallerGateway
