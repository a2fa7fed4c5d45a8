import InstallerGateway.Http.Response
import InstallerGateway.Pattern.Basic
import InstallerGateway.Settings.Basic

/-!
# The gateway

What a running gateway is set up with, and the answers that do not depend on anything else.
-/

namespace InstallerGateway

/-- A gateway. -/
structure Gateway where
  /-- The settings. -/
  settings : Settings
  /-- The patterns of the keys that everybody may read. -/
  allowList : List Pattern
  /-- The greatest length of a request body. -/
  maxContentLength : Int
  /-- What forwarding header fields say about the client is believed. -/
  trustsForwarding : Bool
  /-- How often a client may ask; nothing is counted without it. -/
  rateLimit : Option String

/-- How a request for objects ends. -/
structure Answer where
  /-- The response. -/
  response : Response
  /-- The request was served to its end, and not broken off. -/
  isFull : Bool

namespace Answer

/-- The request was served to its end. -/
def full (r : Response) : Answer := ⟨r, true⟩

/-- The request was broken off with a message. -/
def brokenOff (status : Nat) (message : String) : Answer := ⟨.ofMessage status message, false⟩

end Answer

namespace Gateway

/-- The methods that are served. -/
def servedMethods : List String := ["PUT", "GET", "DELETE"]

/-- The method is one that is not served. -/
def methodRefused : Response :=
  (Response.ofMessage 405 "Method Not Allowed").withFields
    [("Allow", String.intercalate ", " servedMethods)]

/-- There is nothing at the path. -/
def notFound : Response :=
  .page 404 <| "The requested URL was not found on the server. If you entered the URL manually " ++
    "please check your spelling and try again."

/-- The body of the request is not complete. -/
def badRequest : Response :=
  .page 400 "The browser (or proxy) sent a request that this server could not understand."

/-- Something went wrong. -/
def failure : Response :=
  .page 500 <| "The server encountered an internal error and was unable to complete your " ++
    "request. Either the server is overloaded or there is an error in the application."

end Gateway

end InstallerGateway
