import InstallerGateway.Gateway.Basic
import InstallerGateway.Http.Request
import InstallerGateway.Pattern.Match
import InstallerGateway.Text.Split

/-!
# Clients and their access

Who asks, and what each may do.
-/

namespace InstallerGateway

/-!
## Access

Publishers prove who they are by a secret that they send in a header field. They may write and
delete objects and read all of them; everybody else may read the objects whose keys match the allow
list.
-/

namespace Access

/-- The header field that bears the secret. -/
def credentialHeader : String := "X-Custom-Auth-Key"

/-- The credential that a request presents; empty if there is none. -/
def presented (headers : Headers) : String := (headers.get? credentialHeader).getD ""

/-- The request presents the secret. An empty secret is never right. -/
def hasCredential (headers : Headers) (secret : String) : Bool :=
  !secret.isEmpty && presented headers == secret

/-- The method reads objects. -/
def isRead (method : String) : Bool := method == "GET" || method == "HEAD"

/-- The method changes objects. -/
def isWrite (method : String) : Bool := method == "PUT" || method == "DELETE"

/-- The key is open to everybody. -/
def isPublic (allowList : List Pattern) (key : String) : Bool :=
  allowList.any fun p => p.foundIn key

/-- A request with a credential, or without one, may use the method on the key. -/
def isAuthorized (method key : String) (credential : Bool) (allowList : List Pattern) : Bool :=
  if isWrite method then credential
  else if isRead method then credential || isPublic allowList key
  else false

end Access

/-!
## Clients

The address of a client is the one from which its request comes. If the gateway stands behind others
that can be trusted, it is the one that they report in header fields.
-/

namespace Gateway

/-- The first address that the request was forwarded for; empty if there is none. -/
def forwardedFor (r : Request) : String :=
  let value := ((r.headers.get? "X-Forwarded-For").getD "").toList
  String.ofList (stripBy isBlank (((splitFirst ',' value).map (·.1)).getD value))

/-- The address of the client; empty if it is not known. -/
def clientAddress (g : Gateway) (r : Request) : String :=
  let remote := r.remote.getD ""
  if g.trustsForwarding then
    let connecting := (r.headers.get? "CF-Connecting-IP").getD ""
    if !connecting.isEmpty then connecting
    else if !(forwardedFor r).isEmpty then forwardedFor r
    else remote
  else remote

/-- The address under which the requests of a client are counted; one that is not known is that of
the machine itself. -/
def countedAddress (g : Gateway) (r : Request) : String :=
  let address := g.clientAddress r
  if address.isEmpty then "127.0.0.1" else address

/-- The request presents the secret of publishers. -/
def isPublisher (g : Gateway) (r : Request) : Bool :=
  Access.hasCredential r.headers g.settings.releasesAuthKey

end Gateway

end InstallerGateway
