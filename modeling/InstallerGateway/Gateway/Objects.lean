import InstallerGateway.Gateway.Client
import InstallerGateway.Http.Response
import InstallerGateway.Key.InstallerName
import InstallerGateway.Media.ContentType
import InstallerGateway.World.Resolving

/-!
# Serving objects

Objects are read, kept and removed under their keys. A key that asks for the newest release is
resolved first. Keys with a certain start are served from another host.
-/

namespace InstallerGateway.Gateway

/-- Header fields that can be sent: none of the values breaks its line. -/
def sendable (fields : Headers) : Act Headers :=
  if fields.any fun f => f.2.toList.any fun c => c == '\n' || c == '\r' then throw .badField
  else return fields

/-! ## Another host -/

/-- The header fields of another host that are passed on, as they are written. -/
def passedOn : List String := ["Content-Type", "ETag", "Last-Modified", "Cache-Control", "Expires"]

/-- The header fields of an answer of another host that are passed on. -/
def passedFields (a : RemoteAnswer) : Headers :=
  passedOn.filterMap fun name => (a.headers.getLast? name).map fun value => (name, value)

/-- The header fields with a content type, which is that of pages if there is none. -/
def withContentType (fields : Headers) : Headers :=
  if (fields.get? "Content-Type").isSome then fields
  else fields ++ [("Content-Type", Response.pageType)]

/-- The URL of a key on the other host. -/
def remoteUrl (g : Gateway) (key : String) : String :=
  g.settings.staticHost ++ "/" ++ key

/-- The answer of the other host is waited for. -/
def request (g : Gateway) (url : String) : Act (Except RemoteFailure RemoteAnswer) := do
  Act.note (.fetch url g.settings.staticTimeoutS)
  let outcome := (← MonadState.get).hosts.request url
  modify (·.advance outcome.delay)
  return outcome.answer

/-- The answer of the other host is passed on. -/
def passOn (g : Gateway) (key : String) : Act Answer := do
  let url := g.remoteUrl key
  match ← g.request url with
  | .error .unavailable => return .brokenOff 502 "Upstream unavailable"
  | .error (.broken message) => throw (.remote message)
  | .ok a =>
    let fields ← sendable (passedFields a)
    return .full ⟨a.status, withContentType fields, a.chunks, false, some url⟩

/-! ## The store -/

/-- The names of the parts of an installer's name, and the parts. -/
def nameFields (n : InstallerName) : List (String × Datum) :=
  [("platform", .text n.system.name), ("arch", .text n.arch), ("version", .text n.version),
    ("ext", .text n.ext)]

/-- That an object is downloaded is reported if its name tells what it is. -/
def reportDownload (g : Gateway) (r : Request) (name : String) : Act Unit :=
  match InstallerName.parse? name with
  | none => return
  | some n =>
    Act.report <| .event "download" (("client_ip", .text (g.clientAddress r)) :: nameFields n)

/-- The header fields of an object, before it is told how long it may be kept. -/
def objectFields (d : KeyDescriptor) (o : StoredObject) : Headers :=
  [("Content-Type", ContentType.ofStored d.extension o.contentType)] ++
    (if o.size = 0 then [] else [("Content-Length", toString o.size)]) ++ [("ETag", o.etag)]

/-- The header fields that tell how long an answer may be kept. -/
def cacheFields (g : Gateway) : Act Headers := do
  match CacheControl.fields (← MonadState.get).clock g.settings.cacheMaxAge with
  | .ok fields => return fields
  | .error f => throw (.date f)

/-- An object from the store is sent. -/
def sendObject (g : Gateway) (r : Request) (d : KeyDescriptor) (o : StoredObject) : Act Answer := do
  if d.extension ≠ "yml" then g.reportDownload r d.baseName
  let fields ← sendable (objectFields d o)
  let more ← g.cacheFields
  return .full ⟨200, fields ++ more, o.chunks, !o.isStream, none⟩

/-- The object that a key stands for is read. -/
def read (g : Gateway) (r : Request) (key : String) : Act Answer := do
  if key.startsWith g.settings.staticPrefix then g.passOn key
  else
    let resolved ← Resolving.resolve g.settings.latestCacheTtl (KeyDescriptor.parse key)
    match ← Storing.get resolved with
    | none => return .brokenOff 404 "Object Not Found"
    | some o => g.sendObject r (KeyDescriptor.parse resolved) o

/-- The content type under which an upload is kept. -/
def uploadType (r : Request) (key : String) : String :=
  ContentType.ofUpload (KeyDescriptor.parse key).extension r.contentType?

/-- The body of the request is kept under a key. -/
def keep (r : Request) (key : String) : Act Answer := do
  match r.received? with
  | none =>
    Storing.announce key (some (uploadType r key))
    return ⟨badRequest, false⟩
  | some body =>
    Storing.put key body (some (uploadType r key))
    Act.report <| .event "object_put"
      [("key", .text key), ("content_type", .text (uploadType r key))]
    return .full (.plain ("Put " ++ key ++ " successfully!"))

/-- The object with a key is removed. -/
def remove (key : String) : Act Answer := do
  Storing.delete key
  Act.report <| .event "object_deleted" [("key", .text key)]
  return .full (.plain "Deleted!")

/-! ## All methods -/

/-- The request is authorized to do what its method says to the object with a key. -/
def authorizes (g : Gateway) (r : Request) (key : String) : Bool :=
  Access.isAuthorized r.method key (g.isPublisher r) g.allowList

/-- The request is refused because it is not authorized. -/
def forbid (g : Gateway) (r : Request) (key : String) : Act Answer := do
  Act.report <| .alert "request_forbidden"
    [("method", .text r.method), ("key", .text key), ("client_ip", .text (g.clientAddress r))]
  return .brokenOff 403 "Forbidden"

/-- What is done about a request for the object with a key. -/
def serveObject (g : Gateway) (r : Request) (key : String) : Act Answer :=
  if !(Access.isRead r.method || Access.isWrite r.method) then return .full methodRefused
  else if !g.authorizes r key then g.forbid r key
  else if r.method = "PUT" then keep r key
  else if r.method = "DELETE" then remove key
  else g.read r key

end InstallerGateway.Gateway
