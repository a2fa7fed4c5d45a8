import InstallerGateway.Gateway.Basic
import InstallerGateway.Pattern.Reader
import InstallerGateway.Text.Character
import InstallerGateway.World.Basic
import InstallerGateway.World.Refreshing

/-!
# Starting the gateway

The settings are checked as far as that has not been done when they were read: the table of
platforms is read from the store if they name an object for it, the patterns of the allow list are
read, and the level of the log has to be one that there is. Some settings may be overridden for a
single gateway.
-/

namespace InstallerGateway

/-- What is set for a single gateway. -/
structure Overrides where
  /-- The greatest length of a request body. -/
  maxContentLength : Option Int
  /-- Whether what forwarding header fields say about the client is believed. -/
  trustsForwarding : Option Bool
  /-- How often a client may ask. -/
  rateLimit : Option String
  /-- Requests are counted. -/
  countsRequests : Bool
  /-- How they are counted. -/
  strategy : Option String

/-- Why a gateway does not start. -/
inductive StartFault where
  /-- The table of platforms holds a scalar without a value. -/
  | table (f : Fault)
  /-- A pattern of the allow list cannot be read. -/
  | pattern (f : Pattern.Fault)
  /-- There is no such level of the log. -/
  | logLevel

namespace Gateway

/-- The levels of the log. -/
def logLevels : List String :=
  ["critical", "fatal", "error", "warn", "warning", "info", "debug", "notset"]

/-- The way in which requests are counted if no other is set: in windows that begin with their first
request. -/
def fixedWindow : String := "fixed-window"

/-- How often a client may ask. Nothing is counted in a way that is not known. -/
def rateLimitOf (s : Settings) (o : Overrides) : Option String :=
  if o.countsRequests && o.strategy.getD fixedWindow = fixedWindow then
    some (o.rateLimit.getD s.rateLimitDefault)
  else none

/-- The table of platforms is set, and read from the store from time to time if there is an object
for it. -/
def openPlatforms (s : Settings) : Act Unit := do
  let source := s.platformTableKey.filter fun key => !key.isEmpty
  modify fun w => { w with platforms := ⟨.ofSuffixes s.platformManifests, source, false⟩ }
  if source.isSome then Refreshing.start

/-- A gateway with settings and overrides, if its patterns and the level of its log are right. -/
def ofSettings (s : Settings) (o : Overrides) : Except StartFault Gateway := do
  let allowList ← (s.allowList.mapM Pattern.parse).mapError .pattern
  if !logLevels.contains (lower s.logLevel) then throw .logLevel
  return {
    settings := s
    allowList
    maxContentLength := o.maxContentLength.getD s.maxContentLength
    trustsForwarding := o.trustsForwarding.getD s.trustProxyHeaders
    rateLimit := rateLimitOf s o }

/-- A gateway starts. -/
def start (s : Settings) (o : Overrides) : StateM World (Except StartFault Gateway) := do
  match ← (openPlatforms s).run with
  | .error f => return .error (.table f)
  | .ok _ => return ofSettings s o

end Gateway

end InstallerGateway
