import InstallerGateway.Audit.Record
import InstallerGateway.Cache.Basic
import InstallerGateway.Gateway.Statistics
import InstallerGateway.Http.Response
import InstallerGateway.Limit.Window
import InstallerGateway.Manifest.Basic
import InstallerGateway.Number.Binary64
import InstallerGateway.Platform.Table
import InstallerGateway.Settings.Basic
import InstallerGateway.Store.Object

/-!
# The world of the gateway

All that lasts from one request to the next: the clock, what is kept in memory, and the stores,
tables and hosts outside. What the gateway does to these, and what it reports, is noted as a trace.
-/

namespace InstallerGateway

/-- Something that the gateway does. -/
inductive Event where
  /-- A connection to buckets of a region is made. -/
  | connectBuckets (region : String)
  /-- A connection to tables of a region is made. -/
  | connectTables (region : String)
  /-- A table is opened. -/
  | openTable (name : String)
  /-- An object is asked for. -/
  | storeGet (key : String)
  /-- An object is to be kept. -/
  | storePut (key : String)
  /-- An object is to be removed. -/
  | storeDelete (key : String)
  /-- A bucket is asked for an object. -/
  | bucketGet (bucket key : String)
  /-- A bucket is asked to keep an object. -/
  | bucketPut (bucket key : String) (contentType : Option String)
  /-- A bucket is asked to remove an object. -/
  | bucketDelete (bucket key : String)
  /-- A resolved key is asked for. -/
  | cacheGet (token : String)
  /-- A resolved key is to be kept. -/
  | cachePut (token : String)
  /-- A table is asked for an item. -/
  | tableGet (partition : String)
  /-- A table is asked to keep an item. -/
  | tablePut (item : Datum)
  /-- Another host is asked, and waited for so many seconds. -/
  | fetch (url : String) (timeout : Binary64)
  /-- The answer of another host is done with. -/
  | close (url : String)
  /-- A record is reported at an instant. -/
  | audit (now : Instant) (record : AuditRecord)
  /-- A key could not be resolved. -/
  | unresolved (fault : ResolutionFault)
  /-- A table of platforms is found in the store. -/
  | platformsLoaded

/-- Where resolved keys are kept. -/
structure LatestCache where
  /-- The resolved keys in memory. -/
  memory : MemoryCache
  /-- The name of the table, if resolved keys are kept there. -/
  table : Option String
  /-- The clock tells floating point numbers, so that a time that is added to them has to be within
  their range; otherwise it tells exact numbers. -/
  inDoubles : Bool

/-- A time in seconds can be added to what the clock tells. -/
def LatestCache.counts (c : LatestCache) (seconds : Rat) : Bool :=
  !c.inDoubles || (Binary64.ofRat seconds).toRat?.isSome

/-- Where the manifests of platforms are known from. -/
structure Platforms where
  /-- The suffixes of their names. -/
  table : PlatformTable
  /-- The object that the suffixes may be read from, if there is one. -/
  source : Option String
  /-- The suffixes are read from it from time to time. -/
  isWatched : Bool

/-- The world of the gateway. -/
structure World where
  /-- The present instant. -/
  clock : Instant
  /-- Where objects are kept. -/
  storage : Storage
  /-- What is said when objects are asked for while the store is out of order. -/
  outage : Option String
  /-- The bucket. -/
  bucket : Bucket
  /-- Where resolved keys are kept. -/
  cache : LatestCache
  /-- The table. -/
  table : Table
  /-- Where the manifests of platforms are known from. -/
  platforms : Platforms
  /-- Other hosts. -/
  hosts : RemoteHosts
  /-- What is known about past requests. -/
  statistics : Statistics
  /-- How often clients have asked of late. -/
  windows : Windows
  /-- What was done, the last event first. -/
  trace : List Event

/-- The world some seconds later. -/
def World.advance (seconds : Rat) (w : World) : World := { w with clock := w.clock + seconds }

/-- Why an action fails. -/
inductive Fault where
  /-- The store fails. -/
  | storage (f : StorageFault)
  /-- No use can be made of a document. -/
  | document (f : DocumentFault)
  /-- A time to keep a value is no number. -/
  | noDuration
  /-- A time to keep a value is beyond what the clock can tell. -/
  | endlessDuration
  /-- An instant has no date. -/
  | date (f : DateFault)
  /-- Something goes wrong while another host is asked. -/
  | remote (message : String)
  /-- A rate limit cannot be read. -/
  | badLimit
  /-- A value breaks the line of its header field. -/
  | badField
  /-- There is nothing to be read from time to time. -/
  | noSource
  deriving DecidableEq

/-- An action in the world. What it did before it failed remains done. -/
abbrev Act := ExceptT Fault (StateM World)

namespace Act

/-- The result of an action and the world afterwards. -/
def perform {α : Type} (a : Act α) (w : World) : Except Fault α × World := a w

/-- An event is noted. -/
def note (e : Event) : Act Unit := modify fun w => { w with trace := e :: w.trace }

/-- A record is reported. -/
def report (r : AuditRecord) : Act Unit := do note (.audit (← get).clock r)

end Act

/-!
## Setting up the world

The settings say whether objects and resolved keys are kept outside the gateway. Where that cannot
be reached they are kept in memory instead.
-/

/-- Whether what lies outside can be reached. -/
inductive Connection where
  /-- There is a connection already. -/
  | given
  /-- A connection can be made. -/
  | made
  /-- No connection can be made. -/
  | refused
  deriving DecidableEq

namespace World

/-- Where objects are kept, and what is done to find that out. A bucket needs a name. -/
def openStorage (s : Settings) (c : Connection) : Storage × List Event :=
  let named := s.s3BucketName.filter fun name => !name.isEmpty
  (⟨[], if s.useS3 && c ≠ .refused then named else none, s.s3Prefix⟩,
    if s.useS3 && c = .made then [.connectBuckets s.s3Region] else [])

/-- Where resolved keys are kept, and what is done to find that out. The clock is that of the
machine, which tells floating point numbers. -/
def openCache (s : Settings) (c : Connection) : LatestCache × List Event :=
  (⟨[], if s.useDynamodb && c ≠ .refused then some s.dynamodbTableName else none, true⟩,
    if s.useDynamodb && c = .made then
      [.connectTables s.awsRegion, .openTable s.dynamodbTableName]
    else [])

/-- A world at an instant in which everything is kept in memory, with an exact clock, and nothing
has been done. -/
def start (clock : Instant) : World where
  clock := clock
  storage := .inMemory
  outage := none
  bucket := .empty
  cache := ⟨[], none, false⟩
  table := .empty
  platforms := ⟨⟨[]⟩, none, false⟩
  hosts := []
  statistics := .start
  windows := []
  trace := []

end World

end InstallerGateway
