import InstallerGateway.Audit.Message
import InstallerGateway.Json.Writer
import InstallerGateway.Store.Dictionary
import InstallerGateway.Time.Clock

/-!
# Audit records

What happens is reported as records: a level, the name of the reporter, a message, and further named
values. A record is written as one line of JSON, unless one of the values cannot be written at all
or its name hides how the message is told.
-/

namespace InstallerGateway

/-- A record of the audit log. -/
structure AuditRecord where
  /-- How grave it is. -/
  level : Datum
  /-- Who reports it. -/
  logger : Datum
  /-- The message, with places for values. -/
  message : Datum
  /-- The values for the places. -/
  values : List Datum
  /-- Further values, by name. -/
  extras : Dictionary Datum

namespace AuditRecord

/-- The names of values that come first among the further ones, in this order. -/
def leadingNames : List String :=
  ["request_id", "client_ip", "key", "operation", "duration_ms", "alert"]

/-- Names that belong to the record itself. A further value with one of them is not reported. -/
def ownNames : List String :=
  ["name", "msg", "args", "levelname", "levelno", "pathname", "filename", "module", "exc_info",
    "exc_text", "stack_info", "lineno", "funcName", "created", "msecs", "relativeCreated", "thread",
    "threadName", "processName", "process"]

/-- The record with one more value. Three of the names that belong to the record replace its own
reporter, message and level. -/
def withExtra (r : AuditRecord) (name : String) (value : Datum) : AuditRecord :=
  if name = "name" then { r with logger := value }
  else if name = "msg" then { r with message := value }
  else if name = "levelname" then { r with level := value }
  else if ownNames.contains name then r
  else { r with extras := r.extras.put name value }

/-- Why a record is not written. -/
inductive Fault where
  /-- Its message cannot be filled in. -/
  | message (f : Message.Fault)
  /-- A further value stands in the place of what tells its message. -/
  | hiddenMessage
  /-- A further value is neither JSON nor has a text, as its integers have too many digits. -/
  | tooLong
  deriving DecidableEq

/-- The name under which a record has what tells its message. A further value may have it, too, and
then the message is not told. -/
def messageTeller : String := "getMessage"

/-- The message of a record with its places filled in. -/
def filled (r : AuditRecord) : Except Message.Fault String :=
  match Literal.display? r.message r.message with
  | none => .error .tooLong
  | some message => Message.text message r.values

/-- The message as the record tells it. -/
def messageText (r : AuditRecord) : Except Fault String :=
  if (r.extras.find? messageTeller).isSome then .error .hiddenMessage
  else r.filled.mapError .message

/-- A further value as it is reported: itself if it can be written as JSON, and otherwise as text,
if it has one. -/
def reportable? (d : Datum) : Option Datum :=
  if (Json.text? Json.spaced d).isSome then some d else (Literal.display? d d).map .text

/-- Further values as they are reported. -/
def reported : List (String × Datum) → Except Fault (List (String × Datum))
  | [] => .ok []
  | (name, d) :: rest =>
    match reportable? d with
    | none => .error .tooLong
    | some told => (reported rest).map ((name, told) :: ·)

/-- The names and values of a record at an instant. The record's own come first and prevail over
further ones with their names. -/
def fields (now : Instant) (r : AuditRecord) : Except Fault (List (String × Datum)) := do
  let message ← r.messageText
  let own := [("ts", .int (milliseconds now)), ("level", r.level), ("logger", r.logger),
    ("message", .text message)]
  let isOwn (name : String) : Bool := own.any (·.1 == name)
  let leading := leadingNames.filterMap fun name => (r.extras.find? name).map fun d => (name, d)
  let further ← reported <|
    r.extras.filter fun e => !isOwn e.1 && !leadingNames.contains e.1
  return own ++ leading ++ further

/-- A record at an instant as one line of JSON; none if one of the values that are reported as they
are cannot be written. -/
def line? (now : Instant) (r : AuditRecord) : Except Fault (Option String) :=
  (r.fields now).map fun fields => Json.text? Json.spaced (.object fields)

/-- A record about an event, reported by the audit log. -/
def event (message : String) (extras : List (String × Datum)) : AuditRecord :=
  ⟨.text "INFO", .text "audit", .text message, [], extras⟩

/-- A record about a danger, marked as an alert. -/
def alert (message : String) (extras : List (String × Datum)) : AuditRecord :=
  ⟨.text "WARNING", .text "audit", .text message, [],
    extras ++ [("alert", .bool true), ("alert_type", .text "security")]⟩

end AuditRecord

end InstallerGateway
