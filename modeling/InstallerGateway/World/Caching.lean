import InstallerGateway.World.Basic

/-!
# Keeping resolved keys

Resolved keys are kept in memory or in a table. When the table fails, or holds something else than
what was put there, memory stands in for it, and an alert is reported.
-/

namespace InstallerGateway.Caching

/-- The resolved key of a token in memory. -/
def fromMemory (token : String) : Act (Option String) := do
  let w ← MonadState.get
  let (value, memory) := w.cache.memory.get w.clock token
  set { w with cache := { w.cache with memory := memory } }
  return value

/-- A resolved key is kept in memory. The time to keep it has to be a number that can be added to
what the clock tells. -/
def remember (token value : String) (seconds : Datum) : Act Unit := do
  let w ← MonadState.get
  match seconds.number? with
  | some n =>
    if w.cache.counts n then
      let memory := w.cache.memory.put w.clock token value n
      set { w with cache := { w.cache with memory := memory } }
    else throw .endlessDuration
  | none => throw .noDuration

/-- The record of what was done to a table. -/
def tableRecord (operation table token : String) (more : List (String × Datum)) : AuditRecord :=
  .event "cache_operation" <|
    [("operation", .text operation), ("table", .text table), ("token", .text token)] ++ more ++
      [("duration_ms", .int 0)]

/-- The alert that a table failed. -/
def tableAlert (message table token reason : String) : AuditRecord :=
  .alert message [("table", .text table), ("token", .text token), ("error", .text reason)]

/-- The resolved key of a token, if one is kept and its time is not over. -/
def get (token : String) : Act (Option String) := do
  Act.note (.cacheGet token)
  let w ← MonadState.get
  match w.cache.table with
  | none => fromMemory token
  | some table =>
    let partition := TableItem.partition token
    Act.note (.tableGet partition)
    let failed (reason : String) : Act (Option String) := do
      Act.report (tableAlert "dynamodb_cache_get_failed" table token reason)
      fromMemory token
    match w.table.get partition with
    | .error reason => failed reason
    | .ok item =>
      let hit := match item with
        | .null => false
        | _ => true
      Act.report (tableRecord "dynamodb_get_item" table token [("hit", .bool hit)])
      match TableItem.value? w.clock item with
      | .error reason => failed reason
      | .ok value => return value

/-- A resolved key is kept for some seconds. -/
def put (token value : String) (seconds : Datum) : Act Unit := do
  Act.note (.cachePut token)
  let w ← MonadState.get
  match w.cache.table with
  | none => remember token value seconds
  | some table =>
    let failed (reason : String) : Act Unit := do
      Act.report (tableAlert "dynamodb_cache_put_failed" table token reason)
      remember token value seconds
    match TableItem.make w.clock token value seconds with
    | .error reason => failed reason
    | .ok item =>
      Act.note (.tablePut item)
      match w.table.put (TableItem.partition token) item with
      | .error reason => failed reason
      | .ok t =>
        modify fun w => { w with table := t }
        Act.report (tableRecord "dynamodb_put_item" table token [("ttl_seconds", seconds)])

/-- The resolved key of an extension, if one is kept; an empty one is none. -/
def lookup (extension : String) : Act (Option String) := do
  return (← get extension).filter fun value => !value.isEmpty

/-- A resolved key is kept for an extension, for the usual time if no other is given. -/
def store (usual : Datum) (extension value : String) (seconds : Datum) : Act Unit :=
  put extension value (if seconds.isTruthy then seconds else usual)

end InstallerGateway.Caching
