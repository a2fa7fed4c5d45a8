import InstallerGateway.World.Storing

/-!
# Refreshing the table of platforms

The table may be read again from the store, at once or from time to time. Unless a table is found
there, the one before remains.
-/

namespace InstallerGateway.Refreshing

/-- The object with a key, unless there is none or the store fails. -/
def fetch? (key : String) : Act (Option StoredObject) := fun w =>
  match Storing.get key w with
  | (.ok o, w) => (.ok o, w)
  | (.error _, w) => (.ok none, w)

/-- The table of platforms. -/
def table : Act PlatformTable := do return (← MonadState.get).platforms.table

/-- A table takes the place of the one before. -/
def replace (t : PlatformTable) : Act Unit := do
  Act.note .platformsLoaded
  modify fun w => { w with platforms := { w.platforms with table := t } }

/-- The table is read again from an object. -/
def refreshFrom (key : String) : Act Unit := do
  match ← fetch? key with
  | none => return
  | some o =>
    match PlatformTable.reloaded? o.read with
    | .error f => throw (.document f)
    | .ok none => return
    | .ok (some t) => replace t

/-- The table is read again, if the settings name an object for it. -/
def refresh : Act Unit := do
  match (← MonadState.get).platforms.source with
  | none => throw .noSource
  | some key => refreshFrom key

/-- The table is read again, and from now on from time to time, unless it is so already. -/
def start : Act Unit := do
  unless (← MonadState.get).platforms.isWatched do
    refresh
    modify fun w => { w with platforms := { w.platforms with isWatched := true } }

/-- The table is not read again from time to time any more. -/
def stop : Act Unit :=
  modify fun w => { w with platforms := { w.platforms with isWatched := false } }

/-- The table is read again after each of some changes of the world. The tables before the changes
and after the last one. -/
def rounds : List (Act Unit) → Act (List PlatformTable)
  | [] => return [← table]
  | change :: rest => do
    let before ← table
    change
    refresh
    return before :: (← rounds rest)

end InstallerGateway.Refreshing
