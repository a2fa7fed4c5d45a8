import InstallerGateway.Cache.Basic
import InstallerGateway.Proofs.Number.Rounding

/-!
# What is found in a table

An item that the gateway has put is found until the second at which its time is over. From then on
the table may drop it, at any moment.
-/

namespace InstallerGateway

namespace TableItem

variable {now : Instant} {name value : String} {expiresAt : Int}

/-- The item that holds a value until a second. -/
def holding (name value : String) (expiresAt : Int) : Datum :=
  .object [("PK", .text (partition name)), ("value", .text value), ("expires_at", .int expiresAt)]

theorem make_int (now : Instant) (name value : String) (seconds : Int) :
    make now name value (.int seconds) = .ok (holding name value (truncate now + seconds)) := rfl

theorem partition_injective {name other : String} (h : partition name = partition other) :
    name = other := by
  unfold partition at h
  exact String.toList_inj.mp (by simpa using congrArg String.toList h)

/-- The second at which the time of an item is over. -/
def expiresAt? : Datum → Option Int
  | .map _ entries =>
    match Datum.field? "expires_at" entries with
    | some (.int n) => some n
    | _ => none
  | _ => none

theorem expiresAt?_holding : expiresAt? (holding name value expiresAt) = some expiresAt := rfl

/-- What the cache writes to a table it reads again, as long as the time is not over. -/
theorem value?_holding (now : Instant) (name value : String) (expiresAt : Int) :
    value? now (holding name value expiresAt) =
      .ok (if truncate now < expiresAt then some value else none) := by
  show (if expiresAt ≤ truncate now then _ else _ : Except String (Option String)) = _
  by_cases h : expiresAt ≤ truncate now
  · rw [if_pos h, if_neg (by omega)]
    rfl
  · rw [if_neg h, if_pos (by omega)]
    rfl

end TableItem

namespace Table

/-- The table drops an item if its time is over. -/
def drop (now : Instant) (partition : String) (t : Table) : Table :=
  if ((t.items.find? partition).bind TableItem.expiresAt?).any (· ≤ truncate now) then
    { t with items := t.items.remove partition }
  else t

/-- A table drops an item only if its time is over. -/
theorem find?_drop (now : Instant) (partition : String) (t : Table) :
    (t.drop now partition).items.find? partition = (t.items.find? partition).filter
      fun item => !(TableItem.expiresAt? item).any (· ≤ truncate now) := by
  unfold drop
  cases hfind : t.items.find? partition with
  | none => simpa using hfind
  | some item =>
    rw [Option.bind_some]
    by_cases hover : (TableItem.expiresAt? item).any (· ≤ truncate now) = true
    · rw [if_pos hover, Option.filter_some_neg (by simpa using hover)]
      exact Dictionary.find?_remove_self _ _
    · rw [if_neg hover, Option.filter_some_pos (by simpa using hover), hfind]

theorem find?_drop_of_ne {now : Instant} {partition other : String} (hne : other ≠ partition)
    (t : Table) : (t.drop now partition).items.find? other = t.items.find? other := by
  unfold drop
  split
  · exact Dictionary.find?_remove_of_ne hne.symm _
  · rfl

end Table

end InstallerGateway
