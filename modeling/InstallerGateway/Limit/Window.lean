import InstallerGateway.Limit.Rate
import InstallerGateway.Time.Clock

/-!
# Windows of time

What a rate limit restricts is counted in windows of time. A window opens with the first hit, lasts
as long as the limit says, and counts all hits in that time.
-/

namespace InstallerGateway

/-- The parts of the gateway whose requests are counted apart from each other. -/
inductive View where
  /-- The health of the gateway. -/
  | health
  /-- The objects. -/
  | objects
  deriving DecidableEq

/-- What is counted: the requests of a client for a part of the gateway, under a limit. -/
structure Counted where
  /-- The limit. -/
  limit : RateLimit
  /-- The client. -/
  client : String
  /-- The part of the gateway. -/
  view : View
  deriving DecidableEq

/-- A window of time. -/
structure Window where
  /-- The instant at which it is over. -/
  closes : Instant
  /-- The number of hits. -/
  hits : Nat

/-- The last window of each thing that is counted. -/
abbrev Windows := List (Counted × Window)

namespace Windows

/-- The window that is open at an instant. -/
def open? (ws : Windows) (now : Instant) (c : Counted) : Option Window :=
  (ws.lookup c).filter fun w => now < w.closes

/-- A window in place of the last one. -/
def replace (c : Counted) (w : Window) : Windows → Windows
  | [] => [(c, w)]
  | (d, v) :: rest => if d = c then (c, w) :: rest else (d, v) :: replace c w rest

/-- The window that counts one more hit at an instant. -/
def next (ws : Windows) (now : Instant) (c : Counted) : Window :=
  match ws.open? now c with
  | some w => { w with hits := w.hits + 1 }
  | none => ⟨now + c.limit.length, 1⟩

/-- The windows after one more hit at an instant. -/
def hit (ws : Windows) (now : Instant) (c : Counted) : Windows := ws.replace c (ws.next now c)

/-- How many hits are left at an instant. -/
def remaining (ws : Windows) (now : Instant) (c : Counted) : Nat :=
  c.limit.count - ((ws.open? now c).map (·.hits)).getD 0

/-- When the open window is over; at once if there is none. -/
def closesAt (ws : Windows) (now : Instant) (c : Counted) : Instant :=
  ((ws.open? now c).map (·.closes)).getD now

/-- The header fields that tell a client about a limit: the limit, what is left of it, the whole
second after the window is over, and the whole seconds until then. -/
def fields (ws : Windows) (now : Instant) (c : Counted) : List (String × String) :=
  let reset := truncate (ws.closesAt now c + 1)
  [("X-RateLimit-Limit", toString c.limit.count),
    ("X-RateLimit-Remaining", toString (ws.remaining now c)),
    ("X-RateLimit-Reset", toString reset),
    ("Retry-After", toString (truncate ((reset : Rat) - now)))]

end Windows

end InstallerGateway
