import InstallerGateway.Time.Clock

/-!
# Statistics of requests

How many requests were answered and how many broken off, and how long the last of them took.
-/

namespace InstallerGateway

/-- What is known about past requests. -/
structure Statistics where
  /-- The number of requests that were answered. -/
  ok : Nat
  /-- The number of requests that were broken off. -/
  err : Nat
  /-- The durations of the last requests, in seconds, the first one first. -/
  durations : List Rat

namespace Statistics

/-- Nothing is known yet. -/
def start : Statistics := ⟨0, 0, []⟩

/-- The number of durations that are kept. -/
def kept : Nat := 5000

/-- One more request. -/
def record (s : Statistics) (answered : Bool) (duration : Rat) : Statistics :=
  let all := s.durations ++ [duration]
  ⟨if answered then s.ok + 1 else s.ok, if answered then s.err else s.err + 1,
    all.drop (all.length - kept)⟩

/-- A value put into an ascending list. -/
def insertSorted (x : Rat) : List Rat → List Rat
  | [] => [x]
  | y :: rest => if x ≤ y then x :: y :: rest else y :: insertSorted x rest

/-- The values in ascending order. -/
def sorted : List Rat → List Rat
  | [] => []
  | x :: rest => insertSorted x (sorted rest)

/-- The place of the quantile `p` among `n` values: `p * (n - 1)`, rounded by `round`, the fraction
dropped, and not beyond the first or last place. -/
def rank (round : Rat → Rat) (n : Nat) (p : Rat) : Nat :=
  min (n - 1) (truncate (round (p * ((n : Rat) - 1)))).toNat

/-- The quantile `p` of values; 0 if there are none. -/
def percentile (round : Rat → Rat) (values : List Rat) (p : Rat) : Rat :=
  (sorted values).getD (rank round values.length p) 0

end Statistics

end InstallerGateway
