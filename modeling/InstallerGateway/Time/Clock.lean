import InstallerGateway.Number.Binary64
import InstallerGateway.Time.Calendar

/-!
# The clock

Moments of the clock are exact rational numbers of seconds since the start of 1970. They are
reported as whole milliseconds and as the dates of HTTP headers.
-/

namespace InstallerGateway

/-- A moment of the clock, in seconds since the start of 1970. -/
abbrev Instant := Rat

/-- A span of seconds as whole milliseconds: the product is rounded to double precision and its
fraction is dropped. -/
def milliseconds (seconds : Rat) : Int :=
  truncate (roundTo53 (seconds * 1000))

/-- Why an instant has no date. -/
inductive DateFault where
  /-- The date lies outside the years 1 to 9999. -/
  | outsideCalendar
  /-- The year does not fit into 32 bits. -/
  | yearTooLarge
  /-- The number of seconds does not fit into 64 bits. -/
  | secondsTooLarge
  deriving DecidableEq

namespace HttpDate

/-- The names of the days of the week, from the first of 1970, which was a Thursday. -/
def weekdays : List String := ["Thu", "Fri", "Sat", "Sun", "Mon", "Tue", "Wed"]

/-- The names of the months. -/
def months : List String :=
  ["Jan", "Feb", "Mar", "Apr", "May", "Jun", "Jul", "Aug", "Sep", "Oct", "Nov", "Dec"]

/-- The whole second of an instant: it is rounded to a microsecond, a half to the even one, and the
fraction of a second is dropped. -/
def wholeSecond (t : Instant) : Int :=
  let x := t * 1000000
  let n := x.floor
  let rest := x - n
  let micros := if rest < 1 / 2 then n else if 1 / 2 < rest then n + 1
    else if n % 2 = 0 then n else n + 1
  micros.fdiv 1000000

/-- An instant as `Thu, 01 Jan 1970 00:00:00 GMT`. -/
def text? (t : Instant) : Except DateFault String :=
  let seconds := wholeSecond t
  if seconds < -9223372036854775808 || 9223372036854775807 < seconds then .error .secondsTooLarge
  else
    let day := seconds.fdiv 86400
    let time := (seconds - day * 86400).toNat
    let (year, month, dayOfMonth) := Date.civil day
    if year < -2147481748 || 2147485547 < year then .error .yearTooLarge
    else if year < 1 || 9999 < year then .error .outsideCalendar
    else .ok <|
      weekdays.getD (day % 7).toNat "" ++ ", " ++ String.ofList (digitsOf 10 2 dayOfMonth) ++ " " ++
      months.getD (month - 1) "" ++ " " ++ String.ofList (digitsOf 10 4 year.toNat) ++ " " ++
      String.ofList (digitsOf 10 2 (time / 3600)) ++ ":" ++
      String.ofList (digitsOf 10 2 (time / 60 % 60)) ++ ":" ++
      String.ofList (digitsOf 10 2 (time % 60)) ++ " GMT"

end HttpDate

end InstallerGateway
