import InstallerGateway.Text.Character

/-!
# Calendar dates and moments

Dates of the proleptic Gregorian calendar in the years 1 to 9999, moments of a day with an optional
offset from UTC, and the count of days that both share with the clock.
-/

namespace InstallerGateway

/-- A calendar date. -/
structure Date where
  /-- The year. -/
  year : Nat
  /-- The month, from 1. -/
  month : Nat
  /-- The day of the month, from 1. -/
  day : Nat
  deriving DecidableEq, Inhabited

/-- A date and a time of day. -/
structure Moment where
  /-- The date. -/
  date : Date
  /-- The hour. -/
  hour : Nat
  /-- The minute. -/
  minute : Nat
  /-- The second. -/
  second : Nat
  /-- Microseconds. -/
  micro : Nat
  /-- How many seconds the local time is ahead of UTC, if that is known. -/
  offset : Option Int
  deriving DecidableEq, Inhabited

namespace Date

/-- The year has a 29th of February. -/
def isLeap (year : Nat) : Bool :=
  year % 4 == 0 && (year % 100 != 0 || year % 400 == 0)

/-- The number of days of a month. -/
def daysIn (year month : Nat) : Nat :=
  if month = 2 then if isLeap year then 29 else 28
  else if month = 4 || month = 6 || month = 9 || month = 11 then 30
  else 31

/-- The date exists in the calendar. -/
def exist (year month day : Nat) : Bool :=
  1 ≤ year && year ≤ 9999 && 1 ≤ month && month ≤ 12 && 1 ≤ day && day ≤ daysIn year month

/-- The date with these parts, if it exists. -/
def of? (year month day : Nat) : Option Date :=
  if exist year month day then some ⟨year, month, day⟩ else none

/-- The days from 1 January 1970 to the date. -/
def dayNumber (d : Date) : Int :=
  let y : Int := if d.month ≤ 2 then (d.year : Int) - 1 else d.year
  let era := y.fdiv 400
  let ofEra := y - era * 400
  let shifted : Int := if 2 < d.month then (d.month : Int) - 3 else d.month + 9
  let ofYear := (153 * shifted + 2) / 5 + d.day - 1
  era * 146097 + (ofEra * 365 + ofEra / 4 - ofEra / 100 + ofYear) - 719468

/-- Year, month and day of a day number; the year may be any integer. -/
def civil (dayNumber : Int) : Int × Nat × Nat :=
  let z := dayNumber + 719468
  let era := z.fdiv 146097
  let ofEra := z - era * 146097
  let yearOfEra := (ofEra - ofEra / 1460 + ofEra / 36524 - ofEra / 146096) / 365
  let ofYear := ofEra - (365 * yearOfEra + yearOfEra / 4 - yearOfEra / 100)
  let shifted := (5 * ofYear + 2) / 153
  let day := ofYear - (153 * shifted + 2) / 5 + 1
  let month := if shifted < 10 then shifted + 3 else shifted - 9
  (yearOfEra + era * 400 + (if month ≤ 2 then 1 else 0), month.toNat, day.toNat)

/-- The date as `YYYY-MM-DD`. -/
def iso (d : Date) : List Char :=
  digitsOf 10 4 d.year ++ '-' :: digitsOf 10 2 d.month ++ '-' :: digitsOf 10 2 d.day

end Date

namespace Moment

/-- The moment with these parts, if date and time exist and the offset is less than a day. -/
def of? (date : Date) (hour minute second micro : Nat) (offset : Option Int) : Option Moment :=
  if hour < 24 && minute < 60 && second < 60 && micro < 1000000 &&
      offset.all fun o => -86400 < o && o < 86400 then
    some ⟨date, hour, minute, second, micro, offset⟩
  else none

/-- Microseconds from the start of 1970, by the local clock, or by UTC if the offset is known. -/
def microseconds (t : Moment) : Int :=
  let seconds := t.date.dayNumber * 86400 + (t.hour * 3600 + t.minute * 60 + t.second : Nat)
  (seconds - t.offset.getD 0) * 1000000 + t.micro

/-- The two moments are the same: both or neither have a known offset, and they lie at the same
point of the scale of UTC or of the local clock. -/
def same (s t : Moment) : Bool :=
  s.offset.isSome == t.offset.isSome && s.microseconds == t.microseconds

/-- An offset as `±HH:MM`, with seconds only if there are any. -/
def offsetText (o : Int) : List Char :=
  let n := o.natAbs
  let seconds := n % 60
  (if o < 0 then '-' else '+') :: digitsOf 10 2 (n / 3600) ++ ':' :: digitsOf 10 2 (n / 60 % 60) ++
    (if seconds = 0 then [] else ':' :: digitsOf 10 2 seconds)

/-- The moment as `YYYY-MM-DD HH:MM:SS`, with microseconds only if there are any, and with its
offset if that is known. -/
def iso (t : Moment) : List Char :=
  t.date.iso ++ ' ' :: digitsOf 10 2 t.hour ++ ':' :: digitsOf 10 2 t.minute ++
    ':' :: digitsOf 10 2 t.second ++
    (if t.micro = 0 then [] else '.' :: digitsOf 10 6 t.micro) ++
    (match t.offset with
      | none => []
      | some o => offsetText o)

end Moment

end InstallerGateway
