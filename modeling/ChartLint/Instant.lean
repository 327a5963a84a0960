/-!
# Points in time

A point in time is a number of seconds since the start of the year 1970 in universal time.  It is
written as a date and a time of day.

Years are counted from March, so that the leap day is the last day of a year.  Four hundred such
years have 146097 days, and the days of a year up to a month are given by a quotient.
-/

namespace ChartLint

/-- A point in time. -/
structure Instant where
  /-- The seconds since the start of 1970. -/
  seconds : Int
deriving DecidableEq, Repr, Inhabited

namespace Instant

/-- The year, the month and the day of a number of days since the start of 1970. -/
def dateOfDays (days : Int) : Int × Nat × Nat :=
  let shifted := days + 719468
  let cycle := shifted.fdiv 146097
  let day := (shifted.fmod 146097).toNat
  let year := (day - day / 1460 + day / 36524 - day / 146096) / 365
  let dayOfYear := day - (365 * year + year / 4 - year / 100)
  let month := (5 * dayOfYear + 2) / 153
  let dayOfMonth := dayOfYear - (153 * month + 2) / 5 + 1
  let month' := if month < 10 then month + 3 else month - 9
  (year + 400 * cycle + (if month' ≤ 2 then 1 else 0), month', dayOfMonth)

/-- A number with zeros in front up to a number of digits. -/
def padded (width n : Nat) : String :=
  let digits := Nat.toDigits 10 n
  String.ofList (List.replicate (width - digits.length) '0' ++ digits)

/-- A point in time as a date and a time of day in universal time. -/
def text (t : Instant) : String :=
  let (year, month, day) := dateOfDays (t.seconds.fdiv 86400)
  let second := (t.seconds.fmod 86400).toNat
  let date := (if year < 0 then "-" else "") ++ padded 4 year.natAbs ++ "-" ++ padded 2 month ++ "-"
    ++ padded 2 day
  date ++ "T" ++ padded 2 (second / 3600) ++ ":" ++ padded 2 (second / 60 % 60) ++ ":"
    ++ padded 2 (second % 60) ++ "Z"

end Instant

end ChartLint
