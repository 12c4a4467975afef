/-!
# Moments

A moment by the Gregorian calendar and a clock without time zone.
-/

namespace BrowserLab

/-- A moment, to the second. -/
structure Moment where
  year : Nat
  month : Nat
  day : Nat
  hour : Nat
  minute : Nat
  second : Nat
  deriving DecidableEq, Repr, Inhabited

namespace Moment

/-- A number with zeros before it. -/
def padded (width n : Nat) : String :=
  let digits := toString n
  "".pushn '0' (width - digits.length) ++ digits

/-- The date that lies so many days behind the first of March of year 0.  Years are counted from
March on, so that the day that not every year has is the last of its year: 146097 days are 400
years, and 153 days are five months. -/
def dateOfDays (days : Nat) : Nat × Nat × Nat :=
  let era := days / 146097
  let inEra := days % 146097
  let yearOfEra := (inEra - inEra / 1460 + inEra / 36524 - inEra / 146096) / 365
  let inYear := inEra - (365 * yearOfEra + yearOfEra / 4 - yearOfEra / 100)
  let fromMarch := (5 * inYear + 2) / 153
  let day := inYear - (153 * fromMarch + 2) / 5 + 1
  let month := if fromMarch < 10 then fromMarch + 3 else fromMarch - 9
  (yearOfEra + era * 400 + (if month ≤ 2 then 1 else 0), month, day)

/-- The days from the first of March of year 0 to the first of January of 1970. -/
def daysBefore1970 : Nat := 719468

/-- The moment so many seconds after the beginning of 1970. -/
def ofSeconds (seconds : Nat) : Moment :=
  let (year, month, day) := dateOfDays (seconds / 86400 + daysBefore1970)
  let rest := seconds % 86400
  { year, month, day, hour := rest / 3600, minute := rest / 60 % 60, second := rest % 60 }

/-- The time of day. -/
def timeOfDay (m : Moment) : String :=
  padded 2 m.hour ++ ":" ++ padded 2 m.minute ++ ":" ++ padded 2 m.second

/-- Date and time of day. -/
def text (m : Moment) : String :=
  padded 4 m.year ++ "-" ++ padded 2 m.month ++ "-" ++ padded 2 m.day ++ "T" ++ m.timeOfDay ++ "Z"

end Moment

end BrowserLab
