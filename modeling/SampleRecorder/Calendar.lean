import SampleRecorder.Number.Written

/-!
# Dates and times

Instants are milliseconds since the start of 1970 in universal time.  `Date.ofDays` turns a number of days into a date
of the Gregorian calendar, and the texts follow ISO 8601: four digits for the years 0 to 9999, and a sign with at
least four digits for all others.
-/

namespace SampleRecorder.Calendar

/-- A date of the Gregorian calendar, extended to all years. -/
structure Date where
  year : Int
  month : Nat
  day : Nat
  deriving DecidableEq, Repr

/-- The date `days` days after the first of January 1970.  Years are counted from the first of March, so that the leap
day is the last of its year. -/
def Date.ofDays (days : Int) : Date :=
  let shifted := days + 719468
  let era := shifted / 146097
  let dayOfEra := (shifted % 146097).toNat
  let yearOfEra := (dayOfEra - dayOfEra / 1460 + dayOfEra / 36524 - dayOfEra / 146096) / 365
  let dayOfYear := dayOfEra - (365 * yearOfEra + yearOfEra / 4 - yearOfEra / 100)
  let shiftedMonth := (5 * dayOfYear + 2) / 153
  let day := dayOfYear - (153 * shiftedMonth + 2) / 5 + 1
  let month := if shiftedMonth < 10 then shiftedMonth + 3 else shiftedMonth - 9
  ⟨yearOfEra + era * 400 + (if month ≤ 2 then 1 else 0), month, day⟩

/-- A number with at least `width` digits. -/
def padded (width n : Nat) : List Char :=
  let ds := Number.digitsOf n
  List.replicate (width - ds.length) '0' ++ ds

/-- The text of a year. -/
def yearText (year : Int) : List Char :=
  if year < 0 then '-' :: padded 4 year.natAbs
  else if year ≤ 9999 then padded 4 year.natAbs
  else '+' :: padded 4 year.natAbs

/-- Milliseconds in a day. -/
def dayLength : Int := 86400000

/-- The date of an instant as text, such as `2024-02-29`. -/
def dateText (millis : Int) : List Char :=
  let date := Date.ofDays (millis / dayLength)
  yearText date.year ++ '-' :: padded 2 date.month ++ '-' :: padded 2 date.day

/-- The time of day of an instant as text, down to milliseconds. -/
def timeText (millis : Int) : List Char :=
  let inDay := (millis % dayLength).toNat
  padded 2 (inDay / 3600000) ++ ':' :: padded 2 (inDay / 60000 % 60) ++ ':' :: padded 2 (inDay / 1000 % 60) ++
    '.' :: padded 3 (inDay % 1000)

/-- An instant as text, such as `2024-02-29T00:00:00.123Z`. -/
def isoText (millis : Int) : List Char :=
  dateText millis ++ 'T' :: timeText millis ++ ['Z']

end SampleRecorder.Calendar
