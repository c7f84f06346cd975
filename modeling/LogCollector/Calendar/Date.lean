import LogCollector.Text.Numeral

/-!
# Dates of the proleptic Gregorian calendar

A date is counted in days from 1 January 1970. The count works with years that begin on the
first of March, so that the leap day is the last day of a year: such a year starts
`365 y + y/4 - y/100 + y/400` days after 1 March 0000, and the months from March on start
`(153 m + 2) / 5` days into it.

The way back takes whole runs of 400 years (146097 days), then centuries (36524), runs of
four years (1461) and single years (365) off the count; the last century of a run and the
last year of four are longer by a day, hence the two bounds of 3.
-/

namespace LogCollector.Calendar

/-- A day of the calendar; month and day count from 1. -/
structure Date where
  /-- The year; year 0 is the year before year 1. -/
  year : Int
  /-- The month, 1 to 12 in a valid date. -/
  month : Nat
  /-- The day of the month, from 1. -/
  day : Nat
  deriving DecidableEq

/-- Whether a year has a 29 February. -/
def isLeapYear (year : Int) : Bool := year % 4 == 0 && (year % 100 != 0 || year % 400 == 0)

/-- The number of days of a month. -/
def daysInMonth (year : Int) (month : Nat) : Nat :=
  match month with
  | 2 => if isLeapYear year then 29 else 28
  | 4 | 6 | 9 | 11 => 30
  | _ => 31

namespace Date

/-- Whether the calendar has this date. -/
def isValid (d : Date) : Bool :=
  1 ≤ d.month && d.month ≤ 12 && 1 ≤ d.day && d.day ≤ daysInMonth d.year d.month

/-- Days from 1 March 0000 to 1 January 1970. -/
def epochOffset : Int := 719468

/-- Days from 1 January 1970 to the date. -/
def dayNumber (d : Date) : Int :=
  let y := if d.month ≤ 2 then d.year - 1 else d.year
  let m : Int := (d.month + 9) % 12
  365 * y + y / 4 - y / 100 + y / 400 + (153 * m + 2) / 5 + d.day - 1 - epochOffset

/-- The date a number of days after 1 January 1970. -/
def ofDayNumber (n : Int) : Date :=
  let z := n + epochOffset
  let era := z / 146097
  let inEra := z % 146097
  let century := min (inEra / 36524) 3
  let inCentury := inEra - 36524 * century
  let four := inCentury / 1461
  let inFour := inCentury % 1461
  let single := min (inFour / 365) 3
  let inYear := inFour - 365 * single
  let m := (5 * inYear + 2) / 153
  let day := inYear - (153 * m + 2) / 5 + 1
  let y := 400 * era + 100 * century + 4 * four + single
  if m < 10 then ⟨y, (m + 3).toNat, day.toNat⟩ else ⟨y + 1, (m - 9).toNat, day.toNat⟩

/-- The day of the week, counted from Sunday. -/
def weekday (n : Int) : Int := (n + 4) % 7

/-- The day number of the `k`-th Sunday of a month. -/
def sunday (year : Int) (month k : Nat) : Int :=
  let first := dayNumber ⟨year, month, 1⟩
  first + (7 - weekday first) % 7 + 7 * (k - 1)

end Date

/-- The digits of a year: four for the years 0 to 9999, otherwise a sign and at least four. -/
def yearText (year : Int) : List Char :=
  if 0 ≤ year ∧ year ≤ 9999 then Numeral.padded 4 year.toNat
  else (if year < 0 then '-' else '+') :: Numeral.padded 4 year.natAbs

end LogCollector.Calendar
