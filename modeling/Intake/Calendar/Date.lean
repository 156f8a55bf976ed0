/-! # Calendar dates

Dates of the Gregorian calendar extended to all years from -262143 to 262142. A date is known by
its year, month and day; its day of the year, its day of the week and its week are computed from
them. Days of the week are counted from Monday as zero.
-/

namespace Intake

/-- A day of the calendar. -/
structure Date where
  year : Int
  month : Nat
  day : Nat
deriving DecidableEq, Repr

namespace Date

/-- The first year of the calendar. -/
def firstYear : Int := -262143

/-- The last year of the calendar. -/
def lastYear : Int := 262142

/-- Every fourth year is a leap year, except three of four centuries. -/
def isLeapYear (year : Int) : Bool :=
  year % 4 == 0 && (year % 100 != 0 || year % 400 == 0)

/-- The number of days of a month. -/
def daysInMonth (year : Int) (month : Nat) : Nat :=
  match month with
  | 2 => if isLeapYear year then 29 else 28
  | 4 => 30
  | 6 => 30
  | 9 => 30
  | 11 => 30
  | _ => 31

/-- The number of days of a year. -/
def daysInYear (year : Int) : Nat := if isLeapYear year then 366 else 365

/-- The year belongs to the calendar. -/
def isYear (year : Int) : Bool := firstYear ≤ year && year ≤ lastYear

/-- The date exists. -/
def isValid (date : Date) : Bool :=
  isYear date.year && 1 ≤ date.month && date.month ≤ 12 && 1 ≤ date.day
    && date.day ≤ daysInMonth date.year date.month

/-- The date with the given year, month and day. -/
def of? (year : Int) (month day : Nat) : Option Date :=
  let date : Date := ⟨year, month, day⟩
  if date.isValid then some date else none

/-- The number of days of the year before a month. -/
def daysBefore (year : Int) (month : Nat) : Nat :=
  (List.range (month - 1)).foldl (fun days i => days + daysInMonth year (i + 1)) 0

/-- The quarter of the year, counted from one. -/
def quarter (date : Date) : Nat := (date.month - 1) / 3 + 1

/-- The day of the year, counted from one. -/
def ordinal (date : Date) : Nat := daysBefore date.year date.month + date.day

/-- Finds the month that a day of the year falls in, trying months from the given one on. -/
def monthDay? (year : Int) : Nat → Nat → Nat → Option Date
  | 0, _, _ => none
  | fuel + 1, month, day =>
    if day ≤ daysInMonth year month then some ⟨year, month, day⟩
    else monthDay? year fuel (month + 1) (day - daysInMonth year month)

/-- The date with the given day of the year. -/
def ofOrdinal? (year : Int) (ordinal : Nat) : Option Date :=
  if isYear year ∧ 1 ≤ ordinal ∧ ordinal ≤ daysInYear year then monthDay? year 12 1 ordinal else none

/-- The number of days from the first of January 1970 to the first of January of a year. -/
def yearStart (year : Int) : Int :=
  let before := year - 1
  365 * (year - 1970) + (before.fdiv 4 - before.fdiv 100 + before.fdiv 400) - 477

/-- The number of days since the first of January 1970. -/
def dayNumber (date : Date) : Int := yearStart date.year + date.ordinal - 1

/-- The year that a day number falls in: an estimate that is too high by one at most. -/
def yearOfDay (day : Int) : Int :=
  let estimate := 1970 + (day * 400).fdiv 146097 + 1
  if yearStart estimate ≤ day then estimate
  else if yearStart (estimate - 1) ≤ day then estimate - 1
  else estimate - 2

/-- The date with the given day number. -/
def ofDayNumber? (day : Int) : Option Date :=
  let year := yearOfDay day
  ofOrdinal? year (day - yearStart year + 1).toNat

/-- The day of the week of a day number. The first of January 1970 was a Thursday. -/
def weekdayOfDay (day : Int) : Nat := ((day + 3) % 7).toNat

/-- The day of the week. -/
def weekday (date : Date) : Nat := weekdayOfDay date.dayNumber

/-- The day of the week of the first of January. -/
def firstWeekday (year : Int) : Nat := weekdayOfDay (yearStart year)

/-- The number of weeks of a year whose weeks belong to the year that their Thursday falls in. -/
def weeksInYear (year : Int) : Nat :=
  if firstWeekday year = 3 ∨ firstWeekday year = 2 ∧ isLeapYear year then 53 else 52

/-- The year and number of the week, which belongs to the year that its Thursday falls in. -/
def isoWeek (date : Date) : Int × Nat :=
  let week : Int := ((date.ordinal : Int) - (date.weekday + 1 : Nat) + 10) / 7
  if week < 1 then (date.year - 1, weeksInYear (date.year - 1))
  else if weeksInYear date.year < week then (date.year + 1, 1)
  else (date.year, week.toNat)

/-- The date with the given week and day of the week. -/
def ofIsoWeek? (year : Int) (week weekday : Nat) : Option Date :=
  if !isYear year || week < 1 || weeksInYear year < week then none
  else
    let fourth := (firstWeekday year + 3) % 7
    let ordinal : Int := 7 * (week : Int) + (weekday : Int) - (fourth : Int) - 3
    let day := yearStart year + ordinal - 1
    let date? := ofDayNumber? day
    date?.filter isValid

/-- The number of the week in the year, weeks starting on the given day of the week and the days
before the first such day making up week zero. -/
def weeksFrom (date : Date) (start : Nat) : Nat :=
  (date.ordinal + 6 - (date.weekday + 7 - start) % 7) / 7

/-- The names of the months. -/
def monthNames : List String :=
  ["January", "February", "March", "April", "May", "June", "July", "August", "September",
    "October", "November", "December"]

/-- The names of the days of the week. -/
def weekdayNames : List String :=
  ["Monday", "Tuesday", "Wednesday", "Thursday", "Friday", "Saturday", "Sunday"]

end Date

end Intake
