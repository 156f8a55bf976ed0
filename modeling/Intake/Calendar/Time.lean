import Intake.Calendar.Date

/-! # Times of day

A leap second is the fifty-ninth second with a billion or more nanoseconds.
-/

namespace Intake

/-- A time of day. -/
structure Time where
  hour : Nat
  minute : Nat
  second : Nat
  nanosecond : Nat
deriving DecidableEq, Repr

/-- A date and a time of day. -/
structure DateTime where
  date : Date
  time : Time
deriving DecidableEq, Repr

/-- The nanoseconds of a second. -/
def nanosecondsPerSecond : Nat := 1000000000

namespace Time

/-- The hour on a clock of twelve hours. -/
def hour12 (time : Time) : Nat := if time.hour % 12 = 0 then 12 else time.hour % 12

/-- The time lies in the second half of the day. -/
def isAfternoon (time : Time) : Bool := 12 ≤ time.hour

/-- The second as it is shown: sixty in a leap second. -/
def shownSecond (time : Time) : Nat := time.second + time.nanosecond / nanosecondsPerSecond

/-- The fraction of the second in nanoseconds. -/
def fraction (time : Time) : Nat := time.nanosecond % nanosecondsPerSecond

/-- The seconds since midnight. -/
def secondOfDay (time : Time) : Nat := time.hour * 3600 + time.minute * 60 + time.second

end Time

namespace DateTime

/-- The seconds since the start of 1970. -/
def timestamp (moment : DateTime) : Int :=
  moment.date.dayNumber * 86400 + moment.time.secondOfDay

/-- The moment with the given number of seconds since the start of 1970. -/
def ofTimestamp? (seconds : Int) : Option DateTime :=
  let second := (seconds % 86400).toNat
  (Date.ofDayNumber? (seconds.fdiv 86400)).map fun date =>
    ⟨date, second / 3600, second / 60 % 60, second % 60, 0⟩

end DateTime

end Intake
