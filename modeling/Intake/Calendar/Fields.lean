import Intake.Calendar.Time

/-! # Dates and times from their parts

Reading a date or a time collects fields: a year or parts of it, a month, a week, an hour and so
on. A field that is given twice must have the same value both times. The fields determine a date,
a time or both if there are enough of them, and everything else that is given must agree with it.
-/

namespace Intake

-- Powers are those of natural numbers, whatever algebra is in scope.
attribute [local instance (high)] instPowNat

/-- What is known of a date and a time. -/
structure Fields where
  year : Option Int := none
  century : Option Nat := none
  yearOfCentury : Option Nat := none
  isoYear : Option Int := none
  isoYearOfCentury : Option Nat := none
  quarter : Option Nat := none
  month : Option Nat := none
  day : Option Nat := none
  ordinal : Option Nat := none
  weekFromSunday : Option Nat := none
  weekFromMonday : Option Nat := none
  isoWeek : Option Nat := none
  /-- The day of the week, counted from Monday as zero. -/
  weekday : Option Nat := none
  afternoon : Option Bool := none
  hourOfHalf : Option Nat := none
  minute : Option Nat := none
  second : Option Nat := none
  nanosecond : Option Nat := none
  timestamp : Option Int := none
  offset : Option Int := none
deriving DecidableEq, Repr

/-- Why fields determine no date or time. -/
inductive FieldFault where
  | notEnough
  | contradiction
deriving DecidableEq, Repr

namespace Fields

/-- Enters a value that must agree with the one that is there. -/
def enter {α : Type} [DecidableEq α] (old? : Option α) (new : α) : Option (Option α) :=
  match old? with
  | some old => if old = new then some (some new) else none
  | none => some (some new)

/-- Enters a year. -/
def setYear? (fields : Fields) (value : Int) : Option Fields := do
  if value < -2 ^ (31 : Nat) ∨ 2 ^ (31 : Nat) ≤ value then none
  some { fields with year := ← enter fields.year value }

/-- Enters a month. -/
def setMonth? (fields : Fields) (value : Nat) : Option Fields := do
  if value < 1 ∨ 12 < value then none
  some { fields with month := ← enter fields.month value }

/-- Enters a quarter of the year. -/
def setQuarter? (fields : Fields) (value : Nat) : Option Fields := do
  if value < 1 ∨ 4 < value then none
  some { fields with quarter := ← enter fields.quarter value }

/-- Enters a day of the month. -/
def setDay? (fields : Fields) (value : Nat) : Option Fields := do
  if value < 1 ∨ 31 < value then none
  some { fields with day := ← enter fields.day value }

/-- Enters a day of the year. -/
def setOrdinal? (fields : Fields) (value : Nat) : Option Fields := do
  if value < 1 ∨ 366 < value then none
  some { fields with ordinal := ← enter fields.ordinal value }

/-- Enters a day of the week, counted from Monday as zero. -/
def setWeekday? (fields : Fields) (value : Nat) : Option Fields := do
  some { fields with weekday := ← enter fields.weekday value }

/-- Enters the half of the day. -/
def setAfternoon? (fields : Fields) (value : Bool) : Option Fields := do
  some { fields with afternoon := ← enter fields.afternoon value }

/-- Enters an hour on a clock of twelve hours. -/
def setHour12? (fields : Fields) (value : Nat) : Option Fields := do
  if value < 1 ∨ 12 < value then none
  some { fields with hourOfHalf := ← enter fields.hourOfHalf (value % 12) }

/-- Enters an hour. -/
def setHour? (fields : Fields) (value : Nat) : Option Fields := do
  if 23 < value then none
  some { fields with
    afternoon := ← enter fields.afternoon (12 ≤ value)
    hourOfHalf := ← enter fields.hourOfHalf (value % 12) }

/-- Enters a minute. -/
def setMinute? (fields : Fields) (value : Nat) : Option Fields := do
  if 59 < value then none
  some { fields with minute := ← enter fields.minute value }

/-- Enters a second, sixty for a leap second. -/
def setSecond? (fields : Fields) (value : Nat) : Option Fields := do
  if 60 < value then none
  some { fields with second := ← enter fields.second value }

/-- Enters the nanoseconds of a second. -/
def setNanosecond? (fields : Fields) (value : Nat) : Option Fields := do
  if nanosecondsPerSecond ≤ value then none
  some { fields with nanosecond := ← enter fields.nanosecond value }

/-- Enters an offset from universal time in seconds. -/
def setOffset? (fields : Fields) (value : Int) : Option Fields := do
  some { fields with offset := ← enter fields.offset value }

/-- The year that a full year, a century and a year of the century make up together. Two digits
alone stand for a year from 1970 to 2069. -/
def resolveYear (year? : Option Int) (century? yearOfCentury? : Option Nat) :
    Except FieldFault (Option Int) :=
  match year?, century?, yearOfCentury? with
  | year?, none, none => .ok year?
  | some year, century?, rest? =>
    let agrees := 0 ≤ year && century?.all (fun century => year / 100 == century)
      && rest?.all fun rest => year % 100 == rest
    if agrees then .ok (some year) else .error .contradiction
  | none, some century, some rest => .ok (some (century * 100 + rest))
  | none, none, some rest => .ok (some (rest + (if rest < 70 then 2000 else 1900)))
  | none, some _, none => .error .notEnough

/-- A part that is given has the value that the date has. -/
def agrees {α : Type} [DecidableEq α] (given? : Option α) (actual : α) : Bool :=
  given?.all fun given => given = actual

/-- The year of a date agrees with the year, the century and the year of the century given. -/
def yearAgrees (year? : Option Int) (century? yearOfCentury? : Option Nat) (year : Int) : Bool :=
  agrees year? year && century?.all (fun century => 0 ≤ year && year / 100 == century)
    && yearOfCentury?.all fun rest => 0 ≤ year && year % 100 == rest

/-- The year, month and day agree with those given. -/
def monthDayAgrees (fields : Fields) (date : Date) : Bool :=
  yearAgrees fields.year fields.century fields.yearOfCentury date.year
    && agrees fields.month date.month && agrees fields.day date.day

/-- The week that belongs to one year, and the day of the week, agree with those given. -/
def isoWeekAgrees (fields : Fields) (date : Date) : Bool :=
  yearAgrees fields.isoYear none fields.isoYearOfCentury date.isoWeek.1
    && agrees fields.isoWeek date.isoWeek.2 && agrees fields.weekday date.weekday

/-- The day and the weeks of the year agree with those given. -/
def ordinalAgrees (fields : Fields) (date : Date) : Bool :=
  agrees fields.ordinal date.ordinal && agrees fields.weekFromSunday (date.weeksFrom 6)
    && agrees fields.weekFromMonday (date.weeksFrom 0)

/-- The date with the given week of the year, weeks starting on the given day of the week. -/
def weekDate (year : Int) (week weekday start : Nat) : Except FieldFault Date :=
  let firstWeek : Int := 1 + ((start + 7 - Date.firstWeekday year) % 7 : Nat)
  let ordinal := firstWeek + ((week : Int) - 1) * 7 + ((weekday + 7 - start) % 7 : Nat)
  if 53 < week ∨ ordinal ≤ 0 then .error .contradiction
  else
    match Date.ofOrdinal? year ordinal.toNat with
    | some date => .ok date
    | none => .error .contradiction

/-- A date that exists, lies in the quarter that is given and passes a further check. -/
def checked (fields : Fields) (date? : Option Date) (check : Date → Bool) :
    Except FieldFault Date :=
  match date? with
  | some date =>
    if agrees fields.quarter date.quarter && check date then .ok date else .error .contradiction
  | none => .error .contradiction

/-- The date that the fields determine. -/
def toDate (fields : Fields) : Except FieldFault Date := do
  let year? ← resolveYear fields.year fields.century fields.yearOfCentury
  let isoYear? ← resolveYear fields.isoYear none fields.isoYearOfCentury
  let whole (date : Date) :=
    fields.monthDayAgrees date && fields.isoWeekAgrees date && fields.ordinalAgrees date
  match year?, fields.month, fields.day with
  | some year, some month, some day =>
    fields.checked (Date.of? year month day) fun date =>
      fields.isoWeekAgrees date && fields.ordinalAgrees date
  | _, _, _ =>
  match year?, fields.ordinal with
  | some year, some ordinal => fields.checked (Date.ofOrdinal? year ordinal) whole
  | _, _ =>
  match year?, fields.weekFromSunday, fields.weekday with
  | some year, some week, some weekday =>
    fields.checked (some (← weekDate year week weekday 6)) whole
  | _, _, _ =>
  match year?, fields.weekFromMonday, fields.weekday with
  | some year, some week, some weekday =>
    fields.checked (some (← weekDate year week weekday 0)) whole
  | _, _, _ =>
  match isoYear?, fields.isoWeek, fields.weekday with
  | some year, some week, some weekday =>
    fields.checked (Date.ofIsoWeek? year week weekday) fun date =>
      fields.monthDayAgrees date && fields.ordinalAgrees date
  | _, _, _ => .error .notEnough

/-- The time of day that the fields determine. Seconds may be left out, but not under a fraction. -/
def toTime (fields : Fields) : Except FieldFault Time :=
  match fields.afternoon, fields.hourOfHalf, fields.minute with
  | some afternoon, some hour, some minute =>
    match fields.second, fields.nanosecond with
    | none, some _ => .error .notEnough
    | second?, nanosecond? =>
      let hour := (if afternoon then 12 else 0) + hour
      let second := second?.getD 0
      let nanosecond := nanosecond?.getD 0
      if second = 60 then .ok ⟨hour, minute, 59, nanosecondsPerSecond + nanosecond⟩
      else .ok ⟨hour, minute, second, nanosecond⟩
  | _, _, _ => .error .notEnough

/-- Enters what a timestamp says about the date and the time. The second before a timestamp that
ends a minute is the leap second, if one is given. -/
def fillFrom? (fields : Fields) (timestamp : Int) : Option Fields := do
  let moment ← DateTime.ofTimestamp? timestamp
  let (moment, fields) ←
    if fields.second = some 60 then
      match moment.time.second with
      | 59 => some (moment, fields)
      | 0 => do some (← DateTime.ofTimestamp? (timestamp - 1), fields)
      | _ => none
    else do some (moment, ← fields.setSecond? moment.time.second)
  let fields ← fields.setYear? moment.date.year
  let fields ← fields.setOrdinal? moment.date.ordinal
  let fields ← fields.setHour? moment.time.hour
  fields.setMinute? moment.time.minute

/-- The moment that the fields determine: from a date and a time, or from a timestamp where one of
them is not determined. The offset, in seconds, is the one that the timestamp is taken at. -/
def toMoment? (fields : Fields) (offset : Int) : Option DateTime :=
  match fields.toDate, fields.toTime, fields.timestamp with
  | .ok date, .ok time, timestamp? =>
    let moment : DateTime := ⟨date, time⟩
    let actual := moment.timestamp - offset
    let matching := timestamp?.all fun given =>
      given = actual || (nanosecondsPerSecond ≤ time.nanosecond && given == actual + 1)
    if matching then some moment else none
  | .error .contradiction, _, _ => none
  | _, .error .contradiction, _ => none
  | _, _, none => none
  | _, _, some timestamp => do
    let fields ← fields.fillFrom? (timestamp + offset)
    match fields.toDate, fields.toTime with
    | .ok date, .ok time => some ⟨date, time⟩
    | _, _ => none

end Fields

end Intake
