import Intake.Calendar.Layout
import Intake.Calendar.Time
import Intake.Document.Number

/-! # Writing dates and times

Each item of a layout is written from a date, a time of day or both. A layout that asks for what
is not there, an offset from universal time among others, cannot be written.
-/

namespace Intake

-- Powers are those of natural numbers, whatever algebra is in scope.
attribute [local instance (high)] instPowNat

namespace Layout

/-- Digits filled up to a width. -/
def filled (fill : Fill) (width : Nat) (digits : List Char) : List Char :=
  let missing := width - digits.length
  match fill with
  | .nothing => digits
  | .zeros => List.replicate missing '0' ++ digits
  | .blanks => List.replicate missing ' ' ++ digits

/-- A number filled up to a width. A minus sign comes before zeros and counts for the width; a plus
sign is written if asked for. -/
def numberChars (fill : Fill) (width : Nat) (plus : Bool) (value : Int) : List Char :=
  let digits := Nat.toDigits 10 value.natAbs
  let sign := if value < 0 then ['-'] else if plus then ['+'] else []
  match fill with
  | .zeros => sign ++ filled .zeros (width - sign.length) digits
  | _ => filled fill width (sign ++ digits)

/-- A year: four digits, and a sign if it has more or is negative. -/
def yearChars (fill : Fill) (year : Int) : List Char :=
  let plain := 0 ≤ year && year < 10000
  numberChars fill (if plain then 4 else 5) (!plain) year

/-- A number of two digits. -/
def pairChars (fill : Fill) (value : Nat) : List Char :=
  let ones := Char.ofNat ('0'.toNat + value % 10)
  if value < 10 then
    match fill with
    | .nothing => [ones]
    | .blanks => [' ', ones]
    | .zeros => ['0', ones]
  else [Char.ofNat ('0'.toNat + value / 10), ones]

/-- An octet made of a year's century. -/
def centuryOctet (year : Int) : Nat := (year / 100 % 256).toNat

/-- A number that is a part of a date. -/
def dateNumber? (date : Date) (part : NumericPart) (fill : Fill) : Option (List Char) :=
  match part with
  | .year => some (yearChars fill date.year)
  | .century => some (pairChars fill (centuryOctet date.year))
  | .yearOfCentury => some (pairChars fill (date.year % 100).toNat)
  | .isoYear => some (yearChars fill date.isoWeek.1)
  | .isoYearOfCentury => some (pairChars fill (date.isoWeek.1 % 100).toNat)
  | .quarter => some (Nat.toDigits 10 date.quarter)
  | .month => some (pairChars fill date.month)
  | .day => some (pairChars fill date.day)
  | .ordinal => some (numberChars fill 3 false date.ordinal)
  | .weekFromSunday => some (pairChars fill (date.weeksFrom 6))
  | .weekFromMonday => some (pairChars fill (date.weeksFrom 0))
  | .isoWeek => some (pairChars fill date.isoWeek.2)
  | .weekdayFromSunday => some (Nat.toDigits 10 ((date.weekday + 1) % 7))
  | .weekdayFromMonday => some (Nat.toDigits 10 (date.weekday + 1))
  | _ => none

/-- A number that is a part of a time of day. -/
def timeNumber? (time : Time) (part : NumericPart) (fill : Fill) : Option (List Char) :=
  match part with
  | .hour => some (pairChars fill time.hour)
  | .hour12 => some (pairChars fill time.hour12)
  | .minute => some (pairChars fill time.minute)
  | .second => some (pairChars fill time.shownSecond)
  | .nanosecond => some (numberChars fill 9 false time.fraction)
  | _ => none

/-- A number. -/
def number? (date? : Option Date) (time? : Option Time) (part : NumericPart) (fill : Fill) :
    Option (List Char) :=
  match part, date?, time? with
  | .timestamp, some date, some time =>
    some (numberChars fill 9 false (DateTime.timestamp ⟨date, time⟩))
  | _, _, _ =>
    (date?.bind fun date => dateNumber? date part fill) <|>
      (time?.bind fun time => timeNumber? time part fill)

/-- A fraction of the second in a number of digits. -/
def fractionChars (time : Time) (digits : Nat) : List Char :=
  filled .zeros digits (Nat.toDigits 10 (time.fraction / 10 ^ (9 - digits)))

/-- A point and a fraction of the second in three, six or nine digits, or nothing if it is zero. -/
def neededFraction (time : Time) : List Char :=
  if time.fraction = 0 then []
  else if time.fraction % 1000000 = 0 then '.' :: fractionChars time 3
  else if time.fraction % 1000 = 0 then '.' :: fractionChars time 6
  else '.' :: fractionChars time 9

/-- The name at a place of a list, in full or its first three letters. -/
def nameChars (names : List String) (place : Nat) (full : Bool) : List Char :=
  let name := ((names[place]?).getD "").toList
  if full then name else name.take 3

/-- The half of the day in two letters. -/
def halfChars (lower afternoon : Bool) : List Char :=
  match lower, afternoon with
  | true, true => ['p', 'm']
  | true, false => ['a', 'm']
  | false, true => ['P', 'M']
  | false, false => ['A', 'M']

/-- One item. -/
def item? (date? : Option Date) (time? : Option Time) : LayoutItem → Option (List Char)
  | .literal c => some [c]
  | .blank text => some text
  | .number part fill => number? date? time? part fill
  | .monthName full => date?.map fun date => nameChars Date.monthNames (date.month - 1) full
  | .weekdayName full => date?.map fun date => nameChars Date.weekdayNames date.weekday full
  | .half lower => time?.map fun time => halfChars lower time.isAfternoon
  | .fraction none => time?.map neededFraction
  | .fraction (some digits) => time?.map fun time => '.' :: fractionChars time digits
  | .bareFraction digits => time?.map fun time => fractionChars time digits
  | .zoneName => none
  | .zoneOffset _ => none
  | .joint => none
  | .zone => none
  | .invalid => none

/-- The whole layout. -/
def render? (layout : Layout) (date? : Option Date) (time? : Option Time) : Option (List Char) :=
  (layout.mapM (item? date? time?)).map List.flatten

end Layout

end Intake
