import Intake.Text.Blank

/-! # Layouts of dates and times

A layout is a list of items: characters that stand for themselves, blanks, and the parts of a date
or a time. Its written form introduces a part by a percent sign and a letter, with an optional mark
before the letter that sets how a number is filled up to its width.
-/

namespace Intake

/-- What fills a number up to its width. -/
inductive Fill where
  | nothing
  | zeros
  | blanks
deriving DecidableEq, Repr

/-- A part of a date or a time that is written as a number. -/
inductive NumericPart where
  | year
  | century
  | yearOfCentury
  | isoYear
  | isoYearOfCentury
  | quarter
  | month
  | day
  | ordinal
  | weekFromSunday
  | weekFromMonday
  | isoWeek
  /-- Counted from Sunday as zero. -/
  | weekdayFromSunday
  /-- Counted from Monday as one. -/
  | weekdayFromMonday
  | hour
  | hour12
  | minute
  | second
  | nanosecond
  | timestamp
deriving DecidableEq, Repr

/-- One item of a layout. -/
inductive LayoutItem where
  | literal (c : Char)
  | blank (text : List Char)
  | number (part : NumericPart) (fill : Fill)
  | monthName (full : Bool)
  | weekdayName (full : Bool)
  /-- The half of the day in two letters. -/
  | half (lower : Bool)
  /-- A point and a fraction of the second: of a fixed number of digits or of as many as needed. -/
  | fraction (digits? : Option Nat)
  /-- A fraction of the second without a point. -/
  | bareFraction (digits : Nat)
  | zoneName
  /-- An offset from universal time; a lenient one may be a letter or lack its minutes. -/
  | zoneOffset (lenient : Bool)
  /-- The letter or the blank between a date and a time. -/
  | joint
  /-- An offset from universal time, or the name of it. -/
  | zone
  /-- Not a part of any date or time. -/
  | invalid
deriving DecidableEq, Repr

/-- The items of a layout in order. -/
abbrev Layout := List LayoutItem

namespace Layout

/-- A number filled up with zeros. -/
def zeros (part : NumericPart) : LayoutItem := .number part .zeros

/-- Year, month and day with hyphens between. -/
def isoDate : Layout :=
  [zeros .year, .literal '-', zeros .month, .literal '-', zeros .day]

/-- Month, day and year of the century with slashes between. -/
def slashDate : Layout :=
  [zeros .month, .literal '/', zeros .day, .literal '/', zeros .yearOfCentury]

/-- Hour and minute with a colon between. -/
def hourMinute : Layout := [zeros .hour, .literal ':', zeros .minute]

/-- Hour, minute and second with colons between. -/
def clock : Layout := hourMinute ++ [.literal ':', zeros .second]

/-- Hour of the half, minute and second with colons between, and the half. -/
def clock12 : Layout :=
  [zeros .hour12, .literal ':', zeros .minute, .literal ':', zeros .second, .blank [' '],
    .half false]

/-- A date and time in words and numbers. -/
def full : Layout :=
  [.weekdayName false, .blank [' '], .monthName false, .blank [' '], .number .day .blanks,
    .blank [' ']] ++ clock ++ [.blank [' '], zeros .year]

/-- A date and time with its offset, blanks allowed before the separators. -/
def stamp : Layout :=
  [zeros .year, .blank [], .literal '-', zeros .month, .blank [], .literal '-', zeros .day, .joint,
    zeros .hour, .blank [], .literal ':', zeros .minute, .blank [], .literal ':', zeros .second,
    .fraction none, .blank [], .zone]

/-- The items that a letter after a percent sign stands for. -/
def ofLetter (letter : Char) : Layout :=
  match letter with
  | 'A' => [.weekdayName true]
  | 'B' => [.monthName true]
  | 'C' => [zeros .century]
  | 'D' => slashDate
  | 'F' => isoDate
  | 'G' => [zeros .isoYear]
  | 'H' => [zeros .hour]
  | 'I' => [zeros .hour12]
  | 'M' => [zeros .minute]
  | 'P' => [.half true]
  | 'R' => hourMinute
  | 'S' => [zeros .second]
  | 'T' => clock
  | 'U' => [zeros .weekFromSunday]
  | 'V' => [zeros .isoWeek]
  | 'W' => [zeros .weekFromMonday]
  | 'X' => clock
  | 'Y' => [zeros .year]
  | 'Z' => [.zoneName]
  | 'a' => [.weekdayName false]
  | 'b' => [.monthName false]
  | 'c' => full
  | 'd' => [zeros .day]
  | 'e' => [.number .day .blanks]
  | 'f' => [zeros .nanosecond]
  | 'g' => [zeros .isoYearOfCentury]
  | 'h' => [.monthName false]
  | 'j' => [zeros .ordinal]
  | 'k' => [.number .hour .blanks]
  | 'l' => [.number .hour12 .blanks]
  | 'm' => [zeros .month]
  | 'n' => [.blank ['\n']]
  | 'p' => [.half false]
  | 'q' => [.number .quarter .nothing]
  | 'r' => clock12
  | 's' => [.number .timestamp .nothing]
  | 't' => [.blank ['\t']]
  | 'u' => [.number .weekdayFromMonday .nothing]
  | 'v' =>
    [.number .day .blanks, .literal '-', .monthName false, .literal '-', zeros .year]
  | 'w' => [.number .weekdayFromSunday .nothing]
  | 'x' => slashDate
  | 'y' => [zeros .yearOfCentury]
  | 'z' => [.zoneOffset false]
  | '+' => stamp
  | '%' => [.literal '%']
  | _ => [.invalid]

/-- Fills a single number in another way; nothing else can be filled. -/
def refill (fill : Fill) : Layout → Layout
  | [.number part _] => [.number part fill]
  | _ => [.invalid]

/-- Splits a directive, after its percent sign, off the front of the written form. -/
def directive : List Char → Layout × List Char
  | [] => ([.invalid], [])
  | '-' :: letter :: rest => (refill .nothing (ofLetter letter), rest)
  | '0' :: letter :: rest => (refill .zeros (ofLetter letter), rest)
  | '_' :: letter :: rest => (refill .blanks (ofLetter letter), rest)
  | '#' :: 'z' :: rest => ([.zoneOffset true], rest)
  | ':' :: ':' :: ':' :: 'z' :: rest => ([.zoneOffset false], rest)
  | ':' :: ':' :: 'z' :: rest => ([.zoneOffset false], rest)
  | ':' :: 'z' :: rest => ([.zoneOffset false], rest)
  | '.' :: 'f' :: rest => ([.fraction none], rest)
  | '.' :: '3' :: 'f' :: rest => ([.fraction (some 3)], rest)
  | '.' :: '6' :: 'f' :: rest => ([.fraction (some 6)], rest)
  | '.' :: '9' :: 'f' :: rest => ([.fraction (some 9)], rest)
  | '3' :: 'f' :: rest => ([.bareFraction 3], rest)
  | '6' :: 'f' :: rest => ([.bareFraction 6], rest)
  | '9' :: 'f' :: rest => ([.bareFraction 9], rest)
  | letter :: rest => (ofLetter letter, rest)

/-- The items of a written form; the fuel bounds their number. -/
def readWithin : Nat → List Char → Layout
  | 0, _ => []
  | fuel + 1, text =>
    match text with
    | [] => []
    | '%' :: rest =>
      let (items, rest) := directive rest
      items ++ readWithin fuel rest
    | c :: rest =>
      (if Text.isBlank c then .blank [c] else .literal c) :: readWithin fuel rest

/-- The layout of a written form. -/
def ofText (text : String) : Layout :=
  readWithin (text.length + 1) text.toList

end Layout

end Intake
