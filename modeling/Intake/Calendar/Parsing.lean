import Intake.Calendar.Fields
import Intake.Calendar.Layout
import Intake.Document.Numeral

/-! # Reading dates and times

A text is read item by item along a layout and must be used up. Blanks in a layout stand for any
run of blanks, none included. A number may have blanks before it and takes as many digits as it
finds up to its width; a year may also have a sign and then any number of digits. Names are
recognised in any case, full ones also by their first three letters.
-/

namespace Intake

-- Powers are those of natural numbers, whatever algebra is in scope.
attribute [local instance (high)] instPowNat

namespace Fields

/-- The greatest number that is read. -/
def greatestNumber : Nat := 2 ^ (63 : Nat) - 1

/-- Splits a number of `least` to `width` digits off the front of the text. -/
def digits? (least width : Nat) (text : List Char) : Option (Nat × List Char) :=
  let digits := (text.take width).takeWhile Char.isDigit
  let value := digitsValue digits
  if digits.length < least || greatestNumber < value then none
  else some (value, text.drop digits.length)

/-- Splits a number of any number of digits off the front of the text. -/
def allDigits? (text : List Char) : Option (Nat × List Char) := digits? 1 text.length text

/-- Splits a year off the front of the text. -/
def signedYear? (text : List Char) : Option (Int × List Char) :=
  match text with
  | '-' :: rest => (allDigits? rest).map fun (value, rest) => (-(value : Int), rest)
  | '+' :: rest => (allDigits? rest).map fun (value, rest) => ((value : Int), rest)
  | _ => (digits? 1 4 text).map fun (value, rest) => ((value : Int), rest)

/-- The width of a number that has no sign. -/
def width : NumericPart → Nat
  | .ordinal => 3
  | .quarter => 1
  | .weekdayFromSunday => 1
  | .weekdayFromMonday => 1
  | .nanosecond => 9
  | _ => 2

/-- Enters a number that was read without a sign. -/
def setNumber? (fields : Fields) (part : NumericPart) (value : Nat) : Option Fields :=
  match part with
  | .year => fields.setYear? value
  | .century => do some { fields with century := ← enter fields.century value }
  | .yearOfCentury => do
    some { fields with yearOfCentury := ← enter fields.yearOfCentury value }
  | .isoYear => do some { fields with isoYear := ← enter fields.isoYear (value : Int) }
  | .isoYearOfCentury => do
    some { fields with isoYearOfCentury := ← enter fields.isoYearOfCentury value }
  | .quarter => fields.setQuarter? value
  | .month => fields.setMonth? value
  | .day => fields.setDay? value
  | .ordinal => fields.setOrdinal? value
  | .weekFromSunday => do
    if 53 < value then none
    some { fields with weekFromSunday := ← enter fields.weekFromSunday value }
  | .weekFromMonday => do
    if 53 < value then none
    some { fields with weekFromMonday := ← enter fields.weekFromMonday value }
  | .isoWeek => do
    if value < 1 ∨ 53 < value then none
    some { fields with isoWeek := ← enter fields.isoWeek value }
  | .weekdayFromSunday => if 6 < value then none else fields.setWeekday? ((value + 6) % 7)
  | .weekdayFromMonday =>
    if value < 1 ∨ 7 < value then none else fields.setWeekday? (value - 1)
  | .hour => fields.setHour? value
  | .hour12 => fields.setHour12? value
  | .minute => fields.setMinute? value
  | .second => fields.setSecond? value
  | .nanosecond => fields.setNanosecond? value
  | .timestamp => do some { fields with timestamp := ← enter fields.timestamp (value : Int) }

/-- Enters a year that was read with a sign. -/
def setIsoYear? (fields : Fields) (value : Int) : Option Fields := do
  if value < -2 ^ (31 : Nat) ∨ 2 ^ (31 : Nat) ≤ value then none
  some { fields with isoYear := ← enter fields.isoYear value }

/-- Reads a number. -/
def readNumber? (fields : Fields) (part : NumericPart) (text : List Char) :
    Option (Fields × List Char) := do
  let text := Text.trimStart text
  match part with
  | .year =>
    let (value, rest) ← signedYear? text
    some (← fields.setYear? value, rest)
  | .isoYear =>
    let (value, rest) ← signedYear? text
    some (← fields.setIsoYear? value, rest)
  | .timestamp =>
    let (value, rest) ← allDigits? text
    some (← fields.setNumber? part value, rest)
  | part =>
    let (value, rest) ← digits? 1 (width part) text
    some (← fields.setNumber? part value, rest)

/-- The text starts with the given letters in any case. -/
def startsWith (letters text : List Char) : Bool :=
  (letters.map Char.toLower).isPrefixOf (text.map Char.toLower)

/-- Splits a name off the front of the text and returns its place in the list: its first three
letters, and if `full` also the rest of it where that follows. -/
def name? (names : List String) (full : Bool) (text : List Char) : Option (Nat × List Char) := do
  let place ← names.findIdx? fun name => startsWith (name.toList.take 3) text
  let ending := ((names[place]?).getD "").toList.drop 3
  let rest := text.drop 3
  some (place, if full && startsWith ending rest then rest.drop ending.length else rest)

/-- Reads the half of the day. -/
def readHalf? (fields : Fields) (text : List Char) : Option (Fields × List Char) :=
  if startsWith ['a', 'm'] text then (fields.setAfternoon? false).map (·, text.drop 2)
  else if startsWith ['p', 'm'] text then (fields.setAfternoon? true).map (·, text.drop 2)
  else none

/-- Reads the digits of a fraction of the second: exactly `count`, or up to nine that count and
further ones that do not. -/
def readFraction? (fields : Fields) (count? : Option Nat) (text : List Char) :
    Option (Fields × List Char) := do
  let (value, rest) ← digits? (count?.getD 1) (count?.getD 9) text
  let taken := text.length - rest.length
  let fields ← fields.setNanosecond? (value * 10 ^ (9 - taken))
  some (fields, if count?.isSome then rest else rest.dropWhile Char.isDigit)

/-- Splits an offset from universal time in seconds off the front of the text. `separator?` drops
what stands between hours and minutes. -/
def offset? (separator? : List Char → Option (List Char)) (letter missingMinutes : Bool)
    (text : List Char) : Option (Int × List Char) := do
  let signed (negative : Bool) (text : List Char) : Option (Int × List Char) := do
    let (hours, rest) ← digits? 2 2 text
    let rest ← separator? rest
    let (minutes, rest) ←
      if missingMinutes && (String.ofList rest).utf8ByteSize < 2 then
        if rest.isEmpty then some (0, rest) else none
      else digits? 2 2 rest
    if 59 < minutes then none
    let seconds : Int := hours * 3600 + minutes * 60
    some (if negative then -seconds else seconds, rest)
  match text with
  | 'Z' :: rest => if letter then some (0, rest) else none
  | 'z' :: rest => if letter then some (0, rest) else none
  | '+' :: rest => signed false rest
  | '-' :: rest => signed true rest
  | '−' :: rest => signed true rest
  | _ => none

/-- Drops colons and blanks. -/
def dropColonsAndBlanks (text : List Char) : List Char :=
  text.dropWhile fun c => c == ':' || Text.isBlank c

/-- Reads an offset from universal time. -/
def readOffset? (fields : Fields) (letter missingMinutes : Bool) (text : List Char) :
    Option (Fields × List Char) := do
  let (seconds, rest) ←
    offset? (fun text => some (dropColonsAndBlanks text)) letter missingMinutes text
  some (← fields.setOffset? seconds, rest)

/-- Reads one item of a layout. -/
def readItem? (fields : Fields) (item : LayoutItem) (text : List Char) :
    Option (Fields × List Char) :=
  match item with
  | .literal c =>
    match text with
    | first :: rest => if first = c then some (fields, rest) else none
    | [] => none
  | .blank _ => some (fields, Text.trimStart text)
  | .number part _ => readNumber? fields part text
  | .monthName full => do
    let (place, rest) ← name? Date.monthNames full text
    some (← fields.setMonth? (place + 1), rest)
  | .weekdayName full => do
    let (place, rest) ← name? Date.weekdayNames full text
    some (← fields.setWeekday? place, rest)
  | .half _ => readHalf? fields text
  | .fraction digits? =>
    match text with
    | '.' :: rest => readFraction? fields digits? rest
    | _ => some (fields, text)
  | .bareFraction digits => readFraction? fields (some digits) text
  | .zoneName => some (fields, text.dropWhile fun c => !Text.isBlank c)
  | .zoneOffset lenient => readOffset? fields lenient lenient (Text.trimStart text)
  | .joint =>
    match text with
    | 't' :: rest => some (fields, rest)
    | 'T' :: rest => some (fields, rest)
    | ' ' :: rest => some (fields, rest)
    | _ => none
  | .zone =>
    if startsWith ['u', 't', 'c'] text then (fields.setOffset? 0).map (·, text.drop 3)
    else readOffset? fields true false text
  | .invalid => none

/-- Reads the items of a layout one after the other. -/
def readItems? (fields : Fields) : Layout → List Char → Option (Fields × List Char)
  | [], text => some (fields, text)
  | item :: items, text => do
    let (fields, rest) ← readItem? fields item text
    readItems? fields items rest

/-- Reads a text that the layout uses up. -/
def read? (layout : Layout) (text : List Char) : Option Fields := do
  let (fields, rest) ← readItems? {} layout text
  if rest.isEmpty then some fields else none

end Fields

/-- Reads a date along a layout. -/
def Date.read? (layout : Layout) (text : List Char) : Option Date := do
  (← Fields.read? layout text).toDate.toOption

/-- Reads a time of day along a layout. -/
def Time.read? (layout : Layout) (text : List Char) : Option Time := do
  (← Fields.read? layout text).toTime.toOption

/-- Reads a date and time along a layout, without regard to an offset. -/
def DateTime.read? (layout : Layout) (text : List Char) : Option DateTime := do
  (← Fields.read? layout text).toMoment? 0

end Intake
