import Intake.Calendar.Parsing
import Intake.Calendar.Rendering

/-! # Moments with their offset from universal time

A moment is written as a date of ten characters, the letter T, a time of day, at need a fraction of
the second, and the offset in hours and minutes. In reading, the letter may be small or a blank,
and a Z stands for no offset.
-/

namespace Intake

/-- A moment with the offset, in seconds, of the clock that shows it. -/
structure ZonedDateTime where
  moment : DateTime
  offset : Int
deriving DecidableEq, Repr

namespace ZonedDateTime

/-- The greatest offset in seconds. -/
def greatestOffset : Int := (23 * 60 + 59) * 60

/-- Splits a character off the front of the text. -/
def given? (c : Char) : List Char → Option (List Char)
  | first :: rest => if first = c then some rest else none
  | [] => none

/-- Splits a fraction of the second off the front of the text. -/
def fraction? (fields : Fields) : List Char → Option (Fields × List Char)
  | '.' :: rest => fields.readFraction? none rest
  | rest => some (fields, rest)

/-- Splits the character between date and time off the front of the text. -/
def joint? : List Char → Option (List Char)
  | 'T' :: rest => some rest
  | 't' :: rest => some rest
  | ' ' :: rest => some rest
  | _ => none

/-- Reads the fields of a moment with its offset. -/
def fields? (text : List Char) : Option Fields := do
  let (year, text) ← Fields.digits? 4 4 text
  let (month, text) ← (given? '-' text).bind (Fields.digits? 2 2)
  let (day, text) ← (given? '-' text).bind (Fields.digits? 2 2)
  let (hour, text) ← (joint? text).bind (Fields.digits? 2 2)
  let (minute, text) ← (given? ':' text).bind (Fields.digits? 2 2)
  let (second, text) ← (given? ':' text).bind (Fields.digits? 2 2)
  let fields ← Fields.setYear? {} year
  let fields ← fields.setMonth? month
  let fields ← fields.setDay? day
  let fields ← fields.setHour? hour
  let fields ← fields.setMinute? minute
  let fields ← fields.setSecond? second
  let (fields, text) ← fraction? fields text
  let (offset, text) ← Fields.offset? (given? ':') true false text
  if greatestOffset < offset ∨ offset < -greatestOffset ∨ !text.isEmpty then none
  fields.setOffset? offset

/-- Reads a moment with its offset. -/
def read? (text : List Char) : Option ZonedDateTime := do
  let fields ← fields? text
  let offset ← fields.offset
  some ⟨← fields.toMoment? offset, offset⟩

/-- An offset as a sign, hours and minutes. -/
def offsetChars (offset : Int) : List Char :=
  let minutes := offset.natAbs / 60
  (if offset < 0 then '-' else '+') ::
    Layout.pairChars .zeros (minutes / 60) ++ ':' :: Layout.pairChars .zeros (minutes % 60)

/-- The text of a moment with its offset. -/
def chars (zoned : ZonedDateTime) : List Char :=
  let date := zoned.moment.date
  let time := zoned.moment.time
  Layout.yearChars .zeros date.year ++ '-' :: Layout.pairChars .zeros date.month ++
    '-' :: Layout.pairChars .zeros date.day ++ 'T' :: Layout.pairChars .zeros time.hour ++
    ':' :: Layout.pairChars .zeros time.minute ++
    ':' :: Layout.pairChars .zeros time.shownSecond ++
    Layout.neededFraction time ++ offsetChars zoned.offset

end ZonedDateTime

end Intake
