import Intake.Calendar.Parsing

/-! # Letter formats

A letter format names the parts of a date and a time by single letters. A backslash makes the next
character stand for itself, as every character does that is no letter of the format.
-/

namespace Intake

/-- What a letter names a part of. -/
inductive LetterScope where
  | date
  | time
  | timestamp
deriving DecidableEq, Repr

/-- A layout and what its letters name. -/
structure LetterFormat where
  layout : Layout
  scopes : List LetterScope
deriving DecidableEq, Repr

/-- Why a text is no letter format. -/
inductive LetterFormatFault where
  /-- Nothing follows the last backslash. -/
  | bareEscape
  /-- No letter names anything. -/
  | noFields
deriving DecidableEq, Repr

namespace LetterFormat

/-- The part that a letter names. -/
def letter? (c : Char) : Option (LetterScope × LayoutItem) :=
  match c with
  | 'Y' => some (.date, Layout.zeros .year)
  | 'y' => some (.date, Layout.zeros .yearOfCentury)
  | 'm' => some (.date, Layout.zeros .month)
  | 'n' => some (.date, Layout.zeros .month)
  | 'd' => some (.date, Layout.zeros .day)
  | 'j' => some (.date, Layout.zeros .day)
  | 'D' => some (.date, .weekdayName false)
  | 'l' => some (.date, .weekdayName true)
  | 'M' => some (.date, .monthName false)
  | 'F' => some (.date, .monthName true)
  | 'H' => some (.time, Layout.zeros .hour)
  | 'G' => some (.time, Layout.zeros .hour)
  | 'h' => some (.time, Layout.zeros .hour12)
  | 'g' => some (.time, Layout.zeros .hour12)
  | 'i' => some (.time, Layout.zeros .minute)
  | 's' => some (.time, Layout.zeros .second)
  | 'A' => some (.time, .half false)
  | 'a' => some (.time, .half false)
  | 'U' => some (.timestamp, .number .timestamp .nothing)
  | _ => none

/-- A character that stands for itself. -/
def plain (c : Char) : LayoutItem := if Text.isBlank c then .blank [c] else .literal c

/-- The items of a text, each with what it names a part of. -/
def items : List Char → Except LetterFormatFault (List (Option LetterScope × LayoutItem))
  | [] => .ok []
  | ['\\'] => .error .bareEscape
  | '\\' :: c :: rest => (items rest).map ((none, plain c) :: ·)
  | c :: rest =>
    let item := match letter? c with
      | some (scope, item) => (some scope, item)
      | none => (none, plain c)
    (items rest).map (item :: ·)

/-- The format of a text. -/
def ofText (text : String) : Except LetterFormatFault LetterFormat := do
  let items ← items text.toList
  let scopes := items.filterMap (·.1)
  if scopes.isEmpty then throw .noFields
  return ⟨items.map (·.2), scopes⟩

/-- A text is a date, a time of day or a moment in the format, whichever the letters name. -/
def matchesText (format : LetterFormat) (text : String) : Bool :=
  let hasDate := format.scopes.contains .date
  let hasTime := format.scopes.contains .time
  if format.scopes.contains .timestamp || (hasDate && hasTime) then
    (DateTime.read? format.layout text.toList).isSome
  else if hasDate then (Date.read? format.layout text.toList).isSome
  else (Time.read? format.layout text.toList).isSome

end LetterFormat

end Intake
