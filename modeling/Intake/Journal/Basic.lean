import Intake.Document.Writer
import Intake.Journal.Event
import Intake.Text.Blank

/-! # The journal

A journal keeps one line for every note at or above its least severity. A line is an object: the
event, the severity and the fields in ascending order of their keys, fields of one key in the
order given. Every control character is escaped, so that a line is one line whatever it quotes.
-/

namespace Intake

/-- One character of a string in a journal line. -/
def Journal.escapeChar (c : Char) : List Char :=
  if c = '"' then ['\\', '"']
  else if c = '\\' then ['\\', '\\']
  else if c = '\n' then ['\\', 'n']
  else if c = '\r' then ['\\', 'r']
  else if c = '\t' then ['\\', 't']
  else if c.toNat < 0x20 || (0x7f ≤ c.toNat && c.toNat < 0xa0) then '\\' :: 'u' :: hexChars 4 c.toNat
  else [c]

/-- A string between quotes as a journal line holds it. -/
def Journal.quoted (value : String) : List Char :=
  '"' :: value.toList.flatMap escapeChar ++ ['"']

/-- The members of a journal line in their order. -/
def Journal.members (severity : Severity) (event : String) (fields : List (String × String)) :
    List (String × String) :=
  ("event", event) :: ("severity", severity.text)
    :: fields.mergeSort fun left right => decide (left.1 ≤ right.1)

/-- The members of an object, separated by commas. -/
def Journal.memberChars : List (String × String) → List Char
  | [] => []
  | [(key, value)] => quoted key ++ ':' :: quoted value
  | (key, value) :: members => quoted key ++ ':' :: quoted value ++ ',' :: memberChars members

/-- A journal line with the line break at its end. -/
def Journal.lineChars (severity : Severity) (event : String) (fields : List (String × String)) :
    List Char :=
  '\x7b' :: memberChars (members severity event fields) ++ ['\x7d', '\n']

/-- The lines noted so far, and the least severity worth a line. -/
structure Journal where
  minimum : Severity
  lines : List String
deriving DecidableEq, Repr

namespace Journal

/-- A journal without lines. -/
def empty (minimum : Severity) : Journal := ⟨minimum, []⟩

/-- Notes of the severity are kept. -/
def isEnabled (journal : Journal) (severity : Severity) : Bool := journal.minimum ≤ severity

/-- Notes an event by its name, without the line break. -/
def note (journal : Journal) (severity : Severity) (event : String)
    (fields : List (String × String)) : Journal :=
  if journal.isEnabled severity then
    let line := String.ofList (Text.trimEnd (lineChars severity event fields))
    { journal with lines := journal.lines ++ [line] }
  else journal

/-- Notes an event at its own severity. -/
def record (journal : Journal) (entry : Entry) : Journal :=
  journal.note entry.event.severity entry.event.name entry.fields

/-- Notes events one after the other. -/
def recordAll (journal : Journal) (entries : List Entry) : Journal :=
  entries.foldl record journal

end Journal

end Intake
