import Intake.Document.Basic
import Intake.Text.Blank
import Intake.Text.Lowercase
import Intake.Text.Tags

/-! # Filters

A filter changes the text of a string and leaves every other value alone.
-/

namespace Intake.Filter

/-- All filters by name. -/
def all : List (String × (String → String)) :=
  [("trim", Text.trim), ("lowercase", Text.lower), ("strip_tags", Text.stripTags)]

/-- The filter of a name. -/
def find? (name : String) : Option (String → String) :=
  (all.find? fun entry => entry.1 == name).map (·.2)

/-- Applies a filter to a value. -/
def apply (filter : String → String) : Document → Document
  | .string text => .string (filter text)
  | value => value

end Intake.Filter
