import Intake.Text.Splitting

/-! # Host names

A host name is one or more labels with points between them, at most 253 octets in all. A label is
1 to 63 letters, digits and hyphens of ASCII, with a hyphen at neither end.
-/

namespace Intake.Hostname

/-- The longest label. -/
def greatestLabelLength : Nat := 63

/-- The longest host name in octets. -/
def greatestLength : Nat := 253

/-- The character may stand in a label. -/
def isLabelChar (c : Char) : Bool := c.isAlphanum || c == '-'

/-- The text is a label. -/
def isLabel (text : List Char) : Bool :=
  !text.isEmpty && text.length ≤ greatestLabelLength && text.all isLabelChar
    && text.head? != some '-' && text.getLast? != some '-'

/-- The parts of a text between its points. -/
def labels (text : List Char) : List (List Char) := Text.splitAt ['.'] text

/-- The text is labels with points between them. -/
def isDotted (text : List Char) : Bool := (labels text).all isLabel

/-- The text is a host name. -/
def isValid (text : String) : Bool :=
  text.utf8ByteSize ≤ greatestLength && isDotted text.toList

/-- A label as a pattern. -/
def labelSource : String := "[A-Za-z0-9](?:[A-Za-z0-9-]\x7b0,61\x7d[A-Za-z0-9])?"

/-- Labels with points between them as a pattern. -/
def source : String := "^(?:" ++ labelSource ++ ")(?:\\." ++ labelSource ++ ")*$"

end Intake.Hostname
