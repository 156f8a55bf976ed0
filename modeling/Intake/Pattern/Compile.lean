import Intake.Pattern.Reader
import Intake.Pattern.Matching
import Intake.Pattern.Size

/-! # Patterns from text

A text is accepted as a pattern when it is well formed and its automaton stays within the limit.
-/

namespace Intake

/-- Why a text is not accepted as a pattern. -/
inductive PatternError where
  | malformed
  | tooLarge
deriving DecidableEq, Repr

/-- The explanation of the error. -/
def PatternError.message : PatternError → String
  | .malformed => "regex parse error"
  | .tooLarge => s!"Compiled regex exceeds size limit of {Pattern.sizeLimit} bytes."

namespace Pattern

/-- The pattern that a text denotes. -/
def ofText (text : String) : Except PatternError Pattern :=
  match read? text.toList with
  | none => .error .malformed
  | some pattern => if pattern.isWithinLimit then .ok pattern else .error .tooLarge

/-- The text is accepted as a pattern. -/
def isAccepted (text : String) : Bool := (ofText text).isOk

end Pattern

end Intake
