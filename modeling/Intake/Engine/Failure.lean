import Intake.Calendar.LetterFormat
import Intake.Pattern.Compile
import Intake.Rule.RuleSet

/-! # Failures of rules

A value may break rules, each with a complaint to whoever entered it; or a rule may not be one that
can be carried out. The first kind of failure gathers all complaints, the second ends the work.
-/

namespace Intake

/-- How a value must relate to a bound. -/
inductive Relation where
  | atLeast
  | atMost
  | above
  | below
deriving DecidableEq, Repr

namespace Relation

/-- The relation in words. -/
def text : Relation → String
  | .atLeast => "greater than or equal to"
  | .atMost => "less than or equal to"
  | .above => "greater than"
  | .below => "less than"

/-- The name of the rule that asks for the relation. -/
def ruleName : Relation → String
  | .atLeast => "gte"
  | .atMost => "lte"
  | .above => "gt"
  | .below => "lt"

/-- The relation holds between a value and a bound. -/
def holds (value bound : Binary64) : Relation → Bool
  | .atLeast => bound ≤ value
  | .atMost => value ≤ bound
  | .above => bound < value
  | .below => value < bound

end Relation

/-- What is wrong with a value. -/
inductive Complaint where
  | missing
  | tooShort (least : Nat)
  | tooLong (most : Nat)
  | tooFewItems (least : Nat)
  | tooManyItems (most : Nat)
  | outOfBounds (relation : Relation) (bound : String)
  | notAMultiple (step : String)
  | notAmong (choices : List String)
  | notInFormat (format : String)
  | notMatching
  | notAString
  | notAnInteger
  | notANumber
  | notATruthValue
  | notAnArray
  | notAnEmail
  | notAUrl
  | notAHostname
  | notAnAddress
  | notAUuid
  | notBase64
  | notADocument
  | duplicateItems
  | notAFile
  | notAnImage
deriving DecidableEq, Repr

/-- A complaint in words. -/
def Complaint.message : Complaint → String
  | .missing => "is required"
  | .tooShort least => s!"must be at least {least} characters"
  | .tooLong most => s!"may not be greater than {most} characters"
  | .tooFewItems least => s!"must have at least {least} items"
  | .tooManyItems most => s!"may not have more than {most} items"
  | .outOfBounds relation bound => s!"must be {relation.text} {bound}"
  | .notAMultiple step => s!"must be a multiple of {step}"
  | .notAmong choices => "must be one of: " ++ String.intercalate ", " choices
  | .notInFormat format => s!"does not match the format {format}"
  | .notMatching => "format is invalid"
  | .notAString => "must be a string"
  | .notAnInteger => "must be an integer"
  | .notANumber => "must be a number"
  | .notATruthValue => "must be true or false"
  | .notAnArray => "must be an array"
  | .notAnEmail => "must be a valid email address"
  | .notAUrl => "must be a valid URL"
  | .notAHostname => "must be a valid hostname"
  | .notAnAddress => "must be a valid IP address"
  | .notAUuid => "must be a valid UUID"
  | .notBase64 => "must be valid base64"
  | .notADocument => "must be a valid JSON string"
  | .duplicateItems => "must not contain duplicate items"
  | .notAFile => "must be an uploaded file"
  | .notAnImage => "must be an image"

/-- Why a rule cannot be carried out. -/
inductive RuleFault where
  | unknownRule (phase : Phase) (name : String)
  | missingArgument (rule : String)
  | notACount (rule argument : String)
  | notANumber (rule argument : String)
  | stepNotPositive
  | badPattern (pattern : String) (error : PatternError)
  | badDateFormat (format : String) (fault : LetterFormatFault)
deriving DecidableEq, Repr

/-- The explanation of a fault. -/
def RuleFault.message : RuleFault → String
  | .unknownRule phase name => s!"unknown {phase.text} rule '{name}'"
  | .missingArgument rule => s!"rule '{rule}' needs an argument"
  | .notACount rule argument => s!"rule '{rule}' expects a count, got '{argument}'"
  | .notANumber rule argument => s!"rule '{rule}' expects a number, got '{argument}'"
  | .stepNotPositive => "rule 'multiple_of' needs a positive step"
  | .badPattern pattern error => s!"invalid pattern '{pattern}': {error.message}"
  | .badDateFormat format .bareEscape => s!"date format '{format}' ends with a bare escape"
  | .badDateFormat format .noFields => s!"date format '{format}' has no date or time fields"

/-- Why an engine did not accept a value. -/
inductive Failure where
  /-- The value is not valid. -/
  | invalid (messages : List String)
  /-- The rules could not be carried out. -/
  | unexpected (reason : String)
deriving DecidableEq, Repr

namespace Failure

/-- The failure of one complaint. -/
def ofComplaint (complaint : Complaint) : Failure := .invalid [complaint.message]

/-- The failure of a rule that cannot be carried out. -/
def ofFault (fault : RuleFault) : Failure := .unexpected fault.message

/-- A failure in one line. -/
def text : Failure → String
  | .invalid messages => String.intercalate "; " messages
  | .unexpected reason => s!"Rule execution failed: {reason}"

/-- The messages to show for a failure. -/
def messages : Failure → List String
  | .invalid messages => messages
  | .unexpected reason => [text (.unexpected reason)]

end Failure

/-- What carries out the rules of a field on a value. -/
abbrev RuleEngine := Document → RuleSet → Except Failure Document

end Intake
