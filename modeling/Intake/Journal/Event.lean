import Intake.Journal.Severity

/-! # Events

What is worth a note while the rules of a form are compiled and a submission is processed. Each
event has a name and a severity of its own.
-/

namespace Intake

/-- A kind of event. -/
inductive Event where
  /-- The rules of every field have been compiled. -/
  | formCompiled
  /-- A name listed as required belongs to no property. -/
  | requiredNameUnknown
  /-- The value of a field is not valid. -/
  | fieldRejected
  /-- The rules of a field could not be carried out. -/
  | fieldFailed
  /-- All fields of a submission have been processed. -/
  | processComplete
deriving DecidableEq, Repr

namespace Event

/-- The name of an event in a journal. -/
def name : Event → String
  | .formCompiled => "FORM_COMPILED"
  | .requiredNameUnknown => "FORM_REQUIRED_NAME_UNKNOWN"
  | .fieldRejected => "FIELD_REJECTED"
  | .fieldFailed => "FIELD_FAILED"
  | .processComplete => "PROCESS_COMPLETE"

/-- The severity of an event. -/
def severity : Event → Severity
  | .formCompiled | .processComplete => .trace
  | .requiredNameUnknown | .fieldRejected => .warn
  | .fieldFailed => .error

end Event

/-- An event with what there is to say about it. -/
structure Entry where
  event : Event
  fields : List (String × String)
deriving DecidableEq, Repr

end Intake
