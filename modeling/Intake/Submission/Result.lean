import Intake.Form.Basic
import Intake.Journal.Event

/-! # Results of processing

What processing makes of a submission: the values of all fields and of whatever else was submitted,
the messages of each field that was refused in ascending order of names, and the events on the way.
A submission is valid when no field was refused.
-/

namespace Intake

/-- What processing makes of a submission. -/
structure ProcessResult where
  form : Form
  data : Members
  errors : Dictionary (List String)
  entries : List Entry

namespace ProcessResult

/-- Some field was refused. -/
def hasErrors (result : ProcessResult) : Bool := !result.errors.isEmpty

/-- No field was refused. -/
def isValid (result : ProcessResult) : Bool := result.errors.isEmpty

/-- All messages, field by field. -/
def allErrors (result : ProcessResult) : List String := result.errors.flatMap (·.2)

/-- The messages of one field, none if it was accepted. -/
def fieldErrors (result : ProcessResult) (name : String) : List String :=
  (result.errors.find? name).getD []

/-- The field was refused. -/
def hasFieldErrors (result : ProcessResult) (name : String) : Bool :=
  !(result.fieldErrors name).isEmpty

/-- The form with the processed data in it, valid or not. -/
def filledForm (result : ProcessResult) : Form := result.form.withData result.data

end ProcessResult

end Intake
