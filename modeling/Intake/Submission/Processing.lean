import Intake.Rule.Compile
import Intake.Submission.Result
import Intake.Engine.Failure

/-! # Processing submissions

Every field of a form goes through the rule engine on its own, in ascending order of names. A field
that is refused keeps the value that was submitted, and the others are not affected. What was
submitted beside the fields is kept as it is.
-/

namespace Intake

/-- What processes submissions: a rule engine, and the pattern of telephone numbers. -/
structure Processor where
  phonePattern : String
  engine : RuleEngine

/-- What the engine made of one field. -/
structure FieldOutcome where
  name : String
  raw : Document
  result : Except Failure Document

namespace FieldOutcome

/-- The value of the field afterwards. -/
def value (outcome : FieldOutcome) : Document :=
  match outcome.result with
  | .ok value => value
  | .error _ => outcome.raw

/-- The message of a failure that brings none of its own. -/
def fallback : String := "is invalid"

/-- The messages of a failure, of which there is always one. -/
def messagesOf (failure : Failure) : List String :=
  if failure.messages.isEmpty then [fallback] else failure.messages

/-- The messages of the field, if it was refused. -/
def error? (outcome : FieldOutcome) : Option (String × List String) :=
  match outcome.result with
  | .ok _ => none
  | .error failure => some (outcome.name, messagesOf failure)

/-- The event of a failure. -/
def eventOf : Failure → Event
  | .invalid _ => .fieldRejected
  | .unexpected _ => .fieldFailed

/-- What there is to note of the field. -/
def entry? (outcome : FieldOutcome) : Option Entry :=
  match outcome.result with
  | .ok _ => none
  | .error failure =>
    some ⟨eventOf failure, [("field", outcome.name), ("reason", failure.text)]⟩

end FieldOutcome

namespace Processor

/-- The processor of a configuration, which must make sense. -/
def ofConfig (config : Config) (engine : RuleEngine) : Except ConfigError Processor := do
  config.validate
  return ⟨config.phonePattern, engine⟩

/-- Puts one field through the engine. -/
def processField (processor : Processor) (submission : Members) (name : String)
    (rules : RuleSet) : FieldOutcome :=
  let raw := (submission.find? name).getD .null
  ⟨name, raw, processor.engine raw rules⟩

/-- Processes a submission of a form. -/
def process (processor : Processor) (form : Form) (submission : Members) : ProcessResult :=
  let rules := form.rules processor.phonePattern
  let outcomes := rules.map fun (name, rules) => processor.processField submission name rules
  let errors := outcomes.filterMap FieldOutcome.error?
  let fieldCount := ("fields", rules.length.repr)
  { form
    data := outcomes.map (fun outcome => (outcome.name, outcome.value))
      ++ submission.without rules.keys
    errors
    entries :=
      (form.schema.unknownRequiredNames.map fun name =>
          ⟨.requiredNameUnknown, [("field", name)]⟩)
        ++ ⟨.formCompiled, [fieldCount]⟩
        :: outcomes.filterMap FieldOutcome.entry?
        ++ [⟨.processComplete, [fieldCount, ("rejected", errors.length.repr)]⟩] }

end Processor

end Intake
