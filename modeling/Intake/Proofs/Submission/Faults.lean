import Intake.Proofs.Engine.Faults
import Intake.Proofs.Submission.Accounting

/-! # Rules that fail on a submission

The rules of a form are compiled from a schema that was checked when it was loaded, and the pattern
of telephone numbers was checked with the configuration. What is not checked is that a step is
positive: a form that asks for multiples of zero is loaded, and fails on every number submitted.
-/

namespace Intake

open Members (find?)

/-- A configuration that makes sense has a pattern of telephone numbers. -/
theorem Config.phonePattern_accepted {config : Config} (valid : config.validate = .ok ()) :
    Pattern.isAccepted config.phonePattern := by
  rw [validate] at valid
  split_ifs at valid
  split at valid
  · cases valid
  · next pattern compiles => exact Loader.pattern_accepted_iff.mpr ⟨pattern, compiles⟩

namespace Processor

variable {document : Document} {loading config : Config} {form : Form} {processor : Processor}
  {submission : Members}

/-- A failure of rules is noted exactly if the rules of some field failed. -/
theorem fieldFailed_mem_entries (root : form.schema.root.Sound) :
    (∃ entry ∈ (processor.process form submission).entries, entry.event = .fieldFailed) ↔
      ∃ field ∈ form.fields, ∃ reason,
        (processor.outcomeOf form submission field).result = .error (.unexpected reason) := by
  have noted (outcome : FieldOutcome) : (∃ entry ∈ outcome.entry?, entry.event = .fieldFailed) ↔
      ∃ reason, outcome.result = .error (.unexpected reason) := by
    rw [FieldOutcome.entry?]
    rcases outcome.result with (messages | reason) | value <;> simp [FieldOutcome.eventOf]
  have entries : (processor.process form submission).entries =
      (form.schema.unknownRequiredNames.map fun name => ⟨.requiredNameUnknown, [("field", name)]⟩)
        ++ ⟨.formCompiled, [("fields", (form.rules processor.phonePattern).length.repr)]⟩
        :: (processor.outcomes form submission).filterMap FieldOutcome.entry?
        ++ [⟨.processComplete, [("fields", (form.rules processor.phonePattern).length.repr),
          ("rejected", (processor.process form submission).errors.length.repr)]⟩] := rfl
  rw [entries]
  constructor
  · rintro ⟨entry, member, failed⟩
    simp only [List.mem_append, List.mem_map, List.mem_cons, List.not_mem_nil, or_false,
      List.mem_filterMap] at member
    rcases member with (⟨name, -, rfl⟩ | rfl | ⟨outcome, member, written⟩) | rfl
    · cases failed
    · cases failed
    · obtain ⟨field, known, rfl⟩ := (mem_outcomes_iff root).mp member
      exact ⟨field, known, (noted _).mp ⟨entry, written, failed⟩⟩
    · cases failed
  · rintro ⟨field, member, fails⟩
    obtain ⟨entry, written, failed⟩ := (noted _).mpr fails
    have listed := List.mem_filterMap.mpr ⟨_, mem_outcomes root member, written⟩
    exact ⟨entry, List.mem_append_left _ (List.mem_append_right _ (List.mem_cons_of_mem _ listed)),
      failed⟩

/-- Processing a submission notes a failure of rules exactly if some field is to hold multiples of a
number that is not positive and the submission has a number for it. -/
theorem fieldFailed_mem_entries_iff (sound : document.wellFormed)
    (loads : Form.ofDocument document loading = .ok form)
    (configured : Processor.ofConfig config StandardEngine.process = .ok processor) :
    (∃ entry ∈ (processor.process form submission).entries, entry.event = .fieldFailed) ↔
      ∃ field ∈ form.fields, field.property.kind.HasDeadStep ∧
        ∃ number, StandardEngine.castKind field.property.kind.name
          ((find? submission field.name).getD .null) = .ok (.number number) := by
  obtain ⟨valid, rfl⟩ := eq_of_ofConfig configured
  have root := Form.root_sound sound loads
  rw [fieldFailed_mem_entries root]
  refine exists_congr fun field => and_congr_right fun member => ?_
  have engine (reason : String) := @StandardEngine.process_eq_unexpected_iff form
    config.phonePattern field ((find? submission field.name).getD .null)
    (Form.property_sound root member).root.kind (Config.phonePattern_accepted valid) reason
  constructor
  · rintro ⟨reason, failed⟩
    exact ((engine reason).mp failed).2
  · exact fun dead => ⟨_, (engine _).mpr ⟨rfl, dead⟩⟩

/-- The rules of a field fail on a submission exactly if the field is to hold multiples of a number
that is not positive and the submission has a number for it; any other field is accepted or
refused for what was submitted. -/
theorem outcome_unexpected_iff (sound : document.wellFormed)
    (loads : Form.ofDocument document loading = .ok form)
    (configured : Processor.ofConfig config StandardEngine.process = .ok processor)
    {field : Field} (member : field ∈ form.fields) {reason : String} :
    (processor.outcomeOf form submission field).result = .error (.unexpected reason) ↔
      reason = RuleFault.stepNotPositive.message ∧ field.property.kind.HasDeadStep ∧
        ∃ number, StandardEngine.castKind field.property.kind.name
          ((find? submission field.name).getD .null) = .ok (.number number) := by
  obtain ⟨valid, rfl⟩ := eq_of_ofConfig configured
  have property := Form.property_sound (Form.root_sound sound loads) member
  exact StandardEngine.process_eq_unexpected_iff property.root.kind
    (Config.phonePattern_accepted valid)

/-- A form that asks for multiples of a step. -/
def stepForm (step : Int) : Document := .object [
  ("schema", .object [("type", .string "object"),
    ("properties", .object [("n", .object [("type", .string "integer"),
      ("multipleOf", .number (.integer step))])])])]

/-- No number is accepted or refused as a multiple of zero. -/
theorem outcome_unexpected_zero :
    (stepForm 0).wellFormed ∧ ∃ form processor, Form.ofDocument (stepForm 0) digitsConfig = .ok form ∧
      Processor.ofConfig digitsConfig StandardEngine.process = .ok processor ∧
      ∃ field ∈ form.fields,
        (processor.outcomeOf form [("n", .number (.integer 5))] field).result =
          .error (.unexpected "rule 'multiple_of' needs a positive step") := by
  have sound : (stepForm 0).wellFormed := by decide
  have loads : Form.ofDocument (stepForm 0) digitsConfig = .ok _ := rfl
  have configured : Processor.ofConfig digitsConfig StandardEngine.process = .ok _ := rfl
  refine ⟨sound, _, _, loads, configured, _, List.mem_cons_self .., ?_⟩
  refine (outcome_unexpected_iff sound loads configured (List.mem_cons_self ..)).mpr ⟨rfl, ?_, ?_⟩
  · exact ⟨.integer 0, rfl, 0, by decide +kernel, by decide +kernel⟩
  · exact ⟨_, rfl⟩

end Processor

end Intake
