import Intake.Proofs.Journal.Lines
import Intake.Proofs.Submission.Accounting

/-! # What is noted of a submission

The entries of a result are written while its fields are processed, and its errors are gathered
beside them. Both come from the outcomes of the same fields in the same order, so a journal tells of a
submission what its result does: one refusal for every key of the errors, and how many there are.
-/

namespace Intake

open Members (find?)

namespace Processor

variable {processor : Processor} {form : Form} {submission : Members}

/-- What is noted of a field that the engine refuses: a value that is not valid is rejected, and
otherwise the rules have failed. -/
inductive NotesRefusal (processor : Processor) (form : Form) (submission : Members) :
    String → Entry → Prop
  | rejected (field : Field) (messages : List String) (member : field ∈ form.fields)
      (refused : processor.engine ((find? submission field.name).getD .null)
        (form.fieldRules processor.phonePattern field) = .error (.invalid messages)) :
      NotesRefusal processor form submission field.name
        ⟨.fieldRejected, [("field", field.name), ("reason", String.intercalate "; " messages)]⟩
  | failed (field : Field) (reason : String) (member : field ∈ form.fields)
      (refused : processor.engine ((find? submission field.name).getD .null)
        (form.fieldRules processor.phonePattern field) = .error (.unexpected reason)) :
      NotesRefusal processor form submission field.name
        ⟨.fieldFailed, [("field", field.name), ("reason", "Rule execution failed: " ++ reason)]⟩

/-- An outcome has an error and a note of it, or neither. -/
theorem outcome_noted (sound : form.schema.root.Sound) {outcome : FieldOutcome}
    (member : outcome ∈ processor.outcomes form submission) :
    outcome.error? = none ∧ outcome.entry? = none ∨
      ∃ error entry, outcome.error? = some error ∧ outcome.entry? = some entry ∧
        processor.NotesRefusal form submission error.1 entry := by
  obtain ⟨field, declared, rfl⟩ := (mem_outcomes_iff sound).mp member
  simp only [outcomeOf, processField, FieldOutcome.error?, FieldOutcome.entry?]
  cases refused : processor.engine ((find? submission field.name).getD .null)
      (form.fieldRules processor.phonePattern field) with
  | ok value => exact .inl ⟨rfl, rfl⟩
  | error failure =>
    refine .inr ⟨_, _, rfl, rfl, ?_⟩
    cases failure with
    | invalid messages => exact .rejected field messages declared refused
    | unexpected reason => exact .failed field reason declared refused

/-- Errors and notes are gathered from the same outcomes, so they come in the same order. -/
theorem forall₂_noted (sound : form.schema.root.Sound) {outcomes : List FieldOutcome}
    (subset : outcomes ⊆ processor.outcomes form submission) :
    List.Forall₂ (processor.NotesRefusal form submission)
      (Dictionary.keys (outcomes.filterMap FieldOutcome.error?))
      (outcomes.filterMap FieldOutcome.entry?) := by
  induction outcomes with
  | nil => exact .nil
  | cons outcome outcomes ih =>
    obtain ⟨member, others⟩ := List.cons_subset.mp subset
    obtain ⟨accepted, silent⟩ | ⟨error, entry, refused, noted, refusal⟩ := outcome_noted sound member
    · rw [List.filterMap_cons_none accepted, List.filterMap_cons_none silent]
      exact ih others
    · rw [List.filterMap_cons_some refused, List.filterMap_cons_some noted]
      exact .cons refusal (ih others)

/-- Errors come in the order in which fields are processed. -/
theorem errors_ascending : (processor.process form submission).errors.Ascending := by
  have ascending : (form.rules processor.phonePattern).Ascending := Dictionary.ascending_ofList _
  have kept := FieldOutcome.errorNames_sublist (processor.outcomes form submission)
  rw [outcomes_names] at kept
  exact List.Pairwise.sublist kept ascending

/-- The entries tell of a result: first come the required names that no property has, each as often as
it is listed, and how many fields there are, then a refusal for every key of the errors, and at last
how many keys these are. -/
def Notes (processor : Processor) (form : Form) (submission : Members) (result : ProcessResult)
    (entries : List Entry) : Prop :=
  let fields := ("fields", form.schema.properties.length.repr)
  ∃ refusals : List Entry,
    List.Forall₂ (processor.NotesRefusal form submission) result.errors.keys refusals ∧
    entries =
      form.schema.unknownRequiredNames.map (fun name => ⟨.requiredNameUnknown, [("field", name)]⟩)
        ++ ⟨.formCompiled, [fields]⟩ :: refusals
        ++ [⟨.processComplete, [fields, ("rejected", result.errors.keys.length.repr)]⟩]

private theorem notes_entries (sound : form.schema.root.Sound) :
    processor.Notes form submission (processor.process form submission)
      (processor.process form submission).entries := by
  have count : (form.rules processor.phonePattern).length = form.schema.properties.length := by
    rw [Form.length_rules sound, Form.fields, List.length_map]
  have rejected : (processor.process form submission).errors.keys.length =
      (processor.process form submission).errors.length := List.length_map _
  refine ⟨(processor.outcomes form submission).filterMap FieldOutcome.entry?,
    forall₂_noted sound (List.Subset.refl _), ?_⟩
  rw [rejected, ← count]
  rfl

/-- Whatever the engine does, a journal keeps exactly one line for each entry that tells of the result
and is severe enough, after the lines of before. The errors, and so the refusals, are in ascending order
of the names of their fields. -/
theorem recordAll_process {document : Document} {config : Config} (sound : document.wellFormed)
    (loads : Form.ofDocument document config = .ok form) (processor : Processor)
    (submission : Members) (journal : Journal) :
    let result := processor.process form submission
    result.errors.Ascending ∧ ∃ entries, processor.Notes form submission result entries ∧
      journal.recordAll result.entries = { journal with
        lines := journal.lines ++
          (entries.filter fun entry => journal.minimum ≤ entry.event.severity).map Journal.line } :=
  ⟨errors_ascending, _, notes_entries (Form.root_sound sound loads), Journal.recordAll_eq ..⟩

/-- A field that is rejected and one whose rules fail beside one that is accepted, and a required name
that is no field. -/
theorem recordAll_process_ghost :
    let field : Document := .object [("type", .string "string")]
    let document : Document := .object [("schema", .object [("type", .string "object"),
      ("properties", .object [("name", field), ("mail", field), ("age", field)]),
      ("required", .array [.string "ghost"])])]
    let engine : RuleEngine := fun value _ => match value with
      | .null => .error (.invalid ["is required", "must be a string"])
      | .string "" => .error (.unexpected "no such rule")
      | value => .ok value
    let processor : Processor := ⟨"[0-9]+", engine⟩
    let submission : Members := [("age", .string "36"), ("mail", .string "")]
    document.wellFormed ∧ ∃ form, Form.ofDocument document .default = .ok form ∧
      let result := processor.process form submission
      result.errors.Ascending ∧ ∃ entries, processor.Notes form submission result entries ∧
        (Journal.empty .warn).recordAll result.entries = ⟨.warn,
          (entries.filter fun entry => Severity.warn ≤ entry.event.severity).map Journal.line⟩ := by
  intro field document engine processor submission
  have sound : document.wellFormed := by decide
  obtain ⟨form, loads⟩ : ∃ form, Form.ofDocument document .default = .ok form := ⟨_, rfl⟩
  exact ⟨sound, form, loads, recordAll_process sound loads processor submission (Journal.empty .warn)⟩

end Processor

end Intake
