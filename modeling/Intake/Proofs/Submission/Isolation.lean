import Intake.Proofs.Submission.Accounting

/-! # Fields apart from each other

What becomes of a name is settled by what was submitted under it. Neither the other keys of a
submission nor the failures of other fields have a part in it, whatever the engine does: two runs on
submissions that agree on a name agree on what they make of it.
-/

namespace Intake

open Members (find?)

/-- Two results say the same of a name. -/
structure ProcessResult.AgreeOn (name : String) (first second : ProcessResult) : Prop where
  data : find? first.data name = find? second.data name
  errors : first.errors.find? name = second.errors.find? name
  fieldErrors : first.fieldErrors name = second.fieldErrors name
  hasFieldErrors : first.hasFieldErrors name = second.hasFieldErrors name

private theorem ProcessResult.AgreeOn.of_find? {name : String} {first second : ProcessResult}
    (data : find? first.data name = find? second.data name)
    (errors : first.errors.find? name = second.errors.find? name) : first.AgreeOn name second := by
  have messages : first.fieldErrors name = second.fieldErrors name := by
    rw [ProcessResult.fieldErrors, errors]
    rfl
  refine ⟨data, errors, messages, ?_⟩
  rw [ProcessResult.hasFieldErrors, messages]
  rfl

namespace Processor

variable {processor : Processor} {form : Form} {submission first second : Members} {field : Field}

/-- A field has errors exactly if the engine refused it. -/
theorem hasFieldErrors_field (root : form.schema.root.Sound) (member : field ∈ form.fields) :
    (processor.process form submission).hasFieldErrors field.name = false ↔
      ∃ value, (processor.outcomeOf form submission field).result = .ok value := by
  rw [ProcessResult.hasFieldErrors, ProcessResult.fieldErrors, find?_errors_field root member,
    FieldOutcome.error?]
  cases (processor.outcomeOf form submission field).result with
  | ok value => simp
  | error failure => simp [FieldOutcome.messagesOf_ne_nil]

/-- The engine sees of a submission only what stands under the name of the field. -/
theorem outcomeOf_congr (same : find? first field.name = find? second field.name) :
    processor.outcomeOf form first field = processor.outcomeOf form second field := by
  simp only [outcomeOf, processField, same]

private theorem process_agreeOn_field (root : form.schema.root.Sound)
    (firstDistinct : (Members.keys first).Nodup) (secondDistinct : (Members.keys second).Nodup)
    (member : field ∈ form.fields) (same : find? first field.name = find? second field.name) :
    (processor.process form first).AgreeOn field.name (processor.process form second) := by
  have outcome : processor.outcomeOf form first field = processor.outcomeOf form second field :=
    outcomeOf_congr same
  apply ProcessResult.AgreeOn.of_find?
  · rw [find?_data_field root firstDistinct member, find?_data_field root secondDistinct member,
      outcome]
  · rw [find?_errors_field root member, find?_errors_field root member, outcome]

private theorem process_agreeOn_other {key : String} (other : ∀ field ∈ form.fields, field.name ≠ key)
    (same : find? first key = find? second key) :
    (processor.process form first).AgreeOn key (processor.process form second) := by
  have firstKept : find? (processor.process form first).data key = find? first key ∧
      (processor.process form first).errors.find? key = none := find?_other other
  have secondKept : find? (processor.process form second).data key = find? second key ∧
      (processor.process form second).errors.find? key = none := find?_other other
  apply ProcessResult.AgreeOn.of_find?
  · rw [firstKept.1, secondKept.1, same]
  · rw [firstKept.2, secondKept.2]

/-- Processing two submissions that agree on a name, however they differ elsewhere, gives results that
agree on that name. -/
theorem process_agreeOn {document : Document} {config : Config} (sound : document.wellFormed)
    (loads : Form.ofDocument document config = .ok form) (processor : Processor)
    (firstDistinct : (Members.keys first).Nodup) (secondDistinct : (Members.keys second).Nodup)
    {name : String} (same : find? first name = find? second name) :
    (processor.process form first).AgreeOn name (processor.process form second) := by
  by_cases declared : ∃ field ∈ form.fields, field.name = name
  · obtain ⟨field, member, rfl⟩ := declared
    exact process_agreeOn_field (Form.root_sound sound loads) firstDistinct secondDistinct member same
  · push Not at declared
    exact process_agreeOn_other declared same

/-- A field that is refused in one of two submissions, and a key that only the other one has, leave
what becomes of a name alone. -/
theorem process_agreeOn_name :
    let field (kind : String) : Document := .object [("type", .string kind)]
    let document : Document := .object [("schema", .object [("type", .string "object"),
      ("properties", .object [("name", field "string"), ("age", field "integer")])])]
    let engine : RuleEngine := fun value rules =>
      if rules.cast?.isSome && value.isNull then .error (.invalid []) else .ok value
    let processor : Processor := ⟨"[0-9]+", engine⟩
    let first : Members := [("age", .null), ("name", .string "Ada")]
    let second : Members := [("name", .string "Ada"), ("note", .bool true), ("age", .ofNat 36)]
    document.wellFormed ∧ (Members.keys first).Nodup ∧ (Members.keys second).Nodup ∧
      find? first "name" = find? second "name" ∧
      ∃ form, Form.ofDocument document .default = .ok form ∧
        (processor.process form first).hasFieldErrors "age" = true ∧
        (processor.process form second).hasFieldErrors "age" = false ∧
        (processor.process form first).AgreeOn "name" (processor.process form second) := by
  intro field document engine processor first second
  have sound : document.wellFormed := by decide
  have firstDistinct : (Members.keys first).Nodup := by decide
  have secondDistinct : (Members.keys second).Nodup := by decide
  have same : find? first "name" = find? second "name" := rfl
  obtain ⟨form, loads, refused, accepted⟩ : ∃ form, Form.ofDocument document .default = .ok form ∧
      (processor.process form first).hasFieldErrors "age" = true ∧
      (processor.process form second).hasFieldErrors "age" = false :=
    ⟨_, rfl, by decide, by decide⟩
  exact ⟨sound, firstDistinct, secondDistinct, same, form, loads, refused, accepted,
    process_agreeOn sound loads processor firstDistinct secondDistinct same⟩

end Processor

end Intake
