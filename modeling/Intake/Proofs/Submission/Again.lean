import Intake.Proofs.Engine.Preparation
import Intake.Proofs.Submission.Accounting

/-! # Processing what was processed

When all fields of a submission are accepted, its processed data can be submitted in its place. That
changes nothing and is accepted again exactly if no string field with an editor has been left with
blanks at its ends; other fields are in their normal form in any case.
-/

namespace Intake.Processor

open Members (find?)

variable {processor : Processor} {form : Form} {submission : Members}

/-- A submission is valid if every field of the form is accepted. -/
theorem isValid_iff (sound : form.schema.root.Sound) :
    (processor.process form submission).isValid ↔
      ∀ field ∈ form.fields, ∃ value,
        (processor.outcomeOf form submission field).result = .ok value := by
  rw [ProcessResult.isValid, errors_eq, List.isEmpty_iff, List.filterMap_eq_nil_iff]
  constructor
  · intro none field member
    have accepted := none _ (mem_outcomes sound member)
    rw [FieldOutcome.error?] at accepted
    split at accepted
    · next value accepts => exact ⟨value, accepts⟩
    · cases accepted
  · intro accepted outcome member
    obtain ⟨field, known, rfl⟩ := (mem_outcomes_iff sound).mp member
    obtain ⟨value, accepts⟩ := accepted field known
    rw [FieldOutcome.error?, accepts]

/-- What is no field stays where it is when the data is processed again. -/
theorem without_data :
    (processor.process form submission).data.without (form.rules processor.phonePattern).keys =
      submission.without (form.rules processor.phonePattern).keys := by
  have fields : ∀ member ∈ (processor.outcomes form submission).map fun outcome =>
      (outcome.name, outcome.value), member.1 ∈ (form.rules processor.phonePattern).keys := by
    intro member present
    obtain ⟨outcome, known, rfl⟩ := List.mem_map.mp present
    rw [← outcomes_names]
    exact List.mem_map_of_mem known
  rw [data_eq, Members.without, List.filter_append, List.filter_eq_nil_iff.mpr (by simpa using fields),
    List.nil_append]
  exact List.filter_filter.trans (List.filter_congr fun member _ => Bool.and_self _)

/-- Processed data stays the same exactly if every field keeps its value. -/
theorem data_again_iff (sound : form.schema.root.Sound) (distinct : (Members.keys submission).Nodup) :
    (processor.process form (processor.process form submission).data).data =
        (processor.process form submission).data ↔
      ∀ field ∈ form.fields,
        (processor.outcomeOf form (processor.process form submission).data field).value =
          (processor.outcomeOf form submission field).value := by
  constructor
  · intro same field member
    have keys : (Members.keys (processor.process form submission).data).Nodup :=
      keys_data_nodup distinct
    have again : find? (processor.process form (processor.process form submission).data).data
        field.name = _ := find?_data_field sound keys member
    rw [same, find?_data_field sound distinct member] at again
    exact (Option.some.inj again).symm
  · intro same
    have fields : (processor.outcomes form (processor.process form submission).data).map
          (fun outcome => (outcome.name, outcome.value)) =
        (processor.outcomes form submission).map fun outcome => (outcome.name, outcome.value) := by
      rw [outcomes, outcomes, List.map_map, List.map_map]
      apply List.map_congr_left
      rintro ⟨name, rules⟩ present
      obtain ⟨field, known, rfl, rfl⟩ := (Form.mem_rules_iff sound).mp present
      exact Prod.ext rfl (same field known)
    have second : (processor.process form (processor.process form submission).data).data = _ := data_eq
    rw [second, fields, without_data, ← data_eq]

/-- A value that the standard engine accepted is accepted again, and left alone, exactly if it is in
its normal form. -/
theorem process_again_iff {phonePattern : String} {field : Field} {value result : Document}
    (accepts : StandardEngine.process value (form.fieldRules phonePattern field) = .ok result) :
    StandardEngine.process result (form.fieldRules phonePattern field) = .ok result ↔
      (field.trims → field.strips → ∀ text, result = .string text → Text.trim text = text) := by
  obtain ⟨prepared, passes⟩ := StandardEngine.process_eq_ok_iff.mp accepts
  rw [StandardEngine.process_eq_ok_iff, ← StandardEngine.prepare_again_iff prepared]
  exact and_iff_left passes

/-- Processed data that was accepted is accepted again and stays the same, exactly if no text that an
editor left in a string field begins or ends with a blank. -/
theorem process_processed_iff {document : Document} {loading config : Config}
    {processor : Processor} (sound : document.wellFormed)
    (loads : Form.ofDocument document loading = .ok form)
    (configured : Processor.ofConfig config StandardEngine.process = .ok processor)
    (distinct : (Members.keys submission).Nodup)
    (valid : (processor.process form submission).isValid) :
    ((processor.process form (processor.process form submission).data).isValid ∧
        (processor.process form (processor.process form submission).data).data =
          (processor.process form submission).data) ↔
      ∀ field ∈ form.fields, field.property.kind.name = .string → field.widget? = some "editor" →
        ∀ text, find? (processor.process form submission).data field.name = some (.string text) →
          Text.trim text = text := by
  have root := Form.root_sound sound loads
  have engine : processor.engine = StandardEngine.process := by
    rw [(eq_of_ofConfig configured).2]
  rw [isValid_iff root] at valid
  rw [isValid_iff root, data_again_iff root distinct, ← forall₂_and]
  refine forall₂_congr fun field member => ?_
  obtain ⟨value, accepts⟩ := valid field member
  have kept : find? (processor.process form submission).data field.name = some value := by
    rw [find?_data_field root distinct member, FieldOutcome.value, accepts]
  have second : (processor.outcomeOf form (processor.process form submission).data field).result =
      StandardEngine.process value (form.fieldRules processor.phonePattern field) := by
    rw [outcomeOf, processField, kept, engine, Option.getD_some]
  have before : (processor.outcomeOf form submission field).value = value := by
    rw [FieldOutcome.value, accepts]
  have first : StandardEngine.process ((find? submission field.name).getD .null)
      (form.fieldRules processor.phonePattern field) = .ok value := by
    rw [← engine]
    exact accepts
  have again := process_again_iff first
  rw [Field.trims, Field.strips, decide_eq_true_iff, decide_eq_true_iff] at again
  rw [kept, before]
  simp only [Option.some.injEq]
  rw [← again, FieldOutcome.value, second]
  cases StandardEngine.process value (form.fieldRules processor.phonePattern field) <;> simp

/-- A form with a string field that is bound to an editor. -/
def editorForm : Document := .object [
  ("schema", .object [("type", .string "object"),
    ("properties", .object [("note", .object [("type", .string "string")])])]),
  ("uischema", .object [("type", .string "Control"), ("scope", .string "#/properties/note"),
    ("options", .object [("type", .string "editor")])])]

/-- Blanks around a tag are gone after the first time. -/
theorem process_processed_outside :
    editorForm.wellFormed ∧ ∃ form processor, Form.ofDocument editorForm digitsConfig = .ok form ∧
      Processor.ofConfig digitsConfig StandardEngine.process = .ok processor ∧
      (processor.process form [("note", .string " <b>hello</b>")]).isValid ∧
      ((processor.process form
            (processor.process form [("note", .string " <b>hello</b>")]).data).isValid ∧
          (processor.process form
              (processor.process form [("note", .string " <b>hello</b>")]).data).data =
            (processor.process form [("note", .string " <b>hello</b>")]).data) := by
  have sound : editorForm.wellFormed := by decide
  have loads : Form.ofDocument editorForm digitsConfig = .ok _ := rfl
  have configured : Processor.ofConfig digitsConfig StandardEngine.process = .ok _ := rfl
  have ends {data : Members} (all : ∀ member ∈ data, ∀ text ∈ member.2.string?, Text.trim text = text)
      {name text : String} (found : find? data name = some (.string text)) : Text.trim text = text :=
    all _ (Members.mem_of_find?_eq_some found) text rfl
  refine ⟨sound, _, _, loads, configured, by decide +kernel, ?_⟩
  refine (process_processed_iff sound loads configured (by decide) (by decide +kernel)).mpr ?_
  exact fun field _ _ _ text found => ends (by decide +kernel) found

/-- Blanks inside a tag come out once it is dropped, and are only trimmed the second time. -/
theorem process_processed_inside :
    editorForm.wellFormed ∧ ∃ form processor, Form.ofDocument editorForm digitsConfig = .ok form ∧
      Processor.ofConfig digitsConfig StandardEngine.process = .ok processor ∧
      (processor.process form [("note", .string "<b> hello</b>")]).isValid ∧
      ¬((processor.process form
            (processor.process form [("note", .string "<b> hello</b>")]).data).isValid ∧
          (processor.process form
              (processor.process form [("note", .string "<b> hello</b>")]).data).data =
            (processor.process form [("note", .string "<b> hello</b>")]).data) := by
  refine ⟨by decide, _, _, rfl, rfl, by decide +kernel, ?_⟩
  rintro ⟨-, same⟩
  have texts := congrArg (fun data => (find? data "note").bind Document.string?) same
  revert texts
  decide +kernel

end Intake.Processor
