import Intake.Submission.Processing
import Intake.Proofs.Form.Fields

/-! # What becomes of a submission

Whatever the rule engine does, each key of a submission and each field of a form is accounted for
exactly once: an accepted field has the value of the engine, a refused one the submitted value and
at least one message, and every other key is passed on untouched.
-/

namespace Intake

open Members (find?)

namespace FieldOutcome

theorem messagesOf_ne_nil (failure : Failure) : messagesOf failure ≠ [] := by
  rw [messagesOf]
  split_ifs with none
  · simp
  · simpa using none

private theorem name_of_error? {outcome : FieldOutcome} {error : String × List String}
    (refused : outcome.error? = some error) : error.1 = outcome.name ∧ error.2 ≠ [] := by
  rw [error?] at refused
  split at refused
  · cases refused
  · cases refused
    exact ⟨rfl, messagesOf_ne_nil _⟩

/-- The errors of outcomes with distinct names are listed under these names. -/
theorem errorNames_sublist (outcomes : List FieldOutcome) :
    (Dictionary.keys (outcomes.filterMap error?)).Sublist (outcomes.map name) := by
  induction outcomes with
  | nil => exact .slnil
  | cons outcome outcomes ih =>
    cases refused : outcome.error? with
    | none =>
      rw [List.filterMap_cons_none refused]
      exact ih.cons _
    | some error =>
      rw [List.filterMap_cons_some refused, Dictionary.keys, List.map_cons, List.map_cons,
        (name_of_error? refused).1]
      exact ih.cons_cons _

/-- An outcome has the messages of its failure, or none at all. -/
theorem find?_errors {outcomes : List FieldOutcome} (distinct : (outcomes.map name).Nodup)
    {outcome : FieldOutcome} (member : outcome ∈ outcomes) :
    Dictionary.find? (outcomes.filterMap error?) outcome.name = outcome.error?.map (·.2) := by
  have keys := distinct.sublist (errorNames_sublist outcomes)
  cases refused : outcome.error? with
  | some error =>
    apply Dictionary.find?_eq_some_of_mem keys
    rw [← (name_of_error? refused).1]
    exact List.mem_filterMap.mpr ⟨outcome, member, refused⟩
  | none =>
    cases found : Dictionary.find? (outcomes.filterMap error?) outcome.name with
    | none => rfl
    | some messages =>
      obtain ⟨other, present, error⟩ :=
        List.mem_filterMap.mp (Dictionary.mem_of_find?_eq_some found)
      have same : other = outcome :=
        List.inj_on_of_nodup_map distinct present member (name_of_error? error).1.symm
      rw [same, refused] at error
      cases error

end FieldOutcome

namespace ProcessResult

variable {result : ProcessResult}

/-- As every error has a message, no message is there only if no error is. -/
theorem allErrors_isEmpty (messages : ∀ error ∈ result.errors, error.2 ≠ []) :
    result.allErrors.isEmpty = result.isValid := by
  rw [allErrors, isValid]
  cases errors : result.errors with
  | nil => rfl
  | cons error others =>
    have first : error.2 ≠ [] := messages error (errors ▸ List.mem_cons_self ..)
    simp [first]

private theorem isValid_iff_forall (distinct : result.errors.keys.Nodup)
    (messages : ∀ error ∈ result.errors, error.2 ≠ []) :
    result.isValid ↔ ∀ name, result.hasFieldErrors name = false := by
  simp only [isValid, hasFieldErrors, fieldErrors, List.isEmpty_iff]
  constructor
  · intro none name
    rw [none]
    rfl
  · intro none
    by_contra some
    obtain ⟨error, member⟩ := List.exists_mem_of_ne_nil _ some
    have found := Dictionary.find?_eq_some_of_mem distinct member
    have accepted := none error.1
    rw [found] at accepted
    exact messages error member (by simpa using accepted)

end ProcessResult

namespace Processor

variable {processor : Processor} {form : Form} {submission : Members}

theorem eq_of_ofConfig {config : Config} {engine : RuleEngine}
    (configured : Processor.ofConfig config engine = .ok processor) :
    config.validate = .ok () ∧ processor = ⟨config.phonePattern, engine⟩ := by
  obtain ⟨_, valid, made⟩ := except_bind_eq_ok.mp configured
  cases made
  exact ⟨valid, rfl⟩

/-- A configuration with a short pattern of telephone numbers. -/
def digitsConfig : Config := { Config.default with phonePattern := "[0-9]+" }

/-- What the engine made of a field of a form. -/
def outcomeOf (processor : Processor) (form : Form) (submission : Members) (field : Field) :
    FieldOutcome :=
  processor.processField submission field.name (form.fieldRules processor.phonePattern field)

/-- The outcomes of all fields in ascending order of their names. -/
def outcomes (processor : Processor) (form : Form) (submission : Members) : List FieldOutcome :=
  (form.rules processor.phonePattern).map fun (name, rules) =>
    processor.processField submission name rules

theorem outcomes_names :
    (processor.outcomes form submission).map FieldOutcome.name =
      (form.rules processor.phonePattern).keys := by
  simp [outcomes, processField, Dictionary.keys, Function.comp_def]

private theorem outcomes_nodup :
    ((processor.outcomes form submission).map FieldOutcome.name).Nodup := by
  rw [outcomes_names]
  exact form.keys_rules_nodup _

/-- The outcomes are those of the fields. -/
theorem mem_outcomes_iff (sound : form.schema.root.Sound) {outcome : FieldOutcome} :
    outcome ∈ processor.outcomes form submission ↔
      ∃ field ∈ form.fields, processor.outcomeOf form submission field = outcome := by
  rw [outcomes, List.mem_map]
  constructor
  · rintro ⟨⟨name, rules⟩, present, rfl⟩
    obtain ⟨field, member, rfl, rfl⟩ := (Form.mem_rules_iff sound).mp present
    exact ⟨field, member, rfl⟩
  · rintro ⟨field, member, rfl⟩
    exact ⟨_, (Form.mem_rules_iff sound).mpr ⟨field, member, rfl, rfl⟩, rfl⟩

theorem mem_outcomes (sound : form.schema.root.Sound) {field : Field}
    (member : field ∈ form.fields) :
    processor.outcomeOf form submission field ∈ processor.outcomes form submission :=
  (mem_outcomes_iff sound).mpr ⟨field, member, rfl⟩

theorem data_eq : (processor.process form submission).data =
    (processor.outcomes form submission).map (fun outcome => (outcome.name, outcome.value))
      ++ submission.without (form.rules processor.phonePattern).keys := rfl

theorem errors_eq : (processor.process form submission).errors =
    (processor.outcomes form submission).filterMap FieldOutcome.error? := rfl

/-- The fields come first, then whatever else was submitted. -/
theorem keys_data : Members.keys (processor.process form submission).data =
    (form.rules processor.phonePattern).keys
      ++ Members.keys (submission.without (form.rules processor.phonePattern).keys) := by
  have names : (processor.outcomes form submission).map FieldOutcome.name = _ := outcomes_names
  rw [data_eq, Members.keys, List.map_append, ← names]
  simp [Members.keys, Function.comp_def]

theorem keys_data_nodup (distinct : (Members.keys submission).Nodup) :
    (Members.keys (processor.process form submission).data).Nodup := by
  rw [keys_data, List.nodup_append]
  refine ⟨form.keys_rules_nodup _,
    distinct.sublist (Members.keys_without_sublist ..), ?_⟩
  rintro name field _ other rfl
  exact (Members.mem_keys_without.mp other).2 field

private theorem mem_keys_data {key : String} :
    key ∈ Members.keys (processor.process form submission).data ↔
      (∃ field ∈ form.fields, field.name = key) ∨ key ∈ Members.keys submission := by
  rw [keys_data, List.mem_append, Members.mem_keys_without, Form.mem_keys_rules]
  by_cases field : ∃ field ∈ form.fields, field.name = key <;> simp [field]

theorem find?_data_field (sound : form.schema.root.Sound) (distinct : (Members.keys submission).Nodup)
    {field : Field} (member : field ∈ form.fields) :
    find? (processor.process form submission).data field.name =
      some (processor.outcomeOf form submission field).value := by
  apply Members.find?_eq_some_of_mem (keys_data_nodup distinct)
  rw [data_eq]
  exact List.mem_append_left _ (List.mem_map.mpr ⟨_, mem_outcomes sound member, rfl⟩)

theorem find?_errors_field (sound : form.schema.root.Sound) {field : Field}
    (member : field ∈ form.fields) :
    Dictionary.find? (processor.process form submission).errors field.name =
      (processor.outcomeOf form submission field).error?.map (·.2) := by
  rw [errors_eq]
  exact FieldOutcome.find?_errors outcomes_nodup (mem_outcomes sound member)

private theorem errors_nodup : (processor.process form submission).errors.keys.Nodup :=
  outcomes_nodup.sublist (FieldOutcome.errorNames_sublist _)

private theorem errors_have_messages :
    ∀ error ∈ (processor.process form submission).errors, error.2 ≠ [] := by
  intro error member
  obtain ⟨outcome, -, refused⟩ := List.mem_filterMap.mp member
  exact (FieldOutcome.name_of_error? refused).2

/-- What is not a field keeps its value, or stays absent, and is no error. -/
theorem find?_other {key : String} (other : ∀ field ∈ form.fields, field.name ≠ key) :
    find? (processor.process form submission).data key = find? submission key ∧
      Dictionary.find? (processor.process form submission).errors key = none := by
  have unknown : key ∉ (form.rules processor.phonePattern).keys := by
    rw [Form.mem_keys_rules]
    rintro ⟨field, member, same⟩
    exact other field member same
  have absent : key ∉ (processor.outcomes form submission).map FieldOutcome.name := by
    rwa [outcomes_names]
  constructor
  · have notField : find? ((processor.outcomes form submission).map fun outcome =>
        (outcome.name, outcome.value)) key = none := by
      rw [Members.find?_eq_none_iff]
      simpa [Members.keys, Function.comp_def] using absent
    rw [data_eq, Members.find?_append, notField, Members.find?_without, if_neg unknown]
    rfl
  · cases found : Dictionary.find? (processor.process form submission).errors key with
    | none => rfl
    | some messages =>
      have listed := List.mem_map_of_mem (f := (·.1)) (Dictionary.mem_of_find?_eq_some found)
      exact absurd ((FieldOutcome.errorNames_sublist _).subset listed) absent

/-- How a result accounts for every key of a submission and every field of a form. -/
structure Accounts (processor : Processor) (form : Form) (submission : Members)
    (result : ProcessResult) : Prop where
  keys_nodup : (Members.keys result.data).Nodup
  mem_keys : ∀ key, key ∈ Members.keys result.data ↔
    (∃ property ∈ form.schema.properties, property.name = key) ∨ key ∈ Members.keys submission
  accepted : ∀ field ∈ form.fields, ∀ value,
    processor.engine ((find? submission field.name).getD .null)
        (form.fieldRules processor.phonePattern field) = .ok value →
      find? result.data field.name = some value ∧ result.errors.find? field.name = none
  refused : ∀ field ∈ form.fields, ∀ failure,
    processor.engine ((find? submission field.name).getD .null)
        (form.fieldRules processor.phonePattern field) = .error failure →
      find? result.data field.name = some ((find? submission field.name).getD .null) ∧
        ∃ messages, result.errors.find? field.name = some messages ∧ messages ≠ [] ∧
          messages = if failure.messages = [] then ["is invalid"] else failure.messages
  undeclared : ∀ key, (∀ property ∈ form.schema.properties, property.name ≠ key) →
    find? result.data key = find? submission key ∧ result.errors.find? key = none
  isValid_eq : result.isValid = !result.hasErrors
  allErrors_isEmpty : result.allErrors.isEmpty = result.isValid
  isValid_iff_forall : result.isValid ↔ ∀ name, result.hasFieldErrors name = false

/-- Whatever the engine does, processing accounts for every key and every field. -/
theorem process_accounts {document : Document} {config : Config} (sound : document.wellFormed)
    (loads : Form.ofDocument document config = .ok form)
    (distinct : (Members.keys submission).Nodup) (processor : Processor) :
    processor.Accounts form submission (processor.process form submission) := by
  have root := Form.root_sound sound loads
  have declared (key : String) : (∃ property ∈ form.schema.properties, property.name = key) ↔
      ∃ field ∈ form.fields, field.name = key := by
    simp [Form.fields, Field.name]
  constructor
  case keys_nodup => exact keys_data_nodup distinct
  case mem_keys =>
    intro key
    rw [declared]
    exact mem_keys_data
  case accepted =>
    intro field member value accepts
    rw [find?_data_field root distinct member, find?_errors_field root member]
    simp only [outcomeOf, processField, FieldOutcome.value, FieldOutcome.error?, accepts]
    exact ⟨trivial, rfl⟩
  case refused =>
    intro field member failure refuses
    rw [find?_data_field root distinct member, find?_errors_field root member]
    simp only [outcomeOf, processField, FieldOutcome.value, FieldOutcome.error?, refuses]
    refine ⟨trivial, _, rfl, FieldOutcome.messagesOf_ne_nil failure, ?_⟩
    simp only [FieldOutcome.messagesOf, List.isEmpty_iff, FieldOutcome.fallback]
  case undeclared =>
    intro key other
    refine find?_other fun field member same => ?_
    obtain ⟨property, present, name⟩ := (declared key).mpr ⟨field, member, same⟩
    exact other property present name
  case isValid_eq => simp [ProcessResult.isValid, ProcessResult.hasErrors]
  case allErrors_isEmpty => exact ProcessResult.allErrors_isEmpty errors_have_messages
  case isValid_iff_forall =>
    exact ProcessResult.isValid_iff_forall errors_nodup errors_have_messages

/-- A field that is refused without a message beside one that is accepted and a key that is no
field. -/
theorem process_accounts_silent :
    let field (kind : String) : Document := .object [("type", .string kind)]
    let document : Document := .object [("schema", .object [("type", .string "object"),
      ("properties", .object [("name", field "string"), ("age", field "integer")])])]
    let engine : RuleEngine := fun value rules =>
      if rules.cast?.isSome && value.isNull then .error (.invalid []) else .ok value
    let submission : Members := [("note", .bool true), ("name", .string "Ada")]
    document.wellFormed ∧ (Members.keys submission).Nodup ∧
      ∃ form, Form.ofDocument document .default = .ok form ∧
        (Processor.mk "[0-9]+" engine).Accounts form submission
          ((Processor.mk "[0-9]+" engine).process form submission) := by
  intro field document engine submission
  have sound : document.wellFormed := by decide
  have distinct : (Members.keys submission).Nodup := by decide
  obtain ⟨form, loads⟩ : ∃ form, Form.ofDocument document .default = .ok form := ⟨_, rfl⟩
  exact ⟨sound, distinct, form, loads, process_accounts sound loads distinct _⟩

end Processor

end Intake
