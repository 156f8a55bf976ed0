import Intake.Proofs.Engine.Meaning
import Intake.Proofs.Submission.Faults
import Intake.Proofs.Submission.Isolation

/-! # Fields that have to be filled in

A field is required by its own schema or by the list of the form, and both demand the same token. It
is looked at after casting and filtering, so what passes it holds something for good. No other token
looks at null, which therefore stands for a field left out wherever nobody requires it.
-/

namespace Intake

open Members (find?)

/-- The value holds something: more than blanks if it is a text, and a part if it has parts. -/
structure Document.HasContent (value : Document) : Prop where
  notNull : value ≠ .null
  notBlank : ∀ text, value = .string text → ∃ c ∈ text.toList, ¬Text.isBlank c
  notEmptyArray : value ≠ .array []
  notEmptyObject : value ≠ .object []

private theorem Validator.isPresent_iff_hasContent {value : Document} :
    Validator.isPresent value ↔ value.HasContent := by
  constructor
  · intro present
    refine ⟨?_, ?_, ?_, ?_⟩
    · rintro rfl
      cases present
    · rintro text rfl
      simpa [Validator.isPresent, Text.isBlankText] using present
    · rintro rfl
      cases present
    · rintro rfl
      cases present
  · rintro ⟨notNull, notBlank, notEmptyArray, notEmptyObject⟩
    cases value with
    | null => exact absurd rfl notNull
    | bool flag => rfl
    | number number => rfl
    | string text => simpa [Validator.isPresent, Text.isBlankText] using notBlank text rfl
    | array items => simpa [Validator.isPresent] using notEmptyArray
    | object members => simpa [Validator.isPresent] using notEmptyObject

/-- The form requires a value for the property: its own schema does, or the list of the form. -/
def Form.Requires (form : Form) (property : Property) : Prop :=
  property.required ∨ property.name ∈ form.schema.requiredNames

instance (form : Form) (property : Property) : Decidable (form.Requires property) :=
  inferInstanceAs (Decidable (_ ∨ _))

namespace StandardEngine

variable {form : Form} {phonePattern : String} {field : Field} {value result : Document}

private theorem mem_fieldRules_presence (required : form.Requires field.property) :
    Token.plain presenceRule ∈ (form.fieldRules phonePattern field).validate := by
  rw [Form.fieldRules_validate]
  rcases required with own | listed
  · simp [own, presenceRule]
  · have counted : form.schema.requiredNames.count field.name ≠ 0 :=
      (List.count_pos_iff.mpr listed).ne'
    exact List.mem_append_right _ (List.mem_replicate.mpr ⟨counted, rfl⟩)

/-- No token of a field that nobody requires demands a value. -/
theorem fieldRules_name_ne (optional : ¬form.Requires field.property) :
    ∀ token ∈ (form.fieldRules phonePattern field).validate, token.name ≠ presenceRule := by
  obtain ⟨own, unlisted⟩ := not_or.mp optional
  have uncounted : form.schema.requiredNames.count field.name = 0 := List.count_eq_zero.mpr unlisted
  rw [Form.fieldRules_validate, uncounted]
  simp only [own, Bool.false_eq_true, if_false, List.nil_append, List.replicate_zero, List.append_nil,
    List.forall_mem_append]
  exact ⟨fun _ => Property.name_ne_of_mem_kindTokens,
    field.forall_mem_controlTokens (by decide) (by decide)⟩

/-- What is accepted for a required field holds something. -/
theorem hasContent_of_process (required : form.Requires field.property)
    (accepts : process value (form.fieldRules phonePattern field) = .ok result) :
    result.HasContent := by
  obtain ⟨-, silent⟩ := process_eq_ok_iff.mp accepts
  have passes := complaints_eq_nil_iff.mp silent _ (mem_fieldRules_presence required)
  exact Validator.isPresent_iff_hasContent.mp (passes_presence_iff.mp passes)

private theorem castKind_null (kind : KindName) : castKind kind .null = .ok .null := by
  cases kind <;> rfl

private theorem prepare_null : prepare (form.fieldRules phonePattern field) .null = .ok .null := by
  rw [prepare_fieldRules, castKind_null]
  rfl

/-- Null is accepted as it is where no value is required. -/
theorem process_null (sound : field.property.kind.Sound) (phone : Pattern.isAccepted phonePattern)
    (optional : ¬form.Requires field.property) :
    process .null (form.fieldRules phonePattern field) = .ok .null := by
  rw [process_eq_ok_iff, complaints_eq_nil_iff]
  constructor
  · exact prepare_null
  · intro token member
    rcases Form.fieldRules_run sound phone token member with runs | ⟨step, -, rfl⟩
    · exact passes_of_isEmptyInput runs (fieldRules_name_ne optional token member) rfl
    · -- The one token that cannot always be carried out is passed over for null.
      rfl

end StandardEngine

namespace Processor

variable {document : Document} {loading config : Config} {form : Form} {processor : Processor}
  {submission : Members}

section Fields

variable {field : Field} (engine : processor.engine = StandardEngine.process)
  (root : form.schema.root.Sound) (distinct : (Members.keys submission).Nodup)
  (member : field ∈ form.fields)
include engine root distinct member

/-- A required field that was not refused has a value that holds something. -/
theorem hasContent_of_accepted (required : form.Requires field.property)
    (accepted : (processor.process form submission).hasFieldErrors field.name = false) :
    ∃ value, find? (processor.process form submission).data field.name = some value ∧
      value.HasContent := by
  obtain ⟨value, accepts⟩ := (hasFieldErrors_field root member).mp accepted
  refine ⟨value, ?_, ?_⟩
  · rw [find?_data_field root distinct member, FieldOutcome.value, accepts]
  · rw [outcomeOf, processField, engine] at accepts
    exact StandardEngine.hasContent_of_process required accepts

/-- A field that nobody requires is null, and no error, if it is left out. -/
theorem null_of_left (phone : Pattern.isAccepted processor.phonePattern)
    (optional : ¬form.Requires field.property)
    (left : find? submission field.name = none ∨ find? submission field.name = some .null) :
    (processor.process form submission).hasFieldErrors field.name = false ∧
      find? (processor.process form submission).data field.name = some .null := by
  have raw : (find? submission field.name).getD .null = .null := by
    rcases left with left | left <;> rw [left] <;> rfl
  have accepts : (processor.outcomeOf form submission field).result = .ok .null := by
    rw [outcomeOf, processField, raw, engine]
    exact StandardEngine.process_null (Form.property_sound root member).root.kind phone optional
  constructor
  · exact (hasFieldErrors_field root member).mpr ⟨_, accepts⟩
  · rw [find?_data_field root distinct member, FieldOutcome.value, accepts]

end Fields

/-- What a result says of a property that is required, and of one that is left out and not
required. -/
structure KeepsPresence (form : Form) (submission : Members) (property : Property)
    (result : ProcessResult) : Prop where
  required : form.Requires property → result.hasFieldErrors property.name = false →
    ∃ value, find? result.data property.name = some value ∧ value.HasContent
  optional : ¬form.Requires property →
    find? submission property.name = none ∨ find? submission property.name = some .null →
    result.hasFieldErrors property.name = false ∧ find? result.data property.name = some .null

/-- A required property without errors has a value that holds something, and a property that nobody
requires may be left out, whatever else its schema and its control ask for. -/
theorem process_keepsPresence (sound : document.wellFormed)
    (loads : Form.ofDocument document loading = .ok form)
    (configured : Processor.ofConfig config StandardEngine.process = .ok processor)
    (distinct : (Members.keys submission).Nodup) :
    ∀ property ∈ form.schema.properties,
      KeepsPresence form submission property (processor.process form submission) := by
  intro property declared
  obtain ⟨valid, rfl⟩ := eq_of_ofConfig configured
  have root := Form.root_sound sound loads
  obtain ⟨field, member, rfl⟩ : ∃ field ∈ form.fields, field.property = property :=
    ⟨_, List.mem_map_of_mem declared, rfl⟩
  constructor
  case required => exact hasContent_of_accepted rfl root distinct member
  case optional =>
    exact null_of_left rfl root distinct member (Config.phonePattern_accepted valid)

/-- A number given as text for an age that the form lists, and no note although an editor, a least
length and a choice wait for one. -/
theorem process_keepsPresence_note :
    let document : Document := .object [
      ("schema", .object [("type", .string "object"), ("required", .array [.string "age"]),
        ("properties", .object [("age", .object [("type", .string "integer")]),
          ("note", .object [("type", .string "string"), ("minLength", .ofNat 3),
            ("enum", .array [.string "none"])])])]),
      ("uischema", .object [("type", .string "Control"), ("scope", .string "#/properties/note"),
        ("options", .object [("type", .string "editor")])])]
    let submission : Members := [("age", .string " 36 ")]
    document.wellFormed ∧ (Members.keys submission).Nodup ∧
      ∃ form processor, Form.ofDocument document digitsConfig = .ok form ∧
        Processor.ofConfig digitsConfig StandardEngine.process = .ok processor ∧
        ∃ age ∈ form.schema.properties, ∃ note ∈ form.schema.properties,
          form.Requires age ∧ ¬form.Requires note ∧ find? submission note.name = none ∧
          (processor.process form submission).hasFieldErrors age.name = false ∧
          (∃ value, find? (processor.process form submission).data age.name = some value ∧
            value.HasContent) ∧
          (processor.process form submission).hasFieldErrors note.name = false ∧
          find? (processor.process form submission).data note.name = some .null := by
  intro document submission
  have sound : document.wellFormed := by decide
  have distinct : (Members.keys submission).Nodup := by decide
  have loads : Form.ofDocument document digitsConfig = .ok _ := rfl
  have configured : Processor.ofConfig digitsConfig StandardEngine.process = .ok _ := rfl
  have presence := process_keepsPresence sound loads configured distinct
  have age := presence _ (List.mem_cons_self ..)
  have note := presence _ (List.mem_cons_of_mem _ (List.mem_cons_self ..))
  refine ⟨sound, distinct, _, _, loads, configured, _, List.mem_cons_self .., _,
    List.mem_cons_of_mem _ (List.mem_cons_self ..), ?_⟩
  have listed := age.required (by decide) (by decide +kernel)
  have left := note.optional (by decide) (.inl rfl)
  exact ⟨by decide, by decide, rfl, by decide +kernel, listed, left⟩

end Processor

end Intake
