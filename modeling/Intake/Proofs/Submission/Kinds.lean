import Intake.Proofs.Engine.Bounds
import Intake.Proofs.Submission.Isolation

/-! # Values of the declared kind

Whatever is submitted for a scalar property, what is accepted for it is null or a value of its kind: a
cast gives nothing else, and filters change the text of a string but never what a value is. Integers
are ones of a 64-bit word and numbers are finite.
-/

namespace Intake

open Members (find?)

/-- The value is a scalar of the kind. -/
inductive Document.IsScalar : KindName → Document → Prop
  | string (text : String) : IsScalar .string (.string text)
  | integer (whole : Int) (fits : fitsSigned whole ∨ fitsUnsigned whole) : IsScalar .integer (.ofInt whole)
  | number (x : Binary64) : IsScalar .number (.number (.real x))
  | boolean (flag : Bool) : IsScalar .boolean (.bool flag)

/-- A filter leaves a scalar of its kind. -/
theorem Document.IsScalar.apply {kind : KindName} {value : Document} (scalar : value.IsScalar kind)
    (change : String → String) : (Filter.apply change value).IsScalar kind := by
  cases scalar with
  | string text => exact .string (change text)
  | integer whole fits => exact .integer whole fits
  | number x => exact .number x
  | boolean flag => exact .boolean flag

namespace StandardEngine

variable {form : Form} {phonePattern : String} {field : Field} {kind : KindName}
  {value result : Document}

/-- A cast to a scalar kind gives null or a scalar of that kind. -/
theorem isScalar_of_castKind (sound : value.wellFormed) (scalar : kind.isScalar)
    (casts : castKind kind value = .ok result) : result = .null ∨ result.IsScalar kind := by
  cases kind with
  | string =>
    rw [castKind_string, except_mapError_eq_ok] at casts
    rcases Cast.string_eq_ok casts with null | ⟨text, rfl⟩
    · exact .inl null
    · exact .inr (.string text)
  | integer =>
    rw [castKind_integer, except_mapError_eq_ok] at casts
    rcases Cast.integer_eq_ok casts with null | ⟨whole, rfl⟩
    · exact .inl null
    · have fits := Cast.inRange_of_integer sound casts
      exact .inr (.integer whole (Bool.or_eq_true .. ▸ fits))
  | number =>
    rw [castKind_number, except_mapError_eq_ok] at casts
    rcases Cast.real_eq_ok casts with null | ⟨x, rfl⟩
    · exact .inl null
    · exact .inr (.number x)
  | boolean =>
    rw [castKind_boolean, except_mapError_eq_ok] at casts
    rcases Cast.truth_eq_ok casts with null | ⟨flag, rfl⟩
    · exact .inl null
    · exact .inr (.boolean flag)
  | array => cases scalar
  | object => cases scalar
  | null => cases scalar

/-- What is accepted for a scalar field is null or a scalar of its kind. -/
theorem isScalar_of_process (sound : value.wellFormed) (scalar : field.property.kind.name.isScalar)
    (accepts : process value (form.fieldRules phonePattern field) = .ok result) :
    result = .null ∨ result.IsScalar field.property.kind.name := by
  have prepared := (process_eq_ok_iff.mp accepts).1
  rw [prepare_fieldRules, except_map_eq_ok] at prepared
  obtain ⟨cast, casts, rfl⟩ := prepared
  rcases isScalar_of_castKind sound scalar casts with rfl | isScalar
  · exact .inl rfl
  · exact .inr (isScalar.apply field.normalText)

end StandardEngine

namespace Processor

variable {document : Document} {loading config : Config} {form : Form} {processor : Processor}
  {submission : Members}

/-- A property of a scalar kind that has no errors has null or a scalar of its kind as its value. -/
theorem process_isScalar (sound : document.wellFormed)
    (loads : Form.ofDocument document loading = .ok form)
    (configured : Processor.ofConfig config StandardEngine.process = .ok processor)
    (submitted : (Document.object submission).wellFormed) :
    ∀ property ∈ form.schema.properties, property.kind.name.isScalar →
      (processor.process form submission).hasFieldErrors property.name = false →
      ∃ value, find? (processor.process form submission).data property.name = some value ∧
        (value = .null ∨ value.IsScalar property.kind.name) := by
  intro property declared scalar accepted
  obtain ⟨-, rfl⟩ := eq_of_ofConfig configured
  have root := Form.root_sound sound loads
  have distinct := (Document.wellFormed_object.mp submitted).1
  obtain ⟨field, member, rfl⟩ : ∃ field ∈ form.fields, field.property = property :=
    ⟨_, List.mem_map_of_mem declared, rfl⟩
  obtain ⟨value, accepts⟩ := (hasFieldErrors_field root member).mp accepted
  have raw : ((find? submission field.name).getD .null).wellFormed := by
    cases found : find? submission field.name with
    | none => rfl
    | some value => exact Document.wellFormed_of_find? submitted found
  have kept : find? (process ⟨config.phonePattern, StandardEngine.process⟩ form submission).data
      field.name = some value := by
    rw [find?_data_field root distinct member, FieldOutcome.value, accepts]
  exact ⟨value, kept, StandardEngine.isScalar_of_process raw scalar accepts⟩

/-- The greatest integer of an unsigned word for an integer with an editor, and a decimal in scientific
notation for a number. -/
theorem process_isScalar_widest :
    let document : Document := .object [
      ("schema", .object [("type", .string "object"),
        ("properties", .object [("count", .object [("type", .string "integer")]),
          ("ratio", .object [("type", .string "number")])])]),
      ("uischema", .object [("type", .string "Control"), ("scope", .string "#/properties/count"),
        ("options", .object [("type", .string "editor")])])]
    let submission : Members := [("count", .ofInt 18446744073709551615), ("ratio", .string " 25e-1 ")]
    document.wellFormed ∧ (Document.object submission).wellFormed ∧
      ∃ form processor, Form.ofDocument document digitsConfig = .ok form ∧
        Processor.ofConfig digitsConfig StandardEngine.process = .ok processor ∧
        ∃ count ∈ form.schema.properties, ∃ ratio ∈ form.schema.properties,
          count.kind.name = .integer ∧ ratio.kind.name = .number ∧
          (processor.process form submission).hasFieldErrors count.name = false ∧
          (processor.process form submission).hasFieldErrors ratio.name = false ∧
          (∃ value, find? (processor.process form submission).data count.name = some value ∧
            (value = .null ∨ value.IsScalar .integer)) ∧
          ∃ value, find? (processor.process form submission).data ratio.name = some value ∧
            (value = .null ∨ value.IsScalar .number) := by
  intro document submission
  have sound : document.wellFormed := by decide
  have submitted : (Document.object submission).wellFormed := by decide
  have loads : Form.ofDocument document digitsConfig = .ok _ := rfl
  have configured : Processor.ofConfig digitsConfig StandardEngine.process = .ok _ := rfl
  have scalars := process_isScalar sound loads configured submitted
  have count := scalars _ (List.mem_cons_self ..) rfl (by decide +kernel)
  have ratio := scalars _ (List.mem_cons_of_mem _ (List.mem_cons_self ..)) rfl (by decide +kernel)
  exact ⟨sound, submitted, _, _, loads, configured, _, List.mem_cons_self .., _,
    List.mem_cons_of_mem _ (List.mem_cons_self ..), rfl, rfl, by decide +kernel, by decide +kernel, count,
    ratio⟩

end Processor

end Intake
