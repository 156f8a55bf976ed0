import Intake.Proofs.Engine.Executable
import Intake.Proofs.Engine.Preparation

/-! # When rules fail

Casts and filters never fail for the sake of the rules, and of the validators only the one of
multiples does. So the rules of a field fail exactly on the numbers that are to be multiples of a
step that is not positive.
-/

namespace Intake.StandardEngine

private theorem validateBy_multiple_eq_error_iff {step : Number} (sound : step.inRange)
    {value : Document} {fault : RuleFault} :
    validateBy value (.withArgument "multiple_of" step.text) = .error fault ↔
      fault = .stepNotPositive ∧ (∃ x ∈ step.toBinary64?, x ≤ 0) ∧ ¬isEmptyInput value := by
  have known : Validator.find? "multiple_of" = some Validator.multiple := rfl
  have looks : ("multiple_of" ≠ presenceRule) := by decide
  rw [validateBy, Token.withArgument, known]
  by_cases empty : isEmptyInput value
  · simp [empty, looks]
  · simp [empty, Validator.multiple_eq_error_iff sound]

variable {form : Form} {phonePattern : String} {field : Field} {value : Document}

/-- The validators of a field only fail to be carried out for a step that is not positive, and then
on every value that is not empty. -/
theorem complaints_eq_error_iff (sound : field.property.kind.Sound)
    (phone : Pattern.isAccepted phonePattern) {fault : RuleFault} :
    complaints (form.fieldRules phonePattern field).validate value = .error fault ↔
      fault = .stepNotPositive ∧ field.property.kind.HasDeadStep ∧ ¬isEmptyInput value := by
  have stops {token : Token} (member : token ∈ (form.fieldRules phonePattern field).validate)
      {other : RuleFault} (faults : validateBy value token = .error other) :
      other = .stepNotPositive ∧ field.property.kind.HasDeadStep ∧ ¬isEmptyInput value := by
    rcases Form.fieldRules_run sound phone token member with runs | ⟨step, given, rfl⟩
    · exact absurd faults (Token.not_fault runs)
    · obtain ⟨same, dead, filled⟩ :=
        (validateBy_multiple_eq_error_iff (Kind.step?_inRange sound step given)).mp faults
      exact ⟨same, ⟨step, given, dead⟩, filled⟩
  rw [complaints_eq_error, except_mapM_eq_error fun token member other faults => (stops member faults).1]
  refine and_congr_right fun _ => ⟨?_, ?_⟩
  · rintro ⟨token, member, faults⟩
    exact (stops member faults).2
  · rintro ⟨⟨step, given, dead⟩, filled⟩
    have member : Token.withArgument "multiple_of" step.text ∈
        (form.fieldRules phonePattern field).validate := by
      rw [Form.fieldRules_validate]
      exact List.mem_append_left _ (List.mem_append_left _
        (List.mem_append_right _ (Property.mem_kindTokens_of_step given)))
    exact ⟨_, member, (validateBy_multiple_eq_error_iff (Kind.step?_inRange sound step given)).mpr
      ⟨rfl, dead, filled⟩⟩

theorem validate_eq_unexpected_iff {tokens : List Token} {reason : String} :
    validate tokens value = .error (.unexpected reason) ↔
      ∃ fault, complaints tokens value = .error fault ∧ reason = fault.message := by
  rw [validate]
  rcases complaints tokens value with fault | _ | ⟨complaint, others⟩ <;>
    simp [Failure.ofFault, eq_comm]

/-- A value that cannot be cast is a fault of the value, never one of the rules. -/
theorem castKind_ne_unexpected {kind : KindName} {reason : String} :
    castKind kind value ≠ .error (.unexpected reason) := by
  have invalid {result : Except Complaint Document} :
      result.mapError Failure.ofComplaint ≠ .error (.unexpected reason) := by
    cases result <;> nofun
  cases kind with
  | string => exact castKind_string value ▸ invalid
  | integer => exact castKind_integer value ▸ invalid
  | number => exact castKind_number value ▸ invalid
  | boolean => exact castKind_boolean value ▸ invalid
  | array => nofun
  | object => nofun
  | null => nofun

/-- What a value of a numeric kind is cast to is a number or null, which no filter changes. -/
theorem isEmptyInput_castKind {kind : Kind} (dead : kind.HasDeadStep) {cast : Document}
    (casts : castKind kind.name value = .ok cast) (change : String → String) :
    ¬isEmptyInput (Filter.apply change cast) ↔ ∃ number, cast = .number number := by
  obtain ⟨step, numeric, -⟩ := dead
  cases kind with
  | integer limits =>
    have whole := except_mapError_eq_ok.mp ((castKind_integer value).symm.trans casts)
    rcases Cast.integer_eq_ok whole with rfl | ⟨n, rfl⟩ <;>
      simp [isEmptyInput, Filter.apply, Document.ofInt]
  | number limits =>
    have real := except_mapError_eq_ok.mp ((castKind_number value).symm.trans casts)
    rcases Cast.real_eq_ok real with rfl | ⟨x, rfl⟩ <;> simp [isEmptyInput, Filter.apply]
  | _ => cases numeric

/-- The rules of a field fail to be carried out exactly on the numbers that are to be multiples of a
step that is not positive. -/
theorem process_eq_unexpected_iff (sound : field.property.kind.Sound)
    (phone : Pattern.isAccepted phonePattern) {reason : String} :
    process value (form.fieldRules phonePattern field) = .error (.unexpected reason) ↔
      reason = RuleFault.stepNotPositive.message ∧ field.property.kind.HasDeadStep ∧
        ∃ number, castKind field.property.kind.name value = .ok (.number number) := by
  rw [process_eq_prepare_bind, prepare_fieldRules]
  cases casts : castKind field.property.kind.name value with
  | error failure =>
    have invalid : failure ≠ .unexpected reason := fun same => castKind_ne_unexpected (same ▸ casts)
    simp [bind, Except.bind, Except.map, invalid]
  | ok cast =>
    have last : (Except.ok cast).map (Filter.apply field.normalText) >>=
        validate (form.fieldRules phonePattern field).validate =
          validate (form.fieldRules phonePattern field).validate (Filter.apply field.normalText cast) := rfl
    rw [last, validate_eq_unexpected_iff]
    simp only [complaints_eq_error_iff sound phone, Except.ok.injEq]
    constructor
    · rintro ⟨fault, ⟨rfl, dead, filled⟩, same⟩
      exact ⟨same, dead, (isEmptyInput_castKind dead casts field.normalText).mp filled⟩
    · rintro ⟨same, dead, isNumber⟩
      have filled := (isEmptyInput_castKind dead casts field.normalText).mpr isNumber
      exact ⟨.stepNotPositive, ⟨rfl, dead, filled⟩, same⟩

end Intake.StandardEngine
