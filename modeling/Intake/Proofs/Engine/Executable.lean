import Intake.Engine.Standard
import Intake.Proofs.Document.NumberText
import Intake.Proofs.Form.Rules

/-! # Rules that can be carried out

Every validator of a compiled rule set is known and finds an argument that it can use, whatever the
value: counts and numbers are read back from their text, patterns were accepted when the schema was
loaded, and the remaining arguments are fixed. The one exception are steps that are not positive.
-/

namespace Intake

namespace Validator

/-- The validator can be carried out with the argument, whatever the value. -/
def RunsWith (validator : Validator) (argument? : Option String) : Prop :=
  ∀ value, ∃ complaint?, validator argument? value = .ok complaint?

private theorem plain_runs {passes : Document → Bool} {complaint : Complaint}
    {argument? : Option String} : (plain passes complaint).RunsWith argument? := fun _ => ⟨_, rfl⟩

private theorem unique_runs {argument? : Option String} : unique.RunsWith argument? := by
  intro value
  rw [unique]
  cases value.items? <;> exact ⟨_, rfl⟩

theorem choice_runs (choices : String) : choice.RunsWith (some choices) := fun _ => ⟨_, rfl⟩

theorem countArgument_repr (rule : String) {n : Nat} (fits : IsCount n) :
    countArgument rule (some n.repr) = .ok n := by
  have read : Text.unsigned? (Text.trimChars n.repr.toList) = some n := by
    rw [Nat.toList_repr, Text.trimChars_of_isNumeral Binary64.isNumeral_of_mem_toDigits,
      Text.unsigned?_toDigits fits]
  simp only [countArgument, argument, bind, Except.bind, read]
  rfl

private theorem length_runs (rule : String) (fits : Nat → Nat → Bool) (complaint : Nat → Complaint)
    {n : Nat} (sound : IsCount n) : (length rule fits complaint).RunsWith (some n.repr) := by
  intro value
  rw [length, countArgument_repr rule sound]
  exact ⟨_, rfl⟩

private theorem itemCount_runs (rule : String) (fits : Nat → Nat → Bool) (complaint : Nat → Complaint)
    {n : Nat} (sound : IsCount n) : (itemCount rule fits complaint).RunsWith (some n.repr) := by
  intro value
  rw [itemCount, countArgument_repr rule sound]
  cases items : value.items? <;> exact ⟨_, rfl⟩

/-- The text of a number is an argument that stands for the nearest binary64 number. -/
theorem numberArgument_text (rule : String) {number : Number} (sound : number.inRange) :
    ∃ x, number.toBinary64? = some x ∧
      numberArgument rule (some number.text) = .ok (number.text, x) := by
  obtain ⟨read, isSome⟩ := Number.number?_text sound
  obtain ⟨x, nearest⟩ := Option.isSome_iff_exists.mp isSome
  refine ⟨x, nearest, ?_⟩
  simp [numberArgument, argument, read, nearest, bind, Except.bind, pure, Except.pure]

private theorem bound_runs (relation : Relation) {number : Number} (sound : number.inRange) :
    (bound relation).RunsWith (some number.text) := by
  intro value
  obtain ⟨x, -, read⟩ := numberArgument_text relation.ruleName sound
  rw [bound, read]
  cases same : number? value <;> exact ⟨_, rfl⟩

/-- Multiples can be told exactly for a positive step. -/
theorem multiple_eq_error_iff {step : Number} (sound : step.inRange) {value : Document}
    {fault : RuleFault} :
    multiple (some step.text) value = .error fault ↔
      fault = .stepNotPositive ∧ ∃ x ∈ step.toBinary64?, x ≤ 0 := by
  obtain ⟨x, nearest, read⟩ := numberArgument_text "multiple_of" sound
  rw [multiple, read, nearest]
  by_cases positive : x ≤ 0
  · simp [positive, bind, Except.bind, throw, throwThe, MonadExceptOf.throw, eq_comm]
  · cases number? value <;> simp [positive, bind, Except.bind, pure, Except.pure]

private theorem pattern_runs {source : String} (accepted : Pattern.isAccepted source) :
    pattern.RunsWith (some source) := by
  intro value
  obtain ⟨compiled, compiles⟩ := Loader.pattern_accepted_iff.mp accepted
  simp [pattern, argument, compiles, bind, Except.bind, pure, Except.pure]

private theorem dateFormat_runs {format : String} {letters : LetterFormat}
    (read : LetterFormat.ofText format = .ok letters) : dateFormat.RunsWith (some format) := by
  intro value
  simp [dateFormat, argument, read, bind, Except.bind, pure, Except.pure]

end Validator

/-- The token can be carried out, whatever the value. -/
def Token.Runs (token : Token) : Prop :=
  ∀ value, ∃ complaint?, StandardEngine.validateBy value token = .ok complaint?

private theorem Token.Runs.of_find? {token : Token} {validator : Validator}
    (known : Validator.find? token.name = some validator)
    (runs : validator.RunsWith token.argument?) : token.Runs := by
  intro value
  rw [StandardEngine.validateBy, known]
  dsimp only
  split
  · exact ⟨_, rfl⟩
  · exact runs value

theorem Token.not_fault {token : Token} (runs : token.Runs) {value : Document} {fault : RuleFault} :
    StandardEngine.validateBy value token ≠ .error fault := by
  obtain ⟨complaint?, passes⟩ := runs value
  rw [passes]
  nofun

theorem Token.required_runs : (Token.plain "required").Runs :=
  .of_find? rfl Validator.plain_runs

private theorem Table.formatRules_run : ∀ entry ∈ Table.formatRules, ∀ token,
    entry.2 = .token token → token.Runs := by
  intro entry member token same
  simp only [Table.formatRules, List.mem_cons, List.not_mem_nil, or_false] at member
  rcases member with rfl | rfl | rfl | rfl | rfl | rfl | rfl | rfl | rfl | rfl | rfl | rfl | rfl <;>
    cases same <;>
    first
    | exact .of_find? rfl Validator.plain_runs
    | exact .of_find? rfl (Validator.dateFormat_runs rfl)

/-- The number that the values of a numeric kind are to be multiples of. -/
def Kind.step? : Kind → Option Number
  | .integer limits => limits.multipleOf
  | .number limits => limits.multipleOf
  | _ => none

/-- The values of the kind are to be multiples of a number that is not positive. -/
def Kind.HasDeadStep (kind : Kind) : Prop := ∃ step ∈ kind.step?, ∃ x ∈ step.toBinary64?, x ≤ 0

theorem Kind.step?_inRange {kind : Kind} (sound : kind.Sound) : ∀ step ∈ kind.step?, step.inRange := by
  cases kind with
  | integer limits => exact NumberLimits.Sound.multipleOf sound
  | number limits => exact NumberLimits.Sound.multipleOf sound
  | _ => nofun

private theorem limitToken_run {name : String} {argument? : Option String}
    (runs : ∀ argument ∈ argument?, (Token.withArgument name argument).Runs) :
    ∀ token ∈ limitToken name argument?, token.Runs := by
  intro token member
  obtain ⟨argument, given, rfl⟩ := Option.map_eq_some_iff.mp (Option.mem_toList.mp member)
  exact runs argument given

namespace Property

variable {phonePattern : String} {token : Token}

private theorem choiceTokens_run (property : Property) : ∀ token ∈ property.choiceTokens, token.Runs :=
  limitToken_run fun choices _ => .of_find? rfl (Validator.choice_runs choices)

private theorem formatTokens_run (phone : Pattern.isAccepted phonePattern) (format? : Option String) :
    ∀ token ∈ formatTokens phonePattern format?, token.Runs :=
  forall_mem_formatTokens Table.formatRules_run (.of_find? rfl Validator.plain_runs)
    (.of_find? rfl (Validator.pattern_runs phone)) format?

private theorem mediaTypeToken_runs (mediaType : String) :
    (Token.plain (Table.mediaTypeValidator mediaType)).Runs := by
  rcases Table.mediaTypeValidator_eq mediaType with same | same <;> rw [same] <;>
    exact .of_find? rfl Validator.plain_runs

theorem stringTokens_run {limits : StringLimits} (sound : limits.Sound)
    (phone : Pattern.isAccepted phonePattern) (property : Property) :
    ∀ token ∈ property.stringTokens phonePattern limits, token.Runs := by
  have shortest : Validator.find? "min_length" =
      some (Validator.length "min_length" (fun length least => least ≤ length) .tooShort) := rfl
  have longest : Validator.find? "max_length" =
      some (Validator.length "max_length" (fun length most => length ≤ most) .tooLong) := rfl
  simp only [stringTokens, List.forall_mem_append]
  refine ⟨⟨⟨⟨⟨limitToken_run ?_, limitToken_run ?_⟩, formatTokens_run phone _⟩, limitToken_run ?_⟩,
    property.choiceTokens_run⟩, ?_⟩
  · rw [Option.forall_mem_map]
    exact fun n given => .of_find? shortest (Validator.length_runs _ _ _ (sound.minLength n given))
  · rw [Option.forall_mem_map]
    exact fun n given => .of_find? longest (Validator.length_runs _ _ _ (sound.maxLength n given))
  · exact fun source given => .of_find? rfl (Validator.pattern_runs (sound.pattern source given))
  · intro token member
    obtain ⟨mediaType, -, rfl⟩ := Option.map_eq_some_iff.mp (Option.mem_toList.mp member)
    exact mediaTypeToken_runs mediaType

/-- A number can be validated by all tokens but perhaps the last one. -/
theorem numberTokens_run {limits : NumberLimits} (sound : limits.Sound) {kind : KindName} :
    ∀ token ∈ numberTokens kind limits,
      token.Runs ∨ ∃ step ∈ limits.multipleOf, token = .withArgument "multiple_of" step.text := by
  have bounds (relation : Relation)
      (known : Validator.find? relation.ruleName = some (Validator.bound relation))
      {number? : Option Number} (inRange : ∀ number ∈ number?, number.inRange) :
      ∀ token ∈ limitToken relation.ruleName (number?.map Number.text), token.Runs := by
    refine limitToken_run ?_
    rw [Option.forall_mem_map]
    exact fun number given => .of_find? known (Validator.bound_runs relation (inRange number given))
  have numeric : ∀ token ∈ ((Table.numericValidator? kind).map Token.plain).toList, token.Runs := by
    intro token member
    obtain ⟨name, found, rfl⟩ := Option.map_eq_some_iff.mp (Option.mem_toList.mp member)
    rcases Table.numericValidator?_eq kind name found with rfl | rfl <;>
      exact .of_find? rfl Validator.plain_runs
  intro token member
  rw [numberTokens, List.mem_append] at member
  rcases member with member | member
  · refine .inl ?_
    revert token
    simp only [List.forall_mem_append]
    exact ⟨⟨⟨⟨numeric, bounds .atLeast rfl sound.minimum⟩, bounds .atMost rfl sound.maximum⟩,
      bounds .above rfl sound.exclusiveMinimum⟩, bounds .below rfl sound.exclusiveMaximum⟩
  · obtain ⟨_, written, rfl⟩ := mem_limitToken.mp member
    obtain ⟨step, given, rfl⟩ := Option.mem_map.mp written
    exact .inr ⟨step, given, rfl⟩

private theorem listTokens_run {limits : ListLimits} (sound : limits.Sound) :
    ∀ token ∈ listTokens limits, token.Runs := by
  have fewest : Validator.find? "min_items" =
      some (Validator.itemCount "min_items" (fun count least => least ≤ count) .tooFewItems) := rfl
  have most : Validator.find? "max_items" =
      some (Validator.itemCount "max_items" (fun count most => count ≤ most) .tooManyItems) := rfl
  simp only [listTokens, List.forall_mem_append]
  refine ⟨⟨limitToken_run ?_, limitToken_run ?_⟩, ?_⟩
  · rw [Option.forall_mem_map]
    exact fun n given => .of_find? fewest (Validator.itemCount_runs _ _ _ (sound.minItems n given))
  · rw [Option.forall_mem_map]
    exact fun n given => .of_find? most (Validator.itemCount_runs _ _ _ (sound.maxItems n given))
  · split_ifs
    · exact List.forall_mem_singleton.mpr (.of_find? rfl Validator.unique_runs)
    · exact List.forall_mem_nil _

/-- The validators of a sound schema can be carried out, but perhaps the one of multiples. -/
theorem kindTokens_run {property : Property} (sound : property.kind.Sound)
    (phone : Pattern.isAccepted phonePattern) :
    ∀ token ∈ property.kindTokens phonePattern,
      token.Runs ∨ ∃ step ∈ property.kind.step?, token = .withArgument "multiple_of" step.text := by
  rw [kindTokens]
  cases kind : property.kind with
  | string limits =>
    rw [kind] at sound
    exact fun token member => .inl (stringTokens_run sound phone property token member)
  | integer limits =>
    rw [kind] at sound
    exact List.forall_mem_append.mpr ⟨numberTokens_run sound, fun token member =>
      .inl (property.choiceTokens_run token member)⟩
  | number limits =>
    rw [kind] at sound
    exact List.forall_mem_append.mpr ⟨numberTokens_run sound, fun token member =>
      .inl (property.choiceTokens_run token member)⟩
  | boolean => exact fun token member => .inl (property.choiceTokens_run token member)
  | array limits items contains =>
    rw [kind] at sound
    exact fun token member => .inl (listTokens_run sound.1 token member)
  | object limits properties additional => exact List.forall_mem_nil _
  | null => exact List.forall_mem_nil _

theorem mem_kindTokens_of_step {property : Property} {step : Number}
    (given : step ∈ property.kind.step?) :
    Token.withArgument "multiple_of" step.text ∈ property.kindTokens phonePattern := by
  have member {limits : NumberLimits} (given : step ∈ limits.multipleOf) (kind : KindName) :
      Token.withArgument "multiple_of" step.text ∈ numberTokens kind limits :=
    List.mem_append_right _ (mem_limitToken.mpr ⟨_, Option.mem_map_of_mem _ given, rfl⟩)
  rw [kindTokens]
  cases kind : property.kind <;> rw [kind] at given
  case integer limits => exact List.mem_append_left _ (member given _)
  case number limits => exact List.mem_append_left _ (member given _)
  all_goals cases given

end Property

/-- Every validator of a field can be carried out, but perhaps the one of multiples. -/
theorem Form.fieldRules_run {form : Form} {phonePattern : String} {field : Field}
    (sound : field.property.kind.Sound) (phone : Pattern.isAccepted phonePattern) :
    ∀ token ∈ (form.fieldRules phonePattern field).validate,
      token.Runs ∨ ∃ step ∈ field.property.kind.step?, token = .withArgument "multiple_of" step.text := by
  have control : ∀ token ∈ field.controlTokens, token.Runs :=
    field.forall_mem_controlTokens (.of_find? rfl Validator.plain_runs)
      (.of_find? rfl Validator.plain_runs)
  simp only [fieldRules_validate, List.forall_mem_append]
  refine ⟨⟨⟨?_, Property.kindTokens_run sound phone⟩, fun token member => .inl (control token member)⟩, ?_⟩
  · split_ifs
    · exact List.forall_mem_singleton.mpr (.inl Token.required_runs)
    · exact List.forall_mem_nil _
  · intro token member
    exact .inl (List.eq_of_mem_replicate member ▸ Token.required_runs)

end Intake
