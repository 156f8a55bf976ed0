import Intake.Engine.Standard
import Intake.Proofs.Form.Rules
import Intake.Proofs.Text.Trimming

/-! # The normal form of a value

Before it is validated, a value is cast and filtered. Casting leaves its own results alone, and so
do the filters of a field taken together, but for one thing: tags are dropped after the text was
trimmed, so blanks that a tag had kept inside may end up outside. A string field with an editor is
therefore in its normal form exactly if no blanks are left at its ends.
-/

namespace Intake

namespace StandardEngine

/-- What happens to a value before it is validated. -/
def prepare (rules : RuleSet) (value : Document) : Except Failure Document := do
  let value ← cast rules.cast? value
  let value ← filter .sanitize rules.sanitize value
  filter .transform rules.transform value

/-- A value is validated in the form that casting and filtering give it. -/
theorem process_eq_prepare_bind (value : Document) (rules : RuleSet) :
    process value rules = prepare rules value >>= validate rules.validate := by
  simp only [process, prepare, bind_assoc]

theorem validate_eq_ok_iff {tokens : List Token} {value result : Document} :
    validate tokens value = .ok result ↔ complaints tokens value = .ok [] ∧ value = result := by
  rw [validate]
  rcases complaints tokens value with fault | _ | ⟨complaint, others⟩ <;> simp

/-- Complaints are gathered unless a validator cannot be carried out. -/
theorem complaints_eq_error {tokens : List Token} {value : Document} {fault : RuleFault} :
    complaints tokens value = .error fault ↔ tokens.mapM (validateBy value) = .error fault := by
  rw [complaints]
  cases tokens.mapM (validateBy value) <;> simp [bind, Except.bind, pure, Except.pure]

/-- A value is accepted as its normal form if no validator complains about that. -/
theorem process_eq_ok_iff {rules : RuleSet} {value result : Document} :
    process value rules = .ok result ↔
      prepare rules value = .ok result ∧ complaints rules.validate result = .ok [] := by
  simp only [process, prepare, except_bind_eq_ok, validate_eq_ok_iff]
  constructor
  · rintro ⟨cast, casts, sanitized, sanitizes, transformed, transforms, passes, rfl⟩
    exact ⟨⟨cast, casts, sanitized, sanitizes, transforms⟩, passes⟩
  · rintro ⟨⟨cast, casts, sanitized, sanitizes, transforms⟩, passes⟩
    exact ⟨cast, casts, sanitized, sanitizes, result, transforms, passes, rfl⟩

/-- How the values of a kind are cast. -/
def castKind (kind : KindName) : Document → Except Failure Document :=
  cast ((Table.cast? kind).map .plain)

theorem castKind_string (value : Document) :
    castKind .string value = (Cast.string value).mapError .ofComplaint := rfl

theorem castKind_integer (value : Document) :
    castKind .integer value = (Cast.integer value).mapError .ofComplaint := rfl

theorem castKind_number (value : Document) :
    castKind .number value = (Cast.real value).mapError .ofComplaint := rfl

theorem castKind_boolean (value : Document) :
    castKind .boolean value = (Cast.truth value).mapError .ofComplaint := rfl

end StandardEngine

namespace Cast

theorem string_eq_ok {value result : Document} (casts : string value = .ok result) :
    result = .null ∨ ∃ text, result = .string text := by
  cases value <;> cases casts
  · exact .inl rfl
  · exact .inr ⟨_, rfl⟩
  · exact .inr ⟨_, rfl⟩
  · exact .inr ⟨_, rfl⟩

theorem integer_eq_ok {value result : Document} (casts : integer value = .ok result) :
    result = .null ∨ ∃ whole, result = .ofInt whole := by
  rw [integer] at casts
  split at casts
  · cases casts
    exact .inl rfl
  · split at casts <;> cases casts
    exact .inr ⟨_, rfl⟩

theorem real_eq_ok {value result : Document} (casts : real value = .ok result) :
    result = .null ∨ ∃ x, result = .number (.real x) := by
  rw [real] at casts
  split at casts
  · cases casts
    exact .inl rfl
  · split at casts <;> cases casts
    exact .inr ⟨_, rfl⟩

theorem truth_eq_ok {value result : Document} (casts : truth value = .ok result) :
    result = .null ∨ ∃ flag, result = .bool flag := by
  rw [truth] at casts
  split at casts
  · cases casts
    exact .inl rfl
  · split at casts <;> cases casts
    exact .inr ⟨_, rfl⟩

end Cast

/-- What was cast is cast to itself, also after its text was changed. -/
theorem StandardEngine.castKind_apply {kind : KindName} {value result : Document}
    (casts : castKind kind value = .ok result) (change : String → String) :
    castKind kind (Filter.apply change result) = .ok (Filter.apply change result) := by
  cases kind with
  | string =>
    rw [castKind_string, except_mapError_eq_ok] at casts ⊢
    rcases Cast.string_eq_ok casts with rfl | ⟨text, rfl⟩ <;> rfl
  | integer =>
    rw [castKind_integer, except_mapError_eq_ok] at casts ⊢
    rcases Cast.integer_eq_ok casts with rfl | ⟨whole, rfl⟩ <;> rfl
  | number =>
    rw [castKind_number, except_mapError_eq_ok] at casts ⊢
    rcases Cast.real_eq_ok casts with rfl | ⟨x, rfl⟩ <;> rfl
  | boolean =>
    rw [castKind_boolean, except_mapError_eq_ok] at casts ⊢
    rcases Cast.truth_eq_ok casts with rfl | ⟨flag, rfl⟩ <;> rfl
  | array => rfl
  | object => rfl
  | null => rfl

namespace Filter

theorem apply_apply (first second : String → String) (value : Document) :
    apply second (apply first value) = apply (second ∘ first) value := by
  cases value <;> rfl

private theorem apply_id (value : Document) : apply id value = value := by
  cases value <;> rfl

/-- A change of texts leaves a value alone if the value is no text that it changes. -/
theorem apply_eq_self_iff {change : String → String} {value : Document} :
    apply change value = value ↔ ∀ text, value = .string text → change text = text := by
  cases value <;> simp [apply]

end Filter

namespace StandardEngine

private theorem filter_append (phase : Phase) (first second : List Token) (value : Document) :
    filter phase (first ++ second) value = filter phase first value >>= filter phase second :=
  List.foldlM_append

/-- A token that stands for a filter applies it, if the token is there. -/
theorem filter_if {name : String} {change : String → String} (known : Filter.find? name = some change)
    (phase : Phase) (present : Bool) (value : Document) :
    filter phase (if present then [.plain name] else []) value =
      .ok (Filter.apply (if present then change else id) value) := by
  cases present with
  | false =>
    simp only [Bool.false_eq_true, if_false, Filter.apply_id]
    rfl
  | true => simp [filter, Token.plain, known, pure, Except.pure, bind, Except.bind]

end StandardEngine

namespace Field

/-- What the filters of a field make of a text. -/
def normalText (field : Field) : String → String :=
  (if field.strips then Text.stripTags else id) ∘ (if field.lowers then Text.lower else id) ∘
    if field.trims then Text.trim else id

variable {field : Field}

private theorem trim_normalText (trims : field.trims) (keepsTags : ¬field.strips) (text : String) :
    Text.trim (field.normalText text) = field.normalText text := by
  have trimmed : Text.IsTrimmed (Text.trim text).toList := Text.trim_eq_self_iff.mp (Text.trim_trim text)
  rw [Text.trim_eq_self_iff]
  cases lowers : field.lowers with
  | false => simpa [normalText, trims, keepsTags, lowers] using trimmed
  | true => simpa [normalText, trims, keepsTags, lowers, Text.lower] using trimmed.lowerAfter []

private theorem isLower_normalText (lowers : field.lowers) (text : String) :
    ∀ c ∈ (field.normalText text).toList, Text.IsLower c := by
  cases strips : field.strips with
  | false => simpa [normalText, lowers, strips] using Text.isLower_of_mem_lower
  | true =>
    simp only [normalText, lowers, strips, if_true, Function.comp_apply, Text.stripTags,
      String.toList_ofList]
    exact fun c member =>
      Text.isLower_of_mem_lower c ((Text.withoutTags_sublist false _).subset member)

private theorem stripTags_normalText (strips : field.strips) (text : String) :
    Text.stripTags (field.normalText text) = field.normalText text := by
  simp [normalText, strips, Text.stripTags_stripTags]

/-- Filtering once more changes a text exactly if tags were dropped and left blanks at its ends. -/
theorem normalText_normalText_iff (text : String) :
    field.normalText (field.normalText text) = field.normalText text ↔
      (field.trims → field.strips → Text.trim (field.normalText text) = field.normalText text) := by
  generalize same : field.normalText text = normal
  have lowered (shorter : String) (within : shorter.toList.Sublist normal.toList) :
      (if field.lowers then Text.lower else id) shorter = shorter := by
    cases lowers : field.lowers with
    | false => rfl
    | true =>
      exact Text.lower_of_isLower fun c member =>
        isLower_normalText lowers text c (same ▸ within.subset member)
  constructor
  · intro again trims strips
    -- Dropping tags from what is trimmed cannot give back what trimming took away.
    rw [normalText, if_pos strips, if_pos trims, Function.comp_apply, Function.comp_apply,
      lowered _ (Text.trim_sublist normal)] at again
    exact Text.eq_of_stripTags_eq (Text.trim_sublist normal) again
  · intro trimmed
    have ends : (if field.trims then Text.trim else id) normal = normal := by
      cases trims : field.trims with
      | false => rfl
      | true =>
        by_cases strips : field.strips
        · exact trimmed trims strips
        · exact same ▸ trim_normalText trims strips text
    have tags : (if field.strips then Text.stripTags else id) normal = normal := by
      cases strips : field.strips with
      | false => rfl
      | true => exact same ▸ stripTags_normalText strips text
    rw [normalText, Function.comp_apply, Function.comp_apply, ends, lowered _ (List.Sublist.refl _),
      tags]

end Field

namespace StandardEngine

variable {form : Form} {phonePattern : String} {field : Field} {value result : Document}

theorem prepare_fieldRules (form : Form) (phonePattern : String) (field : Field) (value : Document) :
    prepare (form.fieldRules phonePattern field) value =
      (castKind field.property.kind.name value).map (Filter.apply field.normalText) := by
  rw [prepare, Form.fieldRules_cast, Form.fieldRules_sanitize, Form.fieldRules_transform, ← castKind]
  have trim : Filter.find? "trim" = some Text.trim := rfl
  have lowercase : Filter.find? "lowercase" = some Text.lower := rfl
  have strip : Filter.find? "strip_tags" = some Text.stripTags := rfl
  cases castKind field.property.kind.name value with
  | error failure => rfl
  | ok value =>
    simp only [filter_append, filter_if trim, filter_if lowercase, filter_if strip, bind, Except.bind,
      Filter.apply_apply, Except.map]
    rfl

/-- What was prepared is prepared to itself, except when dropping tags left blanks at its ends. -/
theorem prepare_again_iff (prepared : prepare (form.fieldRules phonePattern field) value = .ok result) :
    prepare (form.fieldRules phonePattern field) result = .ok result ↔
      (field.trims → field.strips → ∀ text, result = .string text → Text.trim text = text) := by
  rw [prepare_fieldRules] at prepared ⊢
  obtain ⟨cast, casts, rfl⟩ := except_map_eq_ok.mp prepared
  rw [castKind_apply casts, Except.map, Except.ok.injEq, Filter.apply_eq_self_iff]
  cases cast with
  | string text => simpa [Filter.apply] using Field.normalText_normalText_iff text
  | _ => simp [Filter.apply]

end StandardEngine

end Intake
