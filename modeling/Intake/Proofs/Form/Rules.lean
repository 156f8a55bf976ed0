import Intake.Proofs.Form.Fields

/-! # The rules of a field, phase by phase

The cast of a field follows from its kind. Strings are trimmed; e-mail addresses and values to choose
from are put in lower case; an editor has its tags dropped, last of all. The names that a form lists
as required and the widget of the control only add to the validators. What a schema asks for comes down
to validators of a few names, so what is true of these names is true of all that it is compiled to.
-/

namespace Intake

/-- The validators that a widget adds. -/
def widgetValidators (widget : String) : List Token :=
  if widget = "file" then [.plain "file"] else if widget = "image" then [.plain "image"] else []

private theorem widgetRules_eq (widget : String) :
    widgetRules widget =
      ⟨none, [], if widget = "editor" then [.plain "strip_tags"] else [], widgetValidators widget⟩ := by
  by_cases editor : widget = "editor"
  · subst editor
    rfl
  · by_cases file : widget = "file"
    · subst file
      rfl
    · by_cases image : widget = "image"
      · subst image
        rfl
      · simp [widgetRules, Table.tokensOfWidget, Table.widgetTokens, Ne.symm editor, Ne.symm file,
          Ne.symm image, editor, widgetValidators, file, image, RuleSet.empty]

namespace Field

/-- The field is trimmed. -/
def trims (field : Field) : Bool := field.property.kind.name = .string

/-- The field is put in lower case. -/
def lowers (field : Field) : Bool :=
  field.property.kind.format? = some "email" || field.property.annotations.choices.isSome

/-- The field has its tags dropped. -/
def strips (field : Field) : Bool := field.widget? = some "editor"

/-- The validators that the control adds. -/
def controlTokens (field : Field) : List Token :=
  (field.widget?.map widgetValidators).getD []

end Field

namespace Form

variable (form : Form) (phonePattern : String) (field : Field)

theorem fieldRules_cast :
    (form.fieldRules phonePattern field).cast? =
      (Table.cast? field.property.kind.name).map .plain := by
  rw [fieldRules, RuleSet.requireListed, Field.rules]
  cases field.widget? with
  | none => rfl
  | some widget => simp [widgetRules_eq, RuleSet.merge, Property.rules]

theorem fieldRules_sanitize :
    (form.fieldRules phonePattern field).sanitize =
      if field.trims then [.plain "trim"] else [] := by
  rw [fieldRules, RuleSet.requireListed, Field.rules]
  cases field.widget? with
  | none => simp [Property.rules, Field.trims]
  | some widget => simp [widgetRules_eq, RuleSet.merge, Property.rules, Field.trims]

theorem fieldRules_transform :
    (form.fieldRules phonePattern field).transform =
      (if field.lowers then [.plain "lowercase"] else [])
        ++ if field.strips then [.plain "strip_tags"] else [] := by
  rw [fieldRules, RuleSet.requireListed, Field.rules, Field.strips]
  cases field.widget? with
  | none => simp [Property.rules, Field.lowers]
  | some widget => simp [widgetRules_eq, RuleSet.merge, Property.rules, Field.lowers]

theorem fieldRules_validate :
    (form.fieldRules phonePattern field).validate =
      (if field.property.required then [.plain "required"] else [])
        ++ field.property.kindTokens phonePattern
        ++ field.controlTokens
        ++ List.replicate (form.schema.requiredNames.count field.name) (.plain "required") := by
  rw [fieldRules, RuleSet.requireListed, Field.rules, Field.controlTokens]
  cases field.widget? with
  | none => simp [Property.rules]
  | some widget => simp [widgetRules_eq, RuleSet.merge, Property.rules]

end Form

/-- What is found in a table stands there. -/
theorem Table.mem_of_find? {α β : Type} [BEq α] {table : List (α × β)} {key : α} {value : β}
    (found : Table.find? table key = some value) : ∃ entry ∈ table, entry.2 = value := by
  obtain ⟨entry, known, rfl⟩ := Option.map_eq_some_iff.mp found
  exact ⟨entry, List.mem_of_find?_eq_some known, rfl⟩

theorem Table.mediaTypeValidator_eq (mediaType : String) :
    mediaTypeValidator mediaType = "json" ∨ mediaTypeValidator mediaType = "string" := by
  have listed : ∀ entry ∈ mediaTypeValidators, entry.2 = "json" := by decide
  rw [mediaTypeValidator]
  cases found : find? mediaTypeValidators mediaType with
  | none => exact .inr rfl
  | some name =>
    obtain ⟨entry, known, rfl⟩ := mem_of_find? found
    exact .inl (listed entry known)

theorem Table.numericValidator?_eq (kind : KindName) :
    ∀ name ∈ numericValidator? kind, name = "int" ∨ name = "numeric" := by
  intro name found
  have listed : ∀ entry ∈ numericValidators, entry.2 = "int" ∨ entry.2 = "numeric" := by decide
  obtain ⟨entry, known, rfl⟩ := mem_of_find? found
  exact listed entry known

theorem mem_limitToken {name : String} {argument? : Option String} {token : Token} :
    token ∈ limitToken name argument? ↔ ∃ argument ∈ argument?, token = .withArgument name argument := by
  simp [limitToken, eq_comm]

section

variable {holds : Token → Prop} {phonePattern : String}

/-- What holds of the tokens in the table, of the one for a format that is not in it and of the pattern
of telephone numbers holds of the token of every format. -/
theorem Property.forall_mem_formatTokens
    (listed : ∀ entry ∈ Table.formatRules, ∀ token, entry.2 = .token token → holds token)
    (unlisted : holds (.plain "string")) (phone : holds (.withArgument "regex" phonePattern))
    (format? : Option String) : ∀ token ∈ formatTokens phonePattern format?, holds token := by
  intro token member
  obtain ⟨format, -, rfl⟩ := Option.map_eq_some_iff.mp (Option.mem_toList.mp member)
  rw [Table.formatRule]
  cases found : Table.find? Table.formatRules format with
  | none => exact unlisted
  | some rule =>
    obtain ⟨entry, known, rfl⟩ := Table.mem_of_find? found
    rw [Option.getD_some]
    cases same : entry.2 with
    | token token => exact listed entry known token same
    | phone => exact phone

theorem Field.forall_mem_controlTokens (file : holds (.plain "file")) (image : holds (.plain "image"))
    (field : Field) : ∀ token ∈ field.controlTokens, holds token := by
  rw [controlTokens]
  cases field.widget? with
  | none => exact List.forall_mem_nil _
  | some widget =>
    simp only [Option.map_some, Option.getD_some, widgetValidators]
    split_ifs
    · exact List.forall_mem_singleton.mpr file
    · exact List.forall_mem_singleton.mpr image
    · exact List.forall_mem_nil _

end

/-- The names of the validators that the limits and choices of a schema are compiled to. -/
def Table.limitNames : List String := [
  "min_length", "max_length", "email", "url", "date_format", "regex", "hostname", "ip", "uuid", "base64",
  "json", "string", "in", "int", "numeric", "gte", "lte", "gt", "lt", "multiple_of", "min_items",
  "max_items", "unique"]

namespace Property

variable (property : Property) (phonePattern : String)

private theorem limitToken_name_mem {name : String} (known : name ∈ Table.limitNames)
    (argument? : Option String) :
    ∀ token ∈ limitToken name argument?, token.name ∈ Table.limitNames := by
  intro token member
  obtain ⟨argument, -, rfl⟩ := mem_limitToken.mp member
  exact known

private theorem formatTokens_name_mem (format? : Option String) :
    ∀ token ∈ formatTokens phonePattern format?, token.name ∈ Table.limitNames := by
  refine forall_mem_formatTokens ?_ (by decide) (by simp [Token.withArgument, Table.limitNames]) format?
  simp [Table.formatRules, Token.plain, Token.withArgument, Table.limitNames]

private theorem stringTokens_name_mem (limits : StringLimits) :
    ∀ token ∈ property.stringTokens phonePattern limits, token.name ∈ Table.limitNames := by
  have media : ∀ token ∈ (limits.mediaType.map fun media =>
      Token.plain (Table.mediaTypeValidator media)).toList, token.name ∈ Table.limitNames := by
    intro token member
    obtain ⟨mediaType, -, rfl⟩ := Option.map_eq_some_iff.mp (Option.mem_toList.mp member)
    rcases Table.mediaTypeValidator_eq mediaType with same | same <;> rw [same] <;> decide
  simp only [stringTokens, choiceTokens, List.forall_mem_append]
  exact ⟨⟨⟨⟨⟨limitToken_name_mem (by decide) _, limitToken_name_mem (by decide) _⟩,
    formatTokens_name_mem phonePattern _⟩, limitToken_name_mem (by decide) _⟩,
    limitToken_name_mem (by decide) _⟩, media⟩

private theorem numberTokens_name_mem (kind : KindName) (limits : NumberLimits) :
    ∀ token ∈ numberTokens kind limits, token.name ∈ Table.limitNames := by
  have numeric : ∀ token ∈ ((Table.numericValidator? kind).map Token.plain).toList,
      token.name ∈ Table.limitNames := by
    intro token member
    obtain ⟨name, found, rfl⟩ := Option.map_eq_some_iff.mp (Option.mem_toList.mp member)
    rcases Table.numericValidator?_eq kind name found with rfl | rfl <;> decide
  simp only [numberTokens, List.forall_mem_append]
  refine ⟨⟨⟨⟨⟨numeric, ?_⟩, ?_⟩, ?_⟩, ?_⟩, ?_⟩ <;> exact limitToken_name_mem (by decide) _

private theorem listTokens_name_mem (limits : ListLimits) :
    ∀ token ∈ listTokens limits, token.name ∈ Table.limitNames := by
  simp only [listTokens, List.forall_mem_append]
  refine ⟨⟨limitToken_name_mem (by decide) _, limitToken_name_mem (by decide) _⟩, ?_⟩
  split_ifs
  · exact List.forall_mem_singleton.mpr (by decide)
  · exact List.forall_mem_nil _

/-- Whatever the kind of a schema, it is compiled to validators of the names in the list. -/
theorem kindTokens_name_mem : ∀ token ∈ property.kindTokens phonePattern,
    token.name ∈ Table.limitNames := by
  have choices : ∀ token ∈ property.choiceTokens, token.name ∈ Table.limitNames :=
    limitToken_name_mem (by decide) _
  rw [kindTokens]
  cases property.kind with
  | string limits => exact property.stringTokens_name_mem phonePattern limits
  | integer limits | number limits =>
    exact List.forall_mem_append.mpr ⟨numberTokens_name_mem _ limits, choices⟩
  | boolean => exact choices
  | array limits items contains => exact listTokens_name_mem limits
  | object limits properties additional => exact List.forall_mem_nil _
  | null => exact List.forall_mem_nil _

end Property

end Intake
