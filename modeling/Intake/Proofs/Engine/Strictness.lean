import Intake.Proofs.Engine.Conjunction
import Mathlib.Data.List.Flatten

/-! # Requirements that are added

Rules that validate more than others and otherwise do the same to a value accept less: what they accept
the others accept too, as the same value, and of what they complain about the others complain of a part,
in the same order. Whatever a form may require of a field adds rules in this way. The mark of its
schema puts a validator in front, an upload one behind, and the list of required names more at the end.
-/

namespace Intake

/-- The stricter rules cast and filter like the others and have all of their validators. -/
structure RuleSet.IsPartOf (rules stricter : RuleSet) : Prop where
  cast : stricter.cast? = rules.cast?
  sanitize : stricter.sanitize = rules.sanitize
  transform : stricter.transform = rules.transform
  validate : rules.validate.Sublist stricter.validate

namespace StandardEngine

variable {tokens others : List Token} {value raw : Document} {rules stricter : RuleSet}

private theorem prepare_of_isPartOf (part : rules.IsPartOf stricter) (raw : Document) :
    prepare stricter raw = prepare rules raw := by
  rw [prepare, prepare, part.cast, part.sanitize, part.transform]

/-- Where many validators can be carried out a part of them can, and complains of a part. -/
theorem complaints_of_sublist (part : tokens.Sublist others) {found : List Complaint}
    (gathered : complaints others value = .ok found) :
    ∃ own, complaints tokens value = .ok own ∧ own.Sublist found := by
  obtain ⟨run, rfl⟩ := complaints_eq_ok_iff.mp gathered
  have runs : ∀ token ∈ tokens, ∃ complaint?, validateBy value token = .ok complaint? :=
    fun token member => run token (part.subset member)
  exact ⟨_, complaints_eq_ok_iff.mpr ⟨runs, rfl⟩, part.flatMap _⟩

private theorem validate_of_sublist_ok (part : tokens.Sublist others) {result : Document}
    (accepts : validate others value = .ok result) : validate tokens value = .ok result := by
  obtain ⟨silent, rfl⟩ := validate_eq_ok_iff.mp accepts
  obtain ⟨own, gathered, less⟩ := complaints_of_sublist part silent
  rw [List.sublist_nil.mp less] at gathered
  exact validate_eq_ok_iff.mpr ⟨gathered, rfl⟩

private theorem validate_of_sublist_invalid (part : tokens.Sublist others) {messages : List String}
    (refuses : validate others value = .error (.invalid messages)) :
    validate tokens value = .ok value ∨
      ∃ own, validate tokens value = .error (.invalid own) ∧ own.Sublist messages := by
  obtain ⟨found, gathered, -, rfl⟩ := validate_eq_invalid_iff.mp refuses
  obtain ⟨own, some, less⟩ := complaints_of_sublist part gathered
  by_cases silent : own = []
  · subst silent
    exact .inl (validate_eq_ok_iff.mpr ⟨some, rfl⟩)
  · exact .inr ⟨_, validate_eq_invalid_iff.mpr ⟨own, some, silent, rfl⟩, less.map _⟩

/-- What stricter rules accept is accepted as the same value. -/
theorem process_of_isPartOf_ok (part : rules.IsPartOf stricter) {result : Document}
    (accepts : process raw stricter = .ok result) : process raw rules = .ok result := by
  rw [process_eq_prepare_bind, prepare_of_isPartOf part] at accepts
  rw [process_eq_prepare_bind]
  cases prepared : prepare rules raw with
  | error failure =>
    rw [prepared] at accepts
    cases accepts
  | ok value =>
    rw [prepared] at accepts
    exact validate_of_sublist_ok part.validate accepts

/-- What stricter rules complain of is accepted, or a part of it is complained of. -/
theorem process_of_isPartOf_invalid (part : rules.IsPartOf stricter) {messages : List String}
    (refuses : process raw stricter = .error (.invalid messages)) :
    (∃ value, process raw rules = .ok value) ∨
      ∃ own, process raw rules = .error (.invalid own) ∧ own.Sublist messages := by
  rw [process_eq_prepare_bind, prepare_of_isPartOf part] at refuses
  rw [process_eq_prepare_bind]
  cases prepared : prepare rules raw with
  | error failure =>
    -- A value that cannot be cast or filtered meets no validator.
    rw [prepared] at refuses
    cases refuses
    exact .inr ⟨messages, rfl, .refl _⟩
  | ok value =>
    rw [prepared] at refuses
    exact (validate_of_sublist_invalid part.validate refuses).imp_left fun accepts => ⟨value, accepts⟩

end StandardEngine

/-- The widgets that ask for an upload. -/
def uploadWidgets : List String := ["file", "image"]

/-- What one form requires of a field another form requires too, and maybe more: that the schema marks
the field, that it is an upload where nothing was said of its widget, and that its name is listed, any
number of times. -/
structure Form.RequiresMore (form stricter : Form) (field tightened : Field) : Prop where
  property : tightened.property = field.property ∨
    tightened.property = { field.property with required := true }
  widget : tightened.widget? = field.widget? ∨
    field.widget? = none ∧ ∃ widget ∈ uploadWidgets, tightened.widget? = some widget
  listed : form.schema.requiredNames.count field.name ≤ stricter.schema.requiredNames.count field.name

namespace Form.RequiresMore

variable {form stricter : Form} {field tightened : Field}

/-- A mark changes nothing else about a schema. -/
theorem exists_property (more : form.RequiresMore stricter field tightened) :
    ∃ required, tightened.property = { field.property with required } ∧
      (field.property.required → required) := by
  rcases more.property with same | marked
  · refine ⟨field.property.required, same.trans ?_, id⟩
    cases field.property
    rfl
  · exact ⟨true, marked, fun _ => rfl⟩

private theorem strips_eq (more : form.RequiresMore stricter field tightened) :
    tightened.strips = field.strips := by
  rw [Field.strips, Field.strips]
  rcases more.widget with same | ⟨free, widget, upload, given⟩
  · rw [same]
  · have other : ∀ widget ∈ uploadWidgets, some widget ≠ some "editor" := by decide
    rw [free, given, decide_eq_false (other widget upload)]
    rfl

private theorem controlTokens_sublist (more : form.RequiresMore stricter field tightened) :
    field.controlTokens.Sublist tightened.controlTokens := by
  rw [Field.controlTokens, Field.controlTokens]
  rcases more.widget with same | ⟨free, -⟩
  · rw [same]
  · rw [free]
    exact List.nil_sublist _

/-- Requirements that are added only add validators. -/
theorem isPartOf (more : form.RequiresMore stricter field tightened) (phonePattern : String) :
    (form.fieldRules phonePattern field).IsPartOf (stricter.fieldRules phonePattern tightened) := by
  obtain ⟨required, property, keeps⟩ := more.exists_property
  have name : tightened.name = field.name := by rw [Field.name, property, Field.name]
  constructor
  case cast => rw [fieldRules_cast, fieldRules_cast, property]
  case sanitize => rw [fieldRules_sanitize, fieldRules_sanitize, Field.trims, Field.trims, property]
  case transform =>
    rw [fieldRules_transform, fieldRules_transform, more.strips_eq, Field.lowers, Field.lowers, property]
  case validate =>
    rw [fieldRules_validate, fieldRules_validate, name]
    have mark : (if field.property.required then [Token.plain "required"] else []).Sublist
        (if tightened.property.required then [Token.plain "required"] else []) := by
      split_ifs with marked marked'
      · exact .refl _
      · exact absurd (property ▸ keeps marked) marked'
      all_goals exact List.nil_sublist _
    have kind : tightened.property.kindTokens phonePattern = field.property.kindTokens phonePattern := by
      rw [property]
      rfl
    rw [kind]
    exact ((mark.append (.refl _)).append more.controlTokens_sublist).append
      ((List.replicate_sublist_replicate _).mpr more.listed)

end Form.RequiresMore

namespace StandardEngine

/-- A form that requires more of a field is stricter on it: what it accepts was accepted as the same
value before, and where it complains there was no fault, and a part of the complaints at most. -/
theorem process_requiresMore {form stricter : Form} {field tightened : Field}
    (more : form.RequiresMore stricter field tightened) (phonePattern : String) (raw : Document) :
    (∀ value, process raw (stricter.fieldRules phonePattern tightened) = .ok value →
        process raw (form.fieldRules phonePattern field) = .ok value) ∧
      ∀ messages, process raw (stricter.fieldRules phonePattern tightened) = .error (.invalid messages) →
        (∃ value, process raw (form.fieldRules phonePattern field) = .ok value) ∨
          ∃ own, process raw (form.fieldRules phonePattern field) = .error (.invalid own) ∧
            own.Sublist messages := by
  have part := more.isPartOf phonePattern
  exact ⟨fun value accepts => process_of_isPartOf_ok part accepts,
    fun messages refuses => process_of_isPartOf_invalid part refuses⟩

/-- A photo that was marked as required has its name listed twice as well and is to be an upload. An
uploaded one is accepted as before, and one without parts refused for three more reasons. -/
theorem process_requiresMore_photo :
    let formOf (required : List String) : Form :=
      .ofSchema ⟨.plain "" (.object { ObjectLimits.none with required } [] .unstated), [], rfl⟩
    let property : Property := { Property.plain "photo" .emptyObject with required := true }
    let upload : Control := ⟨"#/properties/photo", none, [("type", .string "file")]⟩
    let form := formOf ["note"]
    let stricter := formOf ["photo", "note", "photo"]
    let field : Field := ⟨property, none⟩
    let tightened : Field := ⟨property, some upload⟩
    let photo : Document := .object [("name", .string "a.png"), ("size", .ofNat 7)]
    let reasons := ["is required", "must be an uploaded file", "is required", "is required"]
    form.RequiresMore stricter field tightened ∧
      process photo (stricter.fieldRules "" tightened) = .ok photo ∧
      process photo (form.fieldRules "" field) = .ok photo ∧
      process (.object []) (stricter.fieldRules "" tightened) = .error (.invalid reasons) ∧
      ∃ own, process (.object []) (form.fieldRules "" field) = .error (.invalid own) ∧
        own.Sublist reasons := by
  intro formOf property upload form stricter field tightened photo reasons
  have more : form.RequiresMore stricter field tightened :=
    ⟨.inl rfl, .inr ⟨rfl, "file", List.mem_cons_self .., rfl⟩, by decide⟩
  have file : Passes photo (.plain "file") :=
    congrArg (fun passes => Except.ok (Validator.complainUnless passes .notAFile))
      (by decide +kernel : Validator.isFile photo = true)
  have passes : ∀ token ∈ (stricter.fieldRules "" tightened).validate, Passes photo token :=
    List.forall_mem_cons.mpr ⟨rfl, List.forall_mem_cons.mpr ⟨file,
      List.forall_mem_cons.mpr ⟨rfl, List.forall_mem_singleton.mpr rfl⟩⟩⟩
  have accepts : process photo (stricter.fieldRules "" tightened) = .ok photo :=
    process_eq_ok_iff.mpr ⟨rfl, complaints_eq_nil_iff.mpr passes⟩
  have refuses : process (.object []) (stricter.fieldRules "" tightened) = .error (.invalid reasons) := rfl
  refine ⟨more, accepts, (process_requiresMore more "" photo).1 _ accepts, refuses, ?_⟩
  rcases (process_requiresMore more "" (.object [])).2 _ refuses with ⟨value, accepted⟩ | less
  · cases accepted
  · exact less

end StandardEngine

end Intake
