import Intake.Proofs.Engine.Executable
import Intake.Proofs.Engine.Preparation
import Intake.Proofs.Rule.Record

/-! # Choosing from a list of texts

A text to choose from reaches the validator as a field of a record and in lower case, the value in
lower case and trimmed. So a text that is on the list is accepted if it has no blanks at its ends and
the record gives it back; otherwise it must meet another one, or be nothing but blanks, which counts
as no choice at all.
-/

namespace Intake

namespace Text

/-- No lower case runs lead to the byte order mark. -/
theorem runs_avoid_mark : ∀ run ∈ Unicode.lowercaseRuns, run.avoids ⟨0xFEFF, 0xFEFF, 1, 0⟩ := by
  have checked : (Unicode.lowercaseRuns.all fun run => run.avoids ⟨0xFEFF, 0xFEFF, 1, 0⟩) = true := by
    decide +kernel
  simpa using checked

private theorem eq_mark_of_head?_lowerChar {c : Char} (first : (lowerChar c).head? = some '\ufeff') :
    c = '\ufeff' := by
  rw [lowerChar] at first
  split_ifs at first with dotted
  · cases first
  · cases found : Unicode.lowercaseRuns.find? fun run => run.contains c.toNat with
    | none =>
      rw [found] at first
      cases first
      rfl
    | some run =>
      rw [found] at first
      have known := List.mem_of_find?_eq_some found
      have inside : run.contains c.toNat = true := by simpa using List.find?_some found
      have maps := (runs_avoid run known).1
      have mark : Char.ofNat (run.apply c.toNat) = '\ufeff' := Option.some.inj first
      have code : run.apply c.toNat = 0xFEFF := by
        rw [← Unicode.CaseRun.toNat_ofNat_apply maps inside, mark]
        rfl
      have apart := Unicode.CaseRun.not_contains_apply maps (runs_avoid_mark run known) inside
      rw [code] at apart
      exact absurd (by decide) apart

/-- Lower case puts no byte order mark in front of a text. -/
theorem head?_lower_ne_mark {text : String} (unmarked : text.toList.head? ≠ some '\ufeff') :
    (lower text).toList.head? ≠ some '\ufeff' := by
  rw [lower, String.toList_ofList]
  cases chars : text.toList with
  | nil => exact (Option.some_ne_none _).symm
  | cons c rest =>
    rw [chars] at unmarked
    by_cases sigma : c = 'Σ'
    · subst sigma
      rw [lowerAfter]
      split_ifs <;> simp
    · obtain ⟨head, tail, -, same⟩ := exists_lowerAfter_cons [] c rest
      rw [lowerAfter_cons sigma] at same ⊢
      intro first
      cases mapped : lowerChar c with
      | nil =>
        rw [lowerChar] at mapped
        split at mapped
        · cases mapped
        · split at mapped <;> cases mapped
      | cons d others =>
        rw [mapped] at first
        have marked : (lowerChar c).head? = some '\ufeff' := by
          rw [mapped]
          exact first
        exact unmarked (congrArg some (eq_mark_of_head?_lowerChar marked))

end Text

namespace Property

/-- What the filters of a property make of a text. -/
def normalText (property : Property) : String → String :=
  (if property.kind.format? = some "email" || property.annotations.choices.isSome then Text.lower
    else id) ∘ if property.kind.name = .string then Text.trim else id

end Property

namespace StandardEngine

variable {property : Property} {phonePattern : String}

/-- What was cast goes through the filters of its property. -/
theorem prepare_property (property : Property) (phonePattern : String) (value : Document) :
    prepare (property.rules phonePattern) value =
      (castKind property.kind.name value).map (Filter.apply property.normalText) := by
  have trim : Filter.find? "trim" = some Text.trim := rfl
  have lowercase : Filter.find? "lowercase" = some Text.lower := rfl
  have sanitizes (value : Document) :
      filter .sanitize (property.rules phonePattern).sanitize value =
        .ok (Filter.apply (if property.kind.name = .string then Text.trim else id) value) := by
    have filtered := filter_if trim .sanitize (decide (property.kind.name = .string)) value
    simpa [Property.rules] using filtered
  have transforms (value : Document) :
      filter .transform (property.rules phonePattern).transform value =
        .ok (Filter.apply (if property.kind.format? = some "email" ||
          property.annotations.choices.isSome then Text.lower else id) value) :=
    filter_if lowercase .transform _ value
  have casts : cast (property.rules phonePattern).cast? = castKind property.kind.name := rfl
  rw [prepare, casts]
  cases castKind property.kind.name value with
  | error failure => rfl
  | ok value =>
    simp only [bind, Except.bind, sanitizes, transforms, Filter.apply_apply, Except.map]
    rfl

end StandardEngine

/-- A string without limits. -/
def StringLimits.unlimited : StringLimits := ⟨none, none, none, none, none, none⟩

/-- The texts of a list as the validator comes to know them. -/
def offered (choices : List Document) : List String :=
  (Record.readBack (choices.map fun choice => (choiceText choice).toList)).map String.ofList

theorem choices_choiceRecord (choices : List Document) :
    Validator.choices (choiceRecord choices) = offered choices := by
  cases choices with
  | nil => rfl
  | cons choice choices =>
    rw [Validator.choices, choiceRecord, List.isEmpty_cons, if_neg Bool.false_ne_true,
      String.toList_ofList, Record.read_write, offered]

/-- Only the first text of a list may come to be known as another one. -/
theorem mem_offered {choices : List Document} {choice : Document} (member : choice ∈ choices)
    (unmarked : (choiceText choice).toList.head? ≠ some '\ufeff') :
    choiceText choice ∈ offered choices := by
  have written : (choiceText choice).toList ∈
      choices.map fun choice => (choiceText choice).toList :=
    List.mem_map_of_mem member
  have known := Record.mem_readBack written unmarked
  rw [offered, List.mem_map]
  exact ⟨_, known, String.ofList_toList⟩

namespace StandardEngine

variable {property : Property} {phonePattern : String} {choices : List Document} {member : String}

/-- A text is accepted in its normal form if that is empty or offered, and else it is invalid. -/
theorem process_choices (kind : property.kind = .string .unlimited)
    (optional : property.required = false) (listed : property.annotations.choices = some choices)
    (text : String) :
    process (.string text) (property.rules phonePattern) =
      if Text.trim text = "" ∨ Text.lower (Text.trim text) ∈ offered choices then
        .ok (.string (Text.lower (Text.trim text)))
      else .error (.ofComplaint (.notAmong (offered choices))) := by
  have prepared : prepare (property.rules phonePattern) (.string text) =
      .ok (.string (Text.lower (Text.trim text))) := by
    rw [prepare_property, kind]
    simp [Kind.name, castKind_string, Cast.string, Except.mapError, Except.map, Filter.apply,
      Property.normalText, kind, listed]
  have tokens : (property.rules phonePattern).validate =
      [.withArgument "in" (choiceRecord choices)] := by
    simp [Property.rules, Property.kindTokens, Property.stringTokens, Property.choiceTokens,
      Property.formatTokens, limitToken, kind, optional, listed, StringLimits.unlimited]
  have empty : Text.lower (Text.trim text) = "" ↔ Text.trim text = "" := by
    rw [← String.toList_eq_nil_iff, Text.lower, String.toList_ofList, Text.lowerAfter_eq_nil_iff,
      String.toList_eq_nil_iff]
  rw [process_eq_prepare_bind, prepared, tokens]
  simp only [bind, Except.bind]
  generalize Text.lower (Text.trim text) = normal at empty ⊢
  have verdict : validateBy (.string normal) (.withArgument "in" (choiceRecord choices)) =
      if normal = "" then .ok none
      else .ok (Validator.complainUnless ((offered choices).contains normal)
        (.notAmong (offered choices))) := by
    have known : Validator.find? "in" = some Validator.choice := rfl
    have looks : "in" ≠ presenceRule := by decide
    rw [validateBy, Token.withArgument, known]
    by_cases none : normal = ""
    · simp [none, looks, isEmptyInput]
    · simp [none, isEmptyInput, Validator.choice, Validator.argument, choices_choiceRecord,
        Validator.isAmong, Validator.scalarText?, bind, Except.bind, pure, Except.pure]
  simp only [← empty]
  rw [validate, complaints, List.mapM_cons, List.mapM_nil, verdict]
  by_cases none : normal = ""
  · simp [none, pure, Except.pure, bind, Except.bind]
  · by_cases among : normal ∈ offered choices <;>
      simp [none, among, Validator.complainUnless, pure, Except.pure, bind, Except.bind,
        Failure.ofComplaint]

/-- A text of the list that is submitted as it was declared is accepted exactly if, without the
blanks at its ends, it is empty or offered. It is if there are no such blanks and no byte order mark
in front. -/
theorem process_declared (kind : property.kind = .string .unlimited)
    (optional : property.required = false) (listed : property.annotations.choices = some choices)
    (declared : .string member ∈ choices) :
    (process (.string member) (property.rules phonePattern) =
        .ok (.string (Text.lower (Text.trim member))) ↔
      Text.trim member = "" ∨ Text.lower (Text.trim member) ∈ offered choices) ∧
    (Text.IsTrimmed member.toList → member.toList.head? ≠ some '\ufeff' →
      process (.string member) (property.rules phonePattern) = .ok (.string (Text.lower member))) := by
  rw [process_choices kind optional listed]
  constructor
  · split_ifs with accepted
    · exact iff_of_true rfl accepted
    · exact iff_of_false nofun accepted
  · intro trimmed unmarked
    have known := mem_offered declared (Text.head?_lower_ne_mark unmarked)
    rw [Text.trim_eq_self_iff.mpr trimmed]
    exact if_pos (.inr known)

/-- A comma in a text does no harm, but blanks at its ends make it another one than that submitted. -/
theorem process_declared_padded :
    let choices : List Document := [.string "Small, cheap", .string " Large "]
    let property : Property :=
      { Property.plain "size" (.string .unlimited) with
        annotations := { Annotations.none with choices := some choices } }
    property.kind = .string .unlimited ∧ property.required = false ∧
      property.annotations.choices = some choices ∧
      (Document.string "Small, cheap" ∈ choices ∧
        process (.string "Small, cheap") (property.rules "") = .ok (.string "small, cheap")) ∧
      Document.string " Large " ∈ choices ∧
        process (.string " Large ") (property.rules "") ≠ .ok (.string "large") := by
  intro choices property
  have inside : Document.string "Small, cheap" ∈ choices := List.mem_cons_self ..
  have padded : Document.string " Large " ∈ choices := List.mem_cons_of_mem _ (List.mem_cons_self ..)
  have trimmed : Text.IsTrimmed "Small, cheap".toList := by
    rw [← Text.trim_eq_self_iff]
    decide
  have lowered : Text.lower "Small, cheap" = "small, cheap" := by decide
  have normal : Text.lower (Text.trim " Large ") = "large" := by decide
  have accepts := (@process_declared property "" _ _ rfl rfl rfl inside).2 trimmed (by decide)
  have refuses := (@process_declared property "" _ _ rfl rfl rfl padded).1
  rw [lowered] at accepts
  rw [normal] at refuses
  refine ⟨rfl, rfl, rfl, ⟨inside, accepts⟩, padded, ?_⟩
  rw [Ne, refuses]
  decide

end StandardEngine

end Intake
