import Intake.Schema.Writing
import Intake.Proofs.Schema.Reading
import Intake.Proofs.Schema.Tree

/-! # What is read from a written schema

The document of a schema never refers to a definition. Every keyword stands in it under a key of its
own, apart from the list of required names and the mark of a required property; a sound schema has
at most one of the two. So the kind, the limits, the annotations and the mark that are read from the
document are those of the schema.
-/

namespace Intake

open Members (find?)

/-- The members of a schema as a document. -/
def Property.members (property : Property) : Members :=
  ("type", .string property.kind.name.text)
    :: property.annotations.members
    ++ Members.list "allOf" (documentsOf property.allOf)
    ++ Members.list "anyOf" (documentsOf property.anyOf)
    ++ Members.list "oneOf" (documentsOf property.oneOf)
    ++ property.kind.members
    ++ Members.flag "required" (property.required && property.kind.requiredNames.isEmpty)

theorem Property.toDocument_eq (property : Property) :
    property.toDocument = .object property.members := by
  obtain ⟨_, _, _, _, _, _, _⟩ := property
  rw [Property.toDocument]
  rfl

/-- The keys under which every kind of schema may be annotated. -/
def Annotations.keys : List String :=
  ["title", "description", "default", "deprecated", "examples", "readOnly", "writeOnly", "enum",
    "const"]

/-- The keys under which the kinds keep their limits and parts, but for the one that is shared with
the mark of a required property. -/
def Kind.keys : List String :=
  ["format", "minLength", "maxLength", "pattern", "contentMediaType", "contentEncoding", "minimum",
    "maximum", "exclusiveMinimum", "exclusiveMaximum", "multipleOf", "items", "minItems", "maxItems",
    "contains", "minContains", "maxContains", "uniqueItems", "properties", "dependentRequired",
    "minProperties", "maxProperties", "additionalProperties"]

private theorem Annotations.find?_members_eq_none {key : String} (absent : key ∉ Annotations.keys)
    (annotations : Annotations) : find? annotations.members key = .none := by
  have other : ∀ name ∈ Annotations.keys, name ≠ key := by
    rintro name member rfl
    exact absent member
  simp only [Annotations.keys, List.forall_mem_cons] at other
  simp [Annotations.members, other]

private theorem Kind.find?_members_eq_none {key : String} (absent : key ∉ Kind.keys)
    (notMark : "required" ≠ key) (kind : Kind) : find? kind.members key = .none := by
  have other : ∀ name ∈ Kind.keys, name ≠ key := by
    rintro name member rfl
    exact absent member
  simp only [Kind.keys, List.forall_mem_cons] at other
  cases kind <;> simp [Kind.members, StringLimits.members, NumberLimits.members, other, notMark]

/-- The keys of annotations belong to nothing else in a schema. -/
theorem Annotations.keys_apart : ∀ key ∈ Annotations.keys, key ∉ Kind.keys ∧
    "type" ≠ key ∧ "allOf" ≠ key ∧ "anyOf" ≠ key ∧ "oneOf" ≠ key ∧ "required" ≠ key := by
  decide

/-- The keys of kinds belong to nothing else in a schema. -/
theorem Kind.keys_apart : ∀ key ∈ Kind.keys, key ∉ Annotations.keys ∧
    "type" ≠ key ∧ "allOf" ≠ key ∧ "anyOf" ≠ key ∧ "oneOf" ≠ key ∧ "required" ≠ key := by
  decide

namespace Property

variable (property : Property)

private theorem find?_members_type :
    find? property.members "type" = some (.string property.kind.name.text) := by
  simp [members]

private theorem find?_members_of_annotation {key : String} (known : key ∈ Annotations.keys) :
    find? property.members key = find? property.annotations.members key := by
  obtain ⟨notKind, notType, notAll, notAny, notOne, notMark⟩ := Annotations.keys_apart key known
  simp [members, Kind.find?_members_eq_none notKind notMark, notType, notAll, notAny, notOne,
    notMark]

theorem find?_members_of_kind {kind : Kind} (same : property.kind = kind) {key : String}
    (known : key ∈ Kind.keys) {value : Option Document} (written : find? kind.members key = value) :
    find? property.members key = value := by
  obtain ⟨notSaid, notType, notAll, notAny, notOne, notMark⟩ := Kind.keys_apart key known
  simp [members, Annotations.find?_members_eq_none notSaid, notType, notAll, notAny, notOne,
    notMark, same, written]

/-- Apart from annotations and kind there are the alternatives, and never a reference. -/
theorem find?_members_of_other {key : String} (notSaid : key ∉ Annotations.keys)
    (notKind : key ∉ Kind.keys) (notMark : "required" ≠ key) (notType : "type" ≠ key) :
    find? property.members key =
      find? (Members.list "allOf" (documentsOf property.allOf)
        ++ Members.list "anyOf" (documentsOf property.anyOf)
        ++ Members.list "oneOf" (documentsOf property.oneOf)) key := by
  simp [members, Annotations.find?_members_eq_none notSaid,
    Kind.find?_members_eq_none notKind notMark, notType, notMark]

theorem find?_members_reference : find? property.members "$ref" = none := by
  rw [find?_members_of_other property (by decide) (by decide) (by decide) (by decide)]
  simp

private theorem find?_members_required :
    find? property.members "required" =
      (find? property.kind.members "required").or
        (if property.required ∧ property.kind.requiredNames = [] then some (.bool true) else none) := by
  have notSaid : "required" ∉ Annotations.keys := by decide
  simp [members, Annotations.find?_members_eq_none notSaid]

end Property

namespace Loader

theorem kindName_members (property : Property) :
    kindName property.members = .ok property.kind.name := by
  have known (name : KindName) : KindName.ofText? name.text = some name := by
    cases name <;> decide
  simp only [kindName, Property.find?_members_type, known]

theorem annotations_members (property : Property) :
    annotations property.members = .ok property.annotations := by
  have flagged (key : String) (value : Bool)
      (found : find? property.members key = if value then some (.bool true) else none) :
      Keyword.flag property.members key = .ok value := by
    rw [Keyword.flag_eq_ok_iff, found]
    cases value <;> simp
  rw [annotations_eq_ok_iff]
  refine ⟨?_, ?_, ?_, flagged _ _ ?_, ?_, flagged _ _ ?_, flagged _ _ ?_, ?_, ?_⟩ <;>
    rw [Property.find?_members_of_annotation _ (by decide)] <;>
    simp [Annotations.members]

private theorem find?_members_requiredNames (kind : Kind) :
    find? kind.members "required" =
      if kind.requiredNames = [] then none else some (.ofStrings kind.requiredNames) := by
  cases kind with
  | object limits =>
    cases names : limits.required <;> simp [Kind.members, Kind.requiredNames, names, Document.ofStrings]
  | _ => simp [Kind.members, Kind.requiredNames, StringLimits.members, NumberLimits.members]

theorem requiredMark_members {property : Property}
    (sound : property.required → property.kind.requiredNames = []) :
    requiredMark property.members property.kind.name = .ok property.required := by
  rw [requiredMark, Property.find?_members_required, find?_members_requiredNames]
  by_cases names : property.kind.requiredNames = []
  · cases mark : property.required <;> simp [names]
  · have unmarked : property.required = false := Bool.eq_false_iff.mpr fun mark => names (sound mark)
    have isObject : property.kind.name = .object :=
      by_contra fun other => names (Kind.requiredNames_eq_nil other)
    simp [names, unmarked, isObject, Document.ofStrings]

theorem requiredNames_members (property : Property) :
    requiredNames property.members = .ok property.kind.requiredNames := by
  rw [requiredNames_eq_ok_iff, Property.find?_members_required, find?_members_requiredNames]
  by_cases names : property.kind.requiredNames = []
  · cases mark : property.required <;> simp [names]
  · simp [names]

theorem stringLimits_members {property : Property} {limits : StringLimits}
    (isString : property.kind = .string limits) (sound : limits.Sound) :
    stringLimits property.members = .ok limits := by
  rw [stringLimits_eq_ok_iff]
  refine ⟨?_, sound.pattern, ?_, ⟨?_, sound.minLength⟩, ⟨?_, sound.maxLength⟩, ?_, ?_⟩ <;>
    refine property.find?_members_of_kind isString (by decide) ?_ <;>
    simp [Kind.members, StringLimits.members]

theorem numberLimits_members {property : Property} {limits : NumberLimits}
    (isNumeric : property.kind = .integer limits ∨ property.kind = .number limits) :
    numberLimits property.members = .ok limits := by
  rw [numberLimits_eq_ok_iff]
  rcases isNumeric with isInteger | isNumber
  · refine ⟨?_, ?_, ?_, ?_, ?_⟩ <;>
      refine property.find?_members_of_kind isInteger (by decide) ?_ <;>
      simp [Kind.members, NumberLimits.members]
  · refine ⟨?_, ?_, ?_, ?_, ?_⟩ <;>
      refine property.find?_members_of_kind isNumber (by decide) ?_ <;>
      simp [Kind.members, NumberLimits.members]

/-- The dependencies of an object are read back from the document that lists them in order. -/
theorem dependencies_eq_ok {members : Members} {needs : Dictionary (List String)}
    (found : find? members "dependentRequired" =
      if needs = [] then none else some (.object (dependencyMembers needs)))
    (ascending : needs.Ascending) : dependencies members = .ok needs := by
  have none : needs = [] → dependencyMembers needs = [] := by
    rintro rfl
    rfl
  obtain ⟨declared, read, entries⟩ := Keyword.object_of_unless none found
  rw [dependencies, except_bind_eq_ok]
  refine ⟨declared, read, ?_⟩
  rw [entries, except_bind_eq_ok]
  refine ⟨needs, ?_, ?_⟩
  · rw [except_mapM_eq_ok, dependencyMembers, List.forall₂_map_left_iff, List.forall₂_same]
    rintro ⟨name, names⟩ -
    exact except_bind_eq_ok.mpr ⟨names, Keyword.strings_eq_ok_iff.mpr rfl, rfl⟩
  · rw [Dictionary.ofList_of_ascending ascending]
    rfl

end Loader

end Intake
