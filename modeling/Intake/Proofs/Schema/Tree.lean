import Intake.Pattern.Compile
import Intake.Proofs.Dictionary
import Intake.Proofs.Schema.Keyword
import Mathlib.Algebra.Order.BigOperators.Group.List
import Mathlib.Algebra.Order.Ring.Nat

/-! # Trees of schemas

The children of a schema are the schemas that it is made of, in the order in which they are loaded.
Its size, which is what loading it costs, is one more than the sizes of its children. A schema is
sound when its limits can be written and read again and when its parts bear the names under which
they are written.
-/

namespace Intake

namespace Additional

/-- The schema of additional values, if there is one. -/
def children : Additional → List Property
  | .schema property => [property]
  | _ => []

end Additional

namespace Kind

/-- The schemas that a kind is made of. -/
def children : Kind → List Property
  | .array _ items contains => items.toList ++ contains.toList
  | .object _ properties additional => properties ++ additional.children
  | _ => []

theorem requiredNames_eq_nil {kind : Kind} (other : kind.name ≠ .object) :
    kind.requiredNames = [] := by
  cases kind with
  | object => exact absurd rfl other
  | _ => rfl

end Kind

namespace Property

/-- The schemas that a schema is made of, in the order in which they are loaded. -/
def children (property : Property) : List Property :=
  property.kind.children ++ property.allOf ++ property.anyOf ++ property.oneOf

/-- The schemas of a tree nest at most so many levels below its root. -/
def nestsWithin : Nat → Property → Prop
  | 0, property => property.children = []
  | levels + 1, property => ∀ child ∈ property.children, child.nestsWithin levels

end Property

private theorem sizeOfAll_eq_sum (properties : List Property) :
    sizeOfAll properties = (properties.map Property.size).sum := by
  induction properties with
  | nil => rfl
  | cons property properties ih => rw [sizeOfAll, ih, List.map_cons, List.sum_cons]

private theorem sizeOfAny_eq_sum (property : Option Property) :
    sizeOfAny property = (property.toList.map Property.size).sum := by
  cases property <;> simp [sizeOfAny]

private theorem Kind.size_eq_sum (kind : Kind) : kind.size = (kind.children.map Property.size).sum := by
  cases kind with
  | array limits items contains =>
    simp [Kind.size, Kind.children, sizeOfAny_eq_sum]
  | object limits properties additional =>
    cases additional <;> simp [Kind.size, Kind.children, Additional.size, Additional.children,
      sizeOfAll_eq_sum]
  | _ => rfl

namespace Property

/-- A tree has one schema more than its branches together. -/
theorem size_eq (property : Property) :
    property.size = (property.children.map size).sum + 1 := by
  obtain ⟨name, kind, annotations, allOf, anyOf, oneOf, required⟩ := property
  rw [size, Kind.size_eq_sum]
  simp only [sizeOfAll_eq_sum, children, List.map_append, List.sum_append]
  omega

end Property

/-- The counts fit in words and the pattern is one. -/
structure StringLimits.Sound (limits : StringLimits) : Prop where
  minLength : ∀ n ∈ limits.minLength, IsCount n
  maxLength : ∀ n ∈ limits.maxLength, IsCount n
  pattern : ∀ text ∈ limits.pattern, Pattern.isAccepted text

/-- The bounds are numbers of documents. -/
structure NumberLimits.Sound (limits : NumberLimits) : Prop where
  minimum : ∀ number ∈ limits.minimum, number.inRange
  maximum : ∀ number ∈ limits.maximum, number.inRange
  exclusiveMinimum : ∀ number ∈ limits.exclusiveMinimum, number.inRange
  exclusiveMaximum : ∀ number ∈ limits.exclusiveMaximum, number.inRange
  multipleOf : ∀ number ∈ limits.multipleOf, number.inRange

/-- The counts fit in words. -/
structure ListLimits.Sound (limits : ListLimits) : Prop where
  minItems : ∀ n ∈ limits.minItems, IsCount n
  maxItems : ∀ n ∈ limits.maxItems, IsCount n
  minContains : ∀ n ∈ limits.minContains, IsCount n
  maxContains : ∀ n ∈ limits.maxContains, IsCount n

/-- The counts fit in words and dependencies are listed in order. -/
structure ObjectLimits.Sound (limits : ObjectLimits) : Prop where
  dependentRequired : limits.dependentRequired.Ascending
  minProperties : ∀ n ∈ limits.minProperties, IsCount n
  maxProperties : ∀ n ∈ limits.maxProperties, IsCount n

/-- The documents are well formed. -/
structure Annotations.Sound (annotations : Annotations) : Prop where
  default : ∀ document ∈ annotations.default, document.wellFormed
  examples : ∀ documents ∈ annotations.examples, ∀ document ∈ documents, document.wellFormed
  choices : ∀ documents ∈ annotations.choices, ∀ document ∈ documents, document.wellFormed
  constant : ∀ document ∈ annotations.constant, document.wellFormed

/-- The limits are sound, properties have names of their own and other parts are named by their
keyword. -/
def Kind.Sound : Kind → Prop
  | .string limits => limits.Sound
  | .integer limits => limits.Sound
  | .number limits => limits.Sound
  | .array limits items contains =>
    limits.Sound ∧ (∀ item ∈ items, item.name = "items") ∧
      ∀ item ∈ contains, item.name = "contains"
  | .object limits properties additional =>
    limits.Sound ∧ (properties.map Property.name).Nodup ∧
      ∀ property ∈ additional.children, property.name = "additionalProperties"
  | .boolean | .null => True

/-- What holds of the root of a sound tree. -/
structure Property.RootSound (property : Property) : Prop where
  kind : property.kind.Sound
  annotations : property.annotations.Sound
  allOf : ∀ child ∈ property.allOf, child.name = "allOf"
  anyOf : ∀ child ∈ property.anyOf, child.name = "anyOf"
  oneOf : ∀ child ∈ property.oneOf, child.name = "oneOf"
  /-- The mark and a list of names share one key. -/
  required : property.required → property.kind.requiredNames = []

private theorem Annotations.none_sound : Annotations.none.Sound := ⟨nofun, nofun, nofun, nofun⟩

theorem Property.plain_rootSound {name : String} {kind : Kind} (sound : kind.Sound) :
    (Property.plain name kind).RootSound :=
  ⟨sound, Annotations.none_sound, nofun, nofun, nofun, nofun⟩

/-- Every schema of the tree is sound. -/
inductive Property.Sound : Property → Prop where
  | node {property : Property} (root : property.RootSound)
      (below : ∀ child ∈ property.children, Sound child) : Sound property

theorem Property.Sound.root {property : Property} (sound : property.Sound) : property.RootSound :=
  match sound with
  | .node root _ => root

theorem Property.Sound.child {property : Property} (sound : property.Sound) :
    ∀ child ∈ property.children, child.Sound :=
  match sound with
  | .node _ below => below

end Intake
