import Intake.Schema.Property

/-! # Schemas that are the same

Two schemas are the same when all their parts are. Documents within them are compared up to the
order of members, and numbers by kind and value.
-/

namespace Intake

/-- Two optional values are both absent, or both present and related. -/
def sameOption {α : Type} (same : α → α → Bool) : Option α → Option α → Bool
  | none, none => true
  | some left, some right => same left right
  | _, _ => false

/-- The same limits, number by number. -/
def NumberLimits.same (left right : NumberLimits) : Bool :=
  sameOption Number.same left.minimum right.minimum
    && sameOption Number.same left.maximum right.maximum
    && sameOption Number.same left.exclusiveMinimum right.exclusiveMinimum
    && sameOption Number.same left.exclusiveMaximum right.exclusiveMaximum
    && sameOption Number.same left.multipleOf right.multipleOf

/-- The same is said of the values. -/
def Annotations.same (left right : Annotations) : Bool :=
  left.title == right.title
    && left.description == right.description
    && sameOption Document.same left.default right.default
    && left.deprecated == right.deprecated
    && sameOption Document.sameItems left.examples right.examples
    && left.readOnly == right.readOnly
    && left.writeOnly == right.writeOnly
    && sameOption Document.sameItems left.choices right.choices
    && sameOption Document.same left.constant right.constant

mutual

/-- The same name, kind, annotations, alternatives and mark. -/
def Property.same : Property → Property → Bool
  | ⟨name, kind, annotations, allOf, anyOf, oneOf, required⟩, other =>
    name == other.name
      && kind.same other.kind
      && annotations.same other.annotations
      && samePropertyLists allOf other.allOf
      && samePropertyLists anyOf other.anyOf
      && samePropertyLists oneOf other.oneOf
      && required == other.required

/-- The same kind with the same limits and parts. -/
def Kind.same : Kind → Kind → Bool
  | .string limits, .string others => limits == others
  | .integer limits, .integer others => limits.same others
  | .number limits, .number others => limits.same others
  | .boolean, .boolean => true
  | .array limits items contains, .array others otherItems otherContains =>
    limits == others && sameOptionalProperty items otherItems
      && sameOptionalProperty contains otherContains
  | .object limits properties additional, .object others otherProperties otherAdditional =>
    limits == others && samePropertyLists properties otherProperties
      && additional.same otherAdditional
  | .null, .null => true
  | _, _ => false

/-- The same is said of additional values. -/
def Additional.same : Additional → Additional → Bool
  | .unstated, .unstated => true
  | .allowed flag, .allowed other => flag == other
  | .schema property, .schema other => property.same other
  | _, _ => false

/-- The same schemas in the same order. -/
def samePropertyLists : List Property → List Property → Bool
  | [], [] => true
  | property :: properties, other :: others =>
    property.same other && samePropertyLists properties others
  | _, _ => false

/-- Both schemas are absent, or both present and the same. -/
def sameOptionalProperty : Option Property → Option Property → Bool
  | none, none => true
  | some property, some other => property.same other
  | _, _ => false

end

end Intake
