import Intake.Schema.Property

/-! # Schemas as documents

A schema is written as an object: its kind first, then the annotations, the lists of alternatives
and the limits of the kind. What is absent, false or empty is left out. An object that lists
required names has no room for the mark that it is required itself, since both have one key.
-/

namespace Intake

/-- The limits on strings. -/
def StringLimits.members (limits : StringLimits) : Members :=
  Members.optional "format" (limits.format.map .string)
    ++ Members.optional "minLength" (limits.minLength.map .ofNat)
    ++ Members.optional "maxLength" (limits.maxLength.map .ofNat)
    ++ Members.optional "pattern" (limits.pattern.map .string)
    ++ Members.optional "contentMediaType" (limits.mediaType.map .string)
    ++ Members.optional "contentEncoding" (limits.encoding.map .string)

/-- The limits on numbers. -/
def NumberLimits.members (limits : NumberLimits) : Members :=
  Members.optional "minimum" (limits.minimum.map .number)
    ++ Members.optional "maximum" (limits.maximum.map .number)
    ++ Members.optional "exclusiveMinimum" (limits.exclusiveMinimum.map .number)
    ++ Members.optional "exclusiveMaximum" (limits.exclusiveMaximum.map .number)
    ++ Members.optional "multipleOf" (limits.multipleOf.map .number)

/-- What is said of the values, but for the lists of alternatives. -/
def Annotations.members (annotations : Annotations) : Members :=
  Members.optional "title" (annotations.title.map .string)
    ++ Members.optional "description" (annotations.description.map .string)
    ++ Members.optional "default" annotations.default
    ++ Members.flag "deprecated" annotations.deprecated
    ++ Members.optional "examples" (annotations.examples.map .array)
    ++ Members.flag "readOnly" annotations.readOnly
    ++ Members.flag "writeOnly" annotations.writeOnly
    ++ Members.optional "enum" (annotations.choices.map .array)
    ++ Members.optional "const" annotations.constant

/-- The names that each of some names needs beside it. -/
def dependencyMembers (dependencies : Dictionary (List String)) : Members :=
  dependencies.map fun (name, needed) => (name, .ofStrings needed)

mutual

/-- A schema as a document. -/
def Property.toDocument : Property → Document
  | ⟨_, kind, annotations, allOf, anyOf, oneOf, required⟩ =>
    .object <|
      ("type", .string kind.name.text)
        :: annotations.members
        ++ Members.list "allOf" (documentsOf allOf)
        ++ Members.list "anyOf" (documentsOf anyOf)
        ++ Members.list "oneOf" (documentsOf oneOf)
        ++ kind.members
        ++ Members.flag "required" (required && kind.requiredNames.isEmpty)

/-- The limits of a kind with the schemas that it is made of. -/
def Kind.members : Kind → Members
  | .string limits => limits.members
  | .integer limits => limits.members
  | .number limits => limits.members
  | .boolean => []
  | .array limits items contains =>
    Members.optional "items" (documentOf? items)
      ++ Members.optional "minItems" (limits.minItems.map .ofNat)
      ++ Members.optional "maxItems" (limits.maxItems.map .ofNat)
      ++ Members.optional "contains" (documentOf? contains)
      ++ Members.optional "minContains" (limits.minContains.map .ofNat)
      ++ Members.optional "maxContains" (limits.maxContains.map .ofNat)
      ++ Members.flag "uniqueItems" limits.uniqueItems
  | .object limits properties additional =>
    Members.nested "properties" (.ofList (namedDocumentsOf properties))
      ++ Members.list "required" (limits.required.map .string)
      ++ Members.nested "dependentRequired" (dependencyMembers limits.dependentRequired)
      ++ Members.optional "minProperties" (limits.minProperties.map .ofNat)
      ++ Members.optional "maxProperties" (limits.maxProperties.map .ofNat)
      ++ Members.optional "additionalProperties" additional.toDocument?
  | .null => []

/-- What is said of additional values, as a document. -/
def Additional.toDocument? : Additional → Option Document
  | .unstated => none
  | .allowed flag => some (.bool flag)
  | .schema property => some property.toDocument

/-- Each schema of a list as a document. -/
def documentsOf : List Property → List Document
  | [] => []
  | property :: properties => property.toDocument :: documentsOf properties

/-- Each schema of a list as a document under its name. -/
def namedDocumentsOf : List Property → Members
  | [] => []
  | property :: properties =>
    (property.name, property.toDocument) :: namedDocumentsOf properties

/-- A schema as a document, if there is one. -/
def documentOf? : Option Property → Option Document
  | none => none
  | some property => some property.toDocument

end

end Intake
