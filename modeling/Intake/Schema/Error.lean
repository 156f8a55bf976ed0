import Intake.Pattern.Compile
import Intake.Schema.Property

/-! # Why a schema is refused

A schema error says where in the document the fault is and what it is. Every fault belongs to one
of seven classes, each with a code of its own.
-/

namespace Intake

/-- What the value of a keyword must be. -/
inductive Expectation where
  | string
  | singleString
  | boolean
  | number
  | nonNegativeInteger
  | array
  | object
  | requirement
  | booleanOrSchema
deriving DecidableEq, Repr

/-- The expectation in words. -/
def Expectation.text : Expectation → String
  | .string => "a string"
  | .singleString => "a single string"
  | .boolean => "a boolean"
  | .number => "a number"
  | .nonNegativeInteger => "a non-negative integer"
  | .array => "an array"
  | .object => "an object"
  | .requirement => "a boolean, or a list of names on an object"
  | .booleanOrSchema => "a boolean or a schema"

/-- What is wrong with a schema, or with what it refers to. -/
inductive SchemaFault where
  | schemaNotAnObject
  | formSchemaNotAnObject
  | rootNotAnObject (kind : KindName)
  | unexpectedValue (key : String) (expected : Expectation)
  | entryNotAString (key : String)
  | badPattern (error : PatternError)
  | unknownKind (kind : String)
  | missingKind
  | unresolvedReference (reference : String)
  | cyclicReference (reference : String)
  | depthExceeded (limit : Nat)
  | tooLarge (limit : Nat)
deriving DecidableEq, Repr

/-- The classes of faults. -/
inductive SchemaFaultClass where
  | malformed
  | unknownKind
  | missingKind
  | unresolvedReference
  | cyclicReference
  | depthExceeded
  | tooLarge
deriving DecidableEq, Repr

/-- The code of a class of faults. -/
def SchemaFaultClass.code : SchemaFaultClass → String
  | .malformed => "FORM_SCHEMA_MALFORMED"
  | .unknownKind => "FORM_SCHEMA_UNKNOWN_KIND"
  | .missingKind => "FORM_SCHEMA_MISSING_KIND"
  | .unresolvedReference => "FORM_SCHEMA_UNRESOLVED_REF"
  | .cyclicReference => "FORM_SCHEMA_CYCLIC_REF"
  | .depthExceeded => "FORM_SCHEMA_DEPTH_EXCEEDED"
  | .tooLarge => "FORM_SCHEMA_TOO_LARGE"

namespace SchemaFault

/-- The class that a fault belongs to. -/
def faultClass : SchemaFault → SchemaFaultClass
  | .unknownKind _ => .unknownKind
  | .missingKind => .missingKind
  | .unresolvedReference _ => .unresolvedReference
  | .cyclicReference _ => .cyclicReference
  | .depthExceeded _ => .depthExceeded
  | .tooLarge _ => .tooLarge
  | _ => .malformed

/-- The explanation of a fault. -/
def message : SchemaFault → String
  | .schemaNotAnObject => "schema must be an object"
  | .formSchemaNotAnObject => "form schema must be an object"
  | .rootNotAnObject kind => s!"form root must be an object schema, got '{kind.text}'"
  | .unexpectedValue key expected => s!"'{key}' must be {expected.text}"
  | .entryNotAString key => s!"'{key}' entries must be strings"
  | .badPattern error => s!"invalid pattern: {error.message}"
  | .unknownKind kind => s!"unknown discriminator '{kind}'"
  | .missingKind => "schema has no 'type' and none can be inferred"
  | .unresolvedReference reference => s!"reference '{reference}' not found in definitions"
  | .cyclicReference reference => s!"reference '{reference}' refers back to itself"
  | .depthExceeded limit => s!"schema nesting exceeds maximum depth of {limit}"
  | .tooLarge limit => s!"expanded schema exceeds the budget of {limit} nodes"

end SchemaFault

/-- A fault and where it was found. -/
structure SchemaError where
  path : String
  fault : SchemaFault
deriving DecidableEq, Repr

/-- The error in one line. -/
def SchemaError.text (error : SchemaError) : String :=
  s!"{error.fault.faultClass.code} at {error.path}: {error.fault.message}"

end Intake
