import Intake.Document.Writer
import Intake.Schema.Error

/-! # Why a form is refused

A form is refused for its schema, its layout, its data or its own shape.
-/

namespace Intake

/-- What is wrong with an element of a layout. -/
inductive LayoutFault where
  | depthExceeded (limit : Nat)
  | elementNotAnObject
  | missingType
  | labelNotAString
  | labelNotAStringOrBoolean
  | elementsNotAnArray
  | optionsNotAnObject
  | notACategory
  | missingScope
  | missingText
deriving DecidableEq, Repr

/-- The explanation of a fault. -/
def LayoutFault.message : LayoutFault → String
  | .depthExceeded limit => s!"nesting exceeds maximum depth of {limit}"
  | .elementNotAnObject => "element must be an object"
  | .missingType => "element has no 'type'"
  | .labelNotAString => "'label' must be a string"
  | .labelNotAStringOrBoolean => "'label' must be a string or boolean"
  | .elementsNotAnArray => "'elements' must be an array"
  | .optionsNotAnObject => "'options' must be an object"
  | .notACategory => "a Categorization may only contain Category elements"
  | .missingScope => "a Control needs a string 'scope'"
  | .missingText => "a Label needs a string 'text'"

/-- What is wrong with the shape of a form. -/
inductive DefinitionFault where
  | notAnObject
  | missingSchema
  | optionsNotAnObject
deriving DecidableEq, Repr

/-- The explanation of a fault. -/
def DefinitionFault.message : DefinitionFault → String
  | .notAnObject => "definition must be an object"
  | .missingSchema => "missing 'schema'"
  | .optionsNotAnObject => "'options' must be an object"

/-- Why a form, or data for it, is refused. -/
inductive FormError where
  | schema (error : SchemaError)
  | unknownElement (elementType path : String)
  | malformedLayout (path : String) (fault : LayoutFault)
  | invalidScope (scope : String)
  | scopeNotFound (scope : String)
  | malformedData (document : Document)
  | malformedDefinition (fault : DefinitionFault)
deriving Repr

/-- The explanation of an error. -/
def FormError.message : FormError → String
  | .schema error => s!"Invalid schema: {error.text}"
  | .unknownElement elementType path => s!"Unknown UI element type '{elementType}' at {path}"
  | .malformedLayout path fault => s!"Malformed UI schema at {path}: {fault.message}"
  | .invalidScope scope => s!"Invalid control scope '{scope}'"
  | .scopeNotFound scope =>
    s!"Control scope '{scope}' does not resolve to a schema property"
  | .malformedData document =>
    s!"Malformed form data: expected an object, got {document.text}"
  | .malformedDefinition fault => s!"Malformed form definition: {fault.message}"

end Intake
