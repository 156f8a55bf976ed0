import Intake.Document.Basic
import Intake.Pattern.Compile
import Intake.Text.Numeric

/-! # Errors of value types

A type may not be known, be known already, not be told from a value, or not be the one a value can
be cast to.
-/

namespace Intake

/-- The shapes of documents. -/
inductive Shape where
  | null
  | boolean
  | number
  | string
  | array
  | object
deriving DecidableEq, Repr

/-- The name of a shape. -/
def Shape.text : Shape → String
  | .null => "null"
  | .boolean => "boolean"
  | .number => "number"
  | .string => "string"
  | .array => "array"
  | .object => "object"

/-- The shape of a document. -/
def Document.shape : Document → Shape
  | .null => .null
  | .bool _ => .boolean
  | .number _ => .number
  | .string _ => .string
  | .array _ => .array
  | .object _ => .object

/-- Why a value cannot be cast to a type. -/
inductive CastFault where
  | notText (shape : Shape)
  | notAnInteger (shape : Shape)
  | notANumber (shape : Shape)
  | notABoolean (shape : Shape)
  | notAList (shape : Shape)
  | notAnObject (shape : Shape)
  | notAnEmail
  | notAUrl
  | notAHostname
  | notAUuid
  | notAnAddress
  | notADateTime
  | notATime
  | notInDateFormat (format : String)
  | patternMismatch
  | notWhole (number : Number)
  | badInteger (fault : Text.IntegerFault)
  | notFinite
deriving DecidableEq, Repr

/-- The explanation of a fault. -/
def CastFault.message : CastFault → String
  | .notText shape => s!"{shape.text} is not text"
  | .notAnInteger shape => s!"{shape.text} is not an integer"
  | .notANumber shape => s!"{shape.text} is not a number"
  | .notABoolean shape => s!"{shape.text} is not a boolean"
  | .notAList shape => s!"{shape.text} is not a list"
  | .notAnObject shape => s!"{shape.text} is not an object"
  | .notAnEmail => "not a valid email address"
  | .notAUrl => "not a valid URL"
  | .notAHostname => "not a valid hostname"
  | .notAUuid => "not a valid UUID"
  | .notAnAddress => "not a valid IP address"
  | .notADateTime => "not a valid date-time"
  | .notATime => "not a valid time"
  | .notInDateFormat format => s!"expected a date in format {format}"
  | .patternMismatch => "value does not match pattern"
  | .notWhole number => s!"{number.text} is not an integer"
  | .badInteger fault => fault.message
  | .notFinite => "number is not finite"

/-- What may go wrong with types. -/
inductive TypeError where
  | notFound (name : String)
  | alreadyRegistered (name : String)
  | cannotGuess (shape : Shape)
  | castFailed (typeName : String) (fault : CastFault)
  | invalidPattern (typeName : String) (error : PatternError)
  /-- The value was read, but the format cannot write it. -/
  | unwritable (typeName : String)
deriving DecidableEq, Repr

/-- The explanation of an error. -/
def TypeError.message : TypeError → String
  | .notFound name => s!"Type not found: {name}"
  | .alreadyRegistered name => s!"Type already registered: {name}"
  | .cannotGuess shape => s!"Cannot guess type of {shape.text} value"
  | .castFailed typeName fault => s!"Cannot cast value to {typeName}: {fault.message}"
  | .invalidPattern typeName error => s!"Invalid pattern for type {typeName}: {error.message}"
  | .unwritable typeName => s!"Cannot write value of type {typeName} in its format"

end Intake
