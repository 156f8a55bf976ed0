import Intake.Dictionary
import Intake.Document.Basic

/-! # Property schemas

A property schema describes the values of one property of a form: its kind, the limits that only
make sense for that kind, annotations that every kind may carry, and the schemas that an array or
an object is made of. `Property.size` counts the schemas of such a tree.
-/

namespace Intake

/-- The kinds of schema by name. -/
inductive KindName where
  | string
  | integer
  | number
  | boolean
  | array
  | object
  | null
deriving DecidableEq, Repr

namespace KindName

/-- All kinds. -/
def all : List KindName := [.string, .integer, .number, .boolean, .array, .object, .null]

/-- The name as schemas write it. -/
def text : KindName → String
  | .string => "string"
  | .integer => "integer"
  | .number => "number"
  | .boolean => "boolean"
  | .array => "array"
  | .object => "object"
  | .null => "null"

/-- The kind that a text names. -/
def ofText? (text : String) : Option KindName :=
  all.find? fun kind => kind.text == text

/-- Values of the kind are single scalars. -/
def isScalar : KindName → Bool
  | .string | .integer | .number | .boolean => true
  | .array | .object | .null => false

end KindName

/-- Limits on strings. -/
structure StringLimits where
  format : Option String
  minLength : Option Nat
  maxLength : Option Nat
  pattern : Option String
  mediaType : Option String
  encoding : Option String
deriving DecidableEq, Repr

/-- Limits on integers and numbers, kept as they were written. -/
structure NumberLimits where
  minimum : Option Number
  maximum : Option Number
  exclusiveMinimum : Option Number
  exclusiveMaximum : Option Number
  multipleOf : Option Number
deriving DecidableEq, Repr

/-- Limits on lists, beside the schemas of their items. -/
structure ListLimits where
  minItems : Option Nat
  maxItems : Option Nat
  minContains : Option Nat
  maxContains : Option Nat
  uniqueItems : Bool
deriving DecidableEq, Repr

/-- Limits on objects, beside the schemas of their properties. -/
structure ObjectLimits where
  required : List String
  dependentRequired : Dictionary (List String)
  minProperties : Option Nat
  maxProperties : Option Nat
deriving DecidableEq, Repr

/-- An object without limits. -/
def ObjectLimits.none : ObjectLimits := ⟨[], [], .none, .none⟩

/-- What a schema of any kind may say about its values. -/
structure Annotations where
  title : Option String
  description : Option String
  default : Option Document
  deprecated : Bool
  examples : Option (List Document)
  readOnly : Bool
  writeOnly : Bool
  /-- The values to choose from. -/
  choices : Option (List Document)
  /-- The only value; null is one like any other. -/
  constant : Option Document
deriving Repr

/-- Nothing is said. -/
def Annotations.none : Annotations :=
  ⟨.none, .none, .none, false, .none, false, false, .none, .none⟩

mutual

/-- The schema of one property. -/
structure Property where
  name : String
  kind : Kind
  annotations : Annotations
  allOf : List Property
  anyOf : List Property
  oneOf : List Property
  /-- The property itself is marked as required. -/
  required : Bool

/-- A kind with its limits and the schemas it is made of. -/
inductive Kind where
  | string (limits : StringLimits)
  | integer (limits : NumberLimits)
  | number (limits : NumberLimits)
  | boolean
  | array (limits : ListLimits) (items contains : Option Property)
  | object (limits : ObjectLimits) (properties : List Property) (additional : Additional)
  | null

/-- What an object may hold beside its properties. -/
inductive Additional where
  | unstated
  | allowed (flag : Bool)
  | schema (property : Property)

end

namespace Kind

/-- The name of a kind. -/
def name : Kind → KindName
  | .string _ => .string
  | .integer _ => .integer
  | .number _ => .number
  | .boolean => .boolean
  | .array .. => .array
  | .object .. => .object
  | .null => .null

/-- The properties of an object in the order of their declaration. -/
def properties : Kind → List Property
  | .object _ properties _ => properties
  | _ => []

/-- The names that an object lists as required. -/
def requiredNames : Kind → List String
  | .object limits _ _ => limits.required
  | _ => []

/-- The format of a string. -/
def format? : Kind → Option String
  | .string limits => limits.format
  | _ => none

/-- The property of an object with a given name. -/
def property? (kind : Kind) (name : String) : Option Property :=
  kind.properties.find? fun property => property.name == name

/-- An object without properties and limits. -/
def emptyObject : Kind := .object .none [] .unstated

end Kind

/-- A property without annotations, alternatives and mark. -/
def Property.plain (name : String) (kind : Kind) : Property :=
  ⟨name, kind, .none, [], [], [], false⟩

mutual

/-- The number of schemas in the tree of a property. -/
def Property.size : Property → Nat
  | ⟨_, kind, _, allOf, anyOf, oneOf, _⟩ =>
    1 + kind.size + sizeOfAll allOf + sizeOfAll anyOf + sizeOfAll oneOf

/-- The number of schemas that a kind is made of. -/
def Kind.size : Kind → Nat
  | .array _ items contains => sizeOfAny items + sizeOfAny contains
  | .object _ properties additional => sizeOfAll properties + additional.size
  | _ => 0

/-- The number of schemas in the schema of additional values. -/
def Additional.size : Additional → Nat
  | .schema property => property.size
  | _ => 0

/-- The number of schemas in a list of trees. -/
def sizeOfAll : List Property → Nat
  | [] => 0
  | property :: properties => property.size + sizeOfAll properties

/-- The number of schemas in a tree, if there is one. -/
def sizeOfAny : Option Property → Nat
  | none => 0
  | some property => property.size

end

end Intake
