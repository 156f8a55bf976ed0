import Intake.ValueType.Casting

/-! # Registries of types

A registry holds types in the order in which they were registered, no two of one name. It guesses
the type of a value by its shape; a string belongs to the first type that may be guessed and takes
it, and is text if there is none. Integers too wide for a signed 64-bit word are kept as text.

What a registry asks of its types is little, so they need not be the ones of this library.
-/

namespace Intake

/-- What a registry asks of a type. -/
class RegisteredType (α : Type) where
  /-- The name of the type. -/
  name : α → String
  /-- The type may be guessed from a text. -/
  isGuessable : α → Bool
  /-- The type takes the value as its own. -/
  validate : α → Document → Bool

instance : RegisteredType ValueType where
  name := ValueType.name
  isGuessable := ValueType.isGuessable
  validate := ValueType.validate

/-- The known types in the order of their registration. -/
structure TypeRegistry (α : Type := ValueType) where
  types : List α

namespace TypeRegistry

open RegisteredType (name isGuessable validate)

variable {α : Type}

/-- No types. -/
def empty : TypeRegistry α := ⟨[]⟩

/-- The built-in types with their default options. -/
def builtin : TypeRegistry := ⟨BuiltinType.all.map fun type => .ofBuiltin type []⟩

/-- The first type that is an instance of a built-in one, or that is given by a pattern. -/
def instanceOf? (registry : TypeRegistry) (builtin? : Option BuiltinType) : Option ValueType :=
  registry.types.find? fun type => type.builtin? == builtin?

variable [RegisteredType α]

/-- The names of the types. -/
def names (registry : TypeRegistry α) : List String := registry.types.map name

/-- A type of the name is known. -/
def contains (registry : TypeRegistry α) (name : String) : Bool := registry.names.contains name

/-- Adds a type, whose name must be new. -/
def register (registry : TypeRegistry α) (type : α) : Except TypeError (TypeRegistry α) :=
  if registry.contains (name type) then .error (.alreadyRegistered (name type))
  else .ok ⟨registry.types ++ [type]⟩

/-- Adds types one after the other. -/
def registerAll (registry : TypeRegistry α) (types : List α) : Except TypeError (TypeRegistry α) :=
  types.foldlM register registry

/-- The type last written under a name. -/
def get (registry : TypeRegistry α) (key : String) : Except TypeError α :=
  match registry.types.findRev? fun type => name type == key with
  | some type => .ok type
  | none => .error (.notFound key)

/-- The types that may be guessed from a text, in order. -/
def guessable (registry : TypeRegistry α) : List α := registry.types.filter isGuessable

/-- The first guessable type that takes a text, or else the type of texts. -/
def guessText (registry : TypeRegistry α) (text : String) : Except TypeError α :=
  match registry.guessable.find? fun type => validate type (.string text) with
  | some type => .ok type
  | none => registry.get BuiltinType.text.name

/-- The text is a run of digits too long for a signed 64-bit word. -/
def isWideInteger (text : String) : Bool :=
  let digits := Text.trimChars text.toList
  Text.isDigitRun digits && (Text.signed? digits).isNone

/-- The type of a value. -/
def guess (registry : TypeRegistry α) (value : Document) : Except TypeError α :=
  match value with
  | .null => .error (.cannotGuess .null)
  | .bool _ => registry.get BuiltinType.boolean.name
  | .number (.integer value) =>
    registry.get (if fitsSigned value then BuiltinType.integer.name else BuiltinType.text.name)
  | .number (.real _) => registry.get BuiltinType.float.name
  | .string text =>
    if isWideInteger text then registry.get BuiltinType.text.name else registry.guessText text
  | .array _ => registry.get BuiltinType.array.name
  | .object _ => registry.get BuiltinType.object.name

/-- The type of a date, a time of day or a moment that is given as such. -/
def guessMoment (registry : TypeRegistry α) : Except TypeError α :=
  registry.get BuiltinType.datetime.name

end TypeRegistry

end Intake
