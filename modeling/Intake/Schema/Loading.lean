import Intake.Schema.Keyword

/-! # Loading schemas

A schema is loaded from a document with references into a set of definitions, which are expanded in
place. Members beside a reference replace those of the schema it names. Three bounds hold: no
reference is expanded within itself, schemas and references nest at most so deep, and the schemas
of all loads together are at most so many. The third bound is a budget that every schema, whether
it turns out well or not, takes one from; it is the state of a load and outlives its failure.
-/

namespace Intake

/-- The number of schemas that a document may hold unless another bound is set. -/
def defaultMaxNodes : Nat := 10000

/-- A run that loads schemas from a budget and may fail. -/
abbrev Load := ExceptT SchemaError (StateM Nat)

/-- The definitions that references name, and the bounds on what is loaded. -/
structure Loader where
  definitions : Members
  maxDepth : Nat
  maxNodes : Nat
deriving Repr

namespace Load

variable {m : Type → Type} [MonadExceptOf SchemaError m] {α : Type}

/-- Fails at a path. -/
def fail (path : String) (fault : SchemaFault) : m α :=
  throw ⟨path, fault⟩

/-- The value of a keyword, or its fault at a path. -/
def keyword [Monad m] (path : String) (value : Except SchemaFault α) : m α :=
  match value with
  | .ok result => pure result
  | .error fault => fail path fault

end Load

/-- How a schema within a schema is loaded by runs of a kind: from its name, its path and its
document. -/
abbrev LoadChildBy (m : Type → Type) := String → String → Document → m Property

/-- How a schema within a schema is loaded. -/
abbrev LoadChild := LoadChildBy Load

namespace Loader

open Load

section Parts

variable {m : Type → Type} [Monad m] [MonadExceptOf SchemaError m]

/-- Takes one schema from the budget. -/
def charge [MonadStateOf Nat m] (loader : Loader) (path : String) : m Unit := do
  match ← get with
  | 0 => fail path (.tooLarge loader.maxNodes)
  | left + 1 => set left

/-- The places where references look for definitions. -/
def referenceHeads : List String := ["#/definitions/", "#/$defs/"]

/-- The name of the definition that a reference points to. -/
def referencedName? (reference : String) : Option String :=
  referenceHeads.findSome? fun head =>
    (head.toList.isPrefixOf? reference.toList).map String.ofList

/-- The members of the definition that a reference points to. -/
def resolve? (loader : Loader) (reference : String) : Option Members := do
  let name ← referencedName? reference
  let definition ← loader.definitions.find? name
  definition.members?

/-- The reference and the members that take the place of an object with a reference in it. -/
def expand (loader : Loader) (expanding : List String) (path : String) (reference : Document)
    (members : Members) : Except SchemaError (String × Members) :=
  match reference.string? with
  | none => .error ⟨path, .unexpectedValue "$ref" .string⟩
  | some reference =>
    match loader.resolve? reference with
    | none => .error ⟨path, .unresolvedReference reference⟩
    | some target =>
      if expanding.contains reference then .error ⟨path, .cyclicReference reference⟩
      else .ok (reference, target.insertAll (members.without ["$ref"]))

/-- The kind of a schema: the one it names, or else the one that its parts tell. -/
def kindName (members : Members) : Except SchemaFault KindName :=
  match members.find? "type" with
  | some (.string text) =>
    match KindName.ofText? text with
    | some kind => .ok kind
    | none => .error (.unknownKind text)
  | some _ => .error (.unexpectedValue "type" .singleString)
  | none =>
    if members.contains "properties" then .ok .object
    else if members.contains "items" then .ok .array
    else .error .missingKind

/-- The limits on strings. The pattern must be one. -/
def stringLimits (members : Members) : Except SchemaFault StringLimits := do
  let pattern ← Keyword.string members "pattern"
  if let some text := pattern then
    if let .error error := Pattern.ofText text then
      throw (.badPattern error)
  return {
    format := ← Keyword.string members "format"
    minLength := ← Keyword.count members "minLength"
    maxLength := ← Keyword.count members "maxLength"
    pattern
    mediaType := ← Keyword.string members "contentMediaType"
    encoding := ← Keyword.string members "contentEncoding" }

/-- The limits on numbers. -/
def numberLimits (members : Members) : Except SchemaFault NumberLimits := do
  return {
    minimum := ← Keyword.number members "minimum"
    maximum := ← Keyword.number members "maximum"
    exclusiveMinimum := ← Keyword.number members "exclusiveMinimum"
    exclusiveMaximum := ← Keyword.number members "exclusiveMaximum"
    multipleOf := ← Keyword.number members "multipleOf" }

/-- The schema under a keyword, which also names it. -/
def child? (load : LoadChildBy m) (members : Members) (path key : String) :
    m (Option Property) :=
  match members.find? key with
  | none => pure none
  | some document => some <$> load key s!"{path}/{key}" document

/-- The kind of a list with its limits and parts. -/
def arrayKind (load : LoadChildBy m) (members : Members) (path : String) : m Kind := do
  let items ← child? load members path "items"
  let minItems ← keyword path (Keyword.count members "minItems")
  let maxItems ← keyword path (Keyword.count members "maxItems")
  let contains ← child? load members path "contains"
  let minContains ← keyword path (Keyword.count members "minContains")
  let maxContains ← keyword path (Keyword.count members "maxContains")
  let uniqueItems ← keyword path (Keyword.flag members "uniqueItems")
  return .array ⟨minItems, maxItems, minContains, maxContains, uniqueItems⟩ items contains

/-- The properties of an object in the order of their declaration. -/
def properties (load : LoadChildBy m) (members : Members) (path : String) :
    m (List Property) := do
  let declared ← keyword path (Keyword.optional Document.members? .object members "properties")
  (declared.getD []).mapM fun (name, document) => load name s!"{path}/properties/{name}" document

/-- The names that an object lists as required. -/
def requiredNames (members : Members) : Except SchemaFault (List String) :=
  match members.find? "required" with
  | some (.array items) => Keyword.strings items "required"
  | _ => .ok []

/-- The names that each of some names needs beside it. -/
def dependencies (members : Members) : Except SchemaFault (Dictionary (List String)) := do
  let declared ← Keyword.optional Document.members? .object members "dependentRequired"
  let entries ← (declared.getD []).mapM fun (name, document) =>
    match document with
    | .array items => return (name, ← Keyword.strings items "dependentRequired")
    | _ => Keyword.unexpected s!"dependentRequired.{name}" .array
  return .ofList entries

/-- What an object may hold beside its properties. -/
def additional (load : LoadChildBy m) (members : Members) (path : String) : m Additional :=
  match members.find? "additionalProperties" with
  | none => pure .unstated
  | some (.bool flag) => pure (.allowed flag)
  | some (.object entries) =>
    .schema <$> load "additionalProperties" s!"{path}/additionalProperties" (.object entries)
  | some _ => fail path (.unexpectedValue "additionalProperties" .booleanOrSchema)

/-- The kind of an object with its limits and parts. -/
def objectKind (load : LoadChildBy m) (members : Members) (path : String) : m Kind := do
  let properties ← properties load members path
  let required ← keyword path (requiredNames members)
  let dependentRequired ← keyword path (dependencies members)
  let minProperties ← keyword path (Keyword.count members "minProperties")
  let maxProperties ← keyword path (Keyword.count members "maxProperties")
  let additional ← additional load members path
  return .object ⟨required, dependentRequired, minProperties, maxProperties⟩ properties additional

/-- A kind by its name, with its limits and parts. -/
def kind (load : LoadChildBy m) (members : Members) (path : String) : KindName → m Kind
  | .string => return .string (← keyword path (stringLimits members))
  | .integer => return .integer (← keyword path (numberLimits members))
  | .number => return .number (← keyword path (numberLimits members))
  | .boolean => return .boolean
  | .array => arrayKind load members path
  | .object => objectKind load members path
  | .null => return .null

/-- What the schema says of its values. -/
def annotations (members : Members) : Except SchemaFault Annotations := do
  return {
    title := ← Keyword.string members "title"
    description := ← Keyword.string members "description"
    default := members.find? "default"
    deprecated := ← Keyword.flag members "deprecated"
    examples := ← Keyword.list members "examples"
    readOnly := ← Keyword.flag members "readOnly"
    writeOnly := ← Keyword.flag members "writeOnly"
    choices := ← Keyword.list members "enum"
    constant := members.find? "const" }

/-- A list of alternatives, each named by the keyword. -/
def alternatives (load : LoadChildBy m) (members : Members) (path key : String) :
    m (List Property) := do
  let documents ← keyword path (Keyword.list members key)
  (documents.getD []).zipIdx.mapM fun (document, index) =>
    load key s!"{path}/{key}/{index}" document

/-- The mark that the property is required. A list of names in its place belongs to an object. -/
def requiredMark (members : Members) (kind : KindName) : Except SchemaFault Bool :=
  match members.find? "required" with
  | none => .ok false
  | some (.bool flag) => .ok flag
  | some (.array _) =>
    if kind = .object then .ok false else Keyword.unexpected "required" .requirement
  | some _ => Keyword.unexpected "required" .requirement

/-- The schema of an object without a reference. -/
def property [MonadStateOf Nat m] (loader : Loader) (load : LoadChildBy m) (name path : String)
    (members : Members) : m Property := do
  loader.charge path
  let kindName ← keyword path (kindName members)
  let kind ← kind load members path kindName
  let annotations ← keyword path (annotations members)
  let allOf ← alternatives load members path "allOf"
  let anyOf ← alternatives load members path "anyOf"
  let oneOf ← alternatives load members path "oneOf"
  let required ← keyword path (requiredMark members kindName)
  return ⟨name, kind, annotations, allOf, anyOf, oneOf, required⟩

end Parts

/-- Loads a schema while the given references are being expanded, with so many levels to go. -/
def loadWithin (loader : Loader) : Nat → List String → LoadChild
  | 0, _, _, path, _ => fail path (.depthExceeded loader.maxDepth)
  | room + 1, expanding, name, path, document =>
    match document.members? with
    | none => fail path .schemaNotAnObject
    | some members =>
      match members.find? "$ref" with
      | none => loader.property (loadWithin loader room expanding) name path members
      | some reference =>
        match loader.expand expanding path reference members with
        | .error error => throw error
        | .ok (reference, merged) =>
          loadWithin loader room (reference :: expanding) name path (.object merged)

/-- Loads the schema of a property. -/
def load (loader : Loader) (name path : String) (document : Document) : Load Property :=
  loader.loadWithin (loader.maxDepth + 1) [] name path document

/-- Runs a load with the whole budget; the number that comes with the result is what is left. -/
def run {α : Type} (loader : Loader) (load : Load α) : Except SchemaError α × Nat :=
  (ExceptT.run load).run loader.maxNodes

end Loader

end Intake
