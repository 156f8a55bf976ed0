import Intake.Schema.Loading
import Intake.Schema.Equality
import Intake.Schema.Writing

/-! # Form schemas

The root of a form is the schema of an object, whose properties are the fields of the form. Beside
it a form schema holds the named definitions that references in its document point to.
-/

namespace Intake

/-- The schema of a form. -/
structure FormSchema where
  root : Property
  definitions : Dictionary Property
  root_isObject : root.kind.name = .object

namespace FormSchema

/-- A form schema with a given root, which must be an object. -/
def ofRoot (root : Property) (definitions : Dictionary Property) :
    Except SchemaError FormSchema :=
  if isObject : root.kind.name = .object then .ok ⟨root, definitions, isObject⟩
  else .error ⟨"#", .rootNotAnObject root.kind.name⟩

/-- A form schema without properties. -/
def empty : FormSchema := ⟨.plain "" .emptyObject, [], rfl⟩

/-- The keywords under which a document keeps its definitions; those of the second win. -/
def definitionKeywords : List String := ["definitions", "$defs"]

/-- The definitions of a document under all keywords, in the order in which their names come. -/
def rawDefinitions (members : Members) : Except SchemaFault Members :=
  definitionKeywords.foldlM
    (fun definitions key => do
      let entries ← Keyword.optional Document.members? .object members key
      return definitions.insertAll (entries.getD []))
    []

/-- Loads all definitions of a loader. -/
def loadDefinitions (loader : Loader) : Load (Dictionary Property) := do
  let entries ← loader.definitions.mapM fun (name, document) => do
    return (name, ← loader.load name s!"#/definitions/{name}" document)
  return .ofList entries

/-- Loads the definitions of a document and then its root, all from one budget. -/
def ofDocument (document : Document) (maxDepth maxNodes : Nat) :
    Except SchemaError FormSchema := do
  match document.members? with
  | none => throw ⟨"#", .formSchemaNotAnObject⟩
  | some members =>
    match rawDefinitions members with
    | .error fault => throw ⟨"#", fault⟩
    | .ok rawDefinitions =>
      let loader : Loader := ⟨rawDefinitions, maxDepth, maxNodes⟩
      let parts : Load (Property × Dictionary Property) := do
        let definitions ← loadDefinitions loader
        let root ← loader.load "" "#" (.object (members.without definitionKeywords))
        return (root, definitions)
      let (root, definitions) ← (loader.run parts).1
      ofRoot root definitions

/-- The properties of the root in the order of their declaration. -/
def properties (schema : FormSchema) : List Property := schema.root.kind.properties

/-- The property of the root with a given name. -/
def property? (schema : FormSchema) (name : String) : Option Property :=
  schema.root.kind.property? name

/-- The property at the end of a path of names. -/
def propertyAt? (schema : FormSchema) : List String → Option Property
  | [] => none
  | name :: names =>
    names.foldlM (fun property name => property.kind.property? name) =<< schema.property? name

/-- The names that the root lists as required. -/
def requiredNames (schema : FormSchema) : List String := schema.root.kind.requiredNames

/-- The root lists the name as required. -/
def isRequired (schema : FormSchema) (name : String) : Bool :=
  schema.requiredNames.contains name

/-- The names listed as required that no property has. -/
def unknownRequiredNames (schema : FormSchema) : List String :=
  schema.requiredNames.filter fun name => (schema.property? name).isNone

/-- The definition with a given name. -/
def definition? (schema : FormSchema) (name : String) : Option Property :=
  schema.definitions.find? name

/-- The same root and the same definitions. -/
def same (left right : FormSchema) : Bool :=
  left.root.same right.root
    && left.definitions.keys == right.definitions.keys
    && samePropertyLists (left.definitions.map (·.2)) (right.definitions.map (·.2))

/-- The definitions, each written under its name. -/
def definitionMembers (schema : FormSchema) : Members :=
  schema.definitions.map fun (name, property) => (name, property.toDocument)

/-- The document of a form schema: that of its root with the definitions at the end. -/
def toDocument (schema : FormSchema) : Document :=
  .object ((schema.root.toDocument.members?.getD [])
    ++ Members.nested "definitions" schema.definitionMembers)

end FormSchema

end Intake
