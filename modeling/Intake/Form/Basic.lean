import Intake.Config
import Intake.Form.LayoutReading
import Intake.Schema.FormSchema

/-! # Forms

A form is a schema, perhaps with a layout, together with data and options. Every control of the
layout points to a property of the schema. The fields of a form are the properties of the root,
each with the first control that binds it.
-/

namespace Intake

/-- A form. -/
structure Form where
  schema : FormSchema
  layout? : Option Element
  data : Members
  options : Members

/-- A property of the root of a form with the control that binds it. -/
structure Field where
  property : Property
  control? : Option Control

namespace Field

/-- The name of the property. -/
def name (field : Field) : String := field.property.name

/-- The type of widget that the control asks for. -/
def widget? (field : Field) : Option String := field.control?.bind Control.widget?

end Field

namespace Form

/-- The data of a form: an object, or null for none. -/
def dataOfDocument : Document → Except FormError Members
  | .object members => .ok members
  | .null => .ok []
  | document => .error (.malformedData document)

/-- The control points to a property of the schema. -/
def checkControl (schema : FormSchema) (control : Control) : Except FormError Unit := do
  let path ← control.path
  if (schema.propertyAt? path).isNone then throw (.scopeNotFound control.scope)

/-- A form of given parts, whose controls must point to properties. -/
def ofParts (schema : FormSchema) (layout? : Option Element) (data options : Members) :
    Except FormError Form := do
  if let some layout := layout? then layout.controls.forM (checkControl schema)
  return ⟨schema, layout?, data, options⟩

/-- A form with nothing but a schema. -/
def ofSchema (schema : FormSchema) : Form := ⟨schema, none, [], []⟩

/-- The layout of a form, absent if it is null. -/
def readLayout (members : Members) (maxDepth : Nat) : Except FormError (Option Element) :=
  match members.find? "uischema" with
  | none | some .null => .ok none
  | some document => (Element.ofDocument document maxDepth).map some

/-- The options of a form, none if they are null. -/
def readOptions (members : Members) : Except FormError Members :=
  match members.find? "options" with
  | none | some .null => .ok []
  | some (.object options) => .ok options
  | some _ => .error (.malformedDefinition .optionsNotAnObject)

/-- The form of a document, within the bounds of a configuration. -/
def ofDocument (document : Document) (config : Config) : Except FormError Form := do
  match document.members? with
  | none => throw (.malformedDefinition .notAnObject)
  | some members =>
    match members.find? "schema" with
    | none => throw (.malformedDefinition .missingSchema)
    | some schemaDocument =>
      let schema ← (FormSchema.ofDocument schemaDocument config.maxDepth config.maxNodes).mapError
        .schema
      let layout? ← readLayout members config.maxDepth
      let data ← dataOfDocument ((members.find? "data").getD .null)
      let options ← readOptions members
      ofParts schema layout? data options

/-- The form with other data. -/
def withData (form : Form) (data : Members) : Form := { form with data }

/-- The fields in the order of their declaration. -/
def fields (form : Form) : List Field :=
  form.schema.properties.map fun property =>
    ⟨property, form.layout?.bind fun layout => layout.controlFor? property.name⟩

/-- A form as a document. -/
def toDocument (form : Form) : Document :=
  .object <|
    ("schema", form.schema.toDocument)
      :: Members.optional "uischema" (form.layout?.map Element.toDocument)
      ++ ("data", .object form.data)
      :: Members.nested "options" form.options

/-- The same schema, layout, data and options. -/
def same (left right : Form) : Bool :=
  left.schema.same right.schema && sameOption Element.same left.layout? right.layout?
    && (Document.object left.data).same (.object right.data)
    && (Document.object left.options).same (.object right.options)

end Form

end Intake
