import Intake.Form.Error
import Intake.Form.Scope
import Intake.Schema.Equality

/-! # Layouts

The layout of a form is a tree of elements. Containers hold other elements, a control binds a
widget to the property that its scope points to, and a label is mere text. A categorization holds
nothing but categories.
-/

namespace Intake

/-- The label of a control: a text, or whether there is one. -/
inductive ControlLabel where
  | text (value : String)
  | shown (flag : Bool)
deriving DecidableEq, Repr

/-- A widget for a property. -/
structure Control where
  scope : String
  label : Option ControlLabel
  options : Members
deriving Repr

/-- The kinds of container. -/
inductive ContainerKind where
  | verticalLayout
  | horizontalLayout
  | group
  | categorization
  | category
deriving DecidableEq, Repr

/-- An element of a layout. -/
inductive Element where
  | container (kind : ContainerKind) (label : Option String) (elements : List Element)
      (options : Members)
  | control (control : Control)
  | label (text : String)
deriving Repr

/-- A label as a document. -/
def ControlLabel.toDocument : ControlLabel → Document
  | .text value => .string value
  | .shown flag => .bool flag

namespace Control

/-- The names that the scope leads through. -/
def path (control : Control) : Except FormError (List String) :=
  match Scope.path? control.scope with
  | some names => .ok names
  | none => .error (.invalidScope control.scope)

/-- The name of the property of the root that the control binds. -/
def topLevelName? (control : Control) : Option String := Scope.topLevelName? control.scope

/-- The type of widget that the options ask for. -/
def widget? (control : Control) : Option String :=
  (control.options.find? "type").bind Document.string?

/-- A control as a document. -/
def toDocument (control : Control) : Document :=
  .object <|
    ("type", .string "Control") :: ("scope", .string control.scope)
      :: Members.optional "label" (control.label.map ControlLabel.toDocument)
      ++ Members.nested "options" control.options

/-- The same scope, label and options. -/
def same (left right : Control) : Bool :=
  left.scope == right.scope && left.label == right.label
    && (Document.object left.options).same (.object right.options)

end Control

namespace ContainerKind

/-- All kinds. -/
def all : List ContainerKind :=
  [.verticalLayout, .horizontalLayout, .group, .categorization, .category]

/-- The name of a kind. -/
def text : ContainerKind → String
  | .verticalLayout => "VerticalLayout"
  | .horizontalLayout => "HorizontalLayout"
  | .group => "Group"
  | .categorization => "Categorization"
  | .category => "Category"

/-- The kind that a text names. -/
def ofText? (text : String) : Option ContainerKind :=
  all.find? fun kind => kind.text == text

end ContainerKind

namespace Element

/-- The type of an element as layouts write it. -/
def typeName : Element → String
  | .container kind _ _ _ => kind.text
  | .control _ => "Control"
  | .label _ => "Label"

/-- The elements in a container. -/
def elements : Element → List Element
  | .container _ _ elements _ => elements
  | _ => []

/-- The element is a category. -/
def isCategory : Element → Bool
  | .container .category _ _ _ => true
  | _ => false

mutual

/-- All controls in the order of the document. -/
def controls : Element → List Control
  | .container _ _ elements _ => controlsOfAll elements
  | .control bound => [bound]
  | .label _ => []

/-- All controls of a list of elements. -/
def controlsOfAll : List Element → List Control
  | [] => []
  | element :: elements => controls element ++ controlsOfAll elements

end

/-- The first control that binds the property of the root with a given name. -/
def controlFor? (element : Element) (name : String) : Option Control :=
  element.controls.find? fun control => control.topLevelName? == some name

mutual

/-- An element as a document. -/
def toDocument : Element → Document
  | .container kind heading elements options =>
    .object <|
      ("type", .string kind.text)
        :: Members.optional "label" (heading.map .string)
        ++ ("elements", .array (documentsOf elements))
        :: Members.nested "options" options
  | .control bound => bound.toDocument
  | .label text => .object [("type", .string "Label"), ("text", .string text)]

/-- Each element of a list as a document. -/
def documentsOf : List Element → List Document
  | [] => []
  | element :: elements => toDocument element :: documentsOf elements

end

mutual

/-- The same element with the same parts. -/
def same : Element → Element → Bool
  | .container kind heading elements options, .container kind' heading' elements' options' =>
    kind == kind' && heading == heading' && sameAll elements elements'
      && (Document.object options).same (.object options')
  | .control bound, .control bound' => bound.same bound'
  | .label text, .label text' => text == text'
  | _, _ => false

/-- The same elements in the same order. -/
def sameAll : List Element → List Element → Bool
  | [], [] => true
  | element :: elements, element' :: elements' =>
    same element element' && sameAll elements elements'
  | _, _ => false

end

end Element

end Intake
