import Intake.Form.Element

/-! # Reading layouts

A layout is read from a document whose elements nest at most so deep. Each element says its type;
what else it may hold follows from that.
-/

namespace Intake.Element

/-- A fault of the element at a path. -/
def fail {α : Type} (path : String) (fault : LayoutFault) : Except FormError α :=
  .error (.malformedLayout path fault)

/-- The options of an element. -/
def readOptions (members : Members) (path : String) : Except FormError Members :=
  match members.find? "options" with
  | none => .ok []
  | some (.object options) => .ok options
  | some _ => fail path .optionsNotAnObject

/-- The label of a container. -/
def readLabel (members : Members) (path : String) : Except FormError (Option String) :=
  match members.find? "label" with
  | none => .ok none
  | some (.string heading) => .ok (some heading)
  | some _ => fail path .labelNotAString

/-- The label of a control. -/
def readControlLabel (members : Members) (path : String) :
    Except FormError (Option ControlLabel) :=
  match members.find? "label" with
  | none => .ok none
  | some (.string heading) => .ok (some (.text heading))
  | some (.bool flag) => .ok (some (.shown flag))
  | some _ => fail path .labelNotAStringOrBoolean

/-- A control, whose scope must lead somewhere. -/
def readControl (members : Members) (path : String) : Except FormError Element := do
  match (members.find? "scope").bind Document.string? with
  | none => fail path .missingScope
  | some scope =>
    let label ← readControlLabel members path
    let options ← readOptions members path
    let control : Control := ⟨scope, label, options⟩
    let _ ← control.path
    return .control control

/-- A label. -/
def readText (members : Members) (path : String) : Except FormError Element :=
  match (members.find? "text").bind Document.string? with
  | none => fail path .missingText
  | some text => .ok (.label text)

/-- The elements in a container, each read from its path and its document. -/
def readElements (read : String → Document → Except FormError Element) (members : Members)
    (path : String) : Except FormError (List Element) :=
  match members.find? "elements" with
  | none => .ok []
  | some (.array documents) =>
    documents.zipIdx.mapM fun (document, index) => read s!"{path}/elements/{index}" document
  | some _ => fail path .elementsNotAnArray

/-- A container of a given kind. -/
def readContainer (read : String → Document → Except FormError Element) (kind : ContainerKind)
    (members : Members) (path : String) : Except FormError Element := do
  let label ← readLabel members path
  let elements ← readElements read members path
  let options ← readOptions members path
  if kind = .categorization && !elements.all isCategory then fail path .notACategory
  else return .container kind label elements options

/-- Reads an element with so many levels to go. -/
def readWithin (maxDepth : Nat) : Nat → String → Document → Except FormError Element
  | 0, path, _ => fail path (.depthExceeded maxDepth)
  | room + 1, path, document =>
    match document.members? with
    | none => fail path .elementNotAnObject
    | some members =>
      match (members.find? "type").bind Document.string? with
      | none => fail path .missingType
      | some "Control" => readControl members path
      | some "Label" => readText members path
      | some typeName =>
        match ContainerKind.ofText? typeName with
        | some kind => readContainer (readWithin maxDepth room) kind members path
        | none => .error (.unknownElement typeName path)

/-- Reads the layout of a form. -/
def ofDocument (document : Document) (maxDepth : Nat) : Except FormError Element :=
  readWithin maxDepth (maxDepth + 1) "#" document

end Intake.Element
