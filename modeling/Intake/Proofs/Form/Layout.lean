import Intake.Form.LayoutReading
import Intake.Proofs.Document.Members
import Intake.Proofs.Except
import Intake.Proofs.Related

/-! # Reading a written layout

The type of an element stands in its document, and with it which other keys are looked at. Each part
of an element is read exactly from the document that writes it, or from none if it may be left out,
so whatever was read is read again from what it is written as, at any place and with the same room.
-/

namespace Intake

open Members (find?)

private theorem ContainerKind.text_of_ofText? {text : String} {kind : ContainerKind}
    (named : ofText? text = some kind) : kind.text = text := by
  simpa using List.find?_some named

/-- The members of an element as a document. -/
def Element.members : Element → Members
  | .container kind heading elements options =>
    ("type", .string kind.text)
      :: Members.optional "label" (heading.map .string)
      ++ ("elements", .array (documentsOf elements))
      :: Members.nested "options" options
  | .control bound =>
    ("type", .string "Control") :: ("scope", .string bound.scope)
      :: Members.optional "label" (bound.label.map ControlLabel.toDocument)
      ++ Members.nested "options" bound.options
  | .label text => [("type", .string "Label"), ("text", .string text)]

theorem Element.toDocument_eq (element : Element) : element.toDocument = .object element.members := by
  cases element <;> rfl

namespace Element

variable {members options : Members} {path : String} {elements : List Element}
  {read : String → Document → Except FormError Element}

private theorem readOptions_eq_ok_iff :
    readOptions members path = .ok options ↔
      find? members "options" = some (.object options) ∨
        find? members "options" = none ∧ options = [] := by
  rw [readOptions]
  cases find? members "options" with
  | none => simp [eq_comm]
  | some document => cases document <;> simp [fail]

private theorem readLabel_eq_ok_iff {label : Option String} :
    readLabel members path = .ok label ↔ find? members "label" = label.map .string := by
  rw [readLabel]
  cases find? members "label" with
  | none => cases label <;> simp
  | some document => cases document <;> cases label <;> simp [fail]

private theorem readControlLabel_eq_ok_iff {label : Option ControlLabel} :
    readControlLabel members path = .ok label ↔
      find? members "label" = label.map ControlLabel.toDocument := by
  rw [readControlLabel]
  cases find? members "label" with
  | none => cases label <;> simp
  | some document =>
    cases document <;> rcases label with _ | _ | _ <;> simp [fail, ControlLabel.toDocument]

private theorem readText_eq_ok_iff {text : String} :
    readText members path = .ok (.label text) ↔ find? members "text" = some (.string text) := by
  rw [readText]
  cases find? members "text" with
  | none => simp [fail]
  | some document => cases document <;> simp [fail, Document.string?]

private theorem readControl_eq_ok_iff {control : Control} :
    readControl members path = .ok (.control control) ↔
      find? members "scope" = some (.string control.scope) ∧
        readControlLabel members path = .ok control.label ∧
        readOptions members path = .ok control.options ∧ ∃ names, control.path = .ok names := by
  rw [readControl]
  cases find? members "scope" with
  | none => simp [fail]
  | some document =>
    cases document with
    | string scope =>
      simp only [Option.bind_some, Document.string?, except_bind_eq_ok]
      constructor
      · rintro ⟨label, labelled, options, opted, names, leads, made⟩
        cases made
        exact ⟨rfl, labelled, opted, names, leads⟩
      · rintro ⟨same, labelled, opted, names, leads⟩
        cases same
        exact ⟨_, labelled, _, opted, names, leads, rfl⟩
    | _ => simp [fail, Document.string?]

theorem readContainer_eq_ok_iff {kind : ContainerKind} {label : Option String} :
    readContainer read kind members path = .ok (.container kind label elements options) ↔
      readLabel members path = .ok label ∧ readElements read members path = .ok elements ∧
        readOptions members path = .ok options ∧
        (kind = .categorization → ∀ element ∈ elements, element.isCategory) := by
  simp only [readContainer, except_bind_eq_ok]
  constructor
  · rintro ⟨_, labelled, _, inner, _, opted, made⟩
    split_ifs at made with refused
    · cases made
    · cases made
      exact ⟨labelled, inner, opted, by simpa using refused⟩
  · rintro ⟨labelled, inner, opted, allowed⟩
    refine ⟨_, labelled, _, inner, _, opted, ?_⟩
    rw [if_neg (by simpa using allowed)]
    rfl

variable {element : Element}

private theorem exists_of_readControl (reads : readControl members path = .ok element) :
    ∃ bound, element = .control bound := by
  rw [readControl] at reads
  split at reads
  · cases reads
  · simp only [except_bind_eq_ok] at reads
    obtain ⟨_, -, _, -, _, -, made⟩ := reads
    cases made
    exact ⟨_, rfl⟩

private theorem exists_of_readText (reads : readText members path = .ok element) :
    ∃ text, element = .label text := by
  rw [readText] at reads
  split at reads <;> cases reads
  exact ⟨_, rfl⟩

private theorem exists_of_readContainer {kind : ContainerKind}
    (reads : readContainer read kind members path = .ok element) :
    ∃ heading elements options, element = .container kind heading elements options := by
  simp only [readContainer, except_bind_eq_ok] at reads
  obtain ⟨_, -, _, -, _, -, made⟩ := reads
  split_ifs at made <;> cases made
  exact ⟨_, _, _, rfl⟩

/-- The members are those of an element, whose inner elements are read in a given way. -/
def ReadFrom (read : String → Document → Except FormError Element) (members : Members)
    (path : String) : Element → Prop
  | .container kind heading elements options =>
    readContainer read kind members path = .ok (.container kind heading elements options)
  | .control bound => readControl members path = .ok (.control bound)
  | .label text => readText members path = .ok (.label text)

/-- An element is read from an object that says its type and holds its parts. -/
theorem readWithin_succ_eq_ok_iff {maxDepth room : Nat} {document : Document} :
    readWithin maxDepth (room + 1) path document = .ok element ↔
      ∃ members, document = .object members ∧
        find? members "type" = some (.string element.typeName) ∧
        element.ReadFrom (readWithin maxDepth room) members path := by
  constructor
  · intro reads
    rw [readWithin] at reads
    split at reads
    · cases reads
    · next members isObject =>
      refine ⟨members, Document.members?_eq_some_iff.mp isObject, ?_⟩
      have typed {name : String} (found : (find? members "type").bind Document.string? = some name) :
          find? members "type" = some (.string name) := by
        obtain ⟨document, present, isText⟩ := Option.bind_eq_some_iff.mp found
        rw [present, Document.string?_eq_some_iff.mp isText]
      split at reads
      · cases reads
      · next found =>
        obtain ⟨bound, rfl⟩ := exists_of_readControl reads
        exact ⟨typed found, reads⟩
      · next found =>
        obtain ⟨text, rfl⟩ := exists_of_readText reads
        exact ⟨typed found, reads⟩
      · next name _ _ found =>
        split at reads
        · next kind named =>
          obtain ⟨heading, elements, options, rfl⟩ := exists_of_readContainer reads
          refine ⟨?_, reads⟩
          rw [typed found, typeName, ContainerKind.text_of_ofText? named]
        · cases reads
  · rintro ⟨members, rfl, typed, reads⟩
    simp only [readWithin, Document.members?, typed, Option.bind_some, Document.string?]
    cases element with
    | container kind heading elements options =>
      cases kind <;> exact reads
    | control bound => exact reads
    | label text => exact reads

private theorem documentsOf_eq_map (elements : List Element) :
    documentsOf elements = elements.map toDocument := by
  induction elements with
  | nil => rfl
  | cons element elements ih => rw [documentsOf, ih, List.map_cons]

private theorem find?_members_type :
    find? element.members "type" = some (.string element.typeName) := by
  cases element <;> simp [Element.members, typeName]

private theorem readOptions_nested
    (written : find? members "options" = if options = [] then none else some (.object options)) :
    readOptions members path = .ok options := by
  rw [readOptions_eq_ok_iff, written]
  by_cases empty : options = [] <;> simp [empty]

private theorem readElements_restores
    (written : find? members "elements" = some (.array (documentsOf elements)))
    (restores : ∀ element ∈ elements, ∀ place, read place element.toDocument = .ok element) :
    readElements read members path = .ok elements := by
  simp only [readElements, written, documentsOf_eq_map]
  rw [except_mapM_eq_ok]
  apply forall₂_map_zipIdx
  intro element member index
  exact restores element member _

/-- The elements in a container were read from documents, each at its place. -/
theorem exists_of_readElements (reads : readElements read members path = .ok elements) :
    ∀ element ∈ elements, ∃ place document, read place document = .ok element := by
  rw [readElements] at reads
  split at reads
  · cases reads
    exact List.forall_mem_nil _
  · intro element member
    obtain ⟨item, -, step⟩ := exists_of_mem_right (except_mapM_eq_ok.mp reads) member
    exact ⟨_, _, step⟩
  · cases reads

/-- Whatever is read is read again from the document that it is written as, at any place. -/
def ReadsAgain (read : String → Document → Except FormError Element) : Prop :=
  ∀ place document element, read place document = .ok element →
    ∀ other, read other element.toDocument = .ok element

/-- Where its inner elements are read again from their documents, so is an element. -/
theorem ReadFrom.restores (again : ReadsAgain read) (reads : element.ReadFrom read members path)
    (place : String) : element.ReadFrom read element.members place := by
  cases element with
  | container kind heading elements options =>
    obtain ⟨-, inner, -, allowed⟩ := readContainer_eq_ok_iff.mp reads
    refine readContainer_eq_ok_iff.mpr ⟨?_, ?_, ?_, allowed⟩
    · rw [readLabel_eq_ok_iff]
      simp [Element.members]
    · apply readElements_restores
      · simp [Element.members]
      · intro element member
        obtain ⟨_, _, read⟩ := exists_of_readElements inner element member
        exact again _ _ _ read
    · apply readOptions_nested
      simp [Element.members]
  | control bound =>
    obtain ⟨-, -, -, leads⟩ := readControl_eq_ok_iff.mp reads
    refine readControl_eq_ok_iff.mpr ⟨?_, ?_, ?_, leads⟩
    · simp [Element.members]
    · rw [readControlLabel_eq_ok_iff]
      simp [Element.members]
    · apply readOptions_nested
      simp [Element.members]
  | label text =>
    apply readText_eq_ok_iff.mpr
    simp [Element.members]

private theorem readWithin_readsAgain (maxDepth room : Nat) :
    ReadsAgain (readWithin maxDepth room) := by
  induction room with
  | zero =>
    intro place document element reads
    cases reads
  | succ room ih =>
    intro place document element reads other
    obtain ⟨members, -, -, parts⟩ := readWithin_succ_eq_ok_iff.mp reads
    apply readWithin_succ_eq_ok_iff.mpr
    exact ⟨_, element.toDocument_eq, find?_members_type, parts.restores ih other⟩

/-- A layout that was read is read again from the document that it is written as. -/
theorem ofDocument_toDocument {document : Document} {maxDepth : Nat}
    (reads : Element.ofDocument document maxDepth = .ok element) :
    Element.ofDocument element.toDocument maxDepth = .ok element :=
  readWithin_readsAgain maxDepth _ _ _ _ reads "#"

end Element

end Intake
