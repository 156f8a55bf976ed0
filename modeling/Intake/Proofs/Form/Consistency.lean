import Intake.Proofs.Form.Fields
import Intake.Proofs.Form.Layout
import Intake.Proofs.Form.Positions
import Intake.Submission.Processing

/-! # What holds of every form

A form is loaded once, and then other data are put into it: data that are handed to it, or those that
a processor made of a submission. Reading the layout bounds how deep it nests and what stands in a
categorization, loading the form ties its controls to its schema, and data have no part in either. So
what holds of a form that was loaded holds of every form that comes from it.
-/

namespace Intake

namespace Element

variable {layout element : Element} {position : List Nat} {maxDepth room : Nat} {path : String}
  {document : Document}

/-- Whatever stands in a layout that was read was read itself, with less room the deeper it stands. -/
theorem exists_readWithin_of_at? (reads : readWithin maxDepth room path document = .ok layout)
    (stands : layout.at? position = some element) :
    ∃ left place inner, room = position.length + left ∧
      readWithin maxDepth left place inner = .ok element := by
  induction position generalizing layout room path document with
  | nil =>
    cases stands
    exact ⟨room, path, document, (Nat.zero_add room).symm, reads⟩
  | cons index position ih =>
    obtain ⟨child, among, below⟩ := at?_cons.mp stands
    cases room with
    | zero => cases reads
    | succ room =>
      obtain ⟨members, -, -, parts⟩ := readWithin_succ_eq_ok_iff.mp reads
      cases layout with
      | container kind heading elements options =>
        obtain ⟨-, inner, -, -⟩ := readContainer_eq_ok_iff.mp parts
        obtain ⟨place, document, read⟩ :=
          exists_of_readElements inner child (List.mem_of_getElem? among)
        obtain ⟨left, place, inner, deeper, readBelow⟩ := ih read below
        exact ⟨left, place, inner, by rw [List.length_cons]; omega, readBelow⟩
      | _ => cases among

private theorem length_le_of_at? (reads : Element.ofDocument document maxDepth = .ok layout)
    (stands : layout.at? position = some element) : position.length ≤ maxDepth := by
  obtain ⟨left, place, inner, room, read⟩ := exists_readWithin_of_at? reads stands
  cases left with
  | zero => cases read
  | succ left => omega

/-- In a categorization stand only categories. -/
theorem isCategory_of_at? (reads : Element.ofDocument document maxDepth = .ok layout)
    {heading : Option String} {elements : List Element} {options : Members}
    (stands : layout.at? position = some (.container .categorization heading elements options)) :
    ∀ child ∈ elements, child.isCategory := by
  obtain ⟨left, place, inner, -, read⟩ := exists_readWithin_of_at? reads stands
  cases left with
  | zero => cases read
  | succ left =>
    obtain ⟨members, -, -, parts⟩ := readWithin_succ_eq_ok_iff.mp read
    obtain ⟨-, -, -, allowed⟩ := readContainer_eq_ok_iff.mp parts
    exact allowed rfl

end Element

private theorem Scope.ne_empty_of_path? {scope : String} {names : List String}
    (leads : path? scope = some names) : ∀ name ∈ names, name ≠ "" := by
  obtain ⟨rest, -, decoded⟩ := Option.bind_eq_some_iff.mp leads
  dsimp only at decoded
  split_ifs at decoded with blank
  cases decoded
  intro name member
  obtain ⟨segment, listed, rfl⟩ := List.mem_map.mp member
  intro empty
  refine blank (List.any_eq_true.mpr ⟨segment, listed, ?_⟩)
  simpa using empty

namespace Control

variable {bound : Control} {name : String} {names : List String}

theorem path_eq_ok_iff : bound.path = .ok names ↔ Scope.path? bound.scope = some names := by
  rw [path]
  cases Scope.path? bound.scope <;> simp

/-- The scope of the control leads to the property of the root with the name, and no further. -/
def Binds (bound : Control) (name : String) : Prop := bound.path = .ok [name]

private theorem topLevelName?_eq_some_iff : bound.topLevelName? = some name ↔ bound.Binds name := by
  rw [topLevelName?, Scope.topLevelName?, Binds, path_eq_ok_iff]
  split
  · next found => simp [found]
  · next other =>
    simp only [reduceCtorEq, false_iff]
    exact other name

end Control

namespace Form

/-- A control leads from the root of the schema, by names none of which is empty, to a property. -/
def Resolves (schema : FormSchema) (bound : Control) : Prop :=
  ∃ names, bound.path = .ok names ∧ names ≠ [] ∧ (∀ name ∈ names, name ≠ "") ∧
    ∃ property, schema.propertyAt? names = some property

private theorem resolves_of_checkControl {schema : FormSchema} {bound : Control}
    (checked : checkControl schema bound = .ok ()) : Resolves schema bound := by
  obtain ⟨names, leads, found⟩ := except_bind_eq_ok.mp checked
  cases target : schema.propertyAt? names with
  | none => simp [target, throw, throwThe, MonadExceptOf.throw] at found
  | some property =>
    refine ⟨names, leads, ?_, Scope.ne_empty_of_path? (Control.path_eq_ok_iff.mp leads), property, target⟩
    rintro rfl
    cases target

private theorem of_forM_eq_ok {ε α : Type} {check : α → Except ε Unit} {items : List α}
    (passes : items.forM check = .ok ()) : ∀ item ∈ items, check item = .ok () := by
  induction items with
  | nil => exact List.forall_mem_nil _
  | cons item items ih =>
    obtain ⟨⟨⟩, first, rest⟩ := except_bind_eq_ok.mp passes
    exact List.forall_mem_cons.mpr ⟨first, ih rest⟩

/-- A field has the first control of the layout that binds its name, and no control only where none
does. -/
structure IsFieldOf (form : Form) (field : Field) : Prop where
  first : ∀ bound, field.control? = some bound → ∃ layout ∈ form.layout?, ∃ position,
    layout.FirstAt (·.Binds field.name) position bound
  absent : field.control? = none → ∀ layout ∈ form.layout?, ∀ position bound,
    layout.at? position = some (.control bound) → ¬bound.Binds field.name

/-- What holds of a form whose layout was read within a bound on depth. -/
structure Consistent (form : Form) (maxDepth : Nat) : Prop where
  controls : ∀ layout ∈ form.layout?, ∀ position bound,
    layout.at? position = some (.control bound) → Resolves form.schema bound
  categories : ∀ layout ∈ form.layout?, ∀ position heading elements options,
    layout.at? position = some (.container .categorization heading elements options) →
      ∀ child ∈ elements, child.isCategory
  nests : ∀ layout ∈ form.layout?, ∀ position element,
    layout.at? position = some element → position.length ≤ maxDepth
  names : (form.schema.properties.map Property.name).Nodup
  listed : form.fields.map Field.property = form.schema.properties
  fields : ∀ field ∈ form.fields, form.IsFieldOf field

variable {document : Document} {config : Config} {form other : Form}

private theorem isFieldOf_of_mem_fields {field : Field} (member : field ∈ form.fields) :
    form.IsFieldOf field := by
  obtain ⟨property, -, rfl⟩ := List.mem_map.mp member
  constructor
  · intro bound picked
    obtain ⟨layout, laidOut, found⟩ := Option.bind_eq_some_iff.mp picked
    obtain ⟨position, first⟩ := Element.exists_firstAt_of_find? found
    simp only [beq_iff_eq, Control.topLevelName?_eq_some_iff] at first
    exact ⟨layout, laidOut, position, first⟩
  · intro missing layout laidOut position bound stands binds
    rw [Option.bind_eq_none_iff] at missing
    refine List.find?_eq_none.mp (missing layout laidOut) bound (Element.mem_controls_of_at? stands) ?_
    exact beq_iff_eq.mpr (Control.topLevelName?_eq_some_iff.mpr binds)

private theorem readLayout_eq_ok {members : Members} {maxDepth : Nat} {layout? : Option Element}
    (reads : readLayout members maxDepth = .ok layout?) :
    ∀ layout ∈ layout?, ∃ document, Element.ofDocument document maxDepth = .ok layout := by
  rw [readLayout] at reads
  rintro layout rfl
  split at reads
  · cases reads
  · cases reads
  · obtain ⟨_, read, same⟩ := except_map_eq_ok.mp reads
    cases same
    exact ⟨_, read⟩

private theorem consistent_of_ofDocument (sound : document.wellFormed)
    (loads : Form.ofDocument document config = .ok form) : form.Consistent config.maxDepth := by
  obtain ⟨members, written, -, -, -, laidOut, -, -, checked⟩ := ofDocument_eq_ok_iff.mp loads
  have wasRead := readLayout_eq_ok laidOut
  have listed : form.fields.map Field.property = form.schema.properties := by
    simp [Form.fields, Function.comp_def]
  refine ⟨?_, ?_, ?_, ?_, listed, fun field => isFieldOf_of_mem_fields⟩
  · intro layout present position bound stands
    have inside := Element.mem_controls_of_at? stands
    exact resolves_of_checkControl (of_forM_eq_ok (checked layout present) bound inside)
  · intro layout present position heading elements options stands
    obtain ⟨_, read⟩ := wasRead layout present
    exact Element.isCategory_of_at? read stands
  · intro layout present position element stands
    obtain ⟨_, read⟩ := wasRead layout present
    exact Element.length_le_of_at? read stands
  · have distinct := fieldNames_nodup (root_sound sound loads)
    have names : form.fields.map Field.name = form.schema.properties.map Property.name := by
      rw [← listed, List.map_map]
      rfl
    exact names ▸ distinct

/-- The forms that come from a form when data are put into it, or submissions of it are processed and
the results filled in, again and again. -/
inductive Derives (form : Form) : Form → Prop where
  | itself : Derives form form
  | withData {other : Form} (before : Derives form other) (data : Members) :
      Derives form (other.withData data)
  | processed {other : Form} (before : Derives form other) (processor : Processor)
      (submission : Members) : Derives form (processor.process other submission).filledForm

/-- Data have no part in what holds of every form. -/
theorem Consistent.withData {maxDepth : Nat} (consistent : form.Consistent maxDepth) (data : Members) :
    (form.withData data).Consistent maxDepth := by
  obtain ⟨controls, categories, nests, names, listed, fields⟩ := consistent
  refine ⟨controls, categories, nests, names, listed, fun field member => ?_⟩
  obtain ⟨first, absent⟩ := fields field member
  exact ⟨first, absent⟩

/-- Whatever is loaded and then filled with data, by hand or by processing submissions with any rule
engine, is consistent. -/
theorem Derives.consistent (sound : document.wellFormed)
    (loads : Form.ofDocument document config = .ok form) (derives : form.Derives other) :
    other.Consistent config.maxDepth := by
  induction derives with
  | itself => exact consistent_of_ofDocument sound loads
  | withData _ data ih => exact ih.withData data
  | processed _ processor submission ih => exact ih.withData _

/-- Two controls bind the city of a form: the one on the first page counts for the field, and the one
on the second page is nested less deep. Data are put into the form, and a submission that an engine
refuses without a message. -/
theorem Derives.consistent_pages :
    let text : Document := .object [("type", .string "string")]
    let control (scope : String) : Document :=
      .object [("type", .string "Control"), ("scope", .string scope)]
    let group (elements : List Document) : Document :=
      .object [("type", .string "Group"), ("elements", .array elements)]
    let page (elements : List Document) : Document :=
      .object [("type", .string "Category"), ("elements", .array elements)]
    let document : Document := .object [
      ("schema", .object [("type", .string "object"), ("properties", .object [("city", text),
        ("home", .object [("properties", .object [("a/b", text)])])])]),
      ("uischema", .object [("type", .string "Categorization"), ("elements", .array [
        page [group [control "#/properties/home/properties/a~1b", control "#/properties/city"]],
        page [control "#/properties/city"]])])]
    let engine : RuleEngine := fun _ _ => .error (.invalid [])
    let config : Config := { Config.default with maxDepth := 3 }
    let submission : Members := [("city", .string "Rome"), ("note", .null)]
    document.wellFormed ∧ ∃ form, Form.ofDocument document config = .ok form ∧
      (form.layout?.bind fun layout => layout.at? [0, 0, 1]).isSome ∧
      let filled := form.withData [("city", .null)]
      let other := (Processor.process ⟨config.phonePattern, engine⟩ filled submission).filledForm
      form.Derives other ∧ other.Consistent 3 := by
  intro text control group page document engine config submission
  have sound : document.wellFormed := by decide
  obtain ⟨form, loads, nested⟩ : ∃ form, Form.ofDocument document config = .ok form ∧
      (form.layout?.bind fun layout => layout.at? [0, 0, 1]).isSome := ⟨_, rfl, rfl⟩
  have filled : form.Derives (form.withData [("city", .null)]) := .withData .itself _
  have derives := filled.processed ⟨config.phonePattern, engine⟩ submission
  exact ⟨sound, form, loads, nested, derives, derives.consistent sound loads⟩

end Form

end Intake
