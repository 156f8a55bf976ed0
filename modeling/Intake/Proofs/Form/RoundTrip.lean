import Intake.Proofs.Form.Fields
import Intake.Proofs.Form.Layout
import Intake.Proofs.Schema.RoundTrip

/-! # Loading a written form

The document of a form keeps all its definitions under one key and refers to none of them, so they
are loaded again one by one, in the ascending order of their names, and then the root. Together they
cost what the form holds, which the first load had covered. The layout is read again from what it was
written as, and its controls still lead to properties of the same schema.
-/

namespace Intake

open Load
open Members (find?)

/-- A schema that is known is loaded again from its own document for its size. -/
theorem Property.LoadedAs.restores {name : String} {property : Property} {maxDepth : Nat}
    (known : property.LoadedAs name (maxDepth + 1)) (definitions : Members) (maxNodes : Nat)
    (path : String) (left : Nat) :
    Yields ((Loader.mk definitions maxDepth maxNodes).load name path property.toDocument)
      (left + property.size) property left := by
  obtain ⟨levels, room, nests⟩ := known.nests
  have enough : levels < maxDepth + 1 := by omega
  have again := Loader.loadWithin_restores ⟨definitions, maxDepth, maxNodes⟩ [] enough known.sound
    nests path left
  rwa [known.name_eq] at again

namespace FormSchema

variable {schema : FormSchema} {maxDepth maxNodes : Nat}

/-- The document of a schema has no definitions. -/
theorem find?_members_of_definitionKeyword (property : Property) :
    ∀ key ∈ definitionKeywords, find? property.members key = none := by
  have apart : ∀ key ∈ definitionKeywords, key ∉ Annotations.keys ∧ key ∉ Kind.keys ∧
      "required" ≠ key ∧ "type" ≠ key ∧ "allOf" ≠ key ∧ "anyOf" ≠ key ∧ "oneOf" ≠ key := by decide
  intro key known
  obtain ⟨notSaid, notKind, notMark, notType, notAll, notAny, notOne⟩ := apart key known
  rw [property.find?_members_of_other notSaid notKind notMark notType]
  simp [notAll, notAny, notOne]

/-- The members of a form schema as a document. -/
def members (schema : FormSchema) : Members :=
  schema.root.members ++ Members.nested "definitions" schema.definitionMembers

private theorem toDocument_eq (schema : FormSchema) : schema.toDocument = .object schema.members := by
  rw [toDocument, Property.toDocument_eq]
  rfl

private theorem without_members : schema.members.without definitionKeywords = schema.root.members := by
  have apart : (Members.nested "definitions" schema.definitionMembers).without definitionKeywords =
      [] := by
    rw [Members.nested]
    split_ifs <;> rfl
  rw [members, Members.without_append, apart, List.append_nil]
  exact Members.without_eq_self (find?_members_of_definitionKeyword schema.root)

private theorem keys_definitionMembers :
    Members.keys schema.definitionMembers = Dictionary.keys schema.definitions := by
  simp [Members.keys, Dictionary.keys, definitionMembers, Function.comp_def]

/-- The definitions are all found under the first keyword. -/
theorem rawDefinitions_members (ascending : schema.definitions.Ascending) :
    rawDefinitions schema.members = .ok schema.definitionMembers := by
  have distinct : (Members.keys schema.definitionMembers).Nodup := by
    rw [keys_definitionMembers]
    exact ascending.nodup
  have apart := find?_members_of_definitionKeyword schema.root
  have written : find? schema.members "definitions" =
      if schema.definitionMembers = [] then none else some (.object schema.definitionMembers) := by
    rw [members, Members.find?_append, apart _ (by decide)]
    simp
  have others : find? schema.members "$defs" = none := by
    rw [members, Members.find?_append, apart _ (by decide)]
    simp
  obtain ⟨declared, first, entries⟩ := Keyword.object_of_unless id written
  have second : Keyword.optional Document.members? .object schema.members "$defs" = .ok none := by
    rw [Keyword.object_eq_ok_iff, others]
    rfl
  simp only [rawDefinitions, definitionKeywords, List.foldlM_cons, List.foldlM_nil,
    except_bind_eq_ok]
  refine ⟨_, ⟨declared, first, rfl⟩, _, ⟨none, second, rfl⟩, ?_⟩
  rw [entries]
  exact congrArg Except.ok (Members.ofList_of_nodup distinct)

/-- The definitions are loaded again from any budget that covers them all. -/
theorem loadDefinitions_restores (known : schema.LoadedWithin maxDepth maxNodes) (left : Nat) :
    Yields (loadDefinitions ⟨schema.definitionMembers, maxDepth, maxNodes⟩)
      (left + (schema.definitions.map fun entry => entry.2.size).sum) schema.definitions left := by
  refine yields_bind.mpr ⟨schema.definitions, left, yields_mapM ?_ left, ?_⟩
  · rw [definitionMembers, List.forall₂_map_left_iff, List.forall₂_same]
    intro entry member left
    have restored := (known.definitions entry member).restores
    exact yields_bind.mpr ⟨_, _, restored _ _ _ left, yields_pure.mpr ⟨rfl, rfl⟩⟩
  · rw [Dictionary.ofList_of_ascending known.ascending]
    exact yields_pure.mpr ⟨rfl, rfl⟩

/-- A form schema is loaded where its definitions and then its root are. -/
theorem ofDocument_of_yields {members definitions : Members} {between left : Nat}
    (read : rawDefinitions members = .ok definitions)
    (others : Yields (loadDefinitions ⟨definitions, maxDepth, maxNodes⟩) maxNodes
      schema.definitions between)
    (root : Yields ((Loader.mk definitions maxDepth maxNodes).load "" "#"
      (.object (members.without definitionKeywords))) between schema.root left) :
    FormSchema.ofDocument (.object members) maxDepth maxNodes = .ok schema := by
  rw [ofDocument]
  simp only [Document.members?, read]
  refine except_bind_eq_ok.mpr ⟨(schema.root, schema.definitions), ?_, ?_⟩
  · have last : Yields (do
        let root ← (Loader.mk definitions maxDepth maxNodes).load "" "#"
          (.object (members.without definitionKeywords))
        return (root, schema.definitions)) between (schema.root, schema.definitions) left :=
      yields_bind.mpr ⟨_, _, root, yields_pure.mpr ⟨rfl, rfl⟩⟩
    exact congrArg Prod.fst (yields_bind.mpr ⟨_, _, others, last⟩).run_eq
  · exact dif_pos schema.root_isObject

/-- A form schema that is known within some limits is loaded from its own document within them. -/
theorem ofDocument_toDocument (known : schema.LoadedWithin maxDepth maxNodes) :
    FormSchema.ofDocument schema.toDocument maxDepth maxNodes = .ok schema := by
  obtain ⟨left, budget⟩ := Nat.exists_eq_add_of_le' known.size_le
  have others := loadDefinitions_restores known (left + schema.root.size)
  rw [Nat.add_assoc, ← budget] at others
  have root := known.root.restores schema.definitionMembers maxNodes "#" left
  rw [Property.toDocument_eq, ← without_members] at root
  rw [toDocument_eq]
  exact ofDocument_of_yields (rawDefinitions_members known.ascending) others root

end FormSchema

namespace Form

variable {form : Form} {document : Document} {config : Config}

/-- The members of a form as a document. -/
def members (form : Form) : Members :=
  ("schema", form.schema.toDocument)
    :: Members.optional "uischema" (form.layout?.map Element.toDocument)
    ++ ("data", .object form.data)
    :: Members.nested "options" form.options

private theorem toDocument_eq (form : Form) : form.toDocument = .object form.members := rfl

/-- A layout that was read is read again from the members of the form. -/
theorem readLayout_members {members : Members} {maxDepth : Nat}
    (reads : readLayout members maxDepth = .ok form.layout?) :
    readLayout form.members maxDepth = .ok form.layout? := by
  have written : find? form.members "uischema" = form.layout?.map Element.toDocument := by
    simp [Form.members]
  rw [readLayout, written]
  cases laidOut : form.layout? with
  | none => rfl
  | some layout =>
    rw [laidOut, readLayout] at reads
    split at reads
    · cases reads
    · cases reads
    · obtain ⟨_, read, ⟨⟩⟩ := except_map_eq_ok.mp reads
      have again := Element.ofDocument_toDocument read
      rw [Element.toDocument_eq] at again
      simp only [Option.map_some, Element.toDocument_eq, again]
      rfl

private theorem readOptions_members (form : Form) : readOptions form.members = .ok form.options := by
  have written : find? form.members "options" =
      if form.options = [] then none else some (.object form.options) := by
    simp [Form.members]
  rw [readOptions, written]
  by_cases empty : form.options = [] <;> simp [empty]

/-- A form that was loaded is loaded again from the document that it is written as, with the same
schema, layout, data and options. -/
theorem toDocument_loads (sound : document.wellFormed)
    (loads : Form.ofDocument document config = .ok form) :
    Form.ofDocument form.toDocument config = .ok form := by
  obtain ⟨members, written, rfl, found, read, laidOut, -, -, leads⟩ := ofDocument_eq_ok_iff.mp loads
  have known := FormSchema.loadedWithin (Document.wellFormed_of_find? sound found) read
  refine ofDocument_eq_ok_iff.mpr ⟨form.members, form.schema.toDocument, form.toDocument_eq, ?_,
    FormSchema.ofDocument_toDocument known, readLayout_members laidOut, ?_,
    form.readOptions_members, leads⟩
  · simp [Form.members]
  · have data : find? form.members "data" = some (.object form.data) := by simp [Form.members]
    rw [data]
    rfl

/-- A definition that both keywords have, a reference to it with a title beside it, null for data and
options, and a control with a label that is not shown. -/
theorem toDocument_loads_address :
    let city : Document := .object [("type", .string "string")]
    let address : Document := .object [("properties", .object [("city", city)])]
    let home : Document := .object [("$ref", .string "#/definitions/address"),
      ("title", .string "Home")]
    let control : Document := .object [("type", .string "Control"),
      ("scope", .string "#/properties/home/properties/city"), ("label", .bool false),
      ("options", .object [("type", .string "editor")])]
    let page : Document := .object [("type", .string "Category"), ("label", .string "Home"),
      ("elements", .array [.object [("type", .string "Label"), ("text", .string "City")], control])]
    let document : Document := .object [
      ("schema", .object [("definitions", .object [("address", city)]),
        ("$defs", .object [("town", city), ("address", address)]),
        ("properties", .object [("home", home)])]),
      ("uischema", .object [("type", .string "Categorization"), ("elements", .array [page])]),
      ("data", .null), ("options", .null)]
    document.wellFormed ∧ ∃ form, Form.ofDocument document .default = .ok form ∧
      form.schema.definitions.keys = ["address", "town"] ∧ form.data = [] ∧
      Form.ofDocument form.toDocument .default = .ok form := by
  intro city address home control page document
  have sound : document.wellFormed := by decide
  have loads : Form.ofDocument document .default = .ok _ := rfl
  exact ⟨sound, _, loads, by decide, rfl, toDocument_loads sound loads⟩

end Form

end Intake
