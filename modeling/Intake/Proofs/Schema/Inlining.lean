import Intake.Proofs.Form.Fields
import Intake.Proofs.Schema.Meaning

/-! # References mean their definitions

A schema is found in a document by steps down from its root: to a property, to the items of a list, to
an alternative. The same steps lead down in the schema that was loaded. Where they end at a bare
reference in the document they end in the loaded schema at what the definition was loaded as, though
the two were loaded apart from each other.
-/

namespace Intake

open Load

/-- A step from a schema to one that it is made of. -/
inductive SchemaStep where
  | property (name : String)
  | additional
  | items
  | contains
  | allOf (index : Nat)
  | anyOf (index : Nat)
  | oneOf (index : Nat)
deriving DecidableEq, Repr

namespace SchemaStep

/-- What the schema at the end of the step is called. -/
def name : SchemaStep → String
  | .property name => name
  | .additional => "additionalProperties"
  | .items => "items"
  | .contains => "contains"
  | .allOf _ => "allOf"
  | .anyOf _ => "anyOf"
  | .oneOf _ => "oneOf"

/-- The document that is so far down in a list under a keyword. -/
def listed? (members : Members) (key : String) (index : Nat) : Option Document :=
  ((members.find? key).bind Document.items?).bind fun items => items[index]?

/-- A part that only schemas of a kind are made of. -/
def ofKind (members : Members) (kind : KindName) (document? : Option Document) : Option Document :=
  match Loader.kindName members with
  | .ok told => if told = kind then document? else none
  | .error _ => none

/-- The document at the end of the step, if the schema that the members tell is made of it. -/
def document? (members : Members) : SchemaStep → Option Document
  | .property name =>
    ofKind members .object ((members.find? "properties").bind fun declared => declared.get? name)
  | .additional =>
    ofKind members .object
      ((members.find? "additionalProperties").filter fun value => value.members?.isSome)
  | .items => ofKind members .array (members.find? "items")
  | .contains => ofKind members .array (members.find? "contains")
  | .allOf index => listed? members "allOf" index
  | .anyOf index => listed? members "anyOf" index
  | .oneOf index => listed? members "oneOf" index

private theorem ofKind_eq_some_iff {members : Members} {kind told : KindName}
    {document? : Option Document} {document : Document} (reads : Loader.kindName members = .ok told) :
    ofKind members kind document? = some document ↔ told = kind ∧ document? = some document := by
  simp [ofKind, reads]

/-- The schema at the end of the step. -/
def part? (property : Property) : SchemaStep → Option Property
  | .property name => property.kind.property? name
  | .additional =>
    match property.kind with
    | .object _ _ (.schema rest) => some rest
    | _ => none
  | .items =>
    match property.kind with
    | .array _ part _ => part
    | _ => none
  | .contains =>
    match property.kind with
    | .array _ _ part => part
    | _ => none
  | .allOf index => property.allOf[index]?
  | .anyOf index => property.anyOf[index]?
  | .oneOf index => property.oneOf[index]?

end SchemaStep

/-- The schema at the end of some steps. -/
def Property.at? (property : Property) : List SchemaStep → Option Property
  | [] => some property
  | step :: steps => (step.part? property).bind fun part => part.at? steps

/-- In the first document the second one stands at the end of the steps, references being followed on
the way. Members beside a reference take the place of those in its definition. -/
inductive Document.HasSchemaAt (definitions : Members) : Document → List SchemaStep → Document → Prop
  | here (document : Document) : HasSchemaAt definitions document [] document
  | inside {members : Members} {child found : Document} {step : SchemaStep} {steps : List SchemaStep}
      (plain : members.find? "$ref" = none) (holds : step.document? members = some child)
      (rest : HasSchemaAt definitions child steps found) :
      HasSchemaAt definitions (.object members) (step :: steps) found
  | expanded {members target : Members} {reference name : String} {found : Document}
      {steps : List SchemaStep} (refers : members.find? "$ref" = some (.string reference))
      (named : Loader.referencedName? reference = some name)
      (defined : definitions.find? name = some (.object target))
      (rest : HasSchemaAt definitions (.object (target.insertAll (members.without ["$ref"]))) steps
        found) :
      HasSchemaAt definitions (.object members) steps found

/-- Nothing but a reference to a definition. -/
def Document.IsBareReference (document : Document) (name : String) : Prop :=
  document = .object [("$ref", .string ("#/definitions/" ++ name))] ∨
    document = .object [("$ref", .string ("#/$defs/" ++ name))]

private theorem forall₂_getElem? {α β : Type} {fits : α → β → Prop} {items : List α} {results : List β}
    (all : List.Forall₂ fits items results) {index : Nat} {item : α} (found : items[index]? = some item) :
    ∃ result, results[index]? = some result ∧ fits item result := by
  induction all generalizing index with
  | nil => cases found
  | cons first _ ih =>
    cases index with
    | zero =>
      cases found
      exact ⟨_, rfl, first⟩
    | succ index => exact ih found

namespace Meaning

variable {load : LoadChildBy Meaning} {members : Members} {path : String} {document : Document}

/-- The part was found as the schema of the document, and is called by the name. -/
def IsPart (load : LoadChildBy Meaning) (name : String) (document : Document) (part : Property) : Prop :=
  ∃ path, (load name path document).Finds part

private theorem child?_part {key : String} {child : Option Property}
    (finds : Finds (Loader.child? load members path key) child)
    (found : members.find? key = some document) :
    ∃ part, child = some part ∧ IsPart load key document part := by
  simp only [Loader.child?, found, finds_map] at finds
  obtain ⟨part, finds, rfl⟩ := finds
  exact ⟨part, rfl, _, finds⟩

private theorem alternatives_part {key : String} {parts : List Property}
    (finds : Finds (Loader.alternatives load members path key) parts) {index : Nat}
    (listed : SchemaStep.listed? members key index = some document) :
    ∃ part, parts[index]? = some part ∧ IsPart load key document part := by
  obtain ⟨documents, read, rest⟩ := finds_bind.mp finds
  rw [finds_keyword, Keyword.list_eq_ok_iff] at read
  rw [SchemaStep.listed?, read] at listed
  cases documents with
  | none => cases listed
  | some documents =>
    have stands : documents[index]? = some document := listed
    have numbered : documents.zipIdx[index]? = some (document, index) := by
      rw [List.getElem?_zipIdx, stands, Option.map_some, Nat.zero_add]
    obtain ⟨part, known, finds⟩ := forall₂_getElem? (finds_mapM.mp rest) numbered
    exact ⟨part, known, _, finds⟩

/-- Of the properties that have a name the first one counts, as it does in the document. -/
theorem properties_part (named : ∀ name path document part,
      (load name path document).Finds part → part.name = name)
    {properties : List Property} (finds : Finds (Loader.properties load members path) properties)
    {name : String}
    (declared : (members.find? "properties").bind (fun declared => declared.get? name) = some document) :
    ∃ part, properties.find? (fun property => property.name == name) = some part ∧
      IsPart load name document part := by
  obtain ⟨entries, read, rest⟩ := finds_bind.mp finds
  rw [finds_keyword, Keyword.object_eq_ok_iff] at read
  rw [read] at declared
  cases entries with
  | none => cases declared
  | some entries =>
    have stands : entries.find? name = some document := declared
    have each := finds_mapM.mp rest
    rw [Option.getD_some] at each
    clear rest finds read declared
    induction each with
    | nil => cases stands
    | @cons entry property entries properties first _ ih =>
      obtain ⟨key, value⟩ := entry
      have called := named _ _ _ _ first
      rw [Members.find?_cons] at stands
      split_ifs at stands with same
      · cases stands
        subst same
        exact ⟨property, by simp [called], _, first⟩
      · obtain ⟨part, known, isPart⟩ := ih stands
        exact ⟨part, by simp [called, same, known], isPart⟩

private theorem additional_part {additional : Additional}
    (finds : Finds (Loader.additional load members path) additional)
    (found : (members.find? "additionalProperties").filter (fun value => value.members?.isSome) =
      some document) :
    ∃ part, additional = .schema part ∧ IsPart load "additionalProperties" document part := by
  obtain ⟨stands, isObject⟩ := Option.filter_eq_some_iff.mp found
  cases document with
  | object entries =>
    simp only [Loader.additional, stands, finds_map] at finds
    obtain ⟨part, finds, rfl⟩ := finds
    exact ⟨part, rfl, _, finds⟩
  | _ => cases isObject

/-- Where a step leads from the members of an object to a document, it leads from the schema of the object
to the schema of that document. -/
theorem exists_part {loader : Loader} {name : String} {property : Property}
    (named : ∀ name path document part, (load name path document).Finds part → part.name = name)
    (finds : Finds (loader.property load name path members) property) {step : SchemaStep}
    (found : step.document? members = some document) :
    ∃ part, step.part? property = some part ∧ IsPart load step.name document part := by
  simp only [Loader.property, finds_bind, finds_keyword, finds_pure] at finds
  obtain ⟨-, -, kindName, reads, kind, findsKind, _, -, allOf, findsAllOf, anyOf, findsAnyOf, oneOf,
    findsOneOf, _, -, rfl⟩ := finds
  -- A step that belongs to a kind is only taken where the members say that kind.
  have ofKind {kind : KindName} {document? : Option Document}
      (found : SchemaStep.ofKind members kind document? = some document) :
      kindName = kind ∧ document? = some document := (SchemaStep.ofKind_eq_some_iff reads).mp found
  cases step with
  | allOf index => exact alternatives_part findsAllOf found
  | anyOf index => exact alternatives_part findsAnyOf found
  | oneOf index => exact alternatives_part findsOneOf found
  | property name =>
    obtain ⟨rfl, declared⟩ := ofKind found
    simp only [Loader.kind, Loader.objectKind, finds_bind, finds_keyword, finds_pure] at findsKind
    obtain ⟨properties, findsProperties, _, -, _, -, _, -, _, -, _, -, rfl⟩ := findsKind
    exact properties_part named findsProperties declared
  | additional =>
    obtain ⟨rfl, declared⟩ := ofKind found
    simp only [Loader.kind, Loader.objectKind, finds_bind, finds_keyword, finds_pure] at findsKind
    obtain ⟨_, -, _, -, _, -, _, -, _, -, additional, findsAdditional, rfl⟩ := findsKind
    obtain ⟨part, rfl, isPart⟩ := additional_part findsAdditional declared
    exact ⟨part, rfl, isPart⟩
  | items =>
    obtain ⟨rfl, declared⟩ := ofKind found
    simp only [Loader.kind, Loader.arrayKind, finds_bind, finds_keyword, finds_pure] at findsKind
    obtain ⟨items, findsItems, _, -, _, -, _, -, _, -, _, -, _, -, rfl⟩ := findsKind
    exact child?_part findsItems declared
  | contains =>
    obtain ⟨rfl, declared⟩ := ofKind found
    simp only [Loader.kind, Loader.arrayKind, finds_bind, finds_keyword, finds_pure] at findsKind
    obtain ⟨_, -, _, -, _, -, contains, findsContains, _, -, _, -, _, -, rfl⟩ := findsKind
    exact child?_part findsContains declared

end Meaning

variable {definitions members : Members} {document found : Document} {name : String}
  {property : Property}

/-- The steps that lead down in a document lead in its meaning to the meaning of what is found. -/
theorem Means.at? (means : Means definitions name document property) {steps : List SchemaStep}
    (stands : document.HasSchemaAt definitions steps found) :
    ∃ part called, property.at? steps = some part ∧ Means definitions called found part := by
  induction stands generalizing name property with
  | here document => exact ⟨property, name, rfl, means⟩
  | inside plain holds _ ih =>
    obtain ⟨load, finds, meaning⟩ := means.of_plain plain
    have named (name path : String) (document : Document) (part : Property)
        (finds : (load name path document).Finds part) : part.name = name :=
      (meaning _ _ _ _ finds).name_eq
    obtain ⟨child, leads, path, finds⟩ := Meaning.exists_part named finds holds
    obtain ⟨part, called, below, means⟩ := ih (meaning _ _ _ _ finds)
    exact ⟨part, called, by rw [Property.at?, leads]; exact below, means⟩
  | expanded refers named defined _ ih =>
    obtain ⟨definition, target, known, found, means⟩ := means.of_reference refers
    cases named.symm.trans known
    cases defined.symm.trans found
    exact ih means

private theorem Document.IsBareReference.exists_reference {reference : Document}
    (bare : reference.IsBareReference name) :
    ∃ text, reference = .object [("$ref", .string text)] ∧ Loader.referencedName? text = some name := by
  rcases bare with rfl | rfl
  · exact ⟨_, rfl, Loader.referencedName?_of_head (by decide) name⟩
  · exact ⟨_, rfl, Loader.referencedName?_of_head (by decide) name⟩

/-- A bare reference means what the definition means. -/
theorem Means.of_bareReference {reference : Document} (bare : reference.IsBareReference name)
    {called : String} (means : Means definitions called reference property) :
    ∃ document, definitions.find? name = some document ∧ Means definitions called document property := by
  obtain ⟨text, rfl, named⟩ := bare.exists_reference
  have refers : Members.find? [("$ref", .string text)] "$ref" = some (.string text) := rfl
  obtain ⟨definition, target, known, defined, means⟩ := means.of_reference refers
  cases named.symm.trans known
  exact ⟨.object target, defined, means⟩

namespace FormSchema

private theorem nodup_rawDefinitions (read : rawDefinitions members = .ok definitions) :
    (Members.keys definitions).Nodup := by
  simp only [rawDefinitions, definitionKeywords, List.foldlM_cons, List.foldlM_nil,
    except_bind_eq_ok] at read
  obtain ⟨_, ⟨old, -, ⟨⟩⟩, _, ⟨new, -, ⟨⟩⟩, ⟨⟩⟩ := read
  have start : (Members.keys []).Nodup := List.nodup_nil
  exact Members.nodup_keys_insertAll (Members.nodup_keys_insertAll start _) _

/-- Every definition is kept under its name as what its document means. -/
theorem means_of_loadDefinitions {loader : Loader} (distinct : (Members.keys loader.definitions).Nodup)
    {kept : Dictionary Property} {budget left : Nat}
    (run : Yields (loadDefinitions loader) budget kept left)
    (defined : loader.definitions.find? name = some document) :
    ∃ definition, kept.find? name = some definition ∧
      Means loader.definitions name document definition := by
  obtain ⟨entries, _, loaded, finish⟩ := yields_bind.mp run
  obtain ⟨rfl, -⟩ := yields_pure.mp finish
  -- The traversal comes to the meanings of all documents, each beside its name.
  let entryOf (entry : String × Document) : Meaning (String × Property) :=
    meaningWithin loader.definitions (loader.maxDepth + 1) entry.1 entry.2 >>= fun property =>
      pure (entry.1, property)
  have follows : Meaning.Finds (loader.definitions.mapM entryOf) entries := by
    refine comesTo.mapM (fun entry _ => ?_) _ _ _ loaded
    exact comesTo.holds_bind (loadWithin_comesTo _ _ _ _ _) fun _ => comesTo.holds_pure _
  have each : List.Forall₂ (fun entry result => entry.1 = result.1 ∧
      Means loader.definitions entry.1 entry.2 result.2) loader.definitions entries := by
    refine (Meaning.finds_mapM.mp follows).imp fun entry result finds => ?_
    obtain ⟨property, found, same⟩ := Meaning.finds_bind.mp finds
    cases Meaning.finds_pure.mp same
    exact ⟨rfl, _, found⟩
  have names : Members.keys loader.definitions = entries.map (·.1) := by
    rw [← List.forall₂_eq_eq_eq, Members.keys, List.forall₂_map_left_iff, List.forall₂_map_right_iff]
    exact each.imp fun _ _ both => both.1
  obtain ⟨index, listed⟩ := List.getElem?_of_mem (Members.mem_of_find?_eq_some defined)
  obtain ⟨⟨key, definition⟩, stands, same, means⟩ := forall₂_getElem? each listed
  dsimp only at same
  subst same
  exact ⟨definition, Dictionary.find?_ofList_of_mem (names ▸ distinct) (List.mem_of_getElem? stands),
    means⟩

/-- A whole of a form schema and the document that it was loaded from: the root with what is written beside
the definitions, or one of the definitions. -/
inductive IsLoadedFrom (schema : FormSchema) (members definitions : Members) :
    Property → Document → Prop
  | root : IsLoadedFrom schema members definitions schema.root
      (.object (members.without definitionKeywords))
  | definition {name : String} {document : Document} {property : Property}
      (written : definitions.find? name = some document)
      (kept : schema.definition? name = some property) :
      IsLoadedFrom schema members definitions property document

variable {schema : FormSchema} {maxDepth maxNodes : Nat} {whole : Property}

private theorem definition?_of_find?
    (loads : ofDocument (.object members) maxDepth maxNodes = .ok schema)
    (read : rawDefinitions members = .ok definitions) (written : definitions.find? name = some document) :
    ∃ definition, schema.definition? name = some definition ∧
      Means definitions name document definition := by
  obtain ⟨_, _, _, _, same, others, loadDefinitions, -⟩ := ofDocument_eq_ok loads
  cases same
  cases read.symm.trans others
  exact means_of_loadDefinitions (nodup_rawDefinitions read) loadDefinitions written

private theorem IsLoadedFrom.means (source : schema.IsLoadedFrom members definitions whole document)
    (loads : ofDocument (.object members) maxDepth maxNodes = .ok schema)
    (read : rawDefinitions members = .ok definitions) :
    ∃ called, Means definitions called document whole := by
  cases source with
  | root =>
    obtain ⟨_, _, _, _, same, others, -, loadRoot⟩ := ofDocument_eq_ok loads
    cases same
    cases read.symm.trans others
    exact ⟨"", .of_yields loadRoot⟩
  | definition written kept =>
    obtain ⟨_, known, means⟩ := definition?_of_find? loads read written
    cases kept.symm.trans known
    exact ⟨_, means⟩

/-- In the root of a form schema and in its definitions, wherever a bare reference stands in the document,
what was loaded there is the definition under another name. -/
theorem at?_bareReference (loads : ofDocument (.object members) maxDepth maxNodes = .ok schema)
    (read : rawDefinitions members = .ok definitions)
    (source : schema.IsLoadedFrom members definitions whole document) {steps : List SchemaStep}
    {reference : Document} (stands : document.HasSchemaAt definitions steps reference)
    (bare : reference.IsBareReference name) :
    ∃ part definition, whole.at? steps = some part ∧ schema.definition? name = some definition ∧
      part = definition.renamed part.name := by
  obtain ⟨_, wholeMeans⟩ := source.means loads read
  obtain ⟨part, called, leads, partMeans⟩ := wholeMeans.at? stands
  obtain ⟨target, written, targetMeans⟩ := partMeans.of_bareReference bare
  obtain ⟨definition, kept, means⟩ := definition?_of_find? loads read written
  refine ⟨part, definition, leads, kept, ?_⟩
  rw [partMeans.name_eq]
  exact means.unique targetMeans

/-- The items of a list are words. The list is a definition, which a property refers to with a title
beside the reference; what a word is, is defined twice, and the later definition counts. -/
theorem at?_bareReference_items :
    let word : Document := .object [("type", .string "string"), ("minLength", .ofNat 1)]
    let reference : Document := .object [("$ref", .string "#/definitions/word")]
    let list : Document := .object [("type", .string "array"), ("items", reference)]
    let titled : Document := .object [("$ref", .string "#/$defs/list"), ("title", .string "Tags")]
    let members : Members := [
      ("type", .string "object"), ("properties", .object [("tags", titled)]),
      ("definitions", .object [("list", list), ("word", .object [("type", .string "integer")])]),
      ("$defs", .object [("word", word)])]
    let definitions : Members := [("list", list), ("word", word)]
    let root : Document := .object [("type", .string "object"), ("properties", .object [("tags", titled)])]
    ∃ schema, ofDocument (.object members) 4 10 = .ok schema ∧
      rawDefinitions members = .ok definitions ∧
      schema.IsLoadedFrom members definitions schema.root root ∧
      root.HasSchemaAt definitions [.property "tags", .items] reference ∧
      reference.IsBareReference "word" ∧
      ∃ part definition, schema.root.at? [.property "tags", .items] = some part ∧
        schema.definition? "word" = some definition ∧ part = definition.renamed part.name := by
  intro word reference list titled members definitions root
  obtain ⟨schema, loads⟩ : ∃ schema, ofDocument (.object members) 4 10 = .ok schema := ⟨_, rfl⟩
  have read : rawDefinitions members = .ok definitions := rfl
  have source : schema.IsLoadedFrom members definitions schema.root root := .root
  have bare : reference.IsBareReference "word" := .inl rfl
  have stands : root.HasSchemaAt definitions [.property "tags", .items] reference := by
    refine .inside rfl rfl ?_
    refine .expanded rfl rfl rfl ?_
    exact .inside rfl rfl (.here reference)
  exact ⟨schema, loads, read, source, stands, bare, at?_bareReference loads read source stands bare⟩

end FormSchema

end Intake
