import Intake.Rule.Compile
import Intake.Proofs.Schema.Loading

/-! # The fields of a form

The root schema of a form that is read from a well-formed document is sound, so its fields have
names of their own and each of them has exactly the rules that were compiled for it.
-/

namespace Intake

open Load
open Members (find?)

theorem FormSchema.rawDefinitions_wellFormed {members definitions : Members}
    (sound : (Document.object members).wellFormed)
    (read : FormSchema.rawDefinitions members = .ok definitions) :
    (Document.object definitions).wellFormed := by
  have entries {key : String} {value : Option Members}
      (found : Keyword.optional Document.members? .object members key = .ok value) :
      (Document.object (value.getD [])).wellFormed := by
    cases value with
    | none => rfl
    | some written => exact Document.wellFormed_of_find? sound (Keyword.object_eq_ok_iff.mp found)
  simp only [rawDefinitions, definitionKeywords, List.foldlM_cons, List.foldlM_nil,
    except_bind_eq_ok] at read
  obtain ⟨first, ⟨old, oldFound, ⟨⟩⟩, second, ⟨new, newFound, ⟨⟩⟩, ⟨⟩⟩ := read
  have start : (Document.object []).wellFormed := rfl
  exact Document.wellFormed_insertAll
    (Document.wellFormed_insertAll start (entries oldFound)) (entries newFound)

/-- A form schema is loaded from one budget: first all definitions and then the root, which is what
its document holds beside them. -/
theorem FormSchema.ofDocument_eq_ok {document : Document} {maxDepth maxNodes : Nat}
    {schema : FormSchema} (loads : FormSchema.ofDocument document maxDepth maxNodes = .ok schema) :
    ∃ (members definitions : Members) (between left : Nat), document = .object members ∧
      rawDefinitions members = .ok definitions ∧
      Yields (loadDefinitions ⟨definitions, maxDepth, maxNodes⟩) maxNodes schema.definitions between ∧
      Yields ((Loader.mk definitions maxDepth maxNodes).load "" "#"
        (.object (members.without definitionKeywords))) between schema.root left := by
  rw [ofDocument] at loads
  split at loads
  · cases loads
  · next members isObject =>
    split at loads
    · cases loads
    · next definitions read =>
      obtain ⟨⟨root, others⟩, run, made⟩ := except_bind_eq_ok.mp loads
      dsimp only at made
      rw [ofRoot] at made
      split_ifs at made
      cases made
      have yields : Yields _ maxNodes (root, others) _ := Prod.ext run rfl
      obtain ⟨loaded, between, loadOthers, rest⟩ := yields_bind.mp yields
      obtain ⟨_, left, loadRoot, finish⟩ := yields_bind.mp rest
      obtain ⟨same, -⟩ := yields_pure.mp finish
      cases same
      exact ⟨members, definitions, between, left, Document.members?_eq_some_iff.mp isObject, read,
        loadOthers, loadRoot⟩

/-- What loading tells of a form schema: its root and its definitions are known, and all of them
together stay within the budget. -/
structure FormSchema.LoadedWithin (maxDepth maxNodes : Nat) (schema : FormSchema) : Prop where
  root : schema.root.LoadedAs "" (maxDepth + 1)
  definitions : ∀ entry ∈ schema.definitions, entry.2.LoadedAs entry.1 (maxDepth + 1)
  ascending : schema.definitions.Ascending
  size_le : schema.root.size + (schema.definitions.map fun entry => entry.2.size).sum ≤ maxNodes

/-- Definitions are loaded one after the other, so those that are kept cost no more than was taken. -/
theorem FormSchema.loadDefinitions_sound {loader : Loader}
    (sound : (Document.object loader.definitions).wellFormed) {definitions : Dictionary Property}
    {budget left : Nat} (run : Yields (loadDefinitions loader) budget definitions left) :
    (∀ entry ∈ definitions, entry.2.LoadedAs entry.1 (loader.maxDepth + 1)) ∧
      definitions.Ascending ∧ (definitions.map fun entry => entry.2.size).sum + left ≤ budget := by
  obtain ⟨entries, between, loaded, finish⟩ := yields_bind.mp run
  obtain ⟨rfl, rfl⟩ := yields_pure.mp finish
  obtain ⟨known, -, cost⟩ := forall₂_of_yields_mapM
    (fun entry => entry.2.LoadedAs entry.1 (loader.maxDepth + 1)) (fun _ _ => True)
    (fun entry => entry.2.size) (fun entry member budget named left run => by
      obtain ⟨property, between, loaded, finish⟩ := yields_bind.mp run
      obtain ⟨rfl, rfl⟩ := yields_pure.mp finish
      have written := (Document.wellFormed_object.mp sound).2 entry member
      obtain ⟨known, cost⟩ := Loader.load_sound sound written loaded
      exact ⟨known, trivial, cost⟩) loaded
  have kept := Dictionary.sum_ofList_le Property.size entries
  refine ⟨fun entry member => known entry (Dictionary.mem_of_mem_ofList member),
    Dictionary.ascending_ofList entries, ?_⟩
  omega

/-- The root of a form schema is loaded like any other schema, from what its definitions left. -/
theorem FormSchema.loadedWithin {document : Document} {maxDepth maxNodes : Nat} {schema : FormSchema}
    (sound : document.wellFormed)
    (loads : FormSchema.ofDocument document maxDepth maxNodes = .ok schema) :
    schema.LoadedWithin maxDepth maxNodes := by
  obtain ⟨members, definitions, between, left, rfl, read, loadOthers, loadRoot⟩ :=
    ofDocument_eq_ok loads
  have defined := rawDefinitions_wellFormed sound read
  obtain ⟨known, ascending, others⟩ := loadDefinitions_sound defined loadOthers
  obtain ⟨root, cost⟩ := Loader.load_sound defined (Document.wellFormed_without sound _) loadRoot
  refine ⟨root, known, ascending, ?_⟩
  omega

private theorem FormSchema.root_sound {document : Document} {maxDepth maxNodes : Nat}
    {schema : FormSchema} (sound : document.wellFormed)
    (loads : FormSchema.ofDocument document maxDepth maxNodes = .ok schema) :
    schema.root.Sound :=
  (loadedWithin sound loads).root.sound

/-- The root and the definitions of a form schema together stay within the budget. -/
theorem FormSchema.size_le {document : Document} {maxDepth maxNodes : Nat} {schema : FormSchema}
    (sound : document.wellFormed)
    (loads : FormSchema.ofDocument document maxDepth maxNodes = .ok schema) :
    schema.root.size + (schema.definitions.map fun entry => entry.2.size).sum ≤ maxNodes :=
  (loadedWithin sound loads).size_le

namespace Form

/-- The controls of a layout are checked, but the parts of a form are kept as they are. -/
theorem ofParts_eq_ok_iff {schema : FormSchema} {layout? : Option Element} {data options : Members}
    {form : Form} :
    Form.ofParts schema layout? data options = .ok form ↔
      (∀ layout ∈ layout?, layout.controls.forM (checkControl schema) = .ok ()) ∧
        ⟨schema, layout?, data, options⟩ = form := by
  cases layout? with
  | none => simp [ofParts, pure, Except.pure]
  | some layout =>
    constructor
    · intro made
      obtain ⟨⟨⟩, leads, made⟩ := except_bind_eq_ok.mp made
      cases made
      exact ⟨by simpa using leads, rfl⟩
    · rintro ⟨leads, rfl⟩
      exact except_bind_eq_ok.mpr ⟨(), leads layout rfl, rfl⟩

/-- The parts of a form are read from an object, each under its key, and then put together. -/
theorem ofDocument_eq_ok_iff {document : Document} {config : Config} {form : Form} :
    Form.ofDocument document config = .ok form ↔
      ∃ members written, document = .object members ∧ find? members "schema" = some written ∧
        FormSchema.ofDocument written config.maxDepth config.maxNodes = .ok form.schema ∧
        readLayout members config.maxDepth = .ok form.layout? ∧
        dataOfDocument ((find? members "data").getD .null) = .ok form.data ∧
        readOptions members = .ok form.options ∧
        ∀ layout ∈ form.layout?, layout.controls.forM (checkControl form.schema) = .ok () := by
  constructor
  · intro loads
    rw [ofDocument] at loads
    split at loads
    · cases loads
    · next members isObject =>
      split at loads
      · cases loads
      · next written found =>
        obtain ⟨schema, read, rest⟩ := except_bind_eq_ok.mp loads
        obtain ⟨layout?, laidOut, rest⟩ := except_bind_eq_ok.mp rest
        obtain ⟨data, filled, rest⟩ := except_bind_eq_ok.mp rest
        obtain ⟨options, opted, made⟩ := except_bind_eq_ok.mp rest
        obtain ⟨leads, rfl⟩ := ofParts_eq_ok_iff.mp made
        exact ⟨members, written, Document.members?_eq_some_iff.mp isObject, found,
          except_mapError_eq_ok.mp read, laidOut, filled, opted, leads⟩
  · rintro ⟨members, written, rfl, found, read, laidOut, filled, opted, leads⟩
    simp only [ofDocument, Document.members?, found, except_bind_eq_ok]
    exact ⟨_, except_mapError_eq_ok.mpr read, _, laidOut, _, filled, _, opted,
      ofParts_eq_ok_iff.mpr ⟨leads, rfl⟩⟩

/-- The schema of a form is read from the document that stands for it. -/
theorem schema_of_ofDocument {document : Document} {config : Config} {form : Form}
    (loads : Form.ofDocument document config = .ok form) :
    ∃ members written, document = .object members ∧ find? members "schema" = some written ∧
      FormSchema.ofDocument written config.maxDepth config.maxNodes = .ok form.schema := by
  obtain ⟨members, written, isObject, found, read, -⟩ := ofDocument_eq_ok_iff.mp loads
  exact ⟨members, written, isObject, found, read⟩

/-- The root of a form is sound. -/
theorem root_sound {document : Document} {config : Config} {form : Form}
    (sound : document.wellFormed) (loads : Form.ofDocument document config = .ok form) :
    form.schema.root.Sound := by
  obtain ⟨members, written, rfl, found, read⟩ := schema_of_ofDocument loads
  exact FormSchema.root_sound (Document.wellFormed_of_find? sound found) read

variable {form : Form}

theorem property_sound (sound : form.schema.root.Sound) {field : Field}
    (member : field ∈ form.fields) : field.property.Sound := by
  obtain ⟨property, declared, rfl⟩ := List.mem_map.mp member
  refine sound.child property ?_
  rw [FormSchema.properties] at declared
  rw [Property.children]
  cases kind : form.schema.root.kind <;> rw [kind] at declared
  case object limits properties additional =>
    simp only [Kind.properties] at declared
    simp [Kind.children, declared]
  all_goals cases declared

theorem fieldNames_nodup (sound : form.schema.root.Sound) :
    (form.fields.map Field.name).Nodup := by
  have names : form.fields.map Field.name = form.schema.properties.map Property.name := by
    simp [fields, Field.name, Function.comp_def]
  have kind := sound.root.kind
  rw [names, FormSchema.properties]
  cases same : form.schema.root.kind with
  | object limits properties additional =>
    rw [same] at kind
    exact kind.2.1
  | _ => exact List.nodup_nil

/-- The rules that a form compiles for a field. -/
def fieldRules (form : Form) (phonePattern : String) (field : Field) : RuleSet :=
  (field.rules phonePattern).requireListed field.name form.schema.requiredNames

private theorem rules_eq (form : Form) (phonePattern : String) :
    form.rules phonePattern =
      .ofList (form.fields.map fun field => (field.name, form.fieldRules phonePattern field)) :=
  rfl

private theorem ruleNames_nodup (sound : form.schema.root.Sound) (phonePattern : String) :
    ((form.fields.map fun field => (field.name, form.fieldRules phonePattern field)).map (·.1)).Nodup := by
  simpa [Function.comp_def] using fieldNames_nodup sound

/-- The rules of a form are as many as its fields. -/
theorem length_rules (sound : form.schema.root.Sound) (phonePattern : String) :
    (form.rules phonePattern).length = form.fields.length := by
  rw [rules_eq, (Dictionary.perm_ofList (ruleNames_nodup sound phonePattern)).length_eq, List.length_map]

theorem mem_keys_rules {phonePattern name : String} :
    name ∈ (form.rules phonePattern).keys ↔ ∃ field ∈ form.fields, field.name = name := by
  rw [rules_eq, Dictionary.mem_keys_ofList]
  simp

/-- Every field is found among the rules with those that were compiled for it. -/
theorem mem_rules_iff (sound : form.schema.root.Sound) {phonePattern name : String}
    {rules : RuleSet} :
    (name, rules) ∈ form.rules phonePattern ↔
      ∃ field ∈ form.fields, field.name = name ∧ form.fieldRules phonePattern field = rules := by
  have distinct := ruleNames_nodup sound phonePattern
  have found {field : Field} (member : field ∈ form.fields) :
      (form.rules phonePattern).find? field.name = some (form.fieldRules phonePattern field) :=
    Dictionary.find?_ofList_of_mem distinct (List.mem_map.mpr ⟨field, member, rfl⟩)
  constructor
  · intro present
    have key : name ∈ (form.rules phonePattern).keys := List.mem_map.mpr ⟨_, present, rfl⟩
    obtain ⟨field, member, rfl⟩ := mem_keys_rules.mp key
    have unique := Dictionary.find?_eq_some_of_mem (Dictionary.ascending_ofList _).nodup present
    refine ⟨field, member, rfl, ?_⟩
    exact Option.some.inj ((found member).symm.trans unique)
  · rintro ⟨field, member, rfl, rfl⟩
    exact Dictionary.mem_of_find?_eq_some (found member)

theorem keys_rules_nodup (form : Form) (phonePattern : String) :
    (form.rules phonePattern).keys.Nodup :=
  (Dictionary.ascending_ofList _).nodup

end Form

end Intake
