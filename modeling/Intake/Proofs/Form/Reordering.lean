import Intake.Proofs.Form.RoundTrip
import Intake.Proofs.Schema.Reordering

/-! # Form schemas in another order

The definitions of a form schema are loaded in the order in which their names come, and then its root.
In a reordered document they come in another order and cost the same, so together they are covered by
the same budget. They are kept by their names, so nothing is left of their order.
-/

namespace Intake

open Load
open Members (find?)

/-- The same definitions and roots up to the order of properties. -/
structure FormSchema.Reordered (schema other : FormSchema) : Prop where
  root : schema.root.Reordered other.root
  definitions : List.Forall₂ (SameKey Property.Reordered) schema.definitions other.definitions

namespace Members

variable {definitions others : Members} {related : Document → Document → Prop}

/-- Entries with distinct keys that are related under each key match. -/
theorem matches_of_rel_find? (distinct : (keys definitions).Nodup) (also : (keys others).Nodup)
    (each : ∀ name, Option.Rel related (find? definitions name) (find? others name)) :
    KeyOrder.free.Matches (SameKey related) definitions others := by
  have perm : (keys others).Perm (keys definitions) := by
    rw [List.perm_ext_iff_of_nodup also distinct]
    intro name
    have known := each name
    cases found : find? definitions name <;> cases foundToo : find? others name <;>
      rw [found, foundToo] at known <;> cases known
    · simp only [find?_eq_none_iff.mp found, find?_eq_none_iff.mp foundToo]
    · simp only [List.mem_map_of_mem (f := Prod.fst) (mem_of_find?_eq_some found), keys,
        List.mem_map_of_mem (f := Prod.fst) (mem_of_find?_eq_some foundToo)]
  obtain ⟨moved, names, same⟩ : Relation.Comp (· = List.map Prod.fst ·) List.Perm (keys others)
      definitions := List.eq_map_comp_perm (Prod.fst (α := String)) ▸ perm
  refine .free same.symm ?_
  have keyed : List.Forall₂ (fun entry other => entry.1 = other.1) moved others := by
    have same : List.Forall₂ Eq (moved.map Prod.fst) (others.map Prod.fst) := by
      rw [List.forall₂_eq_eq_eq]
      exact names.symm
    rwa [List.forall₂_map_left_iff, List.forall₂_map_right_iff] at same
  refine forall₂_imp_of_mem keyed ?_
  rintro ⟨name, value⟩ member ⟨_, other⟩ present rfl
  have known := each name
  rw [find?_eq_some_of_mem distinct (same.subset member), find?_eq_some_of_mem also present] at known
  cases known with
  | some held => exact .intro name held

end Members

namespace Dictionary

variable {α : Type} {related : α → α → Prop}

private theorem forall₂_insert {dictionary other : Dictionary α}
    (each : List.Forall₂ (SameKey related) dictionary other) (key : String) {value result : α}
    (held : related value result) :
    List.Forall₂ (SameKey related) (dictionary.insert key value) (other.insert key result) := by
  induction each with
  | nil => exact .cons (.intro key held) .nil
  | cons first rest ih =>
    obtain ⟨name, old⟩ := first
    simp only [insert]
    split_ifs
    · exact .cons (.intro key held) (.cons (.intro name old) rest)
    · exact .cons (.intro key held) rest
    · exact .cons (.intro name old) ih

private theorem forall₂_ofList {entries others : List (String × α)}
    (each : List.Forall₂ (SameKey related) entries others) :
    List.Forall₂ (SameKey related) (ofList entries) (ofList others) := by
  have step (written writtenToo : Dictionary α)
      (start : List.Forall₂ (SameKey related) written writtenToo) :
      List.Forall₂ (SameKey related)
        (entries.foldl (fun written entry => Dictionary.insert written entry.1 entry.2) written)
        (others.foldl (fun written entry => Dictionary.insert written entry.1 entry.2)
          writtenToo) := by
    induction each generalizing written writtenToo with
    | nil => exact start
    | cons first _ ih =>
      obtain ⟨key, held⟩ := first
      exact ih _ _ (forall₂_insert start key held)
  exact step [] [] .nil

/-- Entries that match, and have distinct keys, are written to the same places. -/
theorem forall₂_ofList_of_matches {entries others : List (String × α)}
    (distinct : (entries.map (·.1)).Nodup)
    (matched : KeyOrder.free.Matches (SameKey related) entries others) :
    List.Forall₂ (SameKey related) (ofList entries) (ofList others) := by
  obtain ⟨moved, perm, each⟩ := matched.exists_perm
  rw [ofList_eq_of_perm distinct perm]
  exact forall₂_ofList each

end Dictionary

private theorem Property.Reordered.kindName_eq {property other : Property}
    (reordered : property.Reordered other) : property.kind.name = other.kind.name := by
  obtain ⟨alike⟩ := reordered
  obtain ⟨-, -, -, made⟩ := alike
  cases made <;> rfl

namespace FormSchema

variable {respelled : String → String → Prop} {order : KeyOrder} {members others : Members}

/-- What two lists of entries hold under their names is related, and the names are distinct. -/
structure EntriesAlike (related : Document → Document → Prop) (definitions others : Members) : Prop where
  distinct : (Members.keys definitions).Nodup
  also : (Members.keys others).Nodup
  each : ∀ name, Option.Rel related (find? definitions name) (find? others name)

private theorem EntriesAlike.insertAll {related : Document → Document → Prop}
    {definitions definitionsToo entries entriesToo : Members}
    (alike : EntriesAlike related definitions definitionsToo)
    (written : EntriesAlike related entries entriesToo) :
    EntriesAlike related (definitions.insertAll entries) (definitionsToo.insertAll entriesToo) := by
  refine ⟨Members.nodup_keys_insertAll alike.distinct _, Members.nodup_keys_insertAll alike.also _, ?_⟩
  intro name
  rw [Members.find?_insertAll written.distinct, Members.find?_insertAll written.also]
  have known := written.each name
  generalize find? entries name = value, find? entriesToo name = other at known
  cases known with
  | none => exact alike.each name
  | some held => exact .some held

/-- Under a keyword for definitions an object and a variant of it hold entries that are alike. -/
theorem entries_alike (variant : Members.Variant respelled order members others)
    (sound : (Document.object members).wellFormed) (also : (Document.object others).wellFormed)
    {key : String} (several : key ∈ Keyword.ofNamedSchemas) :
    ReadsAlike (fun value other => EntriesAlike (Document.Variant respelled order) (value.getD [])
        (other.getD []))
      (Keyword.optional Document.members? .object members key)
      (Keyword.optional Document.members? .object others key) := by
  have reads : ReadsAlike (Option.Rel (EntriesAlike (Document.Variant respelled order)))
      (Keyword.optional Document.members? .object members key)
      (Keyword.optional Document.members? .object others key) := by
    refine Keyword.optional_alike (variant.rel_find? sound also key ?_) .object
    intro value other sound also held
    refine rel_imp_of_mem (held.entries? several) fun entries isObject others isObjectToo matched => ?_
    rw [Option.mem_def, Document.members?_eq_some_iff] at isObject isObjectToo
    subst isObject isObjectToo
    have distinct := (Document.wellFormed_object.mp sound).1
    refine ⟨distinct, (Document.wellFormed_object.mp also).1, fun name => ?_⟩
    have keyed := Members.rel_find?_of_matches (fun _ _ => SameKey.key_eq) distinct matched name
    exact rel_imp_of_mem keyed fun _ _ _ _ => SameKey.held
  refine reads.imp fun value other held => ?_
  cases held with
  | none => exact ⟨List.nodup_nil, List.nodup_nil, fun _ => .none⟩
  | some alike => exact alike

/-- The definitions that an object and a variant of it hold under all keywords are alike. -/
theorem rawDefinitions_alike (variant : Members.Variant respelled order members others)
    (sound : (Document.object members).wellFormed) (also : (Document.object others).wellFormed) :
    ReadsAlike (EntriesAlike (Document.Variant respelled order)) (rawDefinitions members)
      (rawDefinitions others) := by
  have none : EntriesAlike (Document.Variant respelled order) [] [] :=
    ⟨List.nodup_nil, List.nodup_nil, fun _ => .none⟩
  have entries {key : String} (several : key ∈ Keyword.ofNamedSchemas) :=
    entries_alike variant sound also several
  simp only [rawDefinitions, definitionKeywords, List.foldlM_cons, List.foldlM_nil]
  refine ReadsAlike.bind ((entries (by decide)).bind fun _ _ old => .ok (none.insertAll old)) ?_
  intro definitions definitionsToo alike
  refine ReadsAlike.bind ((entries (by decide)).bind fun _ _ new => .ok (alike.insertAll new)) ?_
  exact fun _ _ both => .ok both

/-- Each definition is loaded under its name. -/
theorem keys_of_yields {loader : Loader} {entries : List (String × Property)} {budget left : Nat}
    (run : Yields (loader.definitions.mapM fun (name, document) => do
      return (name, ← loader.load name s!"#/definitions/{name}" document)) budget entries left) :
    entries.map (·.1) = Members.keys loader.definitions := by
  have named : List.Forall₂ (fun entry result => entry.1 = result.1) entries loader.definitions := by
    refine ((forall₂_yields_of_mapM run).imp fun entry result yields => ?_).flip
    obtain ⟨_, _, yields⟩ := yields
    obtain ⟨_, _, -, finish⟩ := yields_bind.mp yields
    obtain ⟨rfl, -⟩ := yields_pure.mp finish
    rfl
  rwa [← List.forall₂_eq_eq_eq, Members.keys, List.forall₂_map_left_iff, List.forall₂_map_right_iff]

private theorem loadDefinitions_reordered {loader another : Loader}
    (corresponds : loader.Corresponds Eq .free another) (same : loader.maxDepth = another.maxDepth) :
    acceptance.Holds (List.Forall₂ (SameKey Property.Reordered)) (loadDefinitions loader)
      (loadDefinitions another) := by
  have distinct := (Document.wellFormed_object.mp corresponds.sound).1
  have distinctToo := (Document.wellFormed_object.mp corresponds.also).1
  have matched := Members.matches_of_rel_find? distinct distinctToo corresponds.defined
  have traversal : acceptance.Holds (KeyOrder.free.Matches (SameKey Property.Reordered))
      (loader.definitions.mapM fun (name, document) => do
        return (name, ← loader.load name s!"#/definitions/{name}" document))
      (another.definitions.mapM fun (name, document) => do
        return (name, ← another.load name s!"#/definitions/{name}" document)) := by
    refine acceptance_traverses (matched.imp_of_mem ?_)
    rintro ⟨name, document⟩ member ⟨_, other⟩ present ⟨_, reordered⟩
    have sound := (Document.wellFormed_object.mp corresponds.sound).2 _ member
    have also := (Document.wellFormed_object.mp corresponds.also).2 _ present
    refine acceptance.holds_bind
      (Loader.load_reordered corresponds same name _ reordered sound also) fun property result held => ?_
    exact acceptance.holds_pure (.intro name held)
  constructor
  · refine traversal.1.bind fun values results budget left run matched => follows_pure ?_
    exact Dictionary.forall₂_ofList_of_matches (keys_of_yields run ▸ distinct) matched
  · refine traversal.2.bind fun results values budget left run matched => follows_pure ?_
    have names := (matched.perm_keys fun _ _ => SameKey.key_eq).nodup_iff.mpr (keys_of_yields run ▸ distinctToo)
    exact Dictionary.forall₂_ofList_of_matches names matched

variable {maxDepth maxNodes : Nat}

/-- Where the loads of one document are followed by those of another one, so is a form schema. -/
theorem ofDocument_follows {definitions definitionsToo : Members} {schema : FormSchema}
    {kept : Dictionary Property → Dictionary Property → Prop} {related : Property → Property → Prop}
    (read : rawDefinitions members = .ok definitions) (readToo : rawDefinitions others = .ok definitionsToo)
    (beside : Follows kept (loadDefinitions ⟨definitions, maxDepth, maxNodes⟩)
      (loadDefinitions ⟨definitionsToo, maxDepth, maxNodes⟩))
    (root : Follows related
      ((Loader.mk definitions maxDepth maxNodes).load "" "#" (.object (members.without definitionKeywords)))
      ((Loader.mk definitionsToo maxDepth maxNodes).load "" "#"
        (.object (others.without definitionKeywords))))
    (kinds : ∀ property other, related property other → property.kind.name = other.kind.name)
    (loads : ofDocument (.object members) maxDepth maxNodes = .ok schema) :
    ∃ again, ofDocument (.object others) maxDepth maxNodes = .ok again ∧ related schema.root again.root ∧
      kept schema.definitions again.definitions := by
  obtain ⟨_, _, between, left, same, found, loadDefinitions, loadRoot⟩ := ofDocument_eq_ok loads
  cases same
  cases read.symm.trans found
  obtain ⟨dictionary, cost, alike, spent, takes⟩ := beside _ _ _ loadDefinitions
  obtain ⟨property, added, reordered, rfl, takesRoot⟩ := root _ _ _ loadRoot
  have isObject : property.kind.name = .object := kinds _ _ reordered ▸ schema.root_isObject
  have definitionsFirst := takes (left + added)
  rw [← spent] at definitionsFirst
  exact ⟨⟨property, dictionary, isObject⟩, ofDocument_of_yields readToo definitionsFirst (takesRoot left),
    reordered, alike⟩

private theorem ofDocument_object_reordered (maxDepth maxNodes : Nat)
    (variant : Members.Variant Eq .free members others)
    (sound : (Document.object members).wellFormed) (also : (Document.object others).wellFormed) :
    (∀ schema, ofDocument (.object members) maxDepth maxNodes = .ok schema →
        ∃ again, ofDocument (.object others) maxDepth maxNodes = .ok again ∧ schema.Reordered again) ∧
      ∀ again, ofDocument (.object others) maxDepth maxNodes = .ok again →
        ∃ schema, ofDocument (.object members) maxDepth maxNodes = .ok schema := by
  have reads := rawDefinitions_alike variant sound also
  cases read : rawDefinitions members <;> cases readToo : rawDefinitions others <;>
    rw [read, readToo] at reads <;> cases reads
  · next fault =>
    constructor
    · intro schema loads
      obtain ⟨_, _, _, _, same, found, -⟩ := ofDocument_eq_ok loads
      cases same
      cases read.symm.trans found
    · intro again loads
      obtain ⟨_, _, _, _, same, found, -⟩ := ofDocument_eq_ok loads
      cases same
      cases readToo.symm.trans found
  · next definitions definitionsToo alike =>
    let loader : Loader := ⟨definitions, maxDepth, maxNodes⟩
    let another : Loader := ⟨definitionsToo, maxDepth, maxNodes⟩
    have corresponds : loader.Corresponds Eq .free another :=
      { sound := rawDefinitions_wellFormed sound read
        also := rawDefinitions_wellFormed also readToo
        defined := alike.each
        reflexive := fun _ => rfl
        named := fun _ _ => congrArg _ }
    -- The definitions may come in another order, but all of them together at the same cost.
    have beside := loadDefinitions_reordered corresponds rfl
    have root := Loader.loadWithin_object_reordered corresponds (maxDepth + 1) [] "" "#" "#"
      (variant.without definitionKeywords) (Document.wellFormed_without sound _)
      (Document.wellFormed_without also _)
    constructor
    · intro schema loads
      obtain ⟨again, loadsToo, root, kept⟩ := ofDocument_follows read readToo beside.1 root.1
        (fun _ _ => Property.Reordered.kindName_eq) loads
      exact ⟨again, loadsToo, root, kept⟩
    · intro again loads
      obtain ⟨schema, loadsToo, -⟩ := ofDocument_follows readToo read beside.2 root.2
        (fun _ _ reordered => (Property.Reordered.kindName_eq reordered).symm) loads
      exact ⟨schema, loadsToo⟩

/-- Under the same limits a form schema document and a reordering of it are both accepted, with schemas
that are reorderings of each other, or they are both refused. -/
theorem ofDocument_reordered {document other : Document} (reordered : document.Reordered other)
    (sound : document.wellFormed) (also : other.wellFormed) (maxDepth maxNodes : Nat) :
    (∃ schema again, ofDocument document maxDepth maxNodes = .ok schema ∧
        ofDocument other maxDepth maxNodes = .ok again ∧ schema.Reordered again) ∨
      ∃ error fault, ofDocument document maxDepth maxNodes = .error error ∧
        ofDocument other maxDepth maxNodes = .error fault := by
  have known := reordered.members? sound
  cases isObject : document.members? <;> cases isObjectToo : other.members? <;>
    rw [isObject, isObjectToo] at known <;> cases known
  · right
    rw [ofDocument, ofDocument, isObject, isObjectToo]
    exact ⟨_, _, rfl, rfl⟩
  · next members others variant =>
    rw [Document.members?_eq_some_iff] at isObject isObjectToo
    subst isObject isObjectToo
    obtain ⟨follows, comesFrom⟩ :=
      ofDocument_object_reordered maxDepth maxNodes variant sound also
    cases loads : ofDocument (.object members) maxDepth maxNodes with
    | ok schema =>
      obtain ⟨again, loadsToo, reordered⟩ := follows schema loads
      exact .inl ⟨schema, again, rfl, loadsToo, reordered⟩
    | error error =>
      cases loadsToo : ofDocument (.object others) maxDepth maxNodes with
      | ok again =>
        obtain ⟨schema, impossible⟩ := comesFrom again loadsToo
        cases loads.symm.trans impossible
      | error fault => exact .inr ⟨error, fault, rfl, rfl⟩

/-- The keys of a form with a name and an age are turned around: those of the root, of its properties, of
its definitions, of a definition and of a property with a limit beside its reference. -/
theorem ofDocument_reordered_name :
    let reference : String × Document := ("$ref", .string "#/$defs/word")
    let age : Document := .object [("type", .string "integer"), ("minimum", .ofNat 0)]
    let document : Document := .object [
      ("type", .string "object"),
      ("properties", .object [("name", .object [reference, ("maxLength", .ofNat 9)]), ("age", age)]),
      ("$defs", .object [
        ("word", .object [("type", .string "string"), ("minLength", .ofNat 1)]), ("number", age)])]
    let other : Document := .object [
      ("$defs", .object [
        ("number", age), ("word", .object [("minLength", .ofNat 1), ("type", .string "string")])]),
      ("properties", .object [("age", age), ("name", .object [("maxLength", .ofNat 9), reference])]),
      ("type", .string "object")]
    document.Reordered other ∧ document.wellFormed ∧ other.wellFormed ∧
      ((∃ schema again, ofDocument document 3 5 = .ok schema ∧ ofDocument other 3 5 = .ok again ∧
          schema.Reordered again) ∨
        ∃ error fault, ofDocument document 3 5 = .error error ∧ ofDocument other 3 5 = .error fault) := by
  intro reference age document other
  have turned (first second : String × Document) :
      (Document.object [first, second]).Reordered (.object [second, first]) :=
    .object (.free (.swap second first []) (.cons (.same second) (.cons (.same first) .nil)))
  have entries (key : String) (named : key ∈ Keyword.ofNamedSchemas) (name : String)
      {value result : Document} (held : value.Reordered result) (last : String × Document) :
      MemberVariant Eq .free Document.Reordered (key, .object [(name, value), last])
        (key, .object [last, (name, result)]) :=
    .named named (.free (.swap last (name, value) [])
      (.cons (.intro last.1 (.same last.2)) (.cons (.intro name held) .nil)))
  have reordered : document.Reordered other := by
    refine .object (.free (List.reverse_perm _).symm (.cons ?_ (.cons ?_ (.cons (.same _) .nil))))
    · exact entries _ (by decide) _ (turned _ _) _
    · exact entries _ (by decide) _ (turned _ _) _
  have sound : document.wellFormed := by decide
  have also : other.wellFormed := by decide
  exact ⟨reordered, sound, also, ofDocument_reordered reordered sound also 3 5⟩

end FormSchema

end Intake
