import Intake.Proofs.Schema.Reading
import Intake.Proofs.Schema.Run
import Intake.Proofs.Schema.Tree

/-! # What loading guarantees

A schema that is loaded from a well-formed document bears the name it is loaded under, is sound and
nests no deeper than there was room for, and loading it takes exactly its size from the budget. One
lemma says so for each part of a schema, given that it holds of its children; the recursion of the
loader then carries it through references and to any depth.
-/

namespace Intake

open Load

/-- What a load tells of a schema: its name, its soundness, and that it nests less deep than the
room there was. -/
structure Property.LoadedAs (name : String) (room : Nat) (property : Property) : Prop where
  name_eq : property.name = name
  sound : property.Sound
  nests : ∃ levels, room = levels + 1 ∧ property.nestsWithin levels

/-- From well-formed documents the load makes sound schemas, each for its size. -/
def LoadChild.Sound (load : LoadChild) (room : Nat) : Prop :=
  ∀ name path document, document.wellFormed → ∀ budget property left,
    Yields (load name path document) budget property left →
      property.LoadedAs name room ∧ budget = left + property.size

/-- The children nest less deep than the schema. -/
theorem Property.nestsWithin_of_children {property : Property} {room : Nat}
    (children : ∀ child ∈ property.children, ∃ levels, room = levels + 1 ∧ child.nestsWithin levels) :
    property.nestsWithin room := by
  cases room with
  | zero =>
    refine List.eq_nil_iff_forall_not_mem.mpr fun child member => ?_
    obtain ⟨levels, impossible, -⟩ := children child member
    omega
  | succ room =>
    intro child member
    obtain ⟨levels, same, nests⟩ := children child member
    rwa [Nat.succ.inj same]

private theorem Property.nestsWithin_succ {property : Property} {levels : Nat}
    (nests : property.nestsWithin levels) : property.nestsWithin (levels + 1) := by
  induction levels generalizing property with
  | zero =>
    intro child member
    rw [nests] at member
    cases member
  | succ levels ih => exact fun child member => ih (nests child member)

private theorem Property.LoadedAs.weaken {property : Property} {name : String} {room : Nat}
    (known : property.LoadedAs name room) : property.LoadedAs name (room + 1) := by
  obtain ⟨levels, rfl, nests⟩ := known.nests
  exact ⟨known.name_eq, known.sound, levels + 1, rfl, nestsWithin_succ nests⟩

namespace Loader

open Members (find?)

variable {loader : Loader} {load : LoadChild} {room : Nat} {members : Members} {path : String}
  {budget left : Nat}

private theorem stringLimits_sound {limits : StringLimits} (read : stringLimits members = .ok limits) :
    limits.Sound := by
  obtain ⟨-, accepted, -, least, most, -⟩ := stringLimits_eq_ok_iff.mp read
  exact ⟨least.2, most.2, accepted⟩

private theorem number_inRange_of_find? (sound : (Document.object members).wellFormed) {key : String}
    {number? : Option Number} (found : find? members key = number?.map .number) :
    ∀ number ∈ number?, number.inRange := by
  rintro number rfl
  exact Document.wellFormed_of_find? sound found

private theorem numberLimits_sound (sound : (Document.object members).wellFormed)
    {limits : NumberLimits} (read : numberLimits members = .ok limits) : limits.Sound := by
  obtain ⟨least, most, above, below, step⟩ := numberLimits_eq_ok_iff.mp read
  exact ⟨number_inRange_of_find? sound least, number_inRange_of_find? sound most,
    number_inRange_of_find? sound above, number_inRange_of_find? sound below,
    number_inRange_of_find? sound step⟩

private theorem wellFormed_items_of_find? (sound : (Document.object members).wellFormed) {key : String}
    {items? : Option (List Document)} (found : find? members key = items?.map .array) :
    ∀ items ∈ items?, ∀ item ∈ items, item.wellFormed := by
  rintro items rfl
  exact Document.wellFormed_array.mp (Document.wellFormed_of_find? sound found)

private theorem annotations_sound (sound : (Document.object members).wellFormed) {said : Annotations}
    (read : annotations members = .ok said) : said.Sound := by
  obtain ⟨-, -, default, -, examples, -, -, choices, constant⟩ := annotations_eq_ok_iff.mp read
  refine ⟨?_, wellFormed_items_of_find? sound examples, wellFormed_items_of_find? sound choices, ?_⟩
  · exact fun document present => Document.wellFormed_of_find? sound (default.trans present)
  · exact fun document present => Document.wellFormed_of_find? sound (constant.trans present)

private theorem dependencies_ascending {needs : Dictionary (List String)}
    (read : dependencies members = .ok needs) : needs.Ascending := by
  obtain ⟨declared, -, rest⟩ := except_bind_eq_ok.mp read
  obtain ⟨entries, -, same⟩ := except_bind_eq_ok.mp rest
  cases same
  exact Dictionary.ascending_ofList entries

private theorem child?_sound (loads : load.Sound room) (sound : (Document.object members).wellFormed)
    {key : String} {child : Option Property}
    (run : Yields (child? load members path key) budget child left) :
    (∀ property ∈ child, property.LoadedAs key room) ∧
      budget = left + (child.toList.map Property.size).sum := by
  rw [child?] at run
  split at run
  · obtain ⟨rfl, rfl⟩ := yields_pure.mp run
    simp
  · next document found =>
    obtain ⟨property, loaded, rfl⟩ := yields_map.mp run
    obtain ⟨known, cost⟩ :=
      loads _ _ _ (Document.wellFormed_of_find? sound found) _ _ _ loaded
    refine ⟨?_, by simpa using cost⟩
    rintro _ ⟨⟩
    exact known

private theorem alternatives_sound (loads : load.Sound room)
    (sound : (Document.object members).wellFormed) {key : String} {alternatives : List Property}
    (run : Yields (Loader.alternatives load members path key) budget alternatives left) :
    (∀ property ∈ alternatives, property.LoadedAs key room) ∧
      budget = left + (alternatives.map Property.size).sum := by
  obtain ⟨documents, between, read, rest⟩ := yields_bind.mp run
  obtain ⟨found, rfl⟩ := yields_keyword.mp read
  have items : ∀ item ∈ (documents.getD []).zipIdx, item.1.wellFormed := by
    intro item member
    have present : item.1 ∈ documents.getD [] := List.fst_mem_of_mem_zipIdx member
    cases documents with
    | none => cases present
    | some documents =>
      exact wellFormed_items_of_find? sound (Keyword.list_eq_ok_iff.mp found) documents rfl _ present
  obtain ⟨known, -, cost⟩ := forall₂_of_yields_mapM (Property.LoadedAs key room)
    (fun _ _ => True) Property.size
    (fun item member budget property left loaded => by
      obtain ⟨known, cost⟩ := loads _ _ _ (items item member) _ _ _ loaded
      exact ⟨known, trivial, cost⟩) rest
  exact ⟨known, cost⟩

private theorem properties_sound (loads : load.Sound room)
    (sound : (Document.object members).wellFormed) {properties : List Property}
    (run : Yields (Loader.properties load members path) budget properties left) :
    (properties.map Property.name).Nodup ∧
      (∀ property ∈ properties, property.LoadedAs property.name room) ∧
      budget = left + (properties.map Property.size).sum := by
  obtain ⟨declared, between, read, rest⟩ := yields_bind.mp run
  obtain ⟨found, rfl⟩ := yields_keyword.mp read
  have entries : (Document.object (declared.getD [])).wellFormed := by
    cases declared with
    | none => rfl
    | some entries => exact Document.wellFormed_of_find? sound (Keyword.object_eq_ok_iff.mp found)
  obtain ⟨distinct, documents⟩ := Document.wellFormed_object.mp entries
  obtain ⟨known, named, cost⟩ := forall₂_of_yields_mapM
    (fun property => property.LoadedAs property.name room)
    (fun entry property => entry.1 = property.name) Property.size
    (fun entry member budget property left loaded => by
      obtain ⟨known, cost⟩ := loads _ _ _ (documents entry member) _ _ _ loaded
      exact ⟨known.name_eq.symm ▸ known, known.name_eq.symm, cost⟩) rest
  have names : Members.keys (declared.getD []) = properties.map Property.name := by
    rw [← List.forall₂_eq_eq_eq, Members.keys, List.forall₂_map_left_iff,
      List.forall₂_map_right_iff]
    exact named
  exact ⟨names ▸ distinct, known, cost⟩

private theorem additional_sound (loads : load.Sound room)
    (sound : (Document.object members).wellFormed) {additional : Additional}
    (run : Yields (Loader.additional load members path) budget additional left) :
    (∀ property ∈ additional.children, property.LoadedAs "additionalProperties" room) ∧
      budget = left + (additional.children.map Property.size).sum := by
  rw [Loader.additional] at run
  split at run
  · obtain ⟨rfl, rfl⟩ := yields_pure.mp run
    simp [Additional.children]
  · obtain ⟨rfl, rfl⟩ := yields_pure.mp run
    simp [Additional.children]
  · next entries found =>
    obtain ⟨property, loaded, rfl⟩ := yields_map.mp run
    obtain ⟨known, cost⟩ :=
      loads _ _ _ (Document.wellFormed_of_find? sound found) _ _ _ loaded
    simpa [Additional.children] using ⟨known, cost⟩
  · exact absurd run not_yields_fail

/-- The kind that is loaded has the name that was read, and its parts are known. -/
structure KnownKind (name : KindName) (room : Nat) (kind : Kind) : Prop where
  name_eq : kind.name = name
  sound : kind.Sound
  children : ∀ child ∈ kind.children, child.LoadedAs child.name room

private theorem arrayKind_sound (loads : load.Sound room) (sound : (Document.object members).wellFormed)
    {kind : Kind} (run : Yields (arrayKind load members path) budget kind left) :
    KnownKind .array room kind ∧ budget = left + (kind.children.map Property.size).sum := by
  simp only [arrayKind, yields_bind, yields_keyword, yields_pure] at run
  obtain ⟨items, _, loadItems, minItems, _, ⟨least, rfl⟩, maxItems, _, ⟨most, rfl⟩, contains, _,
    loadContains, minContains, _, ⟨fewest, rfl⟩, maxContains, _, ⟨greatest, rfl⟩, unique, _,
    ⟨-, rfl⟩, rfl, rfl⟩ := run
  obtain ⟨knownItems, first⟩ := child?_sound loads sound loadItems
  obtain ⟨knownContains, second⟩ := child?_sound loads sound loadContains
  have limits : ListLimits.Sound ⟨minItems, maxItems, minContains, maxContains, unique⟩ :=
    ⟨(Keyword.count_eq_ok_iff.mp least).2, (Keyword.count_eq_ok_iff.mp most).2,
      (Keyword.count_eq_ok_iff.mp fewest).2, (Keyword.count_eq_ok_iff.mp greatest).2⟩
  refine ⟨⟨rfl, ⟨limits, fun item present => (knownItems item present).name_eq,
    fun item present => (knownContains item present).name_eq⟩, ?_⟩, ?_⟩
  · intro child member
    rcases List.mem_append.mp member with item | item
    · have known := knownItems child (Option.mem_toList.mp item)
      exact known.name_eq.symm ▸ known
    · have known := knownContains child (Option.mem_toList.mp item)
      exact known.name_eq.symm ▸ known
  · rw [Kind.children, List.map_append, List.sum_append]
    omega

private theorem objectKind_sound (loads : load.Sound room)
    (sound : (Document.object members).wellFormed)
    {kind : Kind} (run : Yields (objectKind load members path) budget kind left) :
    KnownKind .object room kind ∧ budget = left + (kind.children.map Property.size).sum := by
  simp only [objectKind, yields_bind, yields_keyword, yields_pure] at run
  obtain ⟨properties, _, loadProperties, required, _, ⟨-, rfl⟩, needs, _, ⟨dependent, rfl⟩, least,
    _, ⟨minimum, rfl⟩, most, _, ⟨maximum, rfl⟩, additional, _, loadAdditional, rfl, rfl⟩ := run
  obtain ⟨distinct, knownProperties, first⟩ := properties_sound loads sound loadProperties
  obtain ⟨knownAdditional, second⟩ := additional_sound loads sound loadAdditional
  have limits : ObjectLimits.Sound ⟨required, needs, least, most⟩ :=
    ⟨dependencies_ascending dependent, (Keyword.count_eq_ok_iff.mp minimum).2,
      (Keyword.count_eq_ok_iff.mp maximum).2⟩
  refine ⟨⟨rfl, ⟨limits, distinct, fun child member => (knownAdditional child member).name_eq⟩, ?_⟩,
    ?_⟩
  · intro child member
    rcases List.mem_append.mp member with property | property
    · exact knownProperties child property
    · have known := knownAdditional child property
      exact known.name_eq.symm ▸ known
  · rw [Kind.children, List.map_append, List.sum_append]
    omega

private theorem kind_sound (loads : load.Sound room) (sound : (Document.object members).wellFormed)
    {name : KindName} {kind : Kind} (run : Yields (Loader.kind load members path name) budget kind left) :
    KnownKind name room kind ∧ budget = left + (kind.children.map Property.size).sum := by
  cases name with
  | string =>
    simp only [Loader.kind, yields_bind, yields_keyword, yields_pure] at run
    obtain ⟨limits, _, ⟨read, rfl⟩, rfl, rfl⟩ := run
    exact ⟨⟨rfl, stringLimits_sound read, by simp [Kind.children]⟩, rfl⟩
  | integer =>
    simp only [Loader.kind, yields_bind, yields_keyword, yields_pure] at run
    obtain ⟨limits, _, ⟨read, rfl⟩, rfl, rfl⟩ := run
    exact ⟨⟨rfl, numberLimits_sound sound read, by simp [Kind.children]⟩, rfl⟩
  | number =>
    simp only [Loader.kind, yields_bind, yields_keyword, yields_pure] at run
    obtain ⟨limits, _, ⟨read, rfl⟩, rfl, rfl⟩ := run
    exact ⟨⟨rfl, numberLimits_sound sound read, by simp [Kind.children]⟩, rfl⟩
  | boolean =>
    obtain ⟨rfl, rfl⟩ := yields_pure.mp run
    exact ⟨⟨rfl, trivial, by simp [Kind.children]⟩, rfl⟩
  | array => exact arrayKind_sound loads sound run
  | object => exact objectKind_sound loads sound run
  | null =>
    obtain ⟨rfl, rfl⟩ := yields_pure.mp run
    exact ⟨⟨rfl, trivial, by simp [Kind.children]⟩, rfl⟩

/-- Behind each head stands the name of the definition. -/
theorem referencedName?_of_head {head : String} (listed : head ∈ referenceHeads) (name : String) :
    referencedName? (head ++ name) = some name := by
  simp only [referenceHeads, List.mem_cons, List.not_mem_nil, or_false] at listed
  rcases listed with rfl | rfl
  · simp [referencedName?, referenceHeads]
  · have other : "#/definitions/".toList.isPrefixOf? ("#/$defs/".toList ++ name.toList) = none := rfl
    rw [referencedName?, referenceHeads, String.toList_append, List.findSome?_cons, other]
    simp

theorem resolve?_eq_some {text : String} {target : Members}
    (resolves : loader.resolve? text = some target) :
    ∃ name, referencedName? text = some name ∧
      find? loader.definitions name = some (.object target) := by
  obtain ⟨name, named, rest⟩ := Option.bind_eq_some_iff.mp resolves
  obtain ⟨definition, found, isObject⟩ := Option.bind_eq_some_iff.mp rest
  exact ⟨name, named, Document.members?_eq_some_iff.mp isObject ▸ found⟩

/-- A reference is expanded to its definition, into which the members beside it are written. -/
theorem expand_eq_ok {expanding : List String} {reference : Document} {text : String}
    {merged : Members}
    (expanded : loader.expand expanding path reference members = .ok (text, merged)) :
    reference = .string text ∧ ∃ (name : String) (target : Members),
      referencedName? text = some name ∧
      find? loader.definitions name = some (.object target) ∧
      merged = target.insertAll (members.without ["$ref"]) := by
  rw [expand] at expanded
  split at expanded
  · cases expanded
  · next isText =>
    split at expanded
    · cases expanded
    · next target resolved =>
      split_ifs at expanded
      cases expanded
      obtain ⟨name, named, found⟩ := resolve?_eq_some resolved
      exact ⟨Document.string?_eq_some_iff.mp isText, name, target, named, found, rfl⟩

/-- What takes the place of a reference is well formed. -/
theorem expand_wellFormed (definitions : (Document.object loader.definitions).wellFormed)
    (sound : (Document.object members).wellFormed) {expanding : List String}
    {reference : Document} {text : String} {merged : Members}
    (expanded : loader.expand expanding path reference members = .ok (text, merged)) :
    (Document.object merged).wellFormed := by
  obtain ⟨-, name, target, -, found, rfl⟩ := expand_eq_ok expanded
  exact Document.wellFormed_insertAll (Document.wellFormed_of_find? definitions found)
    (Document.wellFormed_without sound _)

theorem charge_yields_iff {budget left : Nat} :
    Yields (loader.charge path) budget () left ↔ budget = left + 1 := by
  cases budget with
  | zero =>
    constructor
    · exact fun run => absurd run not_yields_fail
    · omega
  | succ rest =>
    constructor
    · rintro ⟨⟩
      rfl
    · rintro ⟨⟩
      rfl

/-- A property that is marked as required lists no names, as both would stand under one key. -/
theorem requiredNames_nil_of_mark {name : KindName} {kind : Kind} (same : kind.name = name)
    (run : Yields (Loader.kind load members path name) budget kind left)
    (mark : requiredMark members name = .ok true) : kind.requiredNames = [] := by
  by_cases isObject : name = .object
  · subst isObject
    simp only [Loader.kind, objectKind, yields_bind, yields_keyword, yields_pure] at run
    obtain ⟨_, _, _, required, _, ⟨names, rfl⟩, _, _, _, _, _, _, _, _, _, _, _, _, rfl, rfl⟩ := run
    rcases requiredNames_eq_ok_iff.mp names with list | ⟨-, none⟩
    · rw [requiredMark, list] at mark
      cases mark
    · exact none
  · exact Kind.requiredNames_eq_nil (same ▸ isObject)

private theorem property_sound (loads : load.Sound room) (sound : (Document.object members).wellFormed)
    {name : String} {property : Property}
    (run : Yields (loader.property load name path members) budget property left) :
    property.LoadedAs name (room + 1) ∧ budget = left + property.size := by
  simp only [Loader.property, yields_bind, yields_keyword, yields_pure] at run
  obtain ⟨_, _, charged, kindName, _, ⟨-, rfl⟩, kind, _, loadKind, said, _, ⟨annotated, rfl⟩, allOf,
    _, loadAllOf, anyOf, _, loadAnyOf, oneOf, _, loadOneOf, mark, _, ⟨marked, rfl⟩, rfl, rfl⟩ := run
  obtain ⟨knownKind, first⟩ := kind_sound loads sound loadKind
  obtain ⟨knownAllOf, second⟩ := alternatives_sound loads sound loadAllOf
  obtain ⟨knownAnyOf, third⟩ := alternatives_sound loads sound loadAnyOf
  obtain ⟨knownOneOf, fourth⟩ := alternatives_sound loads sound loadOneOf
  have root : Property.RootSound ⟨name, kind, said, allOf, anyOf, oneOf, mark⟩ :=
    { kind := knownKind.sound
      annotations := annotations_sound sound annotated
      allOf := fun child member => (knownAllOf child member).name_eq
      anyOf := fun child member => (knownAnyOf child member).name_eq
      oneOf := fun child member => (knownOneOf child member).name_eq
      required := fun marks => requiredNames_nil_of_mark knownKind.name_eq loadKind (marks ▸ marked) }
  have children : ∀ child ∈ Property.children ⟨name, kind, said, allOf, anyOf, oneOf, mark⟩,
      ∃ bears, child.LoadedAs bears room := by
    intro child member
    simp only [Property.children, List.mem_append] at member
    rcases member with ((part | all) | any) | one
    · exact ⟨_, knownKind.children child part⟩
    · exact ⟨_, knownAllOf child all⟩
    · exact ⟨_, knownAnyOf child any⟩
    · exact ⟨_, knownOneOf child one⟩
  have below : ∀ child ∈ Property.children ⟨name, kind, said, allOf, anyOf, oneOf, mark⟩,
      child.Sound := fun child member => (children child member).elim fun _ known => known.sound
  refine ⟨⟨rfl, .node root below, room, rfl, ?_⟩, ?_⟩
  · exact Property.nestsWithin_of_children fun child member =>
      (children child member).elim fun _ known => known.nests
  · rw [Property.size_eq]
    simp only [Property.children, List.map_append, List.sum_append]
    rw [charge_yields_iff] at charged
    omega

/-- Whatever reference stands in its place, a schema is sound and costs its size. -/
theorem loadWithin_sound (definitions : (Document.object loader.definitions).wellFormed)
    (room : Nat) (expanding : List String) :
    LoadChild.Sound (loader.loadWithin room expanding) room := by
  induction room generalizing expanding with
  | zero => exact fun _ _ _ _ _ _ _ run => absurd run not_yields_fail
  | succ room ih =>
    intro name path document sound budget property left run
    rw [loadWithin] at run
    split at run
    · exact absurd run not_yields_fail
    · next members isObject =>
      have same := Document.members?_eq_some_iff.mp isObject
      subst same
      split at run
      · exact property_sound (ih expanding) sound run
      · next reference found =>
        split at run
        · exact absurd run not_yields_throw
        · next reference merged expanded =>
          have merges := expand_wellFormed definitions sound expanded
          obtain ⟨known, cost⟩ := ih (reference :: expanding) _ _ _ merges _ _ _ run
          exact ⟨known.weaken, cost⟩

/-- A schema that is loaded with the whole budget is known and leaves what its size does not take. -/
theorem load_sound (definitions : (Document.object loader.definitions).wellFormed)
    {name : String} {document : Document} (sound : document.wellFormed) {property : Property}
    (run : Yields (loader.load name path document) budget property left) :
    property.LoadedAs name (loader.maxDepth + 1) ∧ budget = left + property.size :=
  loadWithin_sound definitions _ _ _ _ _ sound _ _ _ run

end Loader

end Intake
