import Intake.Proofs.Related
import Intake.Proofs.Schema.Loading
import Intake.Proofs.Schema.Written

/-! # Loading a written schema

Whatever references a schema was loaded through, its own document has none, so it loads again under
any definitions. The levels of the tree, which never exceed those of the document it came from, are
room enough, and its size is what both loads take from the budget.
-/

namespace Intake

open Load
open Members (find?)

private theorem documentsOf_eq_map (properties : List Property) :
    documentsOf properties = properties.map Property.toDocument := by
  induction properties with
  | nil => rfl
  | cons property properties ih => rw [documentsOf, ih, List.map_cons]

private theorem namedDocumentsOf_eq_map (properties : List Property) :
    namedDocumentsOf properties =
      properties.map fun property => (property.name, property.toDocument) := by
  induction properties with
  | nil => rfl
  | cons property properties ih => rw [namedDocumentsOf, ih, List.map_cons]

/-- From whatever budget covers its size, the load makes the schema of its document again. -/
def LoadChild.Restores (load : LoadChild) (property : Property) : Prop :=
  ∀ path left, Yields (load property.name path property.toDocument) (left + property.size)
    property left

namespace Loader

variable {load : LoadChild} {members : Members} {path : String}

private theorem child?_restores {key : String} {child : Option Property}
    (found : find? members key = documentOf? child) (named : ∀ property ∈ child, property.name = key)
    (restores : ∀ property ∈ child, load.Restores property) (left : Nat) :
    Yields (child? load members path key) (left + (child.toList.map Property.size).sum) child
      left := by
  rw [child?, found]
  cases child with
  | none => exact yields_pure.mpr ⟨rfl, rfl⟩
  | some property =>
    rw [← named property rfl]
    exact yields_map.mpr ⟨property, by simpa using restores property rfl _ left, rfl⟩

private theorem alternatives_restores {key : String} {properties : List Property}
    (found : find? members key =
      if properties = [] then none else some (.array (documentsOf properties)))
    (named : ∀ property ∈ properties, property.name = key)
    (restores : ∀ property ∈ properties, load.Restores property) (left : Nat) :
    Yields (alternatives load members path key) (left + (properties.map Property.size).sum)
      properties left := by
  have none : properties = [] → documentsOf properties = [] := by
    rintro rfl
    rfl
  obtain ⟨documents, read, items⟩ := Keyword.list_of_unless none found
  refine yields_bind.mpr ⟨documents, _, yields_keyword.mpr ⟨read, rfl⟩, ?_⟩
  rw [items, documentsOf_eq_map]
  refine yields_mapM (forall₂_map_zipIdx (fun property member index left => ?_) 0) left
  have restored := restores property member s!"{path}/{key}/{index}" left
  rwa [named property member] at restored

private theorem properties_restores {list : List Property}
    (found : find? members "properties" =
      if list = [] then none else some (.object (namedDocumentsOf list)))
    (restores : ∀ property ∈ list, load.Restores property) (left : Nat) :
    Yields (properties load members path) (left + (list.map Property.size).sum) list left := by
  have none : list = [] → namedDocumentsOf list = [] := by
    rintro rfl
    rfl
  obtain ⟨declared, read, entries⟩ := Keyword.object_of_unless none found
  refine yields_bind.mpr ⟨declared, _, yields_keyword.mpr ⟨read, rfl⟩, ?_⟩
  rw [entries, namedDocumentsOf_eq_map]
  refine yields_mapM ?_ left
  rw [List.forall₂_map_left_iff, List.forall₂_same]
  exact fun property member left => restores property member _ left

private theorem additional_restores {value : Additional}
    (found : find? members "additionalProperties" = value.toDocument?)
    (named : ∀ property ∈ value.children, property.name = "additionalProperties")
    (restores : ∀ property ∈ value.children, load.Restores property) (left : Nat) :
    Yields (additional load members path) (left + (value.children.map Property.size).sum) value
      left := by
  rw [additional, found]
  cases value with
  | unstated => exact yields_pure.mpr ⟨rfl, rfl⟩
  | allowed flag => exact yields_pure.mpr ⟨rfl, rfl⟩
  | schema property =>
    have member : property ∈ (Additional.schema property).children := List.mem_singleton_self _
    have restored := restores property member s!"{path}/additionalProperties" left
    rw [named property member, Property.toDocument_eq] at restored
    rw [Additional.toDocument?, Property.toDocument_eq]
    exact yields_map.mpr ⟨property, by simpa [Additional.children] using restored, rfl⟩

private theorem arrayKind_restores {property : Property} {limits : ListLimits}
    {items contains : Option Property} (isArray : property.kind = .array limits items contains)
    (sound : Kind.Sound (.array limits items contains))
    (restores : ∀ child ∈ property.kind.children, load.Restores child) (left : Nat) :
    Yields (arrayKind load property.members path)
      (left + (property.kind.children.map Property.size).sum) property.kind left := by
  obtain ⟨fits, itemsNamed, containsNamed⟩ := sound
  have count {key : String} {value : Option Nat} (known : key ∈ Kind.keys)
      (written : find? (Kind.array limits items contains).members key = value.map .ofNat)
      (fits : ∀ n ∈ value, IsCount n) : Keyword.count property.members key = .ok value :=
    Keyword.count_eq_ok_iff.mpr ⟨property.find?_members_of_kind isArray known written, fits⟩
  have child {key : String} {value : Option Property} (known : key ∈ Kind.keys)
      (written : find? (Kind.array limits items contains).members key = documentOf? value)
      (named : ∀ child ∈ value, child.name = key)
      (member : ∀ child ∈ value, child ∈ property.kind.children) (left : Nat) :
      Yields (child? load property.members path key)
        (left + (value.toList.map Property.size).sum) value left :=
    child?_restores (property.find?_members_of_kind isArray known written) named
      (fun child present => restores child (member child present)) left
  have unique : Keyword.flag property.members "uniqueItems" = .ok limits.uniqueItems := by
    rw [Keyword.flag_eq_ok_iff, property.find?_members_of_kind isArray (by decide) rfl]
    cases set : limits.uniqueItems <;> simp [Kind.members, set]
  -- What is loaded first takes its cost from the whole budget, so it is counted last.
  have total : left + (property.kind.children.map Property.size).sum =
      left + (contains.toList.map Property.size).sum + (items.toList.map Property.size).sum := by
    rw [isArray, Kind.children, List.map_append, List.sum_append]
    omega
  rw [total]
  simp only [arrayKind, yields_bind, yields_keyword, yields_pure]
  refine ⟨items, _, child (by decide) (by simp [Kind.members]) itemsNamed ?_ _,
    limits.minItems, _, ⟨count (by decide) (by simp [Kind.members]) fits.minItems, rfl⟩,
    limits.maxItems, _, ⟨count (by decide) (by simp [Kind.members]) fits.maxItems, rfl⟩,
    contains, _, child (by decide) (by simp [Kind.members]) containsNamed ?_ left,
    limits.minContains, _, ⟨count (by decide) (by simp [Kind.members]) fits.minContains, rfl⟩,
    limits.maxContains, _, ⟨count (by decide) (by simp [Kind.members]) fits.maxContains, rfl⟩,
    limits.uniqueItems, _, ⟨unique, rfl⟩, isArray.symm, rfl⟩
  · simp +contextual [isArray, Kind.children]
  · simp +contextual [isArray, Kind.children]

private theorem objectKind_restores {property : Property} {limits : ObjectLimits}
    {list : List Property} {rest : Additional} (isObject : property.kind = .object limits list rest)
    (sound : Kind.Sound (.object limits list rest))
    (restores : ∀ child ∈ property.kind.children, load.Restores child) (left : Nat) :
    Yields (objectKind load property.members path)
      (left + (property.kind.children.map Property.size).sum) property.kind left := by
  obtain ⟨fits, distinct, named⟩ := sound
  have written {key : String} {value : Option Document} (known : key ∈ Kind.keys)
      (written : find? (Kind.object limits list rest).members key = value) :
      find? property.members key = value :=
    property.find?_members_of_kind isObject known written
  have names : requiredNames property.members = .ok limits.required := by
    rw [requiredNames_members, isObject, Kind.requiredNames]
  have count {key : String} {value : Option Nat} (known : key ∈ Kind.keys)
      (found : find? (Kind.object limits list rest).members key = value.map .ofNat)
      (fits : ∀ n ∈ value, IsCount n) : Keyword.count property.members key = .ok value :=
    Keyword.count_eq_ok_iff.mpr ⟨written known found, fits⟩
  have needs : dependencies property.members = .ok limits.dependentRequired :=
    dependencies_eq_ok (written (by decide) (by simp [Kind.members, dependencyMembers]))
      fits.dependentRequired
  -- No name is declared twice, so an object keeps all the documents.
  have declared : Members.ofList (namedDocumentsOf list) = namedDocumentsOf list := by
    apply Members.ofList_of_nodup
    simpa [Members.keys, namedDocumentsOf_eq_map, Function.comp_def] using distinct
  have none : namedDocumentsOf list = [] ↔ list = [] := by
    rw [namedDocumentsOf_eq_map, List.map_eq_nil_iff]
  have properties (left : Nat) : Yields (properties load property.members path)
      (left + (list.map Property.size).sum) list left := by
    refine properties_restores (written (by decide) ?_) (fun child member => restores child ?_) left
    · simp [Kind.members, declared, none]
    · simp [isObject, Kind.children, member]
  have additional : Yields (additional load property.members path)
      (left + (rest.children.map Property.size).sum) rest left := by
    refine additional_restores (written (by decide) ?_) named
      (fun child member => restores child ?_) left
    · simp [Kind.members]
    · simp [isObject, Kind.children, member]
  have total : left + (property.kind.children.map Property.size).sum =
      left + (rest.children.map Property.size).sum + (list.map Property.size).sum := by
    rw [isObject, Kind.children, List.map_append, List.sum_append]
    omega
  rw [total]
  simp only [objectKind, yields_bind, yields_keyword, yields_pure]
  exact ⟨list, _, properties _,
    limits.required, _, ⟨names, rfl⟩,
    limits.dependentRequired, _, ⟨needs, rfl⟩,
    limits.minProperties, _, ⟨count (by decide) (by simp [Kind.members]) fits.minProperties, rfl⟩,
    limits.maxProperties, _, ⟨count (by decide) (by simp [Kind.members]) fits.maxProperties, rfl⟩,
    rest, _, additional, isObject.symm, rfl⟩

private theorem kind_restores {property : Property} (sound : property.kind.Sound)
    (restores : ∀ child ∈ property.kind.children, load.Restores child) (left : Nat) :
    Yields (Loader.kind load property.members path property.kind.name)
      (left + (property.kind.children.map Property.size).sum) property.kind left := by
  cases same : property.kind with
  | string limits =>
    rw [same] at sound
    simp only [Loader.kind, Kind.name, yields_bind, yields_keyword, yields_pure]
    exact ⟨limits, _, ⟨stringLimits_members same sound, rfl⟩, rfl, rfl⟩
  | integer limits =>
    simp only [Loader.kind, Kind.name, yields_bind, yields_keyword, yields_pure]
    exact ⟨limits, _, ⟨numberLimits_members (.inl same), rfl⟩, rfl, rfl⟩
  | number limits =>
    simp only [Loader.kind, Kind.name, yields_bind, yields_keyword, yields_pure]
    exact ⟨limits, _, ⟨numberLimits_members (.inr same), rfl⟩, rfl, rfl⟩
  | boolean =>
    simp only [Loader.kind, Kind.name, yields_pure]
    exact ⟨trivial, rfl⟩
  | array limits items contains =>
    have restored : Yields (arrayKind load property.members path) _ _ _ :=
      arrayKind_restores same (same ▸ sound) restores left
    rw [same] at restored
    exact restored
  | object limits properties rest =>
    have restored : Yields (objectKind load property.members path) _ _ _ :=
      objectKind_restores same (same ▸ sound) restores left
    rw [same] at restored
    exact restored
  | null =>
    simp only [Loader.kind, Kind.name, yields_pure]
    exact ⟨trivial, rfl⟩

/-- Where the children are made again from their documents, so is the schema from its members. -/
theorem property_restores {loader : Loader} {property : Property} (sound : property.RootSound)
    (restores : ∀ child ∈ property.children, load.Restores child) (left : Nat) :
    Yields (loader.property load property.name path property.members) (left + property.size)
      property left := by
  have children : ∀ child ∈ property.kind.children ++ property.allOf ++ property.anyOf ++
      property.oneOf, load.Restores child := restores
  simp only [List.forall_mem_append] at children
  obtain ⟨⟨⟨parts, all⟩, any⟩, one⟩ := children
  have alternatives {key : String} {properties : List Property}
      (notSaid : key ∉ Annotations.keys) (notKind : key ∉ Kind.keys) (notMark : "required" ≠ key)
      (notType : "type" ≠ key)
      (written : find? (Members.list "allOf" (documentsOf property.allOf)
        ++ Members.list "anyOf" (documentsOf property.anyOf)
        ++ Members.list "oneOf" (documentsOf property.oneOf)) key =
          if properties = [] then none else some (.array (documentsOf properties)))
      (named : ∀ child ∈ properties, child.name = key)
      (restores : ∀ child ∈ properties, load.Restores child) (left : Nat) :
      Yields (alternatives load property.members path key)
        (left + (properties.map Property.size).sum) properties left :=
    alternatives_restores ((property.find?_members_of_other notSaid notKind notMark notType).trans
      written) named restores left
  -- The schema itself is charged before anything is loaded, so its one is counted last.
  have charged : left + property.size = left + (property.oneOf.map Property.size).sum +
      (property.anyOf.map Property.size).sum + (property.allOf.map Property.size).sum +
      (property.kind.children.map Property.size).sum + 1 := by
    rw [Property.size_eq, Property.children]
    simp only [List.map_append, List.sum_append]
    omega
  rw [charged]
  simp only [Loader.property, yields_bind, yields_keyword, yields_pure]
  refine ⟨(), _, charge_yields_iff.mpr rfl,
    property.kind.name, _, ⟨kindName_members property, rfl⟩,
    property.kind, _, kind_restores sound.kind parts _,
    property.annotations, _, ⟨annotations_members property, rfl⟩,
    property.allOf, _, alternatives (by decide) (by decide) (by decide) (by decide) ?_ sound.allOf all _,
    property.anyOf, _, alternatives (by decide) (by decide) (by decide) (by decide) ?_ sound.anyOf any _,
    property.oneOf, _, alternatives (by decide) (by decide) (by decide) (by decide) ?_ sound.oneOf one _,
    property.required, _, ⟨requiredMark_members sound.required, rfl⟩, ?_, rfl⟩
  · simp [documentsOf_eq_map]
  · simp [documentsOf_eq_map]
  · simp [documentsOf_eq_map]
  · cases property
    rfl

/-- A sound schema is made again from its document wherever there is room for its levels. -/
theorem loadWithin_restores (loader : Loader) (expanding : List String) {levels room : Nat}
    (enough : levels < room) {property : Property} (sound : property.Sound)
    (nests : property.nestsWithin levels) :
    LoadChild.Restores (loader.loadWithin room expanding) property := by
  induction levels generalizing room property with
  | zero =>
    cases room with
    | zero => omega
    | succ room =>
      intro path left
      rw [loadWithin, Property.toDocument_eq]
      simp only [Document.members?, Property.find?_members_reference]
      refine property_restores sound.root (fun child member => ?_) left
      rw [nests] at member
      cases member
  | succ levels ih =>
    cases room with
    | zero => omega
    | succ room =>
      intro path left
      rw [loadWithin, Property.toDocument_eq]
      simp only [Document.members?, Property.find?_members_reference]
      exact property_restores sound.root (fun child member =>
        ih (Nat.lt_of_succ_lt_succ enough) (sound.child child member) (nests child member)) left

/-- A schema that was loaded is loaded again from the document that it is written as: under any
definitions, at any path and for the same cost. -/
theorem load_toDocument {definitions : Members} {maxDepth maxNodes : Nat} {name path : String}
    {document : Document} {property : Property} {left : Nat}
    (defined : (Document.object definitions).wellFormed) (sound : document.wellFormed)
    (loads : (Loader.mk definitions maxDepth maxNodes).run
      ((Loader.mk definitions maxDepth maxNodes).load name path document) = (.ok property, left))
    (others : Members) (place : String) :
    (Loader.mk others maxDepth maxNodes).run
      ((Loader.mk others maxDepth maxNodes).load name place property.toDocument) =
        (.ok property, left) := by
  obtain ⟨known, cost⟩ := load_sound defined sound loads
  obtain ⟨levels, room, nests⟩ := known.nests
  have enough : levels < maxDepth + 1 := by
    dsimp only at room
    omega
  have again := loadWithin_restores ⟨others, maxDepth, maxNodes⟩ [] enough known.sound nests place
    left
  rw [known.name_eq, ← cost] at again
  exact again

/-- A reference with a title beside it, reloaded where its target is not defined: the two schemas
that it expands to are taken from ten in both loads. -/
theorem load_toDocument_reference :
    let address : Document := .object [("properties", .object [("city", .object
      [("type", .string "string"), ("minLength", .ofNat 1)])]), ("required", .ofStrings ["city"])]
    let home : Document := .object [("$ref", .string "#/definitions/address"),
      ("title", .string "Home")]
    let city : Property := ⟨"city", .string ⟨none, some 1, none, none, none, none⟩, .none, [], [],
      [], false⟩
    let loaded : Property := ⟨"home", .object ⟨["city"], [], none, none⟩ [city] .unstated,
      { Annotations.none with title := some "Home" }, [], [], [], false⟩
    (Document.object [("address", address)]).wellFormed ∧ home.wellFormed ∧
      (Loader.mk [("address", address)] 3 10).run
        ((Loader.mk [("address", address)] 3 10).load "home" "#" home) = (.ok loaded, 8) ∧
      (Loader.mk [] 3 10).run ((Loader.mk [] 3 10).load "home" "#" loaded.toDocument) =
        (.ok loaded, 8) := by
  intro address home city loaded
  have defined : (Document.object [("address", address)]).wellFormed := by decide
  have sound : home.wellFormed := by decide
  have loads : (Loader.mk [("address", address)] 3 10).run
      ((Loader.mk [("address", address)] 3 10).load "home" "#" home) = (.ok loaded, 8) := rfl
  exact ⟨defined, sound, loads, load_toDocument defined sound loads [] "#"⟩

end Loader

end Intake
