import Intake.Proofs.Schema.Session

/-! # Where a budget runs out

A load takes one from the budget for each schema, when it comes to its location. So a load that would
succeed with a larger budget fails at the first location that is not covered, with nothing left. The
locations follow from the schema alone: a reference adds nothing to the path of what it stands for.
-/

namespace Intake

mutual

/-- The locations of the schemas of a tree that is rooted at a path, in the order in which they are
loaded. -/
def Property.locations (path : String) : Property → List String
  | ⟨_, kind, _, allOf, anyOf, oneOf, _⟩ =>
    path :: (kind.locations path ++ (locationsOfListed path "allOf" 0 allOf ++
      (locationsOfListed path "anyOf" 0 anyOf ++ locationsOfListed path "oneOf" 0 oneOf)))

/-- The locations of the schemas that a kind is made of. -/
def Kind.locations (path : String) : Kind → List String
  | .array _ items contains =>
    locationsOfAny path "items" items ++ locationsOfAny path "contains" contains
  | .object _ properties additional =>
    locationsOfNamed path properties ++ additional.locations s!"{path}/additionalProperties"
  | _ => []

/-- The locations of the schemas in the schema of additional values. -/
def Additional.locations (path : String) : Additional → List String
  | .schema property => property.locations path
  | _ => []

/-- The locations of the schemas of properties, each under its name. -/
def locationsOfNamed (path : String) : List Property → List String
  | [] => []
  | property :: rest =>
    property.locations s!"{path}/properties/{property.name}" ++ locationsOfNamed path rest

/-- The locations of the schemas in a list, each under its index. -/
def locationsOfListed (path key : String) (index : Nat) : List Property → List String
  | [] => []
  | property :: rest =>
    property.locations s!"{path}/{key}/{index}" ++ locationsOfListed path key (index + 1) rest

/-- The locations of the schemas in a tree under a keyword, if there is one. -/
def locationsOfAny (path key : String) : Option Property → List String
  | none => []
  | some property => property.locations s!"{path}/{key}"

end

mutual

/-- Every schema of a tree has its location. -/
theorem Property.length_locations (path : String) (property : Property) :
    (property.locations path).length = property.size := by
  obtain ⟨name, kind, annotations, allOf, anyOf, oneOf, required⟩ := property
  simp only [Property.locations, Property.size, List.length_cons, List.length_append,
    kind.length_locations, length_locationsOfListed]
  omega

private theorem Kind.length_locations (path : String) (kind : Kind) :
    (kind.locations path).length = kind.size := by
  cases kind with
  | array limits items contains =>
    rw [Kind.locations, Kind.size, List.length_append, length_locationsOfAny, length_locationsOfAny]
  | object limits properties additional =>
    rw [Kind.locations, Kind.size, List.length_append, length_locationsOfNamed, additional.length_locations]
  | _ => rfl

private theorem Additional.length_locations (path : String) (additional : Additional) :
    (additional.locations path).length = additional.size := by
  cases additional with
  | schema property => exact property.length_locations path
  | _ => rfl

private theorem length_locationsOfNamed (path : String) (properties : List Property) :
    (locationsOfNamed path properties).length = sizeOfAll properties := by
  cases properties with
  | nil => rfl
  | cons property rest =>
    rw [locationsOfNamed, sizeOfAll, List.length_append, property.length_locations, length_locationsOfNamed]

private theorem length_locationsOfListed (path key : String) (index : Nat)
    (properties : List Property) :
    (locationsOfListed path key index properties).length = sizeOfAll properties := by
  cases properties with
  | nil => rfl
  | cons property rest =>
    rw [locationsOfListed, sizeOfAll, List.length_append, property.length_locations,
      length_locationsOfListed]

private theorem length_locationsOfAny (path key : String) (property : Option Property) :
    (locationsOfAny path key property).length = sizeOfAny property := by
  cases property with
  | none => rfl
  | some property => exact property.length_locations _

end

namespace Load

variable {α β : Type} {limit : Nat}

/-- A budget is charged once for each of the paths. If it covers them all, the load yields the value.
Otherwise it fails at the first path that is not covered, and nothing is left. -/
def Charges (limit : Nat) (load : Load α) (value : α) (paths : List String) : Prop :=
  ∀ budget, (ExceptT.run load).run budget =
    match paths[budget]? with
    | none => (.ok value, budget - paths.length)
    | some path => (.error ⟨path, .tooLarge limit⟩, 0)

private theorem charges_pure (value : α) : Charges limit (pure value) value [] := fun _ => rfl

private theorem Charges.bind {first : Load α} {next : α → Load β} {value : α} {result : β}
    {paths more : List String} (start : Charges limit first value paths)
    (rest : Charges limit (next value) result more) :
    Charges limit (first >>= next) result (paths ++ more) := by
  intro budget
  rw [run_bind, start budget]
  by_cases covered : paths.length ≤ budget
  · rw [List.getElem?_eq_none covered, List.getElem?_append_right covered, List.length_append,
      ← Nat.sub_sub]
    exact rest _
  · have inside := Nat.lt_of_not_le covered
    rw [List.getElem?_append_left inside, List.getElem?_eq_getElem inside]

private theorem Charges.map {load : Load α} {value : α} {paths : List String}
    (charges : Charges limit load value paths) (change : α → β) :
    Charges limit (change <$> load) (change value) paths := by
  rw [map_eq_pure_bind, ← List.append_nil paths]
  exact charges.bind (charges_pure _)

/-- Reading a keyword costs nothing. -/
theorem Charges.keyword {path : String} {read : Except SchemaFault α} {next : α → Load β} {value : α}
    {result : β} {paths : List String} (known : read = .ok value)
    (rest : Charges limit (next value) result paths) :
    Charges limit (Load.keyword path read >>= next) result paths := by
  rw [known]
  exact (charges_pure value).bind rest

private theorem Charges.cons {step : α → Load β} {item : α} {items : List α} {value : β}
    {values : List β} {paths more : List String} (head : Charges limit (step item) value paths)
    (tail : Charges limit (items.mapM step) values more) :
    Charges limit ((item :: items).mapM step) (value :: values) (paths ++ more) := by
  rw [List.mapM_cons, ← List.append_nil more]
  exact head.bind (tail.bind (charges_pure _))

end Load

open Load

/-- Whatever schema the load makes has the name it is loaded under, and is charged for at the locations
of its tree. -/
def LoadChild.Charges (limit : Nat) (load : LoadChild) : Prop :=
  ∀ name path document budget property left, Yields (load name path document) budget property left →
    property.name = name ∧
      Load.Charges limit (load name path document) property (property.locations path)

namespace Loader

variable {loader : Loader} {load : LoadChild} {limit : Nat} {members : Members} {path : String}
  {budget left : Nat}

private theorem charge_charges (loader : Loader) (path : String) :
    Charges loader.maxNodes (loader.charge path) () [path] := by
  intro budget
  cases budget <;> rfl

private theorem child?_charges (loads : load.Charges limit) {key : String} {child : Option Property}
    (run : Yields (child? load members path key) budget child left) :
    Charges limit (child? load members path key) child (locationsOfAny path key child) := by
  rw [child?] at run ⊢
  split at run
  · obtain ⟨rfl, -⟩ := yields_pure.mp run
    exact charges_pure none
  · obtain ⟨property, loaded, rfl⟩ := yields_map.mp run
    exact (loads _ _ _ _ _ _ loaded).2.map some

private theorem listed_charges (loads : load.Charges limit) {key : String} {documents : List Document}
    {alternatives : List Property} {index : Nat}
    (each : List.Forall₂ (fun (item : Document × Nat) property => ∃ budget left,
      Yields (load key s!"{path}/{key}/{item.2}" item.1) budget property left)
      (documents.zipIdx index) alternatives) :
    Charges limit ((documents.zipIdx index).mapM fun (document, index) =>
      load key s!"{path}/{key}/{index}" document) alternatives
      (locationsOfListed path key index alternatives) := by
  induction documents generalizing index alternatives with
  | nil =>
    cases each
    exact charges_pure []
  | cons document rest ih =>
    rw [List.zipIdx_cons] at each ⊢
    obtain _ | ⟨⟨_, _, loaded⟩, others⟩ := each
    rw [locationsOfListed]
    exact .cons (loads _ _ _ _ _ _ loaded).2 (ih others)

private theorem alternatives_charges (loads : load.Charges limit) {key : String}
    {alternatives : List Property}
    (run : Yields (Loader.alternatives load members path key) budget alternatives left) :
    Charges limit (Loader.alternatives load members path key) alternatives
      (locationsOfListed path key 0 alternatives) := by
  obtain ⟨documents, between, read, rest⟩ := yields_bind.mp run
  exact .keyword (yields_keyword.mp read).1 (listed_charges loads (forall₂_yields_of_mapM rest))

private theorem named_charges (loads : load.Charges limit) {entries : Members}
    {properties : List Property}
    (each : List.Forall₂ (fun (entry : String × Document) property => ∃ budget left,
      Yields (load entry.1 s!"{path}/properties/{entry.1}" entry.2) budget property left)
      entries properties) :
    Charges limit (entries.mapM fun (name, document) => load name s!"{path}/properties/{name}" document)
      properties (locationsOfNamed path properties) := by
  induction each with
  | nil => exact charges_pure []
  | cons first _ ih =>
    obtain ⟨_, _, loaded⟩ := first
    obtain ⟨named, charges⟩ := loads _ _ _ _ _ _ loaded
    rw [locationsOfNamed, named]
    exact .cons charges ih

private theorem properties_charges (loads : load.Charges limit) {properties : List Property}
    (run : Yields (Loader.properties load members path) budget properties left) :
    Charges limit (Loader.properties load members path) properties (locationsOfNamed path properties) := by
  obtain ⟨declared, between, read, rest⟩ := yields_bind.mp run
  exact .keyword (yields_keyword.mp read).1 (named_charges loads (forall₂_yields_of_mapM rest))

private theorem additional_charges (loads : load.Charges limit) {additional : Additional}
    (run : Yields (Loader.additional load members path) budget additional left) :
    Charges limit (Loader.additional load members path) additional
      (additional.locations s!"{path}/additionalProperties") := by
  rw [Loader.additional] at run ⊢
  split at run
  · obtain ⟨rfl, -⟩ := yields_pure.mp run
    exact charges_pure _
  · obtain ⟨rfl, -⟩ := yields_pure.mp run
    exact charges_pure _
  · obtain ⟨property, loaded, rfl⟩ := yields_map.mp run
    exact (loads _ _ _ _ _ _ loaded).2.map Additional.schema
  · exact absurd run not_yields_fail

private theorem arrayKind_charges (loads : load.Charges limit) {kind : Kind}
    (run : Yields (arrayKind load members path) budget kind left) :
    Charges limit (arrayKind load members path) kind (kind.locations path) := by
  simp only [arrayKind, yields_bind, yields_keyword, yields_pure] at run
  obtain ⟨items, _, loadItems, minItems, _, ⟨least, -⟩, maxItems, _, ⟨most, -⟩, contains, _,
    loadContains, minContains, _, ⟨fewest, -⟩, maxContains, _, ⟨greatest, -⟩, unique, _,
    ⟨distinct, -⟩, rfl, -⟩ := run
  rw [Kind.locations]
  refine (child?_charges loads loadItems).bind (.keyword least (.keyword most ?_))
  rw [← List.append_nil (locationsOfAny _ _ contains)]
  exact (child?_charges loads loadContains).bind
    (.keyword fewest (.keyword greatest (.keyword distinct (charges_pure _))))

private theorem objectKind_charges (loads : load.Charges limit) {kind : Kind}
    (run : Yields (objectKind load members path) budget kind left) :
    Charges limit (objectKind load members path) kind (kind.locations path) := by
  simp only [objectKind, yields_bind, yields_keyword, yields_pure] at run
  obtain ⟨properties, _, loadProperties, required, _, ⟨names, -⟩, needs, _, ⟨dependent, -⟩, least,
    _, ⟨minimum, -⟩, most, _, ⟨maximum, -⟩, additional, _, loadAdditional, rfl, -⟩ := run
  rw [Kind.locations]
  refine (properties_charges loads loadProperties).bind
    (.keyword names (.keyword dependent (.keyword minimum (.keyword maximum ?_))))
  rw [← List.append_nil (additional.locations _)]
  exact (additional_charges loads loadAdditional).bind (charges_pure _)

private theorem kind_charges (loads : load.Charges limit) {name : KindName} {kind : Kind}
    (run : Yields (Loader.kind load members path name) budget kind left) :
    Charges limit (Loader.kind load members path name) kind (kind.locations path) := by
  cases name with
  | array => exact arrayKind_charges loads run
  | object => exact objectKind_charges loads run
  | boolean | null =>
    obtain ⟨rfl, -⟩ := yields_pure.mp run
    exact charges_pure _
  | string | integer | number =>
    simp only [Loader.kind, yields_bind, yields_keyword, yields_pure] at run
    obtain ⟨limits, _, ⟨read, -⟩, rfl, -⟩ := run
    exact .keyword read (charges_pure _)

private theorem property_charges (loads : load.Charges loader.maxNodes) {name : String}
    {property : Property}
    (run : Yields (loader.property load name path members) budget property left) :
    property.name = name ∧
      Charges loader.maxNodes (loader.property load name path members) property
        (property.locations path) := by
  simp only [Loader.property, yields_bind, yields_keyword, yields_pure] at run
  obtain ⟨_, _, -, kindName, _, ⟨named, -⟩, kind, _, loadKind, said, _, ⟨annotated, -⟩, allOf,
    _, loadAllOf, anyOf, _, loadAnyOf, oneOf, _, loadOneOf, mark, _, ⟨marked, -⟩, rfl, -⟩ := run
  refine ⟨rfl, ?_⟩
  rw [Property.locations, ← List.singleton_append, ← List.append_nil (locationsOfListed _ "oneOf" _ _)]
  exact (charge_charges loader path).bind (.keyword named ((kind_charges loads loadKind).bind
    (.keyword annotated ((alternatives_charges loads loadAllOf).bind
      ((alternatives_charges loads loadAnyOf).bind ((alternatives_charges loads loadOneOf).bind
        (.keyword marked (charges_pure _))))))))

/-- A reference is charged for where it stands, at the locations of what it stands for. -/
theorem loadWithin_charges (loader : Loader) (room : Nat) (expanding : List String) :
    LoadChild.Charges loader.maxNodes (loader.loadWithin room expanding) := by
  induction room generalizing expanding with
  | zero => exact fun _ _ _ _ _ _ run => absurd run not_yields_fail
  | succ room ih =>
    intro name path document budget property left run
    rw [loadWithin] at run ⊢
    split at run
    · exact absurd run not_yields_fail
    · split at run
      · exact property_charges (ih expanding) run
      · split at run
        · exact absurd run not_yields_throw
        · exact ih _ _ _ _ _ _ _ run

/-- What is loaded under one bound is loaded under any other one from the right budget. -/
theorem exists_yields {definitions : Members} {maxDepth ample maxNodes : Nat} {name : String}
    {document : Document} {property : Property}
    (run : Yields ((Loader.mk definitions maxDepth ample).load name path document) budget property left) :
    ∃ cost, Yields ((Loader.mk definitions maxDepth maxNodes).load name path document) cost property 0 := by
  obtain ⟨cost, -, ends⟩ : ∃ cost, budget = left + cost ∧ YieldsOrStops True
      ((Loader.mk definitions maxDepth maxNodes).load name path document) property cost :=
    loadWithin_thresholds (fun _ => le_refl _) _ _ _ _ _ _ _ run
  rcases ends cost with ⟨rest, same, yields⟩ | ⟨-, short⟩
  · obtain rfl : rest = 0 := by omega
    exact ⟨cost, yields⟩
  · exact absurd (short trivial) (lt_irrefl cost)

/-- A schema that is loaded under an ample bound is not loaded under one below its size. The load fails
then at the first schema that does not fit, having loaded as many as the bound allows. -/
theorem answer_tooLarge {definitions : Members} {maxDepth ample maxNodes : Nat} {call : LoadCall}
    {property : Property}
    (loads : ((Loader.mk definitions maxDepth ample).answer
      (Loader.mk definitions maxDepth ample).start call).1 = .ok property)
    (small : maxNodes < property.size) :
    let loader := Loader.mk definitions maxDepth maxNodes
    (property.locations call.path).length = property.size ∧
      ∃ location, (property.locations call.path)[maxNodes]? = some location ∧
        (loader.answer loader.start call).1 = .error ⟨location, .tooLarge maxNodes⟩ ∧
        loader.nodesLoaded (loader.answer loader.start call).2 = maxNodes := by
  intro loader
  have length := property.length_locations call.path
  obtain ⟨location, found⟩ : ∃ location, (property.locations call.path)[maxNodes]? = some location :=
    ⟨_, List.getElem?_eq_getElem (length ▸ small)⟩
  rw [start, answer_eq] at loads
  obtain ⟨cost, yields⟩ : ∃ cost, Yields (loader.load call.name call.path call.document) cost property 0 :=
    exists_yields (Prod.ext loads rfl)
  have charges := (loadWithin_charges loader _ [] _ _ _ _ _ _ yields).2 maxNodes
  rw [found] at charges
  have answered : loader.answer loader.start call = (.error ⟨location, .tooLarge maxNodes⟩, ⟨0, []⟩) := by
    rw [start, answer_eq, load, charges]
  rw [answered]
  exact ⟨length, location, found, rfl, rfl⟩

/-- Three schemas are enough for an object, its list of tags and what the tags are. The fourth one says
what the tags contain; it is a reference, as are the two after it. -/
theorem answer_tooLarge_contains :
    let reference : Document := .object [("$ref", .string "#/$defs/word")]
    let tags : Document := .object [("items", reference), ("contains", reference)]
    let call : LoadCall := ⟨"form", "#", .object [("additionalProperties", reference),
      ("anyOf", .array [reference]), ("properties", .object [("tags", tags)])]⟩
    let word (name : String) : Property := .plain name (.string ⟨none, none, none, none, none, none⟩)
    let list : Property := .plain "tags"
      (.array ⟨none, none, none, none, false⟩ (some (word "items")) (some (word "contains")))
    let loaded : Property := ⟨"form", .object .none [list] (.schema (word "additionalProperties")),
      .none, [], [word "anyOf"], [], false⟩
    let ample : Loader := ⟨[("word", .object [("type", .string "string")])], 3, 10⟩
    let tight : Loader := { ample with maxNodes := 3 }
    (ample.answer ample.start call).1 = .ok loaded ∧ loaded.size = 6 ∧
      (tight.answer tight.start call).1 = .error ⟨"#/properties/tags/contains", .tooLarge 3⟩ ∧
      tight.nodesLoaded (tight.answer tight.start call).2 = 3 := by
  intro reference tags call word list loaded ample tight
  have loads : (ample.answer ample.start call).1 = .ok loaded := by with_unfolding_all rfl
  obtain ⟨-, location, found, fails, count⟩ := answer_tooLarge loads (by decide : 3 < loaded.size)
  have fourth : (loaded.locations call.path)[3]? = some "#/properties/tags/contains" := by decide
  obtain rfl := Option.some.inj (found.symm.trans fourth)
  exact ⟨loads, rfl, fails, count⟩

end Loader

end Intake
