import Intake.Proofs.Schema.Loading
import Intake.Proofs.Schema.Variant

/-! # Loads of an object and of a variant

A loader takes the same steps on an object and on a variant of it: what is read off the object alone
is the same, and the schemas within it are variants of each other. So runs that agree on the schemas
within agree on the object, whatever agreement is, if it passes from steps to runs. What they yield
are schemas with the same limits and annotations, made of parts on which they agree.
-/

namespace Intake

open Load
open Members (find?)

/-- What objects may hold beside their properties, up to a relation of schemas. -/
inductive Additional.Alike (related : Property → Property → Prop) : Additional → Additional → Prop
  | unstated : Alike related .unstated .unstated
  | allowed (flag : Bool) : Alike related (.allowed flag) (.allowed flag)
  | schema {property other : Property} (held : related property other) :
      Alike related (.schema property) (.schema other)

/-- Kinds with the same limits, made of schemas that are related. -/
inductive Kind.Alike (order : KeyOrder) (related : Property → Property → Prop) : Kind → Kind → Prop
  | same (kind : Kind) (plain : kind.name ≠ .array ∧ kind.name ≠ .object) : Alike order related kind kind
  | array (limits : ListLimits) {items others contains further : Option Property}
      (item : Option.Rel related items others) (contained : Option.Rel related contains further) :
      Alike order related (.array limits items contains) (.array limits others further)
  | object (limits : ObjectLimits) {properties others : List Property} {rest further : Additional}
      (each : order.Matches related properties others) (beside : rest.Alike related further) :
      Alike order related (.object limits properties rest) (.object limits others further)

/-- Schemas that say the same, made of schemas that are related. -/
inductive Property.Alike (order : KeyOrder) (related : Property → Property → Prop) :
    Property → Property → Prop
  | intro (name : String) {kind other : Kind} (annotations : Annotations)
      {allOf anyOf oneOf allOfToo anyOfToo oneOfToo : List Property} (required : Bool)
      (made : kind.Alike order related other) (all : List.Forall₂ related allOf allOfToo)
      (any : List.Forall₂ related anyOf anyOfToo) (one : List.Forall₂ related oneOf oneOfToo) :
      Alike order related ⟨name, kind, annotations, allOf, anyOf, oneOf, required⟩
        ⟨name, other, annotations, allOfToo, anyOfToo, oneOfToo, required⟩

private theorem Kind.eq_of_alike {kind other : Kind} (alike : kind.Alike .kept Eq other) :
    kind = other := by
  have eq_of_rel {items others : Option Property} (rel : Option.Rel Eq items others) : items = others := by
    cases rel with
    | none => rfl
    | some same => rw [same]
  cases alike with
  | same => rfl
  | array limits item contained => rw [eq_of_rel item, eq_of_rel contained]
  | object limits each beside =>
    have same := each.forall₂
    rw [List.forall₂_eq_eq_eq] at same
    cases beside with
    | unstated | allowed => rw [same]
    | schema held => rw [same, held]

theorem Property.eq_of_alike {property other : Property} (alike : property.Alike .kept Eq other) :
    property = other := by
  cases alike with
  | intro name annotations required made all any one =>
    rw [List.forall₂_eq_eq_eq] at all any one
    rw [Kind.eq_of_alike made, all, any, one]

/-- Two readings have the same fault or come to related values. -/
inductive ReadsAlike {α β : Type} (related : α → β → Prop) :
    Except SchemaFault α → Except SchemaFault β → Prop
  | ok {value : α} {other : β} (held : related value other) : ReadsAlike related (.ok value) (.ok other)
  | error (fault : SchemaFault) : ReadsAlike related (.error fault) (.error fault)

namespace ReadsAlike

variable {α β γ δ : Type} {related : α → β → Prop} {further : γ → δ → Prop}
  {first : Except SchemaFault α} {other : Except SchemaFault β}

theorem imp (reads : ReadsAlike related first other) {fits : α → β → Prop}
    (imp : ∀ value result, related value result → fits value result) : ReadsAlike fits first other := by
  cases reads with
  | ok held => exact .ok (imp _ _ held)
  | error fault => exact .error fault

theorem bind (reads : ReadsAlike related first other) {next : α → Except SchemaFault γ}
    {rest : β → Except SchemaFault δ}
    (goesOn : ∀ value result, related value result → ReadsAlike further (next value) (rest result)) :
    ReadsAlike further (first >>= next) (other >>= rest) := by
  cases reads with
  | ok held => exact goesOn _ _ held
  | error fault => exact .error fault

end ReadsAlike

theorem Keyword.optional_alike {α β : Type} {related : α → β → Prop} {read? : Document → Option α}
    {further? : Document → Option β} {members others : Members} {key : String}
    (known : Option.Rel (fun value other => Option.Rel related (read? value) (further? other))
      (find? members key) (find? others key)) (expected : Expectation) :
    ReadsAlike (Option.Rel related) (optional read? expected members key)
      (optional further? expected others key) := by
  rw [optional, optional]
  generalize find? members key = value, find? others key = other at known
  cases known with
  | none => exact .ok .none
  | @some value other held =>
    dsimp only
    generalize read? value = result, further? other = also at held
    cases held with
    | none => exact .error _
    | some related => exact .ok (.some related)

namespace Members.Variant

variable {respelled : String → String → Prop} {order : KeyOrder} {members others : Members}
  {key : String}

private theorem find?_eq (variant : Variant respelled order members others)
    (plain : key ∉ Keyword.structural) : find? members key = find? others key := by
  have known := variant key
  generalize find? members key = value, find? others key = other at known
  cases known with
  | none => rfl
  | some held => rw [held.eq_of_plain plain]

/-- What stands under a key of well-formed objects is well formed. -/
theorem rel_find? (variant : Variant respelled order members others)
    (sound : (Document.object members).wellFormed) (also : (Document.object others).wellFormed)
    {fits : Document → Document → Prop} (key : String)
    (held : ∀ value other, value.wellFormed → other.wellFormed →
      MemberVariant.Held respelled order key value other → fits value other) :
    Option.Rel fits (find? members key) (find? others key) :=
  rel_imp_of_mem (variant key) fun value found other foundToo =>
    held value other (Document.wellFormed_of_find? sound found)
      (Document.wellFormed_of_find? also foundToo)

private theorem optional_eq (variant : Variant respelled order members others)
    (plain : key ∉ Keyword.structural) {α : Type} (read? : Document → Option α)
    (expected : Expectation) :
    Keyword.optional read? expected members key = Keyword.optional read? expected others key := by
  rw [Keyword.optional, Keyword.optional, variant.find?_eq plain]

private theorem count_eq (variant : Variant respelled order members others)
    (plain : key ∉ Keyword.structural) : Keyword.count members key = Keyword.count others key :=
  variant.optional_eq plain _ _

private theorem string_eq (variant : Variant respelled order members others)
    (plain : key ∉ Keyword.structural) : Keyword.string members key = Keyword.string others key :=
  variant.optional_eq plain _ _

private theorem number_eq (variant : Variant respelled order members others)
    (plain : key ∉ Keyword.structural) : Keyword.number members key = Keyword.number others key :=
  variant.optional_eq plain _ _

private theorem list_eq (variant : Variant respelled order members others)
    (plain : key ∉ Keyword.structural) : Keyword.list members key = Keyword.list others key :=
  variant.optional_eq plain _ _

private theorem flag_eq (variant : Variant respelled order members others)
    (plain : key ∉ Keyword.structural) : Keyword.flag members key = Keyword.flag others key := by
  rw [Keyword.flag, variant.optional_eq plain]
  rfl

private theorem contains_eq (variant : Variant respelled order members others) (key : String) :
    members.contains key = others.contains key := by
  have known := variant key
  rw [contains_eq_isSome, contains_eq_isSome]
  generalize find? members key = value, find? others key = other at known
  cases known <;> rfl

/-- What is read off an object alone is the same for a variant of it. -/
theorem stringLimits_eq (variant : Variant respelled order members others) :
    Loader.stringLimits members = Loader.stringLimits others := by
  simp (disch := decide) only [Loader.stringLimits, variant.string_eq, variant.count_eq]

private theorem numberLimits_eq (variant : Variant respelled order members others) :
    Loader.numberLimits members = Loader.numberLimits others := by
  simp (disch := decide) only [Loader.numberLimits, variant.number_eq]

private theorem annotations_eq (variant : Variant respelled order members others) :
    Loader.annotations members = Loader.annotations others := by
  simp (disch := decide) only [Loader.annotations, variant.string_eq, variant.flag_eq, variant.list_eq,
    variant.find?_eq]

private theorem requiredNames_eq (variant : Variant respelled order members others) :
    Loader.requiredNames members = Loader.requiredNames others := by
  simp (disch := decide) only [Loader.requiredNames, variant.find?_eq]

private theorem dependencies_eq (variant : Variant respelled order members others) :
    Loader.dependencies members = Loader.dependencies others := by
  simp (disch := decide) only [Loader.dependencies, variant.optional_eq]

private theorem requiredMark_eq (variant : Variant respelled order members others) (kind : KindName) :
    Loader.requiredMark members kind = Loader.requiredMark others kind := by
  simp (disch := decide) only [Loader.requiredMark, variant.find?_eq]

private theorem kindName_eq (variant : Variant respelled order members others) :
    Loader.kindName members = Loader.kindName others := by
  simp (disch := decide) only [Loader.kindName, variant.find?_eq, variant.contains_eq]

end Members.Variant

/-- A relation between runs that yield related values, which passes from steps to runs. -/
structure Agreement where
  Holds : {α β : Type} → (α → β → Prop) → Load α → Load β → Prop
  holds_pure : ∀ {α β : Type} {related : α → β → Prop} {value : α} {other : β},
    related value other → Holds related (pure value) (pure other)
  holds_bind : ∀ {α β γ δ : Type} {related : α → β → Prop} {further : γ → δ → Prop} {first : Load α}
    {other : Load β} {next : α → Load γ} {rest : β → Load δ}, Holds related first other →
      (∀ value result, related value result → Holds further (next value) (rest result)) →
        Holds further (first >>= next) (other >>= rest)
  holds_throw : ∀ {α β : Type} {related : α → β → Prop} {error other : SchemaError},
    error.fault.faultClass = other.fault.faultClass → Holds related (throw error) (throw other)

namespace Agreement

/-- Where the steps of two traversals agree in an order, so do the traversals. -/
def Traverses (agreement : Agreement) (order : KeyOrder) : Prop :=
  ∀ {α β γ δ : Type} {related : γ → δ → Prop} {step : α → Load γ} {further : β → Load δ}
    {items : List α} {others : List β},
    order.Matches (fun item other => agreement.Holds related (step item) (further other)) items others →
      agreement.Holds (order.Matches related) (items.mapM step) (others.mapM further)

variable (agreement : Agreement) {α β γ δ : Type} {related : α → β → Prop}
  {further : γ → δ → Prop}

private theorem map {first : Load α} {other : Load β} (agrees : agreement.Holds related first other)
    {change : α → γ} {also : β → δ}
    (changes : ∀ value result, related value result → further (change value) (also result)) :
    agreement.Holds further (change <$> first) (also <$> other) := by
  rw [map_eq_pure_bind, map_eq_pure_bind]
  exact agreement.holds_bind agrees fun value result held =>
    agreement.holds_pure (changes value result held)

private theorem imp {first : Load α} {other : Load β} (agrees : agreement.Holds related first other)
    {fits : α → β → Prop} (imp : ∀ value result, related value result → fits value result) :
    agreement.Holds fits first other := by
  have mapped : agreement.Holds fits (id <$> first) (id <$> other) := agreement.map agrees imp
  rwa [id_map, id_map] at mapped

private theorem keyword (path pathToo : String) {value : Except SchemaFault α}
    {other : Except SchemaFault β} (reads : ReadsAlike related value other) :
    agreement.Holds related (keyword path value) (keyword pathToo other) := by
  cases reads with
  | ok held => exact agreement.holds_pure held
  | error fault => exact agreement.holds_throw rfl

/-- What is read alike is the same value from there on. -/
theorem keyword_eq (path pathToo : String) {value other : Except SchemaFault α} (same : value = other) :
    agreement.Holds Eq (Load.keyword path value) (Load.keyword pathToo other) := by
  subst same
  cases value with
  | ok value => exact agreement.holds_pure rfl
  | error fault => exact agreement.holds_throw rfl

private theorem forall₂_mapM {step : α → Load γ} {also : β → Load δ} {items : List α} {others : List β}
    (steps : List.Forall₂ (fun item other => agreement.Holds further (step item) (also other)) items
      others) :
    agreement.Holds (List.Forall₂ further) (items.mapM step) (others.mapM also) := by
  induction steps with
  | nil =>
    rw [List.mapM_nil, List.mapM_nil]
    exact agreement.holds_pure .nil
  | cons first _ ih =>
    rw [List.mapM_cons, List.mapM_cons]
    refine agreement.holds_bind first fun _ _ head => ?_
    exact agreement.holds_bind ih fun _ _ tail => agreement.holds_pure (.cons head tail)

theorem traverses_kept : agreement.Traverses .kept := by
  intro _ _ _ _ related step also items others each
  exact agreement.imp (agreement.forall₂_mapM each.forall₂) fun _ _ => .kept

end Agreement

/-- The loads agree on the schemas that an object and a variant of it are made of. -/
structure Agreement.Within (agreement : Agreement) (respelled : String → String → Prop)
    (order : KeyOrder) (related : Property → Property → Prop) (load further : LoadChild)
    (members others : Members) : Prop where
  traverses : agreement.Traverses order
  variant : Members.Variant respelled order members others
  sound : (Document.object members).wellFormed
  also : (Document.object others).wellFormed
  loads : ∀ {document other : Document}, Document.Variant respelled order document other →
    document.wellFormed → other.wellFormed → ∀ name path pathToo,
      agreement.Holds related (load name path document) (further name pathToo other)

namespace Agreement.Within

variable {agreement : Agreement} {order : KeyOrder} {respelled : String → String → Prop}
  {related : Property → Property → Prop} {load further : LoadChild} {members others : Members}
  {path pathToo key : String}

/-- The loads agree on a document and a variant of it, whatever the paths to them. -/
abbrev Agrees (agreement : Agreement) (related : Property → Property → Prop)
    (load further : LoadChild) (document other : Document) : Prop :=
  ∀ name path pathToo, agreement.Holds related (load name path document) (further name pathToo other)

private theorem find?_agrees
    (within : agreement.Within respelled order related load further members others)
    (one : key ∈ Keyword.ofSchema) :
    Option.Rel (fun value other => Document.Variant respelled order value other ∧
      Agrees agreement related load further value other) (find? members key) (find? others key) :=
  within.variant.rel_find? within.sound within.also key fun _ _ sound also held =>
    ⟨held.variant one, within.loads (held.variant one) sound also⟩

private theorem list_agrees
    (within : agreement.Within respelled order related load further members others)
    (several : key ∈ Keyword.ofSchemas) :
    ReadsAlike (Option.Rel (List.Forall₂ (Agrees agreement related load further)))
      (Keyword.list members key) (Keyword.list others key) := by
  refine Keyword.optional_alike (within.variant.rel_find? within.sound within.also key ?_) _
  intro value other sound also held
  refine rel_imp_of_mem (held.items? several) fun items isList others alsoList each => ?_
  rw [Option.mem_def, Document.items?_eq_some_iff] at isList alsoList
  subst isList alsoList
  refine forall₂_imp_of_mem each fun item member other present variant => ?_
  exact within.loads variant (Document.wellFormed_array.mp sound item member)
    (Document.wellFormed_array.mp also other present)

private theorem entries_agree
    (within : agreement.Within respelled order related load further members others)
    (several : key ∈ Keyword.ofNamedSchemas) :
    ReadsAlike (Option.Rel (order.Matches (SameKey (Agrees agreement related load further))))
      (Keyword.optional Document.members? .object members key)
      (Keyword.optional Document.members? .object others key) := by
  refine Keyword.optional_alike (within.variant.rel_find? within.sound within.also key ?_) _
  intro value other sound also held
  refine rel_imp_of_mem (held.entries? several) fun entries isObject others alsoObject each => ?_
  rw [Option.mem_def, Document.members?_eq_some_iff] at isObject alsoObject
  subst isObject alsoObject
  refine each.imp_of_mem fun entry member other present variant => ?_
  obtain ⟨name, variant⟩ := variant
  exact .intro name (within.loads variant ((Document.wellFormed_object.mp sound).2 _ member)
    ((Document.wellFormed_object.mp also).2 _ present))

private theorem child? (within : agreement.Within respelled order related load further members others)
    (one : key ∈ Keyword.ofSchema) :
    agreement.Holds (Option.Rel related) (Loader.child? load members path key)
      (Loader.child? further others pathToo key) := by
  have known := within.find?_agrees one
  rw [Loader.child?, Loader.child?]
  generalize find? members key = value, find? others key = other at known
  cases known with
  | none => exact agreement.holds_pure .none
  | some held => exact agreement.map (held.2 _ _ _) fun _ _ => .some

private theorem alternatives
    (within : agreement.Within respelled order related load further members others)
    (several : key ∈ Keyword.ofSchemas) :
    agreement.Holds (List.Forall₂ related) (Loader.alternatives load members path key)
      (Loader.alternatives further others pathToo key) := by
  refine agreement.holds_bind (agreement.keyword path pathToo (within.list_agrees several)) fun value other held => ?_
  refine agreement.forall₂_mapM ?_
  have each : List.Forall₂ (Agrees agreement related load further) (value.getD []) (other.getD []) := by
    cases held with
    | none => exact .nil
    | some each => exact each
  refine (forall₂_zipIdx each 0).imp ?_
  rintro ⟨document, index⟩ ⟨other, _⟩ ⟨agrees, rfl⟩
  exact agrees _ _ _

private theorem properties
    (within : agreement.Within respelled order related load further members others) :
    agreement.Holds (order.Matches related) (Loader.properties load members path)
      (Loader.properties further others pathToo) := by
  have reads := within.entries_agree (show "properties" ∈ Keyword.ofNamedSchemas by decide)
  refine agreement.holds_bind (agreement.keyword path pathToo reads) fun value other held => ?_
  refine within.traverses ?_
  have each : order.Matches (SameKey (Agrees agreement related load further)) (value.getD [])
      (other.getD []) := by
    cases held with
    | none => exact .of_forall₂ .nil
    | some each => exact each
  refine each.imp fun entry other both => ?_
  obtain ⟨name, agrees⟩ := both
  exact agrees _ _ _

private theorem additional
    (within : agreement.Within respelled order related load further members others) :
    agreement.Holds (Additional.Alike related) (Loader.additional load members path)
      (Loader.additional further others pathToo) := by
  have known := within.find?_agrees (show "additionalProperties" ∈ Keyword.ofSchema by decide)
  rw [Loader.additional, Loader.additional]
  generalize find? members "additionalProperties" = value,
    find? others "additionalProperties" = other at known
  cases known with
  | none => exact agreement.holds_pure .unstated
  | @some value other held =>
    obtain ⟨variant, agrees⟩ := held
    have loads {entries others : Members}
        (agrees : Agrees agreement related load further (.object entries) (.object others)) :=
      agreement.map (agrees "additionalProperties" (path ++ "/additionalProperties")
        (pathToo ++ "/additionalProperties")) fun _ _ => Additional.Alike.schema
    cases variant with
    | object => exact loads agrees
    | same =>
      cases value with
      | bool flag => exact agreement.holds_pure (.allowed flag)
      | object => exact loads agrees
      | _ => exact agreement.holds_throw rfl

private theorem arrayKind
    (within : agreement.Within respelled order related load further members others) :
    agreement.Holds (Kind.Alike order related) (Loader.arrayKind load members path)
      (Loader.arrayKind further others pathToo) := by
  have count {key : String} (plain : key ∉ Keyword.structural) :=
    agreement.keyword_eq path pathToo (within.variant.count_eq plain)
  have flag {key : String} (plain : key ∉ Keyword.structural) :=
    agreement.keyword_eq path pathToo (within.variant.flag_eq plain)
  refine agreement.holds_bind (within.child? (by decide)) fun items others alike => ?_
  refine agreement.holds_bind (count (by decide)) ?_
  rintro minItems _ rfl
  refine agreement.holds_bind (count (by decide)) ?_
  rintro maxItems _ rfl
  refine agreement.holds_bind (within.child? (by decide)) fun contains further contained => ?_
  refine agreement.holds_bind (count (by decide)) ?_
  rintro minContains _ rfl
  refine agreement.holds_bind (count (by decide)) ?_
  rintro maxContains _ rfl
  refine agreement.holds_bind (flag (by decide)) ?_
  rintro uniqueItems _ rfl
  exact agreement.holds_pure (.array _ alike contained)

private theorem objectKind
    (within : agreement.Within respelled order related load further members others) :
    agreement.Holds (Kind.Alike order related) (Loader.objectKind load members path)
      (Loader.objectKind further others pathToo) := by
  have count {key : String} (plain : key ∉ Keyword.structural) :=
    agreement.keyword_eq path pathToo (within.variant.count_eq plain)
  refine agreement.holds_bind within.properties fun properties others each => ?_
  refine agreement.holds_bind (agreement.keyword_eq path pathToo within.variant.requiredNames_eq) ?_
  rintro required _ rfl
  refine agreement.holds_bind (agreement.keyword_eq path pathToo within.variant.dependencies_eq) ?_
  rintro dependentRequired _ rfl
  refine agreement.holds_bind (count (by decide)) ?_
  rintro minProperties _ rfl
  refine agreement.holds_bind (count (by decide)) ?_
  rintro maxProperties _ rfl
  refine agreement.holds_bind within.additional fun rest further beside => ?_
  exact agreement.holds_pure (.object _ each beside)

private theorem kind (within : agreement.Within respelled order related load further members others)
    (name : KindName) :
    agreement.Holds (Kind.Alike order related) (Loader.kind load members path name)
      (Loader.kind further others pathToo name) := by
  have leaf {α : Type} {value other : Except SchemaFault α} (same : value = other) (kind : α → Kind)
      (plain : ∀ limits, (kind limits).name ≠ .array ∧ (kind limits).name ≠ .object) :
      agreement.Holds (Kind.Alike order related)
        (Load.keyword path value >>= fun limits => pure (kind limits))
        (Load.keyword pathToo other >>= fun limits => pure (kind limits)) := by
    refine agreement.holds_bind (agreement.keyword_eq path pathToo same) ?_
    rintro limits _ rfl
    exact agreement.holds_pure (.same _ (plain limits))
  cases name with
  | string => exact leaf within.variant.stringLimits_eq Kind.string fun _ => ⟨nofun, nofun⟩
  | integer => exact leaf within.variant.numberLimits_eq Kind.integer fun _ => ⟨nofun, nofun⟩
  | number => exact leaf within.variant.numberLimits_eq Kind.number fun _ => ⟨nofun, nofun⟩
  | boolean => exact agreement.holds_pure (.same _ ⟨nofun, nofun⟩)
  | array => exact within.arrayKind
  | object => exact within.objectKind
  | null => exact agreement.holds_pure (.same _ ⟨nofun, nofun⟩)

/-- Loads that agree in what they take from the budget and on the schemas within agree on an object and
a variant of it. -/
theorem property (within : agreement.Within respelled order related load further members others)
    {loader another : Loader}
    (charged : agreement.Holds Eq (loader.charge path : Load Unit) (another.charge pathToo))
    (name : String) :
    agreement.Holds (Property.Alike order related) (loader.property load name path members)
      (another.property further name pathToo others) := by
  refine agreement.holds_bind charged fun _ _ _ => ?_
  refine agreement.holds_bind (agreement.keyword_eq path pathToo within.variant.kindName_eq) ?_
  rintro kindName _ rfl
  refine agreement.holds_bind (within.kind kindName) fun kind other alike => ?_
  refine agreement.holds_bind (agreement.keyword_eq path pathToo within.variant.annotations_eq) ?_
  rintro annotations _ rfl
  refine agreement.holds_bind (within.alternatives (by decide)) fun _ _ allOf => ?_
  refine agreement.holds_bind (within.alternatives (by decide)) fun _ _ anyOf => ?_
  refine agreement.holds_bind (within.alternatives (by decide)) fun _ _ oneOf => ?_
  refine agreement.holds_bind (agreement.keyword_eq path pathToo (within.variant.requiredMark_eq kindName)) ?_
  rintro required _ rfl
  exact agreement.holds_pure (.intro name annotations required alike allOf anyOf oneOf)

end Agreement.Within

/-- Both come to values that are related, or both to errors of one class. -/
inductive EndsAlike {α β : Type} (related : α → β → Prop) :
    Except SchemaError α → Except SchemaError β → Prop
  | ok {value : α} {other : β} (held : related value other) : EndsAlike related (.ok value) (.ok other)
  | error {error other : SchemaError} (same : error.fault.faultClass = other.fault.faultClass) :
      EndsAlike related (.error error) (.error other)

theorem EndsAlike.flip {α β : Type} {related : α → β → Prop} {first : Except SchemaError α}
    {other : Except SchemaError β} (ends : EndsAlike related first other) :
    EndsAlike (flip related) other first := by
  cases ends with
  | ok held => exact .ok held
  | error same => exact .error same.symm

namespace Loader

/-- The schema of an object: its own if it has no reference, or else that of what takes its place. -/
def schema (loader : Loader) (expanding : List String) (load : LoadChild)
    (expanded : String → Members → Load Property) (name path : String) (members : Members) :
    Load Property :=
  match members.find? "$ref" with
  | none => loader.property load name path members
  | some reference =>
    match loader.expand expanding path reference members with
    | .error error => throw error
    | .ok (reference, merged) => expanded reference merged

theorem loadWithin_object (loader : Loader) (room : Nat) (expanding : List String) (name path : String)
    (members : Members) :
    loader.loadWithin (room + 1) expanding name path (.object members) =
      loader.schema expanding (loader.loadWithin room expanding)
        (fun reference merged =>
          loader.loadWithin room (reference :: expanding) name path (.object merged))
        name path members := rfl

/-- The definitions of the second loader are variants of those of the first one, and respelling a
reference does not change the name in it. -/
structure Corresponds (respelled : String → String → Prop) (order : KeyOrder)
    (loader another : Loader) : Prop where
  sound : (Document.object loader.definitions).wellFormed
  also : (Document.object another.definitions).wellFormed
  defined : ∀ name, Option.Rel (Document.Variant respelled order) (find? loader.definitions name)
    (find? another.definitions name)
  reflexive : ∀ text, respelled text text
  named : ∀ text other, respelled text other → referencedName? text = referencedName? other

theorem corresponds_refl {loader : Loader} (sound : (Document.object loader.definitions).wellFormed) :
    Corresponds Eq .kept loader loader where
  sound := sound
  also := sound
  defined name := by
    cases find? loader.definitions name with
    | none => exact .none
    | some definition => exact .some (.same definition)
  reflexive _ := rfl
  named _ _ same := congrArg referencedName? same

variable {respelled : String → String → Prop} {order : KeyOrder} {loader another : Loader}
  {members others : Members} {text other : String}

private theorem Corresponds.resolve? (corresponds : Corresponds respelled order loader another)
    (alike : respelled text other) :
    Option.Rel (Members.Variant respelled order) (loader.resolve? text) (another.resolve? other) := by
  rw [Loader.resolve?, Loader.resolve?, corresponds.named text other alike]
  cases referencedName? other with
  | none => exact .none
  | some name =>
    have known := corresponds.defined name
    cases found : find? loader.definitions name <;> cases also : find? another.definitions name <;>
      rw [found, also] at known <;> cases known
    · simp [found, also]
    · next variant =>
      have sound := Document.wellFormed_of_find? corresponds.sound found
      simpa [found, also] using variant.members? sound

private theorem Corresponds.expand (corresponds : Corresponds respelled order loader another)
    (path pathToo : String)
    (variant : Members.Variant respelled order members others)
    (sound : (Document.object members).wellFormed) (also : (Document.object others).wellFormed)
    {value result : Document} (held : MemberVariant.Held respelled order "$ref" value result)
    {expanding further : List String}
    (checks : ∀ text other, respelled text other → expanding.contains text = further.contains other) :
    EndsAlike (fun expanded other => respelled expanded.1 other.1 ∧
        Members.Variant respelled order expanded.2 other.2)
      (loader.expand expanding path value members) (another.expand further pathToo result others) := by
  have reads := held.string? corresponds.reflexive
  rw [Loader.expand, Loader.expand]
  generalize value.string? = text, result.string? = other at reads
  cases reads with
  | none => exact .error rfl
  | @some text other alike =>
    have resolves := corresponds.resolve? alike
    dsimp only
    generalize loader.resolve? text = target, another.resolve? other = further at resolves
    cases resolves with
    | none => exact .error rfl
    | some onto =>
      dsimp only
      rw [checks text other alike]
      split_ifs
      · exact .error rfl
      · refine .ok ⟨alike, onto.insertAll (variant.without _) ?_ ?_⟩
        · exact (Document.wellFormed_object.mp (Document.wellFormed_without sound _)).1
        · exact (Document.wellFormed_object.mp (Document.wellFormed_without also _)).1

end Loader

theorem Agreement.loadWithin_of_noObject (agreement : Agreement)
    {related : Property → Property → Prop} {loader another : Loader} {document : Document}
    (noObject : document.members? = none) (room : Nat) (expanding further : List String)
    (name path pathToo : String) :
    agreement.Holds related (loader.loadWithin room expanding name path document)
      (another.loadWithin room further name pathToo document) := by
  cases room with
  | zero => exact agreement.holds_throw rfl
  | succ room =>
    rw [Loader.loadWithin, Loader.loadWithin, noObject]
    exact agreement.holds_throw rfl

/-- Loads that agree on objects and on whatever is no object agree on all documents. -/
theorem Agreement.of_objects {agreement : Agreement} {order : KeyOrder}
    {respelled : String → String → Prop} {related : Property → Property → Prop}
    {load further : LoadChild} {name path pathToo : String}
    (objects : ∀ members others, Members.Variant respelled order members others →
      (Document.object members).wellFormed → (Document.object others).wellFormed →
        agreement.Holds related (load name path (.object members)) (further name pathToo (.object others)))
    (rest : ∀ document : Document, document.members? = none →
      agreement.Holds related (load name path document) (further name pathToo document))
    {document other : Document} (variant : Document.Variant respelled order document other)
    (sound : document.wellFormed) (also : other.wellFormed) :
    agreement.Holds related (load name path document) (further name pathToo other) := by
  cases variant with
  | same =>
    cases document with
    | object members => exact objects members members (.refl members) sound sound
    | _ => exact rest _ rfl
  | @object members others each =>
    exact objects members others (.of_matches (Document.wellFormed_object.mp sound).1 each) sound also

/-- Loads that agree on the schemas within an object, and on what takes its place if it has a reference,
agree on the object. -/
theorem Agreement.Within.schema {agreement : Agreement} {order : KeyOrder}
    {respelled : String → String → Prop} {related : Property → Property → Prop}
    {load further : LoadChild} {members others : Members}
    (within : agreement.Within respelled order related load further members others)
    {loader another : Loader} (corresponds : loader.Corresponds respelled order another)
    (whole : ∀ property other, Property.Alike order related property other → related property other)
    {path pathToo : String}
    (charged : agreement.Holds Eq (loader.charge path : Load Unit) (another.charge pathToo))
    {expanding expandingToo : List String}
    (checks : ∀ text other, respelled text other →
      expanding.contains text = expandingToo.contains other)
    {name : String} {expanded expandedToo : String → Members → Load Property}
    (goesOn : ∀ text other merged mergedToo, respelled text other →
      Members.Variant respelled order merged mergedToo → (Document.object merged).wellFormed →
        (Document.object mergedToo).wellFormed →
          agreement.Holds related (expanded text merged) (expandedToo other mergedToo)) :
    agreement.Holds related (loader.schema expanding load expanded name path members)
      (another.schema expandingToo further expandedToo name pathToo others) := by
  have known := within.variant "$ref"
  rw [Loader.schema, Loader.schema]
  generalize find? members "$ref" = value, find? others "$ref" = other at known
  cases known with
  | none =>
    exact agreement.imp (within.property charged name) whole
  | @some value other held =>
    have ends := corresponds.expand path pathToo within.variant within.sound within.also held checks
    dsimp only
    cases ended : loader.expand expanding path value members <;>
      cases endedToo : another.expand expandingToo pathToo other others <;>
      rw [ended, endedToo] at ends <;> cases ends
    · next same => exact agreement.holds_throw same
    · next both =>
      have sound := Loader.expand_wellFormed corresponds.sound within.sound ended
      have also := Loader.expand_wellFormed corresponds.also within.also endedToo
      exact goesOn _ _ _ _ both.1 both.2 sound also

end Intake
