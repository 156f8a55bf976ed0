import Intake.Proofs.Schema.Locality

/-! # Loaders in step

Loaders may differ in the bounds they set, in the references they are expanding or in the state they
keep. On one object they still take the same steps, up to the schemas within it. So whatever relates
their runs on these schemas, and passes from the steps of a run to the run, relates their runs on the
object. A property of a single loader is a relation that ignores the other one.
-/

namespace Intake

open Load

/-- The schemas in the value of a keyword. -/
def Keyword.schemas (key : String) (value : Document) : List Document :=
  match key with
  | "items" | "contains" | "additionalProperties" => [value]
  | "properties" => (value.members?.getD []).map (·.2)
  | "allOf" | "anyOf" | "oneOf" => value.items?.getD []
  | _ => []

/-- The document is one of the schemas that an object is made of. -/
def Members.HasSchema (members : Members) (document : Document) : Prop :=
  ∃ member ∈ members, document ∈ Keyword.schemas member.1 member.2

private theorem Members.HasSchema.of_find? {members : Members} {key : String}
    {value document : Document}
    (found : members.find? key = some value) (held : document ∈ Keyword.schemas key value) :
    members.HasSchema document :=
  ⟨_, Members.mem_of_find?_eq_some found, held⟩

/-- The schemas in a value are the value itself, its items or the values of its members. -/
theorem Keyword.cases_of_mem_schemas {key : String} {value document : Document}
    (member : document ∈ Keyword.schemas key value) :
    document = value ∨ document ∈ value.items?.getD [] ∨
      document ∈ (value.members?.getD []).map (·.2) := by
  unfold Keyword.schemas at member
  split at member
  case h_4 => exact .inr (.inr member)
  case h_5 | h_6 | h_7 => exact .inr (.inl member)
  case h_8 => cases member
  all_goals exact .inl (List.mem_singleton.mp member)

theorem Members.HasSchema.wellFormed {members : Members} {document : Document}
    (held : members.HasSchema document) (sound : (Document.object members).wellFormed) :
    document.wellFormed := by
  obtain ⟨member, present, within⟩ := held
  have sound := (Document.wellFormed_object.mp sound).2 member present
  rcases Keyword.cases_of_mem_schemas within with rfl | item | entry
  · exact sound
  · exact Document.wellFormed_of_mem_items? sound item
  · exact Document.wellFormed_of_mem_members? sound entry

/-- A relation between runs of two kinds that holds of like steps and passes from steps to runs. -/
structure LoadRelation (m n : Type → Type) [Monad m] [MonadExceptOf SchemaError m] [Monad n]
    [MonadExceptOf SchemaError n] where
  Holds : {α : Type} → m α → n α → Prop
  holds_pure : ∀ {α : Type} (value : α), Holds (pure value) (pure value)
  holds_bind : ∀ {α β : Type} {first : m α} {other : n α} {next : α → m β} {further : α → n β},
    Holds first other → (∀ value, Holds (next value) (further value)) →
      Holds (first >>= next) (other >>= further)
  /-- A fault that is found in an object ends both runs. -/
  holds_fail : ∀ {α β : Type} (path : String) {fault : SchemaFault}, fault.isLocal →
    ∀ (next : α → m β) (further : α → n β),
      Holds (fail path fault >>= next) (fail path fault >>= further)

namespace LoadRelation

variable {m n : Type → Type} [Monad m] [LawfulMonad m] [MonadExceptOf SchemaError m] [Monad n]
  [LawfulMonad n] [MonadExceptOf SchemaError n] (relation : LoadRelation m n) {α β : Type}
  {path : String}

private theorem fail_local (path : String) {fault : SchemaFault} (own : fault.isLocal) :
    relation.Holds (fail path fault : m α) (fail path fault) := by
  simpa only [bind_pure] using relation.holds_fail path own pure pure

private theorem map {run : m α} {other : n α} (related : relation.Holds run other) (change : α → β) :
    relation.Holds (change <$> run) (change <$> other) := by
  rw [map_eq_pure_bind, map_eq_pure_bind]
  exact relation.holds_bind related fun value => relation.holds_pure (change value)

/-- Both runs go on with the value that is read, or end with its fault. -/
theorem keyword_bind {value : Except SchemaFault α} (reads : FailsLocally value)
    {next : α → m β} {further : α → n β}
    (rest : ∀ result, value = .ok result → relation.Holds (next result) (further result)) :
    relation.Holds (keyword path value >>= next) (keyword path value >>= further) := by
  cases value with
  | ok result => simpa only [keyword, pure_bind] using rest result rfl
  | error fault => exact relation.holds_fail path (reads fault rfl) next further

theorem mapM {step : α → m β} {other : α → n β} {items : List α}
    (steps : ∀ item ∈ items, relation.Holds (step item) (other item)) :
    relation.Holds (items.mapM step) (items.mapM other) := by
  induction items with
  | nil => simpa only [List.mapM_nil] using relation.holds_pure []
  | cons item items ih =>
    rw [List.mapM_cons, List.mapM_cons]
    have tail := ih fun later member => steps later (List.mem_cons_of_mem _ member)
    exact relation.holds_bind (steps item (List.mem_cons_self ..)) fun _ =>
      relation.holds_bind tail fun _ => relation.holds_pure _

/-- The loads are related on the schemas that an object is made of. -/
def HoldsWithin (load : LoadChildBy m) (other : LoadChildBy n) (members : Members) : Prop :=
  ∀ name path document, members.HasSchema document →
    relation.Holds (load name path document) (other name path document)

variable {relation} {load : LoadChildBy m} {other : LoadChildBy n} {members : Members}

open Loader

private theorem HoldsWithin.child? (within : relation.HoldsWithin load other members) {key : String}
    (isSchema : ∀ value, Keyword.schemas key value = [value]) :
    relation.Holds (Loader.child? load members path key) (Loader.child? other members path key) := by
  rw [Loader.child?, Loader.child?]
  split
  · exact relation.holds_pure _
  · next document found =>
    have held : document ∈ Keyword.schemas key document := by simp [isSchema]
    exact relation.map (within _ _ _ (.of_find? found held)) some

private theorem HoldsWithin.alternatives (within : relation.HoldsWithin load other members)
    {key : String} (areSchemas : ∀ value, Keyword.schemas key value = value.items?.getD []) :
    relation.Holds (Loader.alternatives load members path key)
      (Loader.alternatives other members path key) := by
  refine relation.keyword_bind Keyword.list_failsLocally fun documents read => ?_
  refine relation.mapM fun entry listed => within _ _ _ ?_
  have member : entry.1 ∈ documents.getD [] := List.fst_mem_of_mem_zipIdx listed
  cases documents with
  | none => cases member
  | some documents =>
    refine .of_find? (Keyword.list_eq_ok_iff.mp read) ?_
    rw [areSchemas]
    exact member

private theorem HoldsWithin.properties (within : relation.HoldsWithin load other members) :
    relation.Holds (Loader.properties load members path) (Loader.properties other members path) := by
  refine relation.keyword_bind (Keyword.optional_failsLocally _ _) fun declared read => ?_
  refine relation.mapM fun entry listed => within _ _ _ ?_
  cases declared with
  | none => cases listed
  | some entries =>
    exact .of_find? (Keyword.object_eq_ok_iff.mp read) (List.mem_map_of_mem listed)

private theorem HoldsWithin.additional (within : relation.HoldsWithin load other members) :
    relation.Holds (Loader.additional load members path) (Loader.additional other members path) := by
  rw [Loader.additional, Loader.additional]
  split
  · exact relation.holds_pure _
  · exact relation.holds_pure _
  · next entries found =>
    exact relation.map (within _ _ _ (.of_find? found (List.mem_singleton_self _))) _
  · exact relation.fail_local path rfl

private theorem HoldsWithin.arrayKind (within : relation.HoldsWithin load other members) :
    relation.Holds (Loader.arrayKind load members path) (Loader.arrayKind other members path) := by
  refine relation.holds_bind (within.child? fun _ => rfl) fun _ => ?_
  refine relation.keyword_bind Keyword.count_failsLocally fun _ _ => ?_
  refine relation.keyword_bind Keyword.count_failsLocally fun _ _ => ?_
  refine relation.holds_bind (within.child? fun _ => rfl) fun _ => ?_
  refine relation.keyword_bind Keyword.count_failsLocally fun _ _ => ?_
  refine relation.keyword_bind Keyword.count_failsLocally fun _ _ => ?_
  refine relation.keyword_bind Keyword.flag_failsLocally fun _ _ => ?_
  exact relation.holds_pure _

private theorem HoldsWithin.objectKind (within : relation.HoldsWithin load other members) :
    relation.Holds (Loader.objectKind load members path)
      (Loader.objectKind other members path) := by
  refine relation.holds_bind within.properties fun _ => ?_
  refine relation.keyword_bind requiredNames_failsLocally fun _ _ => ?_
  refine relation.keyword_bind dependencies_failsLocally fun _ _ => ?_
  refine relation.keyword_bind Keyword.count_failsLocally fun _ _ => ?_
  refine relation.keyword_bind Keyword.count_failsLocally fun _ _ => ?_
  exact relation.holds_bind within.additional fun _ => relation.holds_pure _

private theorem HoldsWithin.kind (within : relation.HoldsWithin load other members) (name : KindName) :
    relation.Holds (Loader.kind load members path name) (Loader.kind other members path name) := by
  cases name with
  | string => exact relation.keyword_bind stringLimits_failsLocally fun _ _ => relation.holds_pure _
  | integer => exact relation.keyword_bind numberLimits_failsLocally fun _ _ => relation.holds_pure _
  | number => exact relation.keyword_bind numberLimits_failsLocally fun _ _ => relation.holds_pure _
  | boolean => exact relation.holds_pure _
  | array => exact within.arrayKind
  | object => exact within.objectKind
  | null => exact relation.holds_pure _

/-- Loaders that are related in what they take from the budget for an object, and on the schemas that
it is made of, are related on the object. -/
theorem HoldsWithin.property [MonadStateOf Nat m] [MonadStateOf Nat n] {loader another : Loader}
    {name : String} (within : relation.HoldsWithin load other members)
    (charged : relation.Holds (loader.charge path) (another.charge path)) :
    relation.Holds (loader.property load name path members)
      (another.property other name path members) := by
  refine relation.holds_bind charged fun _ => ?_
  refine relation.keyword_bind kindName_failsLocally fun kind _ => ?_
  refine relation.holds_bind (within.kind kind) fun _ => ?_
  refine relation.keyword_bind annotations_failsLocally fun _ _ => ?_
  refine relation.holds_bind (within.alternatives fun _ => rfl) fun _ => ?_
  refine relation.holds_bind (within.alternatives fun _ => rfl) fun _ => ?_
  refine relation.holds_bind (within.alternatives fun _ => rfl) fun _ => ?_
  exact relation.keyword_bind (requiredMark_failsLocally kind) fun _ _ => relation.holds_pure _

end LoadRelation

end Intake
