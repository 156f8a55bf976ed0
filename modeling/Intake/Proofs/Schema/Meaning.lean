import Intake.Proofs.Schema.Loading
import Intake.Proofs.Schema.Relation

/-! # What a schema means

A load is handed a path, the references that are being expanded, a number of levels to go and what is
left of a budget. All of these decide whether it succeeds, and none of them what it then comes to: the
meaning of the document, which follows from the definitions alone. Meanings are found by the steps of
a loader, in runs that tell no faults apart and are never short of a budget.
-/

namespace Intake

open Load

/-- What a run comes to when its faults are not told apart. -/
def Meaning (α : Type) := Option α

namespace Meaning

instance : Monad Meaning := inferInstanceAs (Monad Option)

instance : LawfulMonad Meaning := inferInstanceAs (LawfulMonad Option)

/-- A fault is forgotten, so there is nothing to handle. -/
instance : MonadExceptOf SchemaError Meaning where
  throw _ := (none : Option _)
  tryCatch value _ := value

/-- There is always one more schema to be taken from the budget. -/
instance : MonadStateOf Nat Meaning where
  get := some 1
  set _ := some ()
  modifyGet change := some (change 1).1

variable {α β : Type}

/-- The run comes to the value. -/
def Finds (meaning : Meaning α) (value : α) : Prop := meaning = some value

private theorem Finds.unique {meaning : Meaning α} {value other : α} (finds : meaning.Finds value)
    (again : meaning.Finds other) : value = other :=
  Option.some.inj (finds.symm.trans again)

theorem finds_pure {value result : α} : Finds (pure value) result ↔ value = result :=
  Option.some_inj

private theorem not_finds_fail {path : String} {fault : SchemaFault} {value : α} :
    ¬Finds (fail path fault) value := nofun

theorem finds_bind {first : Meaning α} {next : α → Meaning β} {result : β} :
    Finds (first >>= next) result ↔ ∃ value, first.Finds value ∧ (next value).Finds result :=
  Option.bind_eq_some_iff

theorem finds_map {meaning : Meaning α} {change : α → β} {result : β} :
    Finds (change <$> meaning) result ↔ ∃ value, meaning.Finds value ∧ change value = result :=
  Option.map_eq_some_iff

theorem finds_keyword {path : String} {value : Except SchemaFault α} {result : α} :
    Finds (keyword path value) result ↔ value = .ok result := by
  cases value with
  | ok found => rw [keyword, finds_pure, Except.ok.injEq]
  | error fault => simp [keyword, not_finds_fail]

theorem finds_mapM {step : α → Meaning β} {items : List α} {results : List β} :
    Finds (items.mapM step) results ↔
      List.Forall₂ (fun item result => (step item).Finds result) items results := by
  induction items generalizing results with
  | nil => rw [List.mapM_nil, finds_pure, List.forall₂_nil_left_iff, eq_comm]
  | cons item items ih =>
    simp only [List.mapM_cons, finds_bind, finds_pure, ih]
    constructor
    · rintro ⟨head, first, tail, others, rfl⟩
      exact .cons first others
    · rintro (_ | ⟨first, others⟩)
      exact ⟨_, first, _, others, rfl⟩

end Meaning

/-- The meaning of a document as a schema with a name, as far as it is found within so many levels. -/
def meaningWithin (definitions : Members) : Nat → String → Document → Meaning Property
  | 0, _, _ => none
  | room + 1, name, document =>
    match document.members? with
    | none => none
    | some members =>
      let loader : Loader := ⟨definitions, 0, 0⟩
      match members.find? "$ref" with
      | none =>
        loader.property (fun name _ document => meaningWithin definitions room name document) name "#"
          members
      | some reference =>
        match loader.expand [] "#" reference members with
        | .error _ => none
        | .ok (_, merged) => meaningWithin definitions room name (.object merged)

/-- Under the definitions the document means the schema, which has the given name. -/
def Means (definitions : Members) (name : String) (document : Document) (property : Property) : Prop :=
  ∃ room, (meaningWithin definitions room name document).Finds property

/-- The same schema under another name. -/
def Property.renamed (property : Property) (name : String) : Property := { property with name }

variable {definitions members : Members} {name other path : String} {document : Document}
  {property : Property} {room : Nat} {loader : Loader}

/-- What the one run finds the other one finds too. -/
def keeps : LoadRelation Meaning Meaning where
  Holds meaning further := ∀ value, meaning.Finds value → further.Finds value
  holds_pure _ _ finds := finds
  holds_bind start rest result finds := by
    obtain ⟨value, first, last⟩ := Meaning.finds_bind.mp finds
    exact Meaning.finds_bind.mpr ⟨value, start value first, rest value result last⟩
  holds_fail _ _ _ _ _ _ finds := nomatch finds

private theorem meaningWithin_succ (room : Nat) (name : String) (document : Document) :
    keeps.Holds (meaningWithin definitions room name document)
      (meaningWithin definitions (room + 1) name document) := by
  induction room generalizing name document with
  | zero => exact nofun
  | succ room ih =>
    rw [meaningWithin, meaningWithin]
    cases document.members? with
    | none => exact nofun
    | some members =>
      dsimp only
      cases members.find? "$ref" with
      | none =>
        have within : keeps.HoldsWithin
            (fun name _ document => meaningWithin definitions room name document)
            (fun name _ document => meaningWithin definitions (room + 1) name document) members :=
          fun name _ document _ => ih name document
        exact within.property fun _ charged => charged
      | some reference =>
        dsimp only
        cases (Loader.mk definitions 0 0).expand [] "#" reference members with
        | error => exact nofun
        | ok expanded => exact ih name (.object expanded.2)

private theorem meaningWithin_mono {further : Nat} (enough : room ≤ further)
    (finds : (meaningWithin definitions room name document).Finds property) :
    (meaningWithin definitions further name document).Finds property := by
  induction enough with
  | refl => exact finds
  | step _ ih => exact meaningWithin_succ _ _ _ property ih

theorem Loader.property_renamed {m : Type → Type} [Monad m] [LawfulMonad m] [MonadExceptOf SchemaError m]
    [MonadStateOf Nat m] (load : LoadChildBy m) (name other path : String) (members : Members) :
    loader.property load name path members =
      (·.renamed name) <$> loader.property load other path members := by
  simp only [Loader.property, map_bind, map_pure]
  rfl

/-- The name is what a schema is called and has no part in what it is. -/
theorem meaningWithin_renamed (room : Nat) (name other : String) (document : Document) :
    meaningWithin definitions room name document =
      (·.renamed name) <$> meaningWithin definitions room other document := by
  induction room generalizing document with
  | zero => rfl
  | succ room ih =>
    rw [meaningWithin, meaningWithin]
    cases document.members? with
    | none => rfl
    | some members =>
      dsimp only
      cases members.find? "$ref" with
      | none => exact Loader.property_renamed _ name other "#" members
      | some reference =>
        dsimp only
        cases (Loader.mk definitions 0 0).expand [] "#" reference members with
        | error => rfl
        | ok expanded => exact ih (.object expanded.2)

/-- A document has one meaning, whatever it is called. -/
theorem Means.unique {meaning : Property} (means : Means definitions name document property)
    (again : Means definitions other document meaning) : meaning = property.renamed other := by
  obtain ⟨room, finds⟩ := means
  obtain ⟨further, found⟩ := again
  have first := meaningWithin_mono (Nat.le_max_left room further) finds
  have second := meaningWithin_mono (Nat.le_max_right room further) found
  rw [meaningWithin_renamed _ other name] at second
  obtain ⟨same, known, renamed⟩ := Meaning.finds_map.mp second
  rw [known.unique first] at renamed
  exact renamed.symm

theorem Means.name_eq (means : Means definitions name document property) : property.name = name :=
  congrArg Property.name (means.unique means)

/-- A reference that means anything means what its definition does with the members beside the reference
written into it. -/
theorem Means.of_reference (means : Means definitions name (.object members) property)
    {reference : String} (refers : members.find? "$ref" = some (.string reference)) :
    ∃ (definition : String) (target : Members), Loader.referencedName? reference = some definition ∧
      definitions.find? definition = some (.object target) ∧
      Means definitions name (.object (target.insertAll (members.without ["$ref"]))) property := by
  obtain ⟨_ | room, finds⟩ := means
  · cases finds
  · rw [meaningWithin] at finds
    simp only [Document.members?, refers] at finds
    split at finds
    · cases finds
    · next text merged expands =>
      obtain ⟨same, definition, target, named, defined, rfl⟩ := Loader.expand_eq_ok expands
      cases same
      exact ⟨definition, target, named, defined, room, finds⟩

/-- An object without a reference means what its members tell, where every schema that it is made of has
its own meaning. -/
theorem Means.of_plain (means : Means definitions name (.object members) property)
    (plain : members.find? "$ref" = none) :
    ∃ load : LoadChildBy Meaning,
      ((Loader.mk definitions 0 0).property load name "#" members).Finds property ∧
      ∀ name path document property, (load name path document).Finds property →
        Means definitions name document property := by
  obtain ⟨_ | room, finds⟩ := means
  · cases finds
  · rw [meaningWithin] at finds
    simp only [Document.members?, plain] at finds
    exact ⟨_, finds, fun _ _ _ _ found => ⟨room, found⟩⟩

/-- What the load yields, from whatever budget, is what the run finds. -/
def comesTo : LoadRelation Load Meaning where
  Holds load meaning := ∀ budget value left, Yields load budget value left → meaning.Finds value
  holds_pure _ _ _ _ run := Meaning.finds_pure.mpr (yields_pure.mp run).1
  holds_bind start rest budget result left run := by
    obtain ⟨value, between, first, last⟩ := yields_bind.mp run
    exact Meaning.finds_bind.mpr ⟨value, start _ _ _ first, rest value _ _ _ last⟩
  holds_fail _ _ _ _ _ _ _ _ run := nomatch run

/-- Whether a reference is already being expanded does not change what it stands for. -/
theorem Loader.expand_start {expanding : List String} {reference : Document}
    {expanded : String × Members} (place : String)
    (expands : loader.expand expanding path reference members = .ok expanded) :
    (Loader.mk loader.definitions 0 0).expand [] place reference members = .ok expanded := by
  obtain ⟨text, merged⟩ := expanded
  obtain ⟨rfl, name, target, named, found, rfl⟩ := expand_eq_ok expands
  simp [expand, resolve?, Document.string?, Document.members?, named, found]

/-- A load that succeeds comes to the meaning of its document. -/
theorem loadWithin_comesTo (room : Nat) (expanding : List String) (name path : String)
    (document : Document) :
    comesTo.Holds (loader.loadWithin room expanding name path document)
      (meaningWithin loader.definitions room name document) := by
  induction room generalizing expanding name path document with
  | zero => exact fun _ _ _ run => absurd run not_yields_fail
  | succ room ih =>
    rw [Loader.loadWithin, meaningWithin]
    cases document.members? with
    | none => exact fun _ _ _ run => absurd run not_yields_fail
    | some members =>
      dsimp only
      cases members.find? "$ref" with
      | none =>
        have within : comesTo.HoldsWithin (loader.loadWithin room expanding)
            (fun name _ document => meaningWithin loader.definitions room name document) members :=
          fun name path document _ => ih expanding name path document
        have charged : comesTo.Holds (loader.charge path)
            ((Loader.mk loader.definitions 0 0).charge path) := fun _ _ _ _ => rfl
        exact within.property charged
      | some reference =>
        dsimp only
        cases expands : loader.expand expanding path reference members with
        | error error => exact fun _ _ _ run => absurd run not_yields_throw
        | ok expanded =>
          rw [Loader.expand_start "#" expands]
          exact ih (expanded.1 :: expanding) name path (.object expanded.2)

/-- What a document is loaded as is its meaning, however deep it stands, whatever is being expanded and
however much is left of the budget. -/
theorem Means.of_yields {expanding : List String} {budget left : Nat}
    (run : Yields (loader.loadWithin room expanding name path document) budget property left) :
    Means loader.definitions name document property :=
  ⟨room, loadWithin_comesTo room expanding name path document budget property left run⟩

end Intake
