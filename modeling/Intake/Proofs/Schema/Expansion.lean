import Intake.Proofs.Document.Nesting
import Intake.Proofs.Schema.Loading
import Intake.Proofs.Schema.Relation

/-! # References expand to a limited depth

A reference that is being expanded is not expanded again, and only so many texts refer to a
definition at all: each name can be written behind two heads. Between two references a load goes
down in one document, and what is written beside a reference makes the definition wider, but the
two together nest no deeper than the deeper one of them. So there is a depth that no load from a
document gets to, however the references of the definitions lead around, and beyond it the bound on
depth does not matter.
-/

namespace Intake

open Load

/-- The schemas that an object is made of nest less deep than the object. -/
theorem Members.HasSchema.nesting_lt {members : Members} {document : Document}
    (held : members.HasSchema document) : document.nesting < (Document.object members).nesting := by
  obtain ⟨⟨key, value⟩, present, within⟩ := held
  have outer : value.nesting < (Document.object members).nesting :=
    Nat.lt_succ_of_le (Document.nestingOfMembers_le_iff.mp le_rfl _ present)
  rcases Keyword.cases_of_mem_schemas within with rfl | item | entry
  · exact outer
  · exact (Document.nesting_le_of_mem_items? item).trans_lt outer
  · exact (Document.nesting_le_of_mem_members? entry).trans_lt outer

/-- All texts that refer to a definition. -/
def Members.references (definitions : Members) : List String :=
  Loader.referenceHeads.flatMap fun head => (keys definitions).map (head ++ ·)

namespace Loader

variable {definitions members : Members} {expanding : List String} {text name path : String}

private theorem mem_references (named : referencedName? text = some name)
    {definition : Document} (found : definitions.find? name = some definition) :
    text ∈ definitions.references := by
  obtain ⟨head, listed, read⟩ := List.exists_of_findSome?_eq_some named
  obtain ⟨rest, behind, rfl⟩ := Option.map_eq_some_iff.mp read
  rw [List.isPrefixOf?_eq_some_iff_append_eq] at behind
  have key : String.ofList rest ∈ Members.keys definitions :=
    List.mem_map_of_mem (Members.mem_of_find?_eq_some found)
  refine List.mem_flatMap.mpr ⟨head, listed, List.mem_map.mpr ⟨_, key, ?_⟩⟩
  apply String.toList_inj.mp
  rw [String.toList_append, String.toList_ofList, behind]

/-- The references that are being expanded are different ones, and each refers to a definition. -/
structure Distinct (definitions : Members) (expanding : List String) : Prop where
  nodup : expanding.Nodup
  subset : expanding ⊆ definitions.references

private theorem Distinct.length_le (distinct : Distinct definitions expanding) :
    expanding.length ≤ definitions.references.length :=
  (List.subperm_of_subset distinct.nodup distinct.subset).length_le

private theorem notMem_of_expand {loader : Loader} {reference : Document} {merged : Members}
    (expanded : loader.expand expanding path reference members = .ok (text, merged)) :
    text ∉ expanding := by
  rw [expand] at expanded
  split at expanded
  · cases expanded
  · split at expanded
    · cases expanded
    · split_ifs at expanded with repeated
      cases expanded
      simpa using repeated

/-- A reference that is expanded is one more of those that are being expanded. -/
theorem Distinct.expand {loader : Loader} (distinct : Distinct loader.definitions expanding)
    {reference : Document} {merged : Members}
    (expanded : loader.expand expanding path reference members = .ok (text, merged)) :
    Distinct loader.definitions (text :: expanding) := by
  obtain ⟨-, name, target, named, found, -⟩ := expand_eq_ok expanded
  constructor
  · exact List.nodup_cons.mpr ⟨notMem_of_expand expanded, distinct.nodup⟩
  · exact List.cons_subset.mpr ⟨mem_references named found, distinct.subset⟩

/-- From every budget the two loads come to the same end, which is not for want of depth. -/
def endsAlike : LoadRelation Load Load where
  Holds load other := ∀ budget, (ExceptT.run load).run budget = (ExceptT.run other).run budget ∧
    ∀ error left, (ExceptT.run load).run budget = (.error error, left) →
      error.fault.faultClass ≠ .depthExceeded
  holds_pure value budget := ⟨rfl, nofun⟩
  holds_bind {_ _ first other next further} start rest budget := by
    obtain ⟨same, deep⟩ := start budget
    rw [run_bind, run_bind, ← same]
    rcases ended : (ExceptT.run first).run budget with ⟨error | value, between⟩
    · refine ⟨rfl, ?_⟩
      rintro _ _ ⟨⟩
      exact deep error between ended
    · exact rest value between
  holds_fail path fault own next further budget := by
    refine ⟨rfl, ?_⟩
    rintro _ _ ⟨⟩ exceeded
    simp [SchemaFault.isLocal, exceeded] at own

private theorem endsAlike_throw {α : Type} {error : SchemaError}
    (other : error.fault.faultClass ≠ .depthExceeded) :
    endsAlike.Holds (throw error : Load α) (throw error) := by
  intro budget
  refine ⟨rfl, ?_⟩
  rintro _ _ ⟨⟩
  exact other

private theorem charge_endsAlike (depth otherDepth nodes : Nat) (path : String) :
    endsAlike.Holds ((Loader.mk definitions depth nodes).charge path)
      ((Loader.mk definitions otherDepth nodes).charge path) := by
  intro budget
  refine ⟨rfl, ?_⟩
  rintro error left run
  cases budget with
  | zero =>
    cases run
    nofun
  | succ rest => cases run

/-- A reference may not be expanded for what it is, but never for want of depth. -/
theorem faultClass_of_expand {loader : Loader} {reference : Document} {error : SchemaError}
    (refused : loader.expand expanding path reference members = .error error) :
    error.fault.faultClass ≠ .depthExceeded := by
  rw [expand] at refused
  split at refused
  · cases refused
    rintro ⟨⟩
  · split at refused
    · cases refused
      rintro ⟨⟩
    · split_ifs at refused
      cases refused
      rintro ⟨⟩

/-- The levels that are enough for a document: as many as it nests, and for each reference that can
still be expanded as many as anything nests, and one for the reference itself. -/
def enoughLevels (definitions : Members) (bound : Nat) (expanding : List String)
    (document : Document) : Nat :=
  (definitions.references.length - expanding.length) * (bound + 1) + document.nesting

private theorem enoughLevels_of_nesting_lt {bound : Nat} {document part : Document}
    (deeper : part.nesting < document.nesting) :
    enoughLevels definitions bound expanding part <
      enoughLevels definitions bound expanding document :=
  Nat.add_lt_add_left deeper _

/-- A reference that is expanded makes up for whatever its definition nests. -/
theorem enoughLevels_of_expanding {bound : Nat} {document merged : Document}
    (more : Distinct definitions (text :: expanding)) (within : merged.nesting ≤ bound) :
    enoughLevels definitions bound (text :: expanding) merged <
      enoughLevels definitions bound expanding document := by
  obtain ⟨spare, count⟩ := Nat.exists_eq_add_of_le more.length_le
  rw [List.length_cons] at count
  have before : definitions.references.length - expanding.length = spare + 1 := by omega
  have after : definitions.references.length - (text :: expanding).length = spare := by
    rw [List.length_cons]
    omega
  rw [enoughLevels, enoughLevels, before, after, Nat.succ_mul]
  omega

/-- Loaders that differ in their bounds on depth come to the same end if both have enough levels to
go. Each step down in a document takes one level, and so does each reference, but that one is no
longer among those that can be expanded. -/
theorem loadWithin_endsAlike {bound depth otherDepth nodes room otherRoom : Nat}
    (defined : ∀ name definition, definitions.find? name = some definition →
      definition.nesting ≤ bound)
    (distinct : Distinct definitions expanding) {document : Document} (within : document.nesting ≤ bound)
    (enough : enoughLevels definitions bound expanding document < room)
    (enoughOther : enoughLevels definitions bound expanding document < otherRoom)
    (name path : String) :
    endsAlike.Holds
      ((Loader.mk definitions depth nodes).loadWithin room expanding name path document)
      ((Loader.mk definitions otherDepth nodes).loadWithin otherRoom expanding name path document) := by
  induction room generalizing otherRoom expanding document name path with
  | zero => exact absurd enough (Nat.not_lt_zero _)
  | succ room ih =>
    obtain ⟨otherRoom, rfl⟩ := Nat.exists_eq_succ_of_ne_zero (Nat.ne_zero_of_lt enoughOther)
    rw [loadWithin, loadWithin]
    cases isObject : document.members? with
    | none => exact endsAlike_throw (by rintro ⟨⟩)
    | some members =>
      have same := Document.members?_eq_some_iff.mp isObject
      subst same
      dsimp only
      cases members.find? "$ref" with
      | none =>
        have parts : endsAlike.HoldsWithin
            ((Loader.mk definitions depth nodes).loadWithin room expanding)
            ((Loader.mk definitions otherDepth nodes).loadWithin otherRoom expanding) members := by
          intro name path part held
          have needs : enoughLevels definitions bound expanding part <
              enoughLevels definitions bound expanding (.object members) :=
            enoughLevels_of_nesting_lt held.nesting_lt
          exact ih distinct (held.nesting_lt.le.trans within) (by omega) (by omega) name path
        exact parts.property (charge_endsAlike depth otherDepth nodes path)
      | some reference =>
        -- What a reference stands for does not depend on the bound on depth.
        have expands : (Loader.mk definitions otherDepth nodes).expand expanding path reference
            members = (Loader.mk definitions depth nodes).expand expanding path reference members :=
          rfl
        dsimp only
        rw [expands]
        cases expanded : (Loader.mk definitions depth nodes).expand expanding path reference members with
        | error error => exact endsAlike_throw (faultClass_of_expand expanded)
        | ok result =>
          obtain ⟨text, merged⟩ := result
          obtain ⟨-, _, target, -, found, rfl⟩ := expand_eq_ok expanded
          have more : Distinct definitions (text :: expanding) := distinct.expand expanded
          have merges : (Document.object (target.insertAll (members.without ["$ref"]))).nesting ≤ bound :=
            Document.nesting_insertAll_le (defined _ _ found)
              ((Document.nesting_without_le members _).trans within)
          have needs : enoughLevels definitions bound (text :: expanding)
              (.object (target.insertAll (members.without ["$ref"]))) <
                enoughLevels definitions bound expanding (.object members) :=
            enoughLevels_of_expanding more merges
          exact ih more merges (by omega) (by omega) name path

/-- For every document there is a depth from which on the bound on depth is not met and makes no
difference: whatever the definitions refer to and whatever is written beside a reference, loads come
to one and the same end. -/
theorem exists_enough_depth (definitions : Members) (document : Document) :
    ∃ height, ∀ (nodes budget : Nat) (name path : String),
      ∃ (result : Except SchemaError Property) (left : Nat),
        (∀ error, result = .error error → error.fault.faultClass ≠ .depthExceeded) ∧
          ∀ depth, height ≤ depth →
            (ExceptT.run ((Loader.mk definitions depth nodes).load name path document)).run budget =
              (result, left) := by
  let bound := max (Document.object definitions).nesting document.nesting
  let height := enoughLevels definitions bound [] document
  have defined : ∀ name definition, definitions.find? name = some definition →
      definition.nesting ≤ bound := by
    intro name definition found
    have inside := Document.nestingOfMembers_le_iff.mp le_rfl _ (Members.mem_of_find?_eq_some found)
    have whole : definition.nesting ≤ (Document.object definitions).nesting := Nat.le_succ_of_le inside
    exact whole.trans (le_max_left _ _)
  have none : Distinct definitions [] := ⟨List.nodup_nil, List.nil_subset _⟩
  refine ⟨height, ?_⟩
  intro nodes budget name path
  have alike (depth : Nat) (enough : height ≤ depth) :
      endsAlike.Holds ((Loader.mk definitions height nodes).load name path document)
        ((Loader.mk definitions depth nodes).load name path document) :=
    loadWithin_endsAlike defined none (le_max_right _ _) (Nat.lt_succ_self height)
      (Nat.lt_succ_of_le enough) name path
  let ended := (ExceptT.run ((Loader.mk definitions height nodes).load name path document)).run budget
  refine ⟨ended.1, ended.2, ?_, ?_⟩
  · intro error failed
    exact (alike height le_rfl budget).2 error ended.2 (Prod.ext failed rfl)
  · intro depth enough
    exact (alike depth enough budget).1.symm

/-- A tree whose branches are trees is expanded once for each spelling of the reference, and then
refused as cyclic from some depth on; with less depth it is too deep. -/
theorem exists_enough_depth_tree :
    let branch : Document := .object [("$ref", .string "#/$defs/tree"), ("title", .string "Branch")]
    let definitions : Members := [("tree", .object [("properties", .object [("branch", branch)])])]
    let tree : Document := .object [("$ref", .string "#/definitions/tree")]
    (Loader.mk definitions 3 9).run ((Loader.mk definitions 3 9).load "root" "#" tree) =
        (.error ⟨"#/properties/branch/properties/branch", .depthExceeded 3⟩, 7) ∧
      ∃ height, ∀ depth, height ≤ depth →
        (Loader.mk definitions depth 9).run ((Loader.mk definitions depth 9).load "root" "#" tree) =
          (.error ⟨"#/properties/branch/properties/branch", .cyclicReference "#/$defs/tree"⟩, 7) := by
  intro branch definitions tree
  obtain ⟨height, ends⟩ := exists_enough_depth definitions tree
  obtain ⟨result, left, -, same⟩ := ends 9 9 "root" "#"
  have cyclic : (Loader.mk definitions (height + 4) 9).run
      ((Loader.mk definitions (height + 4) 9).load "root" "#" tree) =
        (.error ⟨"#/properties/branch/properties/branch", .cyclicReference "#/$defs/tree"⟩, 7) := rfl
  refine ⟨rfl, height, ?_⟩
  intro depth enough
  exact (same depth enough).trans ((same _ (Nat.le_add_right height 4)).symm.trans cyclic)

end Loader

end Intake
