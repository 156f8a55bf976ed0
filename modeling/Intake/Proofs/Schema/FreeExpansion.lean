import Intake.Proofs.Schema.Agreement
import Intake.Proofs.Schema.Meaning

/-! # Expanding every reference

A loader that never asks whether a reference is being expanded gets to the same schemas as the loader
that does, as the two part only where the second one refuses a reference as cyclic. What the first one
makes of a document depends on the definitions that the references in it stand for, but not on their
texts, and neither on names nor on paths, except that the schema is called by its name.
-/

namespace Intake

open Load
open Members (find?)

namespace Loader

/-- Loads a schema like `loadWithin`, but expands a reference also where it is being expanded. -/
def loadFreely (loader : Loader) : Nat → LoadChild
  | 0, _, path, _ => fail path (.depthExceeded loader.maxDepth)
  | room + 1, name, path, document =>
    match document.members? with
    | none => fail path .schemaNotAnObject
    | some members =>
      loader.schema [] (loadFreely loader room)
        (fun _ merged => loadFreely loader room name path (.object merged)) name path members

end Loader

namespace Load

/-- From every budget both loads come to related values, or to errors of one class, and leave the same. -/
def likewise : Agreement where
  Holds related load other := ∀ budget,
    EndsAlike related ((ExceptT.run load).run budget).1 ((ExceptT.run other).run budget).1 ∧
      ((ExceptT.run load).run budget).2 = ((ExceptT.run other).run budget).2
  holds_pure held budget := ⟨.ok held, rfl⟩
  holds_bind {_ _ _ _ _ _ first other _ _} start goesOn budget := by
    obtain ⟨ends, same⟩ := start budget
    rw [run_bind, run_bind]
    generalize (ExceptT.run first).run budget = ended, (ExceptT.run other).run budget = further at ends same
    obtain ⟨_, left⟩ := ended
    obtain ⟨_, rest⟩ := further
    dsimp only at ends same
    subst same
    cases ends with
    | ok held => exact goesOn _ _ held left
    | error alike => exact ⟨.error alike, rfl⟩
  holds_throw same budget := ⟨.error same, rfl⟩

end Load

namespace Loader

variable {respelled : String → String → Prop} {loader another : Loader} {document other : Document}
  {members others : Members}

private theorem loadFreely_object (loader : Loader) (room : Nat) (name path : String)
    (members : Members) : loader.loadFreely (room + 1) name path (.object members) =
      loader.schema [] (loader.loadFreely room)
        (fun _ merged => loader.loadFreely room name path (.object merged)) name path members := rfl

private theorem charge_likewise (loader another : Loader) (path pathToo : String) :
    likewise.Holds Eq (loader.charge path : Load Unit) (another.charge pathToo) := by
  intro budget
  cases budget with
  | zero => exact ⟨.error rfl, rfl⟩
  | succ left => exact ⟨.ok rfl, rfl⟩

private theorem loadFreely_of_noObject (noObject : document.members? = none) (room : Nat)
    (name path pathToo : String) :
    likewise.Holds Eq (loader.loadFreely room name path document)
      (another.loadFreely room name pathToo document) := by
  cases room with
  | zero => exact likewise.holds_throw rfl
  | succ room =>
    rw [loadFreely, loadFreely, noObject]
    exact likewise.holds_throw rfl

private theorem loadFreely_object_variant
    (corresponds : loader.Corresponds respelled .kept another) (room : Nat)
    (name path pathToo : String) (variant : Members.Variant respelled .kept members others)
    (sound : (Document.object members).wellFormed) (also : (Document.object others).wellFormed) :
    likewise.Holds Eq (loader.loadFreely room name path (.object members))
      (another.loadFreely room name pathToo (.object others)) := by
  induction room generalizing name path pathToo members others with
  | zero => exact likewise.holds_throw rfl
  | succ room ih =>
    rw [loadFreely_object, loadFreely_object]
    have within : likewise.Within respelled .kept Eq (loader.loadFreely room) (another.loadFreely room)
        members others := by
      refine ⟨likewise.traverses_kept, variant, sound, also, fun variant sound also name _ _ => ?_⟩
      exact Agreement.of_objects (fun members others => ih name _ _)
        (fun _ noObject => loadFreely_of_noObject noObject room name _ _) variant sound also
    refine within.schema corresponds (fun _ _ => Property.eq_of_alike) (charge_likewise _ _ _ _)
      (fun _ _ _ => rfl) ?_
    exact fun _ _ _ _ _ => ih name path pathToo

/-- A loader that expands every reference makes the same of a variant with the keys in their places,
whatever the path to it. -/
theorem loadFreely_variant (corresponds : loader.Corresponds respelled .kept another) (room : Nat)
    (name path pathToo : String) (variant : Document.Variant respelled .kept document other)
    (sound : document.wellFormed) (also : other.wellFormed) :
    likewise.Holds Eq (loader.loadFreely room name path document)
      (another.loadFreely room name pathToo other) :=
  Agreement.of_objects (fun _ _ => loadFreely_object_variant corresponds room name path pathToo)
    (fun _ noObject => loadFreely_of_noObject noObject room name path pathToo) variant sound also

/-- Only what is loaded is called by the name. -/
theorem loadFreely_renamed (loader : Loader) (room : Nat) (name other path : String) (document : Document) :
    loader.loadFreely room name path document =
      (·.renamed name) <$> loader.loadFreely room other path document := by
  induction room generalizing document with
  | zero => rfl
  | succ room ih =>
    rw [loadFreely, loadFreely]
    cases document.members? with
    | none => rfl
    | some members =>
      dsimp only [schema]
      cases members.find? "$ref" with
      | none => exact property_renamed _ name other path members
      | some reference =>
        dsimp only
        cases loader.expand [] path reference members with
        | error => rfl
        | ok expanded => exact ih (.object expanded.2)

end Loader

namespace Load

variable {α β : Type}

/-- With the given budget the load refuses a reference as cyclic. -/
def RefusesAsCyclic (load : Load α) (budget : Nat) : Prop :=
  ∃ error left, (ExceptT.run load).run budget = (.error error, left) ∧
    error.fault.faultClass = .cyclicReference

/-- From every budget the loads end in the same way, unless the first one refuses a reference as
cyclic. -/
def unlessCyclic : LoadRelation Load Load where
  Holds load other := ∀ budget, (ExceptT.run load).run budget = (ExceptT.run other).run budget ∨
    RefusesAsCyclic load budget
  holds_pure _ _ := .inl rfl
  holds_bind {_ _ first other next further} start goesOn budget := by
    rcases ended : (ExceptT.run first).run budget with ⟨error | value, between⟩
    · rcases start budget with same | ⟨_, _, ran, cyclic⟩
      · left
        rw [run_bind, run_bind, ← same, ended]
      · cases ended.symm.trans ran
        exact .inr ⟨error, between, by rw [run_bind, ended], cyclic⟩
    · rcases start budget with same | ⟨_, _, ran, -⟩
      · rcases goesOn value between with alike | ⟨error, left, ran, cyclic⟩
        · left
          rw [run_bind, run_bind, ← same, ended]
          exact alike
        · exact .inr ⟨error, left, by rw [run_bind, ended]; exact ran, cyclic⟩
      · cases ended.symm.trans ran
  holds_fail _ _ _ _ _ _ := .inl rfl

end Load

namespace Loader

variable {loader : Loader} {members : Members} {expanding : List String}

/-- Whether a reference is being expanded decides nothing but whether it is refused as cyclic. -/
theorem expand_unlessCyclic (loader : Loader) (expanding : List String) (path : String)
    (reference : Document) (members : Members) :
    loader.expand expanding path reference members = loader.expand [] path reference members ∨
      ∃ error, loader.expand expanding path reference members = .error error ∧
        error.fault.faultClass = .cyclicReference := by
  simp only [expand, List.contains_nil, Bool.false_eq_true, if_false]
  split
  · exact .inl rfl
  · split
    · exact .inl rfl
    · split_ifs
      · exact .inr ⟨_, rfl, rfl⟩
      · exact .inl rfl

theorem loadWithin_unlessCyclic (loader : Loader) (room : Nat) (expanding : List String)
    (name path : String) (document : Document) :
    unlessCyclic.Holds (loader.loadWithin room expanding name path document)
      (loader.loadFreely room name path document) := by
  induction room generalizing expanding name path document with
  | zero => exact fun _ => .inl rfl
  | succ room ih =>
    rw [loadWithin, loadFreely]
    cases document.members? with
    | none => exact fun _ => .inl rfl
    | some members =>
      dsimp only [schema]
      cases members.find? "$ref" with
      | none =>
        have within : unlessCyclic.HoldsWithin (loader.loadWithin room expanding)
            (loader.loadFreely room) members := fun name path document _ => ih expanding name path document
        exact within.property fun _ => .inl rfl
      | some reference =>
        dsimp only
        rcases loader.expand_unlessCyclic expanding path reference members with same | ⟨error, refused, cyclic⟩
        · rw [same]
          cases loader.expand [] path reference members with
          | error error => exact fun _ => .inl rfl
          | ok expanded => exact ih _ name path _
        · rw [refused]
          exact fun budget => .inr ⟨error, budget, rfl, cyclic⟩

end Loader

end Intake
