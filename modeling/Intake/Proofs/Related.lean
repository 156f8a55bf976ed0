import Mathlib.Data.List.Forall2

/-! # Lists related member by member

Two lists of one length may be related in that each member of the one is related to the member of the
other at its place. What is known of the members of both lists may be used to relate them otherwise,
each member has a counterpart, and numbering both lists gives the two at one place the same number.
-/

namespace Intake

variable {α β : Type} {related fits : α → β → Prop} {items : List α} {others : List β}

theorem rel_imp_of_mem {value : Option α} {other : Option β} (rel : Option.Rel related value other)
    (imp : ∀ a ∈ value, ∀ b ∈ other, related a b → fits a b) : Option.Rel fits value other := by
  cases rel with
  | none => exact .none
  | some held => exact .some (imp _ rfl _ rfl held)

theorem forall₂_imp_of_mem (each : List.Forall₂ related items others)
    (imp : ∀ a ∈ items, ∀ b ∈ others, related a b → fits a b) : List.Forall₂ fits items others := by
  induction each with
  | nil => exact .nil
  | cons held _ ih =>
    refine .cons (imp _ (List.mem_cons_self ..) _ (List.mem_cons_self ..) held) (ih ?_)
    exact fun a member b present =>
      imp a (List.mem_cons_of_mem _ member) b (List.mem_cons_of_mem _ present)

theorem exists_of_mem_right (each : List.Forall₂ related items others) {other : β}
    (present : other ∈ others) : ∃ item ∈ items, related item other := by
  induction each with
  | nil => cases present
  | cons held _ ih =>
    rcases List.mem_cons.mp present with rfl | later
    · exact ⟨_, List.mem_cons_self .., held⟩
    · obtain ⟨item, member, holds⟩ := ih later
      exact ⟨item, List.mem_cons_of_mem _ member, holds⟩

theorem forall₂_zipIdx (each : List.Forall₂ related items others) (start : Nat) :
    List.Forall₂ (fun item other => related item.1 other.1 ∧ item.2 = other.2) (items.zipIdx start)
      (others.zipIdx start) := by
  induction each generalizing start with
  | nil => exact .nil
  | cons held _ ih => exact .cons ⟨held, rfl⟩ (ih (start + 1))

/-- A relation that holds at every place holds along a numbered list. -/
theorem forall₂_map_zipIdx {fits : β × Nat → α → Prop} {write : α → β}
    (all : ∀ item ∈ items, ∀ index, fits (write item, index) item) (start : Nat) :
    List.Forall₂ fits ((items.map write).zipIdx start) items := by
  induction items generalizing start with
  | nil => exact .nil
  | cons item items ih =>
    rw [List.map_cons, List.zipIdx_cons]
    exact .cons (all item (List.mem_cons_self ..) start)
      (ih (fun other member => all other (List.mem_cons_of_mem _ member)) (start + 1))

end Intake
