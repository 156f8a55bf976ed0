import Intake.Proofs.Document.Members
import Mathlib.Algebra.Order.Ring.Nat

/-! # Nesting

The nesting of a document is how deep lists and objects stand in each other in it. Members that are
written into an object do not make it nest deeper than the two did before.
-/

namespace Intake

namespace Document

mutual

/-- How deep lists and objects nest in the document. -/
def nesting : Document → Nat
  | .array items => nestingOfItems items + 1
  | .object members => nestingOfMembers members + 1
  | .null | .bool _ | .number _ | .string _ => 0

/-- How deep they nest in one of the items. -/
def nestingOfItems : List Document → Nat
  | [] => 0
  | item :: items => max (nesting item) (nestingOfItems items)

/-- How deep they nest in one of the values. -/
def nestingOfMembers : List (String × Document) → Nat
  | [] => 0
  | (_, value) :: members => max (nesting value) (nestingOfMembers members)

end

theorem nestingOfItems_le_iff {items : List Document} {n : Nat} :
    nestingOfItems items ≤ n ↔ ∀ item ∈ items, item.nesting ≤ n := by
  induction items with
  | nil => simp [nestingOfItems]
  | cons item items ih => simp [nestingOfItems, ih]

theorem nestingOfMembers_le_iff {members : Members} {n : Nat} :
    nestingOfMembers members ≤ n ↔ ∀ member ∈ members, member.2.nesting ≤ n := by
  induction members with
  | nil => simp [nestingOfMembers]
  | cons member members ih => simp [nestingOfMembers, ih]

theorem nesting_object_le_iff {members : Members} {n : Nat} :
    (object members).nesting ≤ n + 1 ↔ ∀ member ∈ members, member.2.nesting ≤ n := by
  rw [nesting, Nat.add_le_add_iff_right, nestingOfMembers_le_iff]

theorem nesting_le_of_mem_items? {document item : Document}
    (member : item ∈ document.items?.getD []) : item.nesting ≤ document.nesting := by
  cases document with
  | array items =>
    rw [nesting]
    exact Nat.le_succ_of_le (nestingOfItems_le_iff.mp le_rfl item member)
  | _ => cases member

theorem nesting_le_of_mem_members? {document value : Document}
    (member : value ∈ (document.members?.getD []).map (·.2)) : value.nesting ≤ document.nesting := by
  cases document with
  | object members =>
    obtain ⟨entry, listed, rfl⟩ := List.mem_map.mp member
    rw [nesting]
    exact Nat.le_succ_of_le (nestingOfMembers_le_iff.mp le_rfl entry listed)
  | _ => cases member

/-- Objects that nest only so deep nest no deeper when one is written into the other. -/
theorem nesting_insertAll_le {members additions : Members} {n : Nat}
    (first : (object members).nesting ≤ n) (second : (object additions).nesting ≤ n) :
    (object (members.insertAll additions)).nesting ≤ n := by
  cases n with
  | zero => exact absurd first (Nat.not_succ_le_zero _)
  | succ n =>
    rw [nesting_object_le_iff] at first second ⊢
    intro member present
    rcases Members.mem_of_mem_insertAll present with old | new
    · exact first member old
    · exact second member new

theorem nesting_without_le (members : Members) (left : List String) :
    (object (members.without left)).nesting ≤ (object members).nesting := by
  apply nesting_object_le_iff.mpr
  intro member present
  exact nestingOfMembers_le_iff.mp le_rfl member (List.mem_filter.mp present).1

end Document

end Intake
