import Intake.Proofs.Document.Identity
import Intake.Proofs.Engine.Meaning

/-! # Lists without duplicates

The validator of lists without duplicates compares the texts of items. As no two documents have the
same text, it lets a list pass exactly if its items are pairwise different documents. Two items that
are the same as values count as different to it if an object in them lists its members in another
order, or if a zero in them has another sign.
-/

namespace Intake

namespace Validator

private theorem unique_eq_ok_none_iff {argument? : Option String} {items : List Document} :
    unique argument? (.array items) = .ok none ↔ items.Nodup := by
  have texts : (items.map Document.text).Nodup ↔ items.Nodup :=
    List.nodup_map_iff Document.text_injective
  rw [unique, Document.items?, Except.ok.injEq, complainUnless_eq_none_iff, decide_eq_true_iff, texts]

end Validator

namespace StandardEngine

/-- A list passes exactly if of any two of its items that are the same as values one has the members
of an object in another order or a zero of another sign; otherwise it is said to hold duplicates. -/
theorem passes_unique_iff {items : List Document} (sound : ∀ item ∈ items, item.wellFormed) :
    (Passes (.array items) (.plain "unique") ↔
      items.Pairwise fun item other => item.same other → ¬item.aligned other) ∧
      (¬Passes (.array items) (.plain "unique") →
        validateBy (.array items) (.plain "unique") = .ok (some .duplicateItems)) := by
  have differ {item other : Document} (member : item ∈ items) :
      item ≠ other ↔ (item.same other → ¬item.aligned other) := by
    rw [← not_and, Document.same_and_aligned_iff (sound item member)]
  have passes : Passes (.array items) (.plain "unique") ↔ items.Nodup := by
    have filled : ¬isEmptyInput (.array items) := Bool.false_ne_true
    rw [passes_iff_of_find? rfl filled, Validator.unique_eq_ok_none_iff]
  constructor
  · rw [passes]
    exact List.Pairwise.iff_of_mem fun member _ => differ member
  · intro refused
    rw [passes] at refused
    have texts : ¬(items.map Document.text).Nodup := by
      rwa [List.nodup_map_iff Document.text_injective]
    change Except.ok (Validator.complainUnless _ _) = _
    rw [decide_eq_false texts]
    rfl

/-- Two members in two orders, and zero with two signs, are let pass. -/
theorem passes_unique_orders :
    let ascending : Document := .object [("a", .ofInt 1), ("b", .null)]
    let descending : Document := .object [("b", .null), ("a", .ofInt 1)]
    let zero (negative : Bool) : Document := .number (.real ⟨negative, 0, by decide⟩)
    let items := [ascending, descending, zero true, zero false]
    (∀ item ∈ items, item.wellFormed) ∧ ascending.same descending ∧ (zero true).same (zero false) ∧
      Passes (.array items) (.plain "unique") := by
  intro ascending descending zero items
  have sound : ∀ item ∈ items, item.wellFormed := by decide
  refine ⟨sound, by decide, by decide, (passes_unique_iff sound).1.mpr ?_⟩
  decide

end StandardEngine

end Intake
