import Intake.Pattern.Compile
import Mathlib.Data.List.Nodup

/-! # Patterns and their texts

A text denotes a pattern if it can be read as one of a size within the limit. The set between brackets is
read as ranges in the order in which they are written and put into normal form. Ranges that start apart
ascend in one order only, so the normal form is known from any list of them in that order.
-/

namespace Intake

namespace Unicode.CodeRanges

private theorem mergeSort_eq_of_perm {ranges ascending : List (Nat × Nat)}
    (perm : ranges.Perm ascending)
    (ordered : ascending.Pairwise fun left right => left.1 < right.1) :
    (ranges.mergeSort fun left right => left.1 ≤ right.1) = ascending := by
  have sorted : (ranges.mergeSort fun left right => left.1 ≤ right.1).Pairwise
      fun left right => decide (left.1 ≤ right.1) := by
    apply List.pairwise_mergeSort
    · simpa using fun _ _ _ => Nat.le_trans
    · simpa using Nat.le_total
  have distinct : (ascending.map Prod.fst).Nodup := List.pairwise_map.mpr (ordered.imp Nat.ne_of_lt)
  have same := (List.mergeSort_perm ranges fun left right => left.1 ≤ right.1).trans perm
  refine List.Perm.eq_of_pairwise ?_ sorted (ordered.imp fun less => decide_eq_true (Nat.le_of_lt less)) same
  intro left right member member' least most
  exact List.inj_on_of_nodup_map distinct (same.subset member) member'
    (Nat.le_antisymm (by simpa using least) (by simpa using most))

/-- Ranges that start apart have the normal form of the same ranges in ascending order. -/
theorem normalize_eq_of_perm {ranges : List (Nat × Nat)} (first last : Nat) (rest : List (Nat × Nat))
    (perm : ranges.Perm ((first, last) :: rest))
    (ordered : ((first, last) :: rest).Pairwise fun left right => left.1 < right.1) :
    normalize ⟨ranges⟩ = ⟨join first last rest⟩ := by
  rw [normalize, mergeSort_eq_of_perm perm ordered]

end Unicode.CodeRanges

namespace Pattern

/-- A text denotes the pattern that it is read as, if that is small enough. -/
theorem ofText_eq_ok_iff {text : String} {pattern : Pattern} :
    ofText text = .ok pattern ↔ read? text.toList = some pattern ∧ pattern.isWithinLimit := by
  rw [ofText]
  cases read? text.toList with
  | none => simp
  | some known =>
    by_cases small : known.isWithinLimit
    · simp only [small, if_true, Except.ok.injEq, Option.some.injEq]
      exact ⟨fun same => ⟨same, same ▸ small⟩, And.left⟩
    · simp only [small, Option.some.injEq]
      constructor
      · nofun
      · rintro ⟨rfl, within⟩
        exact absurd within small

end Pattern

end Intake
