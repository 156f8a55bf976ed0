import Intake.Text.Splitting
import Mathlib.Data.List.Basic

/-! # Texts put together from parts

A text that was put together from parts is cut into the same parts again, if none of them has the
character that the separator starts with. Replacing a text by another one is cutting at the first and
putting the segments together with the second.
-/

namespace Intake.Text

variable {mark : Char} {separator : List Char}

/-- The characters of a separator are skipped. -/
theorem splitFrom_skip (skipped segment rest : List Char) :
    splitFrom separator skipped.length segment (skipped ++ rest) = splitFrom separator 0 segment rest := by
  induction skipped with
  | nil => rfl
  | cons c skipped ih => exact ih

/-- No separator starts in a part without the character that it starts with. -/
theorem splitFrom_part {part : List Char} (free : mark ∉ part) (segment rest : List Char) :
    splitFrom (mark :: separator) 0 segment (part ++ rest) =
      splitFrom (mark :: separator) 0 (part.reverse ++ segment) rest := by
  induction part generalizing segment with
  | nil => rfl
  | cons c part ih =>
    rw [List.mem_cons, not_or] at free
    have other : (mark :: separator).isPrefixOf (c :: (part ++ rest)) = false := by
      simp [List.isPrefixOf, free.1]
    rw [List.cons_append, splitFrom, other, if_neg Bool.false_ne_true, ih free.2, List.reverse_cons,
      List.append_assoc, List.singleton_append]

/-- A text is cut into the parts that it was put together from. -/
theorem splitAt_intercalate {parts : List (List Char)} (some : parts ≠ [])
    (free : ∀ part ∈ parts, mark ∉ part) :
    splitAt (mark :: separator) (List.intercalate (mark :: separator) parts) = parts := by
  induction parts with
  | nil => exact absurd rfl some
  | cons part parts ih =>
    obtain ⟨first, others⟩ := List.forall_mem_cons.mp free
    cases parts with
    | nil =>
      have cut := @splitFrom_part mark separator part first [] []
      rw [List.append_nil] at cut
      rw [List.intercalate_singleton, splitAt, cut, splitFrom, List.append_nil, List.reverse_reverse]
    | cons next parts =>
      have starts (rest : List Char) :
          (mark :: separator).isPrefixOf (mark :: (separator ++ rest)) = true := by
        simp [List.isPrefixOf_iff_prefix]
      have rest := ih (List.cons_ne_nil _ _) others
      rw [List.intercalate_cons_cons, List.append_assoc, splitAt, splitFrom_part first, List.append_nil,
        List.cons_append, splitFrom, starts, if_pos rfl, List.length_cons, Nat.add_sub_cancel,
        splitFrom_skip, List.reverse_reverse]
      exact congrArg _ rest

/-- Every occurrence of a text is replaced by another one, from left to right and without overlap. -/
def replaceAll (old new text : List Char) : List Char :=
  List.intercalate new (splitAt old text)

variable {old new : List Char}

theorem splitFrom_ne_nil (old : List Char) (skipped : Nat) (segment text : List Char) :
    splitFrom old skipped segment text ≠ [] := by
  fun_induction splitFrom old skipped segment text with
  | case1 => exact List.cons_ne_nil _ _
  | case2 _ _ _ _ ih => exact ih
  | case3 => exact List.cons_ne_nil _ _
  | case4 _ _ _ _ ih => exact ih

/-- What was read of the first segment stays in front. -/
theorem intercalate_splitFrom (skipped : Nat) (segment text : List Char) :
    List.intercalate new (splitFrom old skipped segment text) =
      segment.reverse ++ List.intercalate new (splitFrom old skipped [] text) := by
  induction text generalizing skipped segment with
  | nil => simp [splitFrom]
  | cons c rest ih =>
    cases skipped with
    | succ skipped => exact ih skipped segment
    | zero =>
      by_cases starts : old.isPrefixOf (c :: rest)
      · obtain ⟨next, others, cut⟩ := List.exists_cons_of_ne_nil
          (splitFrom_ne_nil old (old.length - 1) [] rest)
        simp only [splitFrom, starts, if_true, cut, List.intercalate_cons_cons, List.reverse_nil,
          List.nil_append, List.append_assoc]
      · rw [splitFrom, splitFrom, if_neg starts, if_neg starts, ih, ih 0 [c], List.reverse_cons,
          List.append_assoc]
        rfl

theorem replaceAll_nil : replaceAll old new [] = [] := by
  simp [replaceAll, splitAt, splitFrom]

theorem replaceAll_append (some : old ≠ []) (rest : List Char) :
    replaceAll old new (old ++ rest) = new ++ replaceAll old new rest := by
  obtain ⟨c, others, rfl⟩ := List.exists_cons_of_ne_nil some
  have starts : (c :: others).isPrefixOf (c :: (others ++ rest)) = true := by
    simp [List.isPrefixOf_iff_prefix]
  obtain ⟨next, segments, cut⟩ := List.exists_cons_of_ne_nil
    (splitFrom_ne_nil (c :: others) 0 [] rest)
  rw [replaceAll, replaceAll, splitAt, splitAt, List.cons_append, splitFrom, starts, if_pos rfl,
    List.length_cons, Nat.add_sub_cancel, splitFrom_skip, cut, List.intercalate_cons_cons]
  rfl

theorem replaceAll_cons {c : Char} {rest : List Char} (other : old.isPrefixOf (c :: rest) = false) :
    replaceAll old new (c :: rest) = c :: replaceAll old new rest := by
  rw [replaceAll, replaceAll, splitAt, splitAt, splitFrom, other, if_neg Bool.false_ne_true,
    intercalate_splitFrom]
  rfl

/-- Replacing a text by itself changes nothing: the segments with the separators between them are the
text that was cut. -/
theorem replaceAll_self (some : old ≠ []) (text : List Char) : replaceAll old old text = text := by
  induction long : text.length using Nat.strongRecOn generalizing text with
  | ind length ih =>
    subst long
    by_cases starts : old.isPrefixOf text
    · obtain ⟨rest, rfl⟩ := List.isPrefixOf_iff_prefix.mp starts
      have shorter : rest.length < (old ++ rest).length := by
        have positive := List.length_pos_iff.mpr some
        rw [List.length_append]
        omega
      rw [replaceAll_append some, ih _ shorter rest rfl]
    · cases text with
      | nil => exact replaceAll_nil
      | cons c rest =>
        rw [replaceAll_cons (Bool.not_eq_true _ |>.mp starts), ih _ (Nat.lt_succ_self _) rest rfl]

end Intake.Text
