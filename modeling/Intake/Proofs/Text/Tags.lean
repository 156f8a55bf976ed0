import Intake.Engine.Filter
import Intake.Proofs.Text.Trimming

/-! # Texts without tags

A text holds a tag when a closing angle bracket follows an opening one anywhere behind it. Where tags
are dropped, the text is read as plain characters and tags that follow each other; a bracket that is
never closed is a plain character. So no bracket that is left is followed by one that closes it, and
what stood around a tag never makes up a new one.
-/

namespace Intake

namespace Text

/-- An opening bracket is followed by a closing one somewhere in the text. -/
def HoldsTag (text : List Char) : Prop :=
  ∃ before inner after, text = before ++ '<' :: (inner ++ '>' :: after)

/-- Tags are dropped from left to right. A character is kept unless it is a bracket that opens a tag;
a tag goes with everything between its brackets, up to the first one that closes it. -/
inductive DropsTags : List Char → List Char → Prop
  | nil : DropsTags [] []
  | keep {c : Char} {rest kept : List Char} (plain : c = '<' → '>' ∉ rest)
      (others : DropsTags rest kept) : DropsTags (c :: rest) (c :: kept)
  | drop {inner rest kept : List Char} (closesFirst : '>' ∉ inner) (others : DropsTags rest kept) :
      DropsTags ('<' :: (inner ++ '>' :: rest)) kept

variable {text kept : List Char}

private theorem holdsTag_cons {c : Char} {rest : List Char} :
    HoldsTag (c :: rest) ↔ (c = '<' ∧ '>' ∈ rest) ∨ HoldsTag rest := by
  constructor
  · rintro ⟨before, inner, after, split⟩
    cases before with
    | nil =>
      cases split
      exact .inl ⟨rfl, List.mem_append_right inner (List.mem_cons_self ..)⟩
    | cons first before =>
      cases split
      exact .inr ⟨before, inner, after, rfl⟩
  · rintro (⟨rfl, closed⟩ | ⟨before, inner, after, rfl⟩)
    · obtain ⟨inner, after, rfl⟩ := List.append_of_mem closed
      exact ⟨[], inner, after, rfl⟩
    · exact ⟨c :: before, inner, after, rfl⟩

private theorem tagless_iff : Tagless text ↔ ¬HoldsTag text := by
  induction text with
  | nil =>
    have none : ¬HoldsTag [] := by
      rintro ⟨before, inner, after, split⟩
      simp at split
    exact iff_of_true trivial none
  | cons c rest ih => rw [Tagless, ih, holdsTag_cons, not_or, not_and]

/-- The bracket that closes a tag is the first one behind it. -/
theorem withoutTags_inside {inner : List Char} (closesFirst : '>' ∉ inner) (rest : List Char) :
    withoutTags true (inner ++ '>' :: rest) = withoutTags false rest := by
  induction inner with
  | nil => rfl
  | cons c inner ih =>
    rw [List.mem_cons, not_or] at closesFirst
    have other : (c != '>') = true := bne_iff_ne.mpr (Ne.symm closesFirst.1)
    rw [List.cons_append, withoutTags, other, ih closesFirst.2]

private theorem DropsTags.withoutTags_eq (drops : DropsTags text kept) :
    withoutTags false text = kept := by
  induction drops with
  | nil => rfl
  | keep plain _ ih =>
    rw [withoutTags, if_neg (by simpa using plain), ih]
  | drop closesFirst _ ih =>
    rw [withoutTags, if_pos (by simp), withoutTags_inside closesFirst, ih]

private theorem dropsTags_withoutTags (text : List Char) : DropsTags text (withoutTags false text) := by
  -- A tag is left behind as a whole, so the induction is on the length.
  induction length : text.length using Nat.strong_induction_on generalizing text with
  | _ length ih =>
    subst length
    cases text with
    | nil => exact .nil
    | cons c rest =>
      by_cases opens : c = '<' ∧ '>' ∈ rest
      · obtain ⟨rfl, closed⟩ := opens
        obtain ⟨inner, after, rfl, closesFirst⟩ := List.eq_append_cons_of_mem closed
        have others := ih after.length (by simp; omega) after rfl
        rw [withoutTags, if_pos (by simp), withoutTags_inside closesFirst]
        exact .drop closesFirst others
      · rw [withoutTags, if_neg (by simpa using opens)]
        exact .keep (not_and.mp opens) (ih rest.length (Nat.lt_succ_self _) rest rfl)

/-- Dropping tags has one outcome. -/
theorem dropsTags_iff : DropsTags text kept ↔ withoutTags false text = kept := by
  constructor
  · exact DropsTags.withoutTags_eq
  · rintro rfl
    exact dropsTags_withoutTags text

private theorem not_holdsTag_stripTags (text : String) : ¬HoldsTag (stripTags text).toList := by
  rw [← tagless_iff, stripTags, String.toList_ofList]
  exact tagless_withoutTags false _

private theorem stripTags_eq_self_iff {text : String} :
    stripTags text = text ↔ ¬HoldsTag text.toList := by
  constructor
  · intro same
    rw [← same]
    exact not_holdsTag_stripTags text
  · intro none
    rw [stripTags, withoutTags_of_tagless (tagless_iff.mpr none), String.ofList_toList]

end Text

namespace Filter

open Text

/-- What a filter that strips tags makes of a text. -/
structure Strips (filter : String → String) (text : String) : Prop where
  tagless : ¬HoldsTag (filter text).toList
  fixed : filter text = text ↔ ¬HoldsTag text.toList
  idempotent : filter (filter text) = filter text
  dropped : ∀ kept, DropsTags text.toList kept ↔ (filter text).toList = kept

/-- The filter leaves no tag, changes nothing where there is none, and deletes nothing but tags. -/
theorem find?_strip_tags :
    ∃ filter, find? "strip_tags" = some filter ∧
      ∀ text, apply filter (.string text) = .string (filter text) ∧ Strips filter text := by
  refine ⟨stripTags, rfl, fun text => ⟨rfl, ?_⟩⟩
  constructor
  case tagless => exact not_holdsTag_stripTags text
  case fixed => exact stripTags_eq_self_iff
  case idempotent => exact stripTags_stripTags text
  case dropped =>
    intro kept
    rw [dropsTags_iff, stripTags, String.toList_ofList]

/-- What is left of a bracket that stood before a tag does not make up a tag with what stands behind. -/
example : stripTags "<<b>i>1 < 2<" = "i>1 < 2<" := by decide

end Filter

end Intake
