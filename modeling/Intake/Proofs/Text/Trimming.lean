import Intake.Text.Tags
import Intake.Proofs.Text.Lowercase
import Mathlib.Data.List.TakeWhile

/-! # Trimmed texts without tags

A text is trimmed when neither of its ends is a blank, and then trimming leaves it alone; lower case
keeps the ends of a text from being blank. Dropping tags leaves no tag behind, but it may well leave
blanks at the ends.
-/

namespace Intake.Text

/-- Neither end of the text is a blank. -/
structure IsTrimmed (text : List Char) : Prop where
  head : ∀ c ∈ text.head?, ¬isBlank c
  last : ∀ c ∈ text.getLast?, ¬isBlank c

theorem trimStart_eq_self {text : List Char} (head : ∀ c ∈ text.head?, ¬isBlank c) :
    trimStart text = text := by
  cases text with
  | nil => rfl
  | cons c rest => exact List.dropWhile_cons_of_neg (head c rfl)

/-- The text starts with a character that is no blank. -/
def StartsVisibly : List Char → Prop
  | [] => False
  | c :: _ => ¬isBlank c

instance : DecidablePred StartsVisibly
  | [] => isFalse id
  | c :: _ => inferInstanceAs (Decidable (¬isBlank c))

theorem StartsVisibly.trimStart_append {text : List Char} (visible : StartsVisibly text)
    (rest : List Char) : trimStart (text ++ rest) = text ++ rest := by
  cases text with
  | nil => cases visible
  | cons c text => exact List.dropWhile_cons_of_neg visible

theorem trimEnd_eq_self {text : List Char} (last : ∀ c ∈ text.getLast?, ¬isBlank c) :
    trimEnd text = text := by
  have reversed : trimStart text.reverse = text.reverse := by
    apply trimStart_eq_self
    rwa [List.head?_reverse]
  rw [trimEnd, ← trimStart, reversed, List.reverse_reverse]

theorem head?_trimStart (text : List Char) : ∀ c ∈ (trimStart text).head?, ¬isBlank c := by
  intro c first
  have stopped := List.head?_dropWhile_not isBlank text
  rw [← trimStart, first] at stopped
  simpa using stopped

private theorem isTrimmed_trimChars (text : List Char) : IsTrimmed (trimChars text) := by
  constructor
  case head =>
    intro c first
    -- What is left at the end is a prefix, so its first character is the first one of all.
    have kept : trimChars text <+: trimStart text := by
      rw [trimChars, trimEnd, ← List.reverse_suffix, List.reverse_reverse]
      exact List.dropWhile_suffix _
    obtain ⟨rest, whole⟩ := kept
    apply head?_trimStart text c
    rw [← whole, List.head?_append, Option.mem_def.mp first, Option.some_or]
    rfl
  case last =>
    intro c final
    rw [trimChars, trimEnd, List.getLast?_reverse, ← trimStart] at final
    exact head?_trimStart _ c final

theorem trimChars_of_isTrimmed {text : List Char} (trimmed : IsTrimmed text) :
    trimChars text = text := by
  rw [trimChars, trimStart_eq_self trimmed.head, trimEnd_eq_self trimmed.last]

theorem trim_eq_self_iff {text : String} : trim text = text ↔ IsTrimmed text.toList := by
  constructor
  · intro same
    rw [← same, trim, String.toList_ofList]
    exact isTrimmed_trimChars _
  · intro trimmed
    rw [trim, trimChars_of_isTrimmed trimmed, String.ofList_toList]

theorem trim_trim (text : String) : trim (trim text) = trim text := by
  rw [trim_eq_self_iff, trim, String.toList_ofList]
  exact isTrimmed_trimChars _

/-- A trimmed text that holds anything holds something else than blanks. -/
theorem not_isBlankText_of_isTrimmed {text : String} (trimmed : IsTrimmed text.toList)
    (filled : text ≠ "") : ¬isBlankText text := by
  rw [isBlankText]
  cases chars : text.toList with
  | nil => exact absurd (String.toList_eq_nil_iff.mp chars) filled
  | cons c rest =>
    have visible : ¬isBlank c := trimmed.head c (by simp [chars])
    simp [visible]

theorem trimChars_of_isBlankText {text : String} (blank : isBlankText text) :
    trimChars text.toList = [] := by
  have nothing : trimStart text.toList = [] := List.dropWhile_eq_nil_iff.mpr (List.all_eq_true.mp blank)
  rw [trimChars, nothing]
  rfl

theorem trim_sublist (text : String) : (trim text).toList.Sublist text.toList := by
  rw [trim, String.toList_ofList, trimChars, trimEnd, List.reverse_sublist.symm,
    List.reverse_reverse]
  exact (List.dropWhile_sublist _).trans (List.reverse_sublist.mpr (List.dropWhile_sublist _))

/-- Every character has a lower case, and that is only blank if the character is. -/
theorem exists_lowerAfter_cons (before : List Char) (c : Char) (rest : List Char) :
    ∃ head tail, (∀ d ∈ head :: tail, isBlank d → isBlank c) ∧
      lowerAfter before (c :: rest) = head :: tail ++ lowerAfter (c :: before) rest := by
  by_cases sigma : c = 'Σ'
  · subst sigma
    refine ⟨_, [], ?_, by rw [lowerAfter, List.singleton_append]⟩
    have letters : ¬isBlank 'ς' ∧ ¬isBlank 'σ' := by decide
    rw [List.forall_mem_singleton]
    split_ifs <;> simp [letters]
  · cases mapped : lowerChar c with
    | nil =>
      rw [lowerChar] at mapped
      split at mapped
      · cases mapped
      · split at mapped <;> cases mapped
    | cons head tail =>
      refine ⟨head, tail, ?_, by rw [lowerAfter_cons sigma, mapped]⟩
      rw [← mapped]
      exact fun d member => (isLower_of_mem_lowerChar sigma member).2

theorem lowerAfter_eq_nil_iff {before text : List Char} : lowerAfter before text = [] ↔ text = [] := by
  cases text with
  | nil => simp [lowerAfter]
  | cons c rest =>
    obtain ⟨head, tail, -, same⟩ := exists_lowerAfter_cons before c rest
    simp [same]

theorem IsTrimmed.lowerAfter {text : List Char} (trimmed : IsTrimmed text) (before : List Char) :
    IsTrimmed (lowerAfter before text) := by
  constructor
  case head =>
    cases text with
    | nil => exact fun c first => nomatch first
    | cons c rest =>
      obtain ⟨head, tail, keeps, same⟩ := exists_lowerAfter_cons before c rest
      rw [same]
      rintro d ⟨⟩ blank
      exact trimmed.head c rfl (keeps _ (List.mem_cons_self ..) blank)
  case last =>
    have final := trimmed.last
    clear trimmed
    induction text generalizing before with
    | nil => exact fun c last => nomatch last
    | cons c rest ih =>
      obtain ⟨head, tail, keeps, same⟩ := exists_lowerAfter_cons before c rest
      intro d last
      rw [same, List.getLast?_append] at last
      cases rest with
      | nil =>
        rw [Text.lowerAfter, List.getLast?_nil, Option.none_or] at last
        exact fun blank => final c rfl (keeps d (List.mem_of_getLast? last) blank)
      | cons next rest =>
        have some : (Text.lowerAfter (c :: before) (next :: rest)).getLast?.isSome := by
          simp [lowerAfter_eq_nil_iff]
        rw [Option.or_of_isSome some] at last
        exact ih (c :: before) (by simpa using final) d last

/-- No bracket opens a tag. -/
def Tagless : List Char → Prop
  | [] => True
  | c :: rest => (c = '<' → '>' ∉ rest) ∧ Tagless rest

theorem withoutTags_of_tagless {text : List Char} (tagless : Tagless text) :
    withoutTags false text = text := by
  induction text with
  | nil => rfl
  | cons c rest ih =>
    have plain : ¬(c = '<' && rest.contains '>') := by simpa using tagless.1
    rw [withoutTags, if_neg plain, ih tagless.2]

theorem withoutTags_sublist (inside : Bool) (text : List Char) :
    (withoutTags inside text).Sublist text := by
  induction text generalizing inside with
  | nil => exact List.Sublist.slnil
  | cons c rest ih =>
    cases inside with
    | true =>
      rw [withoutTags]
      exact (ih _).cons c
    | false =>
      rw [withoutTags]
      split_ifs
      · exact (ih true).cons c
      · exact (ih false).cons_cons c

theorem tagless_withoutTags (inside : Bool) (text : List Char) :
    Tagless (withoutTags inside text) := by
  induction text generalizing inside with
  | nil => trivial
  | cons c rest ih =>
    cases inside with
    | true =>
      rw [withoutTags]
      exact ih _
    | false =>
      rw [withoutTags]
      split_ifs with tag
      · exact ih true
      · refine ⟨?_, ih false⟩
        rintro rfl closed
        have later := (withoutTags_sublist false rest).subset closed
        simp [later] at tag

theorem stripTags_stripTags (text : String) : stripTags (stripTags text) = stripTags text := by
  rw [stripTags, stripTags, String.toList_ofList,
    withoutTags_of_tagless (tagless_withoutTags false text.toList)]

/-- A text that is shorter than another, and then loses its tags, is the other one only if it was to
begin with. -/
theorem eq_of_stripTags_eq {short long : String} (within : short.toList.Sublist long.toList)
    (same : stripTags short = long) : short = long := by
  have tags : long.toList.Sublist short.toList := by
    rw [← same, stripTags, String.toList_ofList]
    exact withoutTags_sublist false _
  exact String.toList_inj.mp (within.antisymm tags)

end Intake.Text
