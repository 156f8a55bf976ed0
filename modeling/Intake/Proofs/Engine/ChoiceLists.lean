import Intake.Proofs.Engine.Choices

/-! # Choices read back

The values to choose from reach their validator as one record, and it reads back the texts that were
written: as many, in the same order, whatever commas, quotes, line breaks and blanks are in them. Only a
byte order mark in front of the record is lost, where the first text starts with one and needs no
quotes; then that text comes back without its mark, and not at all if it was alone and nothing else.
-/

namespace Intake

namespace Record

/-- The record of the fields starts with a byte order mark: the first field does, and there are no
quotes around it. -/
def IsMarked (fields : List (List Char)) : Prop :=
  ∃ rest others, fields = ('\ufeff' :: rest) :: others ∧ ∀ c ∈ rest, ¬isSpecial c

private theorem readBack_of_unquoted {rest : List Char} (unquoted : ∀ c ∈ rest, ¬isSpecial c)
    (others : List (List Char)) :
    readBack (('\ufeff' :: rest) :: others) =
      if rest = [] ∧ others = [] then [] else rest :: others := by
  rw [readBack, if_neg (by simpa using unquoted)]

private theorem readBack_eq_self_iff {fields : List (List Char)} :
    readBack fields = fields ↔ ¬IsMarked fields := by
  constructor
  · rintro same ⟨rest, others, rfl, unquoted⟩
    rw [readBack_of_unquoted unquoted] at same
    split_ifs at same
    -- A text is not the same without its first character.
    exact absurd (List.cons.inj same).1 (List.cons_ne_self _ _).symm
  · intro unmarked
    unfold readBack
    split
    · next rest others =>
      split_ifs with quoted empty
      · rfl
      · exact absurd ⟨rest, others, rfl, by simpa using quoted⟩ unmarked
      · exact absurd ⟨rest, others, rfl, by simpa using quoted⟩ unmarked
    · rfl

end Record

/-- The texts of the values are the fields of their record. -/
def choiceFields (values : List Document) : List (List Char) :=
  values.map fun value => (choiceText value).toList

private theorem map_ofList_choiceFields (values : List Document) :
    (choiceFields values).map String.ofList = values.map choiceText := by
  simp [choiceFields, Function.comp_def]

private theorem map_ofList_inj {fields others : List (List Char)} :
    fields.map String.ofList = others.map String.ofList ↔ fields = others :=
  List.map_inj_right fun _ _ => String.ofList_injective

/-- The texts are offered as they were written if the record does not start with a mark. -/
theorem offered_eq_iff {values : List Document} :
    offered values = values.map choiceText ↔ ¬Record.IsMarked (choiceFields values) := by
  rw [← Record.readBack_eq_self_iff, ← map_ofList_choiceFields, offered, ← choiceFields, map_ofList_inj]

/-- The texts of a list come back as they were written exactly if their record does not start with a
byte order mark. If it does, the first text comes back without the mark, and not at all if it was the
mark alone and the only text. In no case is the list found malformed. -/
theorem choices_choiceRecord_eq_iff (values : List Document) :
    (Validator.choices (choiceRecord values) = values.map choiceText ↔
        ¬Record.IsMarked (choiceFields values)) ∧
      (∀ rest others, choiceFields values = ('\ufeff' :: rest) :: others →
        (∀ c ∈ rest, ¬Record.isSpecial c) →
        Validator.choices (choiceRecord values) =
          if rest = [] ∧ others = [] then [] else (rest :: others).map String.ofList) ∧
      ∀ value fault, Validator.choice (some (choiceRecord values)) value ≠ .error fault := by
  rw [choices_choiceRecord]
  refine ⟨offered_eq_iff, ?_, ?_⟩
  · intro rest others fields unquoted
    rw [offered, ← choiceFields, fields, Record.readBack_of_unquoted unquoted]
    split_ifs <;> rfl
  · intro value fault stops
    obtain ⟨complaint?, run⟩ := Validator.choice_runs (choiceRecord values) value
    rw [run] at stops
    cases stops

/-- Commas, quotes, line breaks and empty texts come back, a mark in front does not. -/
theorem choices_choiceRecord_marked :
    let plain : List Document := [.string "Small, cheap", .string "", .bool true, .string "a\r\n\"B\""]
    let marked : List Document := [.string "\ufeffRed", .string "blue"]
    (¬Record.IsMarked (choiceFields plain) ∧ Validator.choices (choiceRecord plain) =
        ["small, cheap", "", "true", "a\r\n\"b\""]) ∧
      (Record.IsMarked (choiceFields marked) ∧
        Validator.choices (choiceRecord marked) = ["red", "blue"]) ∧
      Validator.choices (choiceRecord [.string "\ufeff"]) = [] := by
  intro plain marked
  have unmarked : ¬Record.IsMarked (choiceFields plain) := by
    rintro ⟨rest, others, fields, -⟩
    have first : (choiceFields plain).head?.bind List.head? = some '\ufeff' := by
      rw [fields]
      rfl
    exact absurd first (by decide)
  have fields : choiceFields marked = ['\ufeff', 'r', 'e', 'd'] :: [['b', 'l', 'u', 'e']] := by decide
  have single : choiceFields [.string "\ufeff"] = ['\ufeff'] :: [] := by decide
  have unquoted : ∀ c ∈ ['r', 'e', 'd'], ¬Record.isSpecial c := by simp [Record.isSpecial]
  have kept := (choices_choiceRecord_eq_iff plain).1.mpr unmarked
  have lost := (choices_choiceRecord_eq_iff marked).2.1 _ _ fields unquoted
  have gone := (choices_choiceRecord_eq_iff [.string "\ufeff"]).2.1 _ _ single (List.forall_mem_nil _)
  exact ⟨⟨unmarked, kept.trans (by decide)⟩, ⟨⟨_, _, fields, unquoted⟩, lost.trans (by decide)⟩,
    gone.trans (by decide)⟩

end Intake
