import Intake.Rule.Record
import Mathlib.Data.List.Basic

/-! # Records read back

A field is read back from its written form up to the comma or the end behind it: between quotes a
doubled quote stands for one, and without quotes nothing in the field means anything but itself. So
a record gives back its fields. The one exception is a byte order mark in front of the record, which
goes missing unless the first field stands in quotes.
-/

namespace Intake.Record

/-- Between quotes, reading goes on to the quote that closes the field. -/
theorem readFrom_doubled (field seen rest : List Char) :
    readFrom .quoted seen (doubled field ++ '"' :: rest) =
      readFrom .quote (field.reverse ++ seen) rest := by
  induction field generalizing seen with
  | nil => rfl
  | cons c field ih =>
    by_cases quote : c = '"'
    · subst quote
      rw [doubled, List.cons_append, List.cons_append, readFrom, if_pos rfl, readFrom, ih,
        List.reverse_cons, List.append_assoc]
      rfl
    · have plain : doubled (c :: field) = c :: doubled field := by
        rw [doubled]
        exact quote
      rw [plain, List.cons_append, readFrom, if_neg quote, ih, List.reverse_cons, List.append_assoc]
      rfl

/-- Characters that need no quotes are taken as they are. -/
theorem readFrom_plain {field : List Char} (unquoted : ∀ c ∈ field, ¬isSpecial c)
    (seen rest : List Char) :
    readFrom .plain seen (field ++ rest) = readFrom .plain (field.reverse ++ seen) rest := by
  induction field generalizing seen with
  | nil => rfl
  | cons c field ih =>
    obtain ⟨first, others⟩ := List.forall_mem_cons.mp unquoted
    simp only [isSpecial, Bool.or_eq_true, beq_iff_eq, not_or] at first
    obtain ⟨⟨⟨comma, -⟩, newline⟩, return_⟩ := first
    have step : readFrom .plain seen (c :: (field ++ rest)) =
        readFrom .plain (c :: seen) (field ++ rest) := by
      rw [readFrom]
      · simp [comma, newline, return_]
      · nofun
      · nofun
      · nofun
    rw [List.cons_append, step, ih others, List.reverse_cons, List.append_assoc]
    rfl

/-- What stands behind a field: the end of the record, or a comma and further fields. -/
def separated : List (List Char) → List Char
  | [] => []
  | field :: fields => ',' :: writeFields (field :: fields)

/-- A field ends with the record or at a comma. -/
theorem readFrom_separated {place : Place} (outside : place ≠ .quoted) (seen : List Char)
    (fields : List (List Char)) :
    readFrom place seen (separated fields) =
      seen.reverse :: match fields with
        | [] => []
        | fields => readFrom .start [] (writeFields fields) := by
  cases fields with
  | nil => cases place <;> rfl
  | cons field fields =>
    cases place with
    | quoted => exact absurd rfl outside
    | start => rfl
    | plain => rfl
    | quote => rfl

private theorem writeFields_cons (field : List Char) (fields : List (List Char)) :
    writeFields (field :: fields) = writeField field ++ separated fields := by
  cases fields with
  | nil => simp [writeFields, separated]
  | cons next fields => simp [writeFields, separated]

private theorem writeField_of_unquoted {field : List Char} (unquoted : ∀ c ∈ field, ¬isSpecial c) :
    writeField field = field := by
  rw [writeField, if_neg]
  simpa using unquoted

/-- A field is read back from its written form. -/
theorem readFrom_writeField (field : List Char) (fields : List (List Char)) :
    readFrom .start [] (writeField field ++ separated fields) =
      field :: match fields with
        | [] => []
        | fields => readFrom .start [] (writeFields fields) := by
  by_cases quoted : field.any isSpecial
  · have opened : writeField field ++ separated fields =
        '"' :: (doubled field ++ '"' :: separated fields) := by
      simp [writeField, quoted]
    have outside : Place.quote ≠ .quoted := nofun
    have closed := readFrom_separated outside (field.reverse ++ []) fields
    rw [opened, readFrom, readFrom_doubled, closed, List.append_nil, List.reverse_reverse]
  · have unquoted : ∀ c ∈ field, ¬isSpecial c := by simpa using quoted
    have outside : Place.start ≠ .quoted := nofun
    rw [writeField_of_unquoted unquoted]
    cases field with
    | nil => exact readFrom_separated outside [] fields
    | cons c rest =>
      -- The first character decides that the field has no quotes around it.
      have start : readFrom .start [] (c :: (rest ++ separated fields)) =
          readFrom .plain [] (c :: (rest ++ separated fields)) := by
        have noQuote : c ≠ '"' := by
          rintro rfl
          exact unquoted '"' (List.mem_cons_self ..) rfl
        simp [readFrom, noQuote]
      have outside : Place.plain ≠ .quoted := nofun
      have closed := readFrom_separated outside ((c :: rest).reverse ++ []) fields
      rw [List.cons_append, start, ← List.cons_append, readFrom_plain unquoted, closed,
        List.append_nil, List.reverse_reverse]

private theorem readFrom_writeFields {fields : List (List Char)} (some : fields ≠ []) :
    readFrom .start [] (writeFields fields) = fields := by
  induction fields with
  | nil => exact absurd rfl some
  | cons field fields ih =>
    rw [writeFields_cons, readFrom_writeField]
    cases fields with
    | nil => rfl
    | cons next fields =>
      dsimp only
      rw [ih (List.cons_ne_nil _ _)]

/-- A record does not start with a line break, since a field that does stands in quotes. -/
theorem head?_writeFields (fields : List (List Char)) :
    ∀ c ∈ (writeFields fields).head?, c ≠ '\n' ∧ c ≠ '\r' := by
  cases fields with
  | nil => exact fun c first => nomatch first
  | cons field fields =>
    rw [writeFields_cons]
    intro c first
    by_cases quoted : field.any isSpecial
    · rw [writeField, if_pos quoted] at first
      cases first
      decide
    · have unquoted : ∀ c ∈ field, ¬isSpecial c := by simpa using quoted
      rw [writeField_of_unquoted unquoted] at first
      cases field with
      | nil =>
        cases fields <;> cases first
        decide
      | cons d rest =>
        cases first
        have plain := unquoted c (List.mem_cons_self ..)
        simp only [isSpecial, Bool.or_eq_true, beq_iff_eq, not_or] at plain
        exact ⟨plain.1.2, plain.2⟩

private theorem writeFields_eq_nil_iff {field : List Char} {fields : List (List Char)} :
    writeFields (field :: fields) = [] ↔ field = [] ∧ fields = [] := by
  rw [writeFields_cons, List.append_eq_nil_iff]
  refine and_congr ?_ ?_
  · by_cases quoted : field.any isSpecial
    · have some : field ≠ [] := by
        rintro rfl
        cases quoted
      simp [writeField, quoted, some]
    · simp [writeField, quoted]
  · cases fields <;> simp [separated]

/-- The fields as a record gives them back. -/
def readBack : List (List Char) → List (List Char)
  | ('\ufeff' :: rest) :: fields =>
    if rest.any isSpecial then ('\ufeff' :: rest) :: fields
    else if rest = [] ∧ fields = [] then []
    else rest :: fields
  | fields => fields

theorem readBack_of_head?_ne {field : List Char} (unmarked : field.head? ≠ some '\ufeff')
    (fields : List (List Char)) : readBack (field :: fields) = field :: fields := by
  rw [readBack]
  rintro rest _ ⟨⟩
  exact unmarked rfl

/-- Only the first field may be given back as another one. -/
theorem mem_readBack {fields : List (List Char)} {field : List Char} (member : field ∈ fields)
    (unmarked : field.head? ≠ some '\ufeff') : field ∈ readBack fields := by
  unfold readBack
  split
  · next rest others =>
    rcases List.mem_cons.mp member with rfl | later
    · exact absurd rfl unmarked
    · split_ifs with quoted empty
      · exact member
      · rw [empty.2] at later
        exact absurd later List.not_mem_nil
      · exact List.mem_cons_of_mem _ later
  · exact member

/-- Line breaks in front are passed over, of which a written record has none. -/
theorem read_eq {field : List Char} {fields : List (List Char)} {text : List Char}
    (same : withoutMark text = writeFields (field :: fields)) :
    read text = if field = [] ∧ fields = [] then [] else field :: fields := by
  have kept : (writeFields (field :: fields)).dropWhile (fun c => c == '\n' || c == '\r') =
      writeFields (field :: fields) := by
    have head := head?_writeFields (field :: fields)
    cases written : writeFields (field :: fields) with
    | nil => rfl
    | cons c rest =>
      rw [written] at head
      obtain ⟨newline, return_⟩ := head c rfl
      simp [newline, return_]
  rw [read, same, kept]
  split_ifs with empty
  · rw [writeFields_eq_nil_iff.mpr empty]
  · cases written : writeFields (field :: fields) with
    | nil => exact absurd (writeFields_eq_nil_iff.mp written) empty
    | cons c rest =>
      rw [← readFrom_writeFields (List.cons_ne_nil field fields), written]

/-- A record is read back, but for a byte order mark in front of it. -/
theorem read_write (fields : List (List Char)) : read (write fields) = readBack fields := by
  cases fields with
  | nil => rfl
  | cons field fields =>
    by_cases single : field :: fields = [[]]
    · rw [single]
      rfl
    · have some : ¬(field = [] ∧ fields = []) := by
        rintro ⟨rfl, rfl⟩
        exact single rfl
      rw [write, if_neg single]
      by_cases marked : field.head? = Option.some '\ufeff'
      · obtain ⟨rest, rfl⟩ : ∃ rest, field = '\ufeff' :: rest := by
          cases field with
          | nil => cases marked
          | cons c rest =>
            cases marked
            exact ⟨rest, rfl⟩
        by_cases quoted : rest.any isSpecial
        · -- The quote in front keeps the mark from being the first character.
          have opened : withoutMark (writeFields (('\ufeff' :: rest) :: fields)) =
              writeFields (('\ufeff' :: rest) :: fields) := by
            have all : ('\ufeff' :: rest).any isSpecial := by simp [quoted]
            rw [writeFields_cons, writeField, if_pos all]
            rfl
          rw [read_eq opened, if_neg some, readBack, if_pos quoted]
        · have unquoted : ∀ c ∈ rest, ¬isSpecial c := by simpa using quoted
          have plain : ¬isSpecial '\ufeff' := by decide
          have dropped : withoutMark (writeFields (('\ufeff' :: rest) :: fields)) =
              writeFields (rest :: fields) := by
            rw [writeFields_cons, writeFields_cons, writeField_of_unquoted unquoted,
              writeField_of_unquoted (List.forall_mem_cons.mpr ⟨plain, unquoted⟩)]
            rfl
          rw [read_eq dropped, readBack, if_neg quoted]
      · have first : withoutMark (writeFields (field :: fields)) = writeFields (field :: fields) := by
          rw [withoutMark]
          intro rest same
          rw [writeFields_cons] at same
          by_cases quoted : field.any isSpecial
          · rw [writeField, if_pos quoted] at same
            cases same
          · rw [writeField, if_neg quoted] at same
            cases field with
            | nil => cases fields <;> cases same
            | cons c others =>
              cases same
              exact marked rfl
        rw [read_eq first, if_neg some, readBack_of_head?_ne marked]

end Intake.Record
