import Intake.Format.Uuid
import Intake.Proofs.Related
import Intake.Proofs.Text.Lowercase

/-! # Identifiers and their text

The grouped form is five runs of hexadecimal digits with hyphens between them. The canonical text of
an identifier is one such form and is read as that identifier; whatever else is read as one is of a
grouped form, of a plain one, or wrapped in the few characters that may stand around it.
-/

namespace Intake

/-- Every step of a traversal gives something. -/
private theorem option_mapM_eq_some {α β : Type} {step : α → Option β} {items : List α}
    {results : List β} :
    items.mapM step = some results ↔
      List.Forall₂ (fun item result => step item = some result) items results := by
  induction items generalizing results with
  | nil => cases results <;> simp [pure]
  | cons item items ih =>
    rw [List.mapM_cons]
    cases results with
    | nil => simp [Option.bind_eq_some_iff, pure]
    | cons result results => simp [Option.bind_eq_some_iff, pure, ← ih, and_comm]

namespace Document

theorem hexDigit?_digitChar {n : Nat} (small : n < 16) : hexDigit? n.digitChar = some n := by
  have all : ∀ n < 16, hexDigit? n.digitChar = some n := by decide
  exact all n small

theorem toNat_le_of_hexDigit? {c : Char} (digit : (hexDigit? c).isSome) : c.toNat ≤ 'f'.toNat := by
  rw [hexDigit?] at digit
  split_ifs at digit with decimal lower upper
  · exact Nat.le_trans decimal.2 (by decide)
  · exact lower.2
  · exact Nat.le_trans upper.2 (by decide)
  · cases digit

/-- A hexadecimal digit does not start what may stand in front of an identifier. -/
theorem not_wraps_of_hexDigit? {c : Char} (digit : (hexDigit? c).isSome) :
    ¬(c.toLower = 'u' ∨ c = '\x7b') := by
  have small : c.toNat < 103 := Nat.lt_succ_of_le (toNat_le_of_hexDigit? digit)
  revert digit
  exact Text.char_of_lt (motive := fun c => (hexDigit? c).isSome → ¬(c.toLower = 'u' ∨ c = '\x7b'))
    (by decide) small

theorem lt_of_hexDigit? {c : Char} {n : Nat} (read : hexDigit? c = some n) : n < 16 := by
  rw [hexDigit?] at read
  split_ifs at read with digit lower upper
  · cases read
    have most : c.toNat ≤ '9'.toNat := digit.2
    exact Nat.lt_of_le_of_lt (Nat.sub_le_sub_right most _) (by decide)
  · cases read
    have most : c.toNat ≤ 'f'.toNat := lower.2
    exact Nat.lt_of_le_of_lt (Nat.add_le_add_right (Nat.sub_le_sub_right most _) _) (by decide)
  · cases read
    have most : c.toNat ≤ 'F'.toNat := upper.2
    exact Nat.lt_of_le_of_lt (Nat.add_le_add_right (Nat.sub_le_sub_right most _) _) (by decide)

end Document

namespace Uuid

open Document

/-- The identifier has as many digits as it should have. -/
structure Sound (uuid : Uuid) : Prop where
  length : uuid.digits.length = 32
  digits : ∀ digit ∈ uuid.digits, digit < 16

/-- The character may stand in the grouped form. -/
def IsPart (c : Char) : Prop := (hexDigit? c).isSome ∨ c = '-'

instance (c : Char) : Decidable (IsPart c) := inferInstanceAs (Decidable (_ ∨ _))

variable {text : List Char} {uuid : Uuid}

private theorem plain?_eq_some_iff :
    plain? text = some uuid ↔ text.length = 32 ∧
      List.Forall₂ (fun c digit => hexDigit? c = some digit) text uuid.digits := by
  rw [plain?, ← option_mapM_eq_some]
  by_cases full : text.length = 32
  · rw [if_pos full, Option.map_eq_some_iff]
    constructor
    · rintro ⟨digits, read, rfl⟩
      exact ⟨full, read⟩
    · rintro ⟨-, read⟩
      exact ⟨uuid.digits, read, rfl⟩
  · simp [full]

private theorem isSome_of_mem_plain (read : plain? text = some uuid) : ∀ c ∈ text,
    (hexDigit? c).isSome := by
  intro c member
  obtain ⟨-, digits⟩ := plain?_eq_some_iff.mp read
  obtain ⟨digit, -, stands⟩ := exists_of_mem_right digits.flip member
  rw [stands]
  rfl

private theorem Sound.of_plain? (read : plain? text = some uuid) : uuid.Sound := by
  obtain ⟨full, digits⟩ := plain?_eq_some_iff.mp read
  refine ⟨digits.length_eq ▸ full, fun digit member => ?_⟩
  obtain ⟨c, -, stands⟩ := exists_of_mem_right digits member
  exact lt_of_hexDigit? stands

/-- Runs of digits with hyphens between them. -/
structure Grouping (text a b c d e : List Char) : Prop where
  text : text = a ++ '-' :: (b ++ '-' :: (c ++ '-' :: (d ++ '-' :: e)))
  first : a.length = 8
  second : b.length = 4
  third : c.length = 4
  fourth : d.length = 4
  fifth : e.length = 12

/-- The grouped form is read as the plain one without its hyphens. -/
theorem grouped?_eq_some_iff :
    grouped? text = some uuid ↔
      ∃ a b c d e, Grouping text a b c d e ∧ plain? (a ++ b ++ c ++ d ++ e) = some uuid := by
  constructor
  · intro read
    rw [grouped?] at read
    split_ifs at read with formed
    obtain ⟨full, hyphens⟩ : text.length = 36 ∧ ∀ place ∈ hyphenPlaces, text[place]? = some '-' := by
      simpa using formed
    have cut {place : Nat} (hyphen : place ∈ hyphenPlaces) :
        text.drop place = '-' :: text.drop (place + 1) := by
      obtain ⟨inside, same⟩ := List.getElem?_eq_some_iff.mp (hyphens place hyphen)
      rw [List.drop_eq_getElem_cons inside, same]
    have run (place : Nat) : text.drop place = (text.drop place).take 4 ++ text.drop (place + 4) := by
      rw [← List.drop_drop, List.take_append_drop]
    refine ⟨_, _, _, _, _, ⟨?_, ?_, ?_, ?_, ?_, ?_⟩, read⟩
    · rw [← cut (by decide : 23 ∈ hyphenPlaces), ← run 19, ← cut (by decide : 18 ∈ hyphenPlaces),
        ← run 14, ← cut (by decide : 13 ∈ hyphenPlaces), ← run 9,
        ← cut (by decide : 8 ∈ hyphenPlaces), List.take_append_drop]
    all_goals
      simp only [List.length_take, List.length_drop]
      omega
  · rintro ⟨a, b, c, d, e, ⟨rfl, first, second, third, fourth, fifth⟩, read⟩
    rw [grouped?]
    simpa (disch := omega) [hyphenPlaces, List.getElem?_append, List.take_append, List.drop_append,
      List.getElem?_cons_zero, first, second, third, fourth, fifth, List.drop_of_length_le] using read

private theorem isPart_of_mem_grouped (read : grouped? text = some uuid) :
    text.length = 36 ∧ ∀ c ∈ text, IsPart c := by
  obtain ⟨a, b, c, d, e, ⟨rfl, first, second, third, fourth, fifth⟩, digits⟩ :=
    grouped?_eq_some_iff.mp read
  have all := isSome_of_mem_plain digits
  simp only [List.forall_mem_append] at all
  obtain ⟨⟨⟨⟨all₁, all₂⟩, all₃⟩, all₄⟩, all₅⟩ := all
  have part {run : List Char} (all : ∀ c ∈ run, (hexDigit? c).isSome) : ∀ c ∈ run, IsPart c :=
    fun c member => .inl (all c member)
  constructor
  · simp [first, second, third, fourth, fifth]
  · simp only [List.forall_mem_append, List.forall_mem_cons]
    exact ⟨part all₁, .inr rfl, part all₂, .inr rfl, part all₃, .inr rfl, part all₄, .inr rfl, part all₅⟩

/-- The character may stand around the grouped form. -/
def IsWrapping (c : Char) : Prop := c.toLower ∈ nameSpace ∨ c = '\x7b' ∨ c = '\x7d'

instance (c : Char) : Decidable (IsWrapping c) := inferInstanceAs (Decidable (_ ∨ _ ∨ _))

/-- The text starts with a character that may stand in front of the grouped form. -/
def IsWrapped (text : List Char) : Prop := ∃ c ∈ text.head?, c.toLower = 'u' ∨ c = '\x7b'

private theorem nameSpace_eq : nameSpace = ['u', 'r', 'n', ':', 'u', 'u', 'i', 'd', ':'] := by decide

/-- A text is a part in front, the grouped form and a part behind, and only a wrapped one has parts
beside the form. -/
theorem exists_unwrapped (text : List Char) :
    ∃ front back, text = front ++ unwrapped text ++ back ∧ (∀ c ∈ front ++ back, IsWrapping c) ∧
      (front ++ back ≠ [] → IsWrapped text) := by
  rw [unwrapped]
  split_ifs with named braced
  · have name : (text.take nameSpace.length).map Char.toLower = nameSpace := by
      rw [List.map_take]
      exact (List.prefix_iff_eq_take.mp (List.isPrefixOf_iff_prefix.mp named)).symm
    refine ⟨text.take nameSpace.length, [], ?_, ?_, fun _ => ?_⟩
    · rw [List.append_nil, List.take_append_drop]
    · rw [List.append_nil]
      intro c member
      left
      rw [← name]
      exact List.mem_map_of_mem member
    · cases text with
      | nil => cases named
      | cons c rest =>
        rw [nameSpace_eq] at name
        exact ⟨c, rfl, .inl (List.cons.inj name).1⟩
  · obtain ⟨opening, closing⟩ : text.head? = some '\x7b' ∧ text.getLast? = some '\x7d' := by
      simpa using braced
    cases text with
    | nil => cases opening
    | cons c rest =>
      cases opening
      -- A single brace does not both open and close.
      have closed : rest.getLast? = some '\x7d' := by
        cases rest with
        | nil => cases closing
        | cons d rest => simpa using closing
      refine ⟨['\x7b'], ['\x7d'], ?_, ?_, fun _ => ⟨'\x7b', rfl, .inr rfl⟩⟩
      · rw [List.tail_cons, List.cons_append, List.nil_append, List.cons_append,
          List.dropLast_append_getLast? '\x7d' closed]
      · rintro c member
        rcases List.mem_pair.mp member with rfl | rfl
        · exact .inr (.inl rfl)
        · exact .inr (.inr rfl)
  · exact ⟨[], [], by simp, by simp, by simp⟩

private theorem unwrapped_of_not_isWrapped (bare : ¬IsWrapped text) : unwrapped text = text := by
  obtain ⟨front, back, whole, -, wraps⟩ := exists_unwrapped text
  have empty : front ++ back = [] := by
    by_contra wrapping
    exact bare (wraps wrapping)
  obtain ⟨rfl, rfl⟩ := List.append_eq_nil_iff.mp empty
  simpa using whole.symm

/-- A text that is read as an identifier is long enough for it, and consists of the characters of the
grouped form and perhaps some that wrap it. -/
theorem ofChars?_eq_some (read : ofChars? text = some uuid) :
    uuid.Sound ∧ 32 ≤ text.length ∧ (∀ c ∈ text, IsPart c ∨ IsWrapping c) ∧
      (¬IsWrapped text → ∀ c ∈ text, IsPart c) := by
  rw [ofChars?] at read
  split_ifs at read with plain
  · have all := isSome_of_mem_plain read
    exact ⟨.of_plain? read, Nat.le_of_eq plain.symm, fun c member => .inl (.inl (all c member)),
      fun _ c member => .inl (all c member)⟩
  · obtain ⟨length, parts⟩ := isPart_of_mem_grouped read
    have sound : uuid.Sound := by
      obtain ⟨_, _, _, _, _, -, digits⟩ := grouped?_eq_some_iff.mp read
      exact .of_plain? digits
    obtain ⟨front, back, whole, wrapping, -⟩ := exists_unwrapped text
    refine ⟨sound, ?_, ?_, fun bare => ?_⟩
    · have longer := congrArg List.length whole
      rw [List.length_append, List.length_append, length] at longer
      omega
    · rw [List.forall_mem_append] at wrapping
      rw [whole, List.forall_mem_append, List.forall_mem_append]
      exact ⟨⟨fun c member => .inr (wrapping.1 c member), fun c member => .inl (parts c member)⟩,
        fun c member => .inr (wrapping.2 c member)⟩
    · rwa [unwrapped_of_not_isWrapped bare] at parts

theorem exists_grouping_chars {uuid : Uuid} (sound : uuid.Sound) :
    ∃ a b c d e, Grouping uuid.chars a b c d e ∧
      a ++ b ++ c ++ d ++ e = uuid.digits.map Nat.digitChar := by
  have length : (uuid.digits.map Nat.digitChar).length = 32 := by rw [List.length_map, sound.length]
  rw [chars]
  generalize uuid.digits.map Nat.digitChar = text at length ⊢
  have run (place : Nat) (rest : List Char) :
      text.take place ++ ((text.drop place).take 4 ++ rest) = text.take (place + 4) ++ rest := by
    rw [← List.append_assoc, ← List.take_add]
  refine ⟨text.take 8, (text.drop 8).take 4, (text.drop 12).take 4, (text.drop 16).take 4,
    text.drop 20, ⟨?_, ?_, ?_, ?_, ?_, ?_⟩, ?_⟩
  · simp only [List.append_assoc, List.cons_append]
  case refine_7 =>
    simp only [List.append_assoc]
    rw [run 8, run 12, run 16, List.take_append_drop]
  all_goals simp [length]

private theorem grouped?_chars {uuid : Uuid} (sound : uuid.Sound) :
    grouped? uuid.chars = some uuid := by
  obtain ⟨a, b, c, d, e, grouping, whole⟩ := exists_grouping_chars sound
  have digits : plain? (a ++ b ++ c ++ d ++ e) = some uuid := by
    rw [plain?_eq_some_iff, whole, List.length_map, sound.length, List.forall₂_map_left_iff,
      List.forall₂_same]
    exact ⟨rfl, fun digit member => hexDigit?_digitChar (sound.digits digit member)⟩
  exact grouped?_eq_some_iff.mpr ⟨a, b, c, d, e, grouping, digits⟩

theorem isPart_of_mem_chars {uuid : Uuid} (sound : uuid.Sound) :
    uuid.chars.length = 36 ∧ ∀ c ∈ uuid.chars, IsPart c :=
  isPart_of_mem_grouped (grouped?_chars sound)

/-- An identifier is read back from its canonical text. -/
theorem ofChars?_chars {uuid : Uuid} (sound : uuid.Sound) : ofChars? uuid.chars = some uuid := by
  obtain ⟨length, parts⟩ := isPart_of_mem_chars sound
  have bare : ¬IsWrapped uuid.chars := by
    rintro ⟨c, first, wraps⟩
    rcases parts c (List.mem_of_head? first) with digit | rfl
    · exact not_wraps_of_hexDigit? digit wraps
    · revert wraps
      decide
  rw [ofChars?, if_neg (by omega), unwrapped_of_not_isWrapped bare, grouped?_chars sound]

end Uuid

end Intake
