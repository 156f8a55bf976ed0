import Intake.Proofs.Pattern.Spans
import Mathlib.Computability.Language

/-! # Patterns as languages

A pattern without assertions has a language: the texts that it makes up, whatever stands around them.
Sequence is the product of languages and a repetition a union of powers. A pattern that is tied to
both ends of the text is found in a text exactly when the whole of it belongs to the language.
-/

namespace Intake.Pattern

open Unicode

/-- The pattern asserts nothing about a position. -/
def isPlain : Pattern → Bool
  | .empty => true
  | .char _ => true
  | .assertion _ => false
  | .sequence first second => first.isPlain && second.isPlain
  | .choice first second => first.isPlain && second.isPlain
  | .repeated _ _ body => body.isPlain
  | .group body => body.isPlain

/-- The texts of a single character of the set. -/
def single (set : CodeRanges) : Language Char := fun text => ∃ c, set.contains c ∧ text = [c]

/-- The texts that a pattern makes up. Patterns with assertions have no language. -/
def language : Pattern → Language Char
  | .empty => 1
  | .char set => single set
  | .assertion _ => 0
  | .sequence first second => first.language * second.language
  | .choice first second => first.language + second.language
  | .repeated least most? body =>
    fun text => ∃ extra, (∀ most ∈ most?, extra ≤ most - least) ∧ text ∈ body.language ^ (least + extra)
  | .group body => body.language

variable {text : List Char} {i j k : Nat}

/-- The part of a text between two positions. -/
def part (text : List Char) (i j : Nat) : List Char := (text.drop i).take (j - i)

private theorem part_self : part text i i = [] := by
  rw [part, Nat.sub_self, List.take_zero]

private theorem part_all : part text 0 text.length = text := by
  rw [part, List.drop_zero, Nat.sub_zero, List.take_length]

private theorem part_append_part (first : i ≤ j) (second : j ≤ k) :
    part text i j ++ part text j k = part text i k := by
  have total : k - i = (j - i) + (k - j) := by omega
  have same : j = i + (j - i) := by omega
  rw [part, part, part, total, List.take_add, List.drop_drop, ← same]

private theorem length_part (inside : j ≤ text.length) : (part text i j).length = j - i := by
  rw [part, List.length_take, List.length_drop]
  omega

/-- A part is empty where it ends at its start. -/
theorem eq_iff_part_eq_nil (start : i ≤ text.length) :
    i = j ↔ i ≤ j ∧ j ≤ text.length ∧ part text i j = [] := by
  constructor
  · rintro rfl
    exact ⟨le_refl _, start, part_self⟩
  · rintro ⟨order, inside, nothing⟩
    have none := congrArg List.length nothing
    rw [length_part inside, List.length_nil] at none
    omega

/-- A part that is put together from two texts is cut where the first one ends. -/
theorem part_eq_append_iff {front back : List Char} (order : i ≤ k) (inside : k ≤ text.length) :
    part text i k = front ++ back ↔
      ∃ j, i ≤ j ∧ j ≤ k ∧ part text i j = front ∧ part text j k = back := by
  constructor
  · intro whole
    have long := congrArg List.length whole
    rw [length_part inside, List.length_append] at long
    have cut : i ≤ i + front.length ∧ i + front.length ≤ k := by omega
    rw [← part_append_part cut.1 cut.2] at whole
    have split := List.append_inj whole (by rw [length_part (by omega)]; omega)
    exact ⟨_, cut.1, cut.2, split.1, split.2⟩
  · rintro ⟨j, first, second, rfl, rfl⟩
    exact (part_append_part first second).symm

private theorem part_eq_singleton_iff {c : Char} (inside : j ≤ text.length) :
    part text i j = [c] ↔ j = i + 1 ∧ text[i]? = some c := by
  constructor
  · intro one
    have long := congrArg List.length one
    rw [length_part inside, List.length_singleton] at long
    have next : j = i + 1 := by omega
    subst next
    rw [part, Nat.add_sub_cancel_left, List.take_one, List.head?_drop] at one
    exact ⟨rfl, by cases here : text[i]? <;> simp_all⟩
  · rintro ⟨rfl, here⟩
    rw [part, Nat.add_sub_cancel_left, List.take_one, List.head?_drop, here]
    rfl

/-- Where every step makes up a text of a language, so many steps make up one of its power. -/
theorem rounds_iff_mem_pow {step : Nat → Nat → Prop} {spoken : Language Char} {count : Nat}
    (steps : ∀ i j, i ≤ text.length →
      (step i j ↔ i ≤ j ∧ j ≤ text.length ∧ part text i j ∈ spoken)) (start : i ≤ text.length) :
    Rounds step count i j ↔ i ≤ j ∧ j ≤ text.length ∧ part text i j ∈ spoken ^ count := by
  induction count generalizing j with
  | zero =>
    rw [Rounds.zero_iff, pow_zero, Language.mem_one]
    exact eq_iff_part_eq_nil start
  | succ count ih =>
    rw [Rounds.succ_iff, pow_succ, Language.mem_mul]
    constructor
    · rintro ⟨k, before, last⟩
      obtain ⟨first, middle, power⟩ := ih.mp before
      obtain ⟨second, inside, spoken⟩ := (steps k j middle).mp last
      exact ⟨first.trans second, inside, _, power, _, spoken, part_append_part first second⟩
    · rintro ⟨order, inside, front, power, back, spoken, whole⟩
      obtain ⟨k, first, second, rfl, rfl⟩ := (part_eq_append_iff order inside).mp whole.symm
      exact ⟨k, ih.mpr ⟨first, by omega, power⟩,
        (steps k j (by omega)).mpr ⟨second, inside, spoken⟩⟩

/-- A plain pattern leads from one position to another when the part between them is in its
language. -/
theorem spans_iff {pattern : Pattern} (plain : pattern.isPlain) (start : i ≤ text.length) :
    Spans text.toArray pattern i j ↔
      i ≤ j ∧ j ≤ text.length ∧ part text i j ∈ pattern.language := by
  induction pattern generalizing i j with
  | empty =>
    rw [Spans, language, Language.mem_one]
    exact eq_iff_part_eq_nil start
  | char set =>
    rw [Spans, language]
    simp only [List.getElem?_toArray]
    constructor
    · rintro ⟨rfl, c, here, member⟩
      have inside : i < text.length := (List.getElem?_eq_some_iff.mp here).choose
      exact ⟨Nat.le_succ i, inside, c, member, (part_eq_singleton_iff inside).mpr ⟨rfl, here⟩⟩
    · rintro ⟨-, inside, c, member, one⟩
      obtain ⟨next, here⟩ := (part_eq_singleton_iff inside).mp one
      exact ⟨next, c, here, member⟩
  | assertion condition => cases plain
  | sequence first second ih ih' =>
    rw [isPlain, Bool.and_eq_true] at plain
    rw [Spans, language, Language.mem_mul]
    constructor
    · rintro ⟨k, before, after⟩
      obtain ⟨order, middle, front⟩ := (ih plain.1 start).mp before
      obtain ⟨order', inside, back⟩ := (ih' plain.2 middle).mp after
      exact ⟨order.trans order', inside, _, front, _, back, part_append_part order order'⟩
    -- The part is cut where the text of the first pattern ends.
    · rintro ⟨order, inside, front, known, back, known', whole⟩
      obtain ⟨k, before, after, rfl, rfl⟩ := (part_eq_append_iff order inside).mp whole.symm
      exact ⟨k, (ih plain.1 start).mpr ⟨before, by omega, known⟩,
        (ih' plain.2 (by omega)).mpr ⟨after, inside, known'⟩⟩
  | choice first second ih ih' =>
    rw [isPlain, Bool.and_eq_true] at plain
    rw [Spans, ih plain.1 start, ih' plain.2 start, language, Language.mem_add, ← and_or_left,
      ← and_or_left]
  | repeated least most? body ih =>
    have steps : ∀ i j, i ≤ text.length → _ := fun i j start => ih (i := i) (j := j) plain start
    rw [Spans]
    simp only [rounds_iff_mem_pow steps start]
    constructor
    · rintro ⟨extra, few, order, inside, power⟩
      exact ⟨order, inside, extra, few, power⟩
    · rintro ⟨order, inside, extra, few, power⟩
      exact ⟨extra, few, order, inside, power⟩
  | group body ih => exact ih plain start

/-- A set of one character makes up the text of that character. -/
theorem mem_char_single {c : Char} :
    text ∈ (Pattern.char (.single c.toNat)).language ↔ text = [c] := by
  have contains_iff (d : Char) : (CodeRanges.single c.toNat).contains d ↔ d = c := by
    rw [← Char.toNat_inj]
    simp only [CodeRanges.single, CodeRanges.contains, CodeRanges.containsCode, List.any_cons,
      List.any_nil, Bool.or_false, Bool.and_eq_true, decide_eq_true_eq]
    omega
  rw [Pattern.language]
  constructor
  · rintro ⟨d, member, rfl⟩
    rw [(contains_iff d).mp member]
  · rintro rfl
    exact ⟨c, (contains_iff c).mpr rfl, rfl⟩

private theorem mem_single_pow {set : CodeRanges} {count : Nat} :
    text ∈ single set ^ count ↔ text.length = count ∧ ∀ c ∈ text, set.contains c := by
  induction count generalizing text with
  | zero =>
    rw [pow_zero, Language.mem_one, List.length_eq_zero_iff]
    constructor
    · rintro rfl
      exact ⟨rfl, List.forall_mem_nil _⟩
    · exact And.left
  | succ count ih =>
    rw [pow_succ', Language.mem_mul]
    constructor
    · rintro ⟨_, ⟨c, member, rfl⟩, rest, power, rfl⟩
      obtain ⟨rfl, others⟩ := ih.mp power
      exact ⟨by simp, List.forall_mem_cons.mpr ⟨member, others⟩⟩
    · rintro ⟨long, all⟩
      obtain ⟨c, rest, rfl⟩ := List.exists_cons_of_length_eq_add_one long
      obtain ⟨member, others⟩ := List.forall_mem_cons.mp all
      exact ⟨[c], ⟨c, member, rfl⟩, rest, ih.mpr ⟨Nat.succ.inj long, others⟩, rfl⟩

/-- A repeated character makes up the texts of such characters that are long enough and not too
long. -/
theorem mem_repeated_char {set : CodeRanges} {least : Nat} {most? : Option Nat} :
    text ∈ (Pattern.repeated least most? (.char set)).language ↔
      least ≤ text.length ∧ (∀ most ∈ most?, text.length - least ≤ most - least) ∧
        ∀ c ∈ text, set.contains c := by
  constructor
  · rintro ⟨extra, few, power⟩
    obtain ⟨long, all⟩ := mem_single_pow.mp power
    refine ⟨by omega, fun most given => ?_, all⟩
    have allowed := few most given
    omega
  · rintro ⟨enough, few, all⟩
    exact ⟨text.length - least, few, mem_single_pow.mpr ⟨by omega, all⟩⟩

/-- What may stand once at most is left out or stands there. -/
theorem mem_optional {body : Pattern} :
    text ∈ (Pattern.repeated 0 (some 1) body).language ↔ text = [] ∨ text ∈ body.language := by
  constructor
  · rintro ⟨extra, few, power⟩
    have once := few 1 rfl
    rcases Nat.le_one_iff_eq_zero_or_eq_one.mp once with rfl | rfl
    · exact .inl power
    · exact .inr (by simpa using power)
  · rintro (rfl | known)
    · exact ⟨0, by simp, by simp⟩
    · exact ⟨1, by simp, by simpa using known⟩

/-- Parts in a row, tied to both ends of the text. -/
def anchored (parts : List Pattern) : Pattern :=
  sequenceOf (.assertion .textStart :: parts ++ [.assertion .textEnd])

private theorem spans_sequenceOf_iff {parts : List Pattern} {last : Pattern} {whole : Array Char} :
    Spans whole (sequenceOf (parts ++ [last])) i j ↔
      ∃ k, Spans whole (parts.foldr .sequence .empty) i k ∧ Spans whole last k j := by
  induction parts generalizing i with
  | nil => simp [sequenceOf, Spans]
  | cons first rest ih =>
    have more : sequenceOf (first :: rest ++ [last]) =
        .sequence first (sequenceOf (rest ++ [last])) := by
      cases rest <;> rfl
    rw [more, Spans, List.foldr_cons]
    simp only [ih, Spans]
    constructor
    · rintro ⟨l, start, k, middle, finish⟩
      exact ⟨k, ⟨l, start, middle⟩, finish⟩
    · rintro ⟨k, ⟨l, start, middle⟩, finish⟩
      exact ⟨l, start, k, middle, finish⟩

/-- Parts that are tied to both ends are found in the texts that they make up. -/
theorem isFoundIn_anchored_iff {parts : List Pattern} (plain : parts.all isPlain) {text : String} :
    (anchored parts).isFoundIn text ↔ text.toList ∈ (parts.map language).prod := by
  have plainAll : (parts.foldr Pattern.sequence .empty).isPlain := by
    clear text
    induction parts with
    | nil => rfl
    | cons first rest ih =>
      rw [List.all_cons, Bool.and_eq_true] at plain
      rw [List.foldr_cons, isPlain, Bool.and_eq_true]
      exact ⟨plain.1, ih plain.2⟩
  have languageAll : (parts.foldr Pattern.sequence .empty).language = (parts.map language).prod := by
    clear plain plainAll
    induction parts with
    | nil => rfl
    | cons first rest ih => rw [List.foldr_cons, language, ih, List.map_cons, List.prod_cons]
  rw [isFoundIn_iff, anchored]
  simp only [spans_sequenceOf_iff, List.foldr_cons, Spans, Assertion.holds, beq_iff_eq]
  constructor
  · rintro ⟨i, j, -, k, ⟨_, ⟨rfl, -, rfl⟩, middle⟩, rfl, -, rfl⟩
    have whole := ((spans_iff plainAll (Nat.zero_le _)).mp middle).2.2
    rwa [List.size_toArray, part_all, languageAll] at whole
  · intro member
    have middle : Spans text.toList.toArray (parts.foldr Pattern.sequence .empty) 0 text.toList.length :=
      (spans_iff plainAll (Nat.zero_le _)).mpr
        ⟨Nat.zero_le _, le_refl _, by rwa [part_all, languageAll]⟩
    exact ⟨0, _, Nat.zero_le _, _, ⟨0, ⟨rfl, Nat.zero_le _, rfl⟩, middle⟩, rfl, by simp, by simp⟩

end Intake.Pattern
