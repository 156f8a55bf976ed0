import Intake.Pattern.Matching
import Mathlib.Logic.Function.Iterate
import Mathlib.Order.Nat

/-! # What it means for a pattern to be found

A pattern leads from one position of a text to another. This relation follows the pattern alone: a
repetition is any number of rounds that its counts allow. Sets of positions are computed with a bound
on the rounds, which makes no difference: positions never move back, so in more rounds than the text
has characters one round stays where it is, and it may as well be left out or taken again.
-/

namespace Intake

/-- A step taken a number of times leads from one position to another. -/
inductive Rounds (step : Nat → Nat → Prop) : Nat → Nat → Nat → Prop
  | none (i : Nat) : Rounds step 0 i i
  | next {count i j k : Nat} (before : Rounds step count i j) (last : step j k) :
      Rounds step (count + 1) i k

namespace Rounds

variable {step : Nat → Nat → Prop} {count more i j k : Nat}

theorem zero_iff : Rounds step 0 i j ↔ i = j := by
  constructor
  · rintro ⟨⟩
    rfl
  · rintro rfl
    exact .none i

theorem succ_iff : Rounds step (count + 1) i k ↔ ∃ j, Rounds step count i j ∧ step j k := by
  constructor
  · rintro (_ | ⟨before, last⟩)
    exact ⟨_, before, last⟩
  · rintro ⟨j, before, last⟩
    exact .next before last

private theorem add_iff : Rounds step (count + more) i k ↔
    ∃ j, Rounds step count i j ∧ Rounds step more j k := by
  induction more generalizing k with
  | zero => simp [zero_iff]
  | succ more ih =>
    rw [← Nat.add_assoc]
    simp only [succ_iff, ih]
    constructor
    · rintro ⟨l, ⟨j, first, second⟩, last⟩
      exact ⟨j, first, l, second, last⟩
    · rintro ⟨j, first, l, second, last⟩
      exact ⟨l, ⟨j, first, second⟩, last⟩

private theorem le (forward : ∀ i j, step i j → i ≤ j) (rounds : Rounds step count i j) : i ≤ j := by
  induction rounds with
  | none => exact le_refl _
  | next _ last ih => exact ih.trans (forward _ _ last)

/-- Where there are more rounds than the way is long, one of them stays where it is. -/
theorem exists_stay (forward : ∀ i j, step i j → i ≤ j) (rounds : Rounds step count i j)
    (short : j < i + count) :
    ∃ before after k, before + 1 + after = count ∧ Rounds step before i k ∧ step k k ∧
      Rounds step after k j := by
  induction rounds with
  | none => omega
  | @next count i j k before last ih =>
    have further := forward j k last
    by_cases same : j = k
    · subst same
      exact ⟨count, 0, j, rfl, before, last, .none j⟩
    · obtain ⟨first, rest, l, total, start, stay, finish⟩ := ih (by omega)
      exact ⟨first, rest + 1, l, by omega, start, stay, .next finish last⟩

private theorem stay (stays : step k k) (count : Nat) : Rounds step count k k := by
  induction count with
  | zero => exact .none k
  | succ count ih => exact .next ih stays

/-- As soon as there are more rounds than the way is long, their number does not matter. -/
theorem resize (forward : ∀ i j, step i j → i ≤ j) (rounds : Rounds step count i j)
    (short : j < i + count) (enough : j ≤ i + more) : Rounds step more i j := by
  induction count with
  | zero =>
    have further := rounds.le forward
    omega
  | succ count ih =>
    obtain ⟨before, after, k, total, start, stays, finish⟩ := rounds.exists_stay forward short
    by_cases fewer : count ≤ more
    · have filled := add_iff.mpr ⟨k, start, add_iff.mpr ⟨k, stay stays (more - count), finish⟩⟩
      rwa [show before + (more - count + after) = more by omega] at filled
    · have dropped := add_iff.mpr ⟨k, start, finish⟩
      rw [show before + after = count by omega] at dropped
      exact ih dropped (by omega)

end Rounds

namespace Positions

variable {i : Nat}

private theorem testBit_below (count : Nat) (holds : Nat → Bool) :
    (below count holds).testBit i ↔ i < count ∧ holds i := by
  induction count with
  | zero => simp [below]
  | succ count ih =>
    rw [below] at ih ⊢
    rw [List.range_succ, List.foldl_append, List.foldl_cons, List.foldl_nil]
    have last : (1 <<< count).testBit i = decide (count = i) := by
      rw [Nat.one_shiftLeft, Nat.testBit_two_pow]
    split_ifs with held
    · rw [Nat.testBit_or, Bool.or_eq_true, ih, last, decide_eq_true_iff]
      constructor
      · rintro (⟨small, holds⟩ | rfl)
        · exact ⟨by omega, holds⟩
        · exact ⟨Nat.lt_succ_self _, held⟩
      · rintro ⟨small, holds⟩
        rcases Nat.lt_succ_iff_lt_or_eq.mp small with less | rfl
        · exact .inl ⟨less, holds⟩
        · exact .inr rfl
    · rw [ih]
      constructor
      · exact fun ⟨small, holds⟩ => ⟨by omega, holds⟩
      · rintro ⟨small, holds⟩
        have other : i ≠ count := by
          rintro rfl
          exact held holds
        exact ⟨by omega, holds⟩

/-- Stopping when nothing changes any more makes no difference. -/
theorem iterate_eq (step : Positions → Positions) (count : Nat) (set : Positions) :
    iterate step count set = step^[count] set := by
  induction count generalizing set with
  | zero => rfl
  | succ count ih =>
    rw [iterate, Function.iterate_succ_apply]
    split_ifs with same
    · rw [same, Function.iterate_fixed same]
    · exact ih _

variable {reach : Positions → Positions} {step : Nat → Nat → Prop} {set : Positions} {j : Nat}

/-- A set that is moved on in rounds holds the positions that its members lead to. -/
theorem testBit_iterate (moves : ∀ set j, (reach set).testBit j ↔ ∃ i, set.testBit i ∧ step i j)
    (count : Nat) :
    (iterate reach count set).testBit j ↔ ∃ i, set.testBit i ∧ Rounds step count i j := by
  rw [iterate_eq]
  induction count generalizing j with
  | zero => simp [Rounds.zero_iff]
  | succ count ih =>
    rw [Function.iterate_succ_apply', moves]
    simp only [ih, Rounds.succ_iff]
    constructor
    · rintro ⟨k, ⟨i, member, before⟩, last⟩
      exact ⟨i, member, k, before, last⟩
    · rintro ⟨i, member, k, before, last⟩
      exact ⟨k, ⟨i, member, before⟩, last⟩

/-- A set that grows in rounds holds what its members lead to in at most so many rounds. -/
theorem testBit_iterate_or
    (moves : ∀ set j, (reach set).testBit j ↔ ∃ i, set.testBit i ∧ step i j) (count : Nat) :
    (iterate (fun set => set ||| reach set) count set).testBit j ↔
      ∃ i, set.testBit i ∧ ∃ rounds ≤ count, Rounds step rounds i j := by
  rw [iterate_eq]
  induction count generalizing j with
  | zero => simp [Rounds.zero_iff]
  | succ count ih =>
    rw [Function.iterate_succ_apply', Nat.testBit_or, Bool.or_eq_true, moves, ih]
    constructor
    · rintro (⟨i, member, rounds, few, way⟩ | ⟨k, inside, last⟩)
      · exact ⟨i, member, rounds, by omega, way⟩
      · obtain ⟨i, member, rounds, few, way⟩ := ih.mp inside
        exact ⟨i, member, rounds + 1, by omega, .next way last⟩
    · rintro ⟨i, member, rounds, few, way⟩
      rcases Nat.le_succ_iff.mp few with fewer | rfl
      · exact .inl ⟨i, member, rounds, fewer, way⟩
      · obtain ⟨k, before, last⟩ := Rounds.succ_iff.mp way
        exact .inr ⟨k, ih.mpr ⟨i, member, count, le_refl _, before⟩, last⟩

end Positions

namespace Pattern

variable {text : Array Char}

/-- The pattern leads from one position of the text to another. A repetition takes the least number of
rounds, and then some more if it may. -/
def Spans (text : Array Char) : Pattern → Nat → Nat → Prop
  | .empty, i, j => i = j
  | .char set, i, j => j = i + 1 ∧ ∃ c, text[i]? = some c ∧ set.contains c
  | .assertion condition, i, j => i = j ∧ i ≤ text.size ∧ condition.holds text i
  | .sequence first second, i, j => ∃ k, Spans text first i k ∧ Spans text second k j
  | .choice first second, i, j => Spans text first i j ∨ Spans text second i j
  | .repeated least most? body, i, j =>
    ∃ extra, (∀ most ∈ most?, extra ≤ most - least) ∧ Rounds (Spans text body) (least + extra) i j
  | .group body, i, j => Spans text body i j

/-- A pattern never leads back, and not out of the text. -/
theorem Spans.bounds {pattern : Pattern} {i j : Nat} (spans : Spans text pattern i j) :
    i ≤ j ∧ j ≤ max i text.size := by
  induction pattern generalizing i j with
  | empty =>
    obtain rfl := spans
    omega
  | char set =>
    obtain ⟨rfl, c, here, -⟩ := spans
    have inside : i < text.size := (Array.getElem?_eq_some_iff.mp here).choose
    omega
  | assertion condition =>
    obtain ⟨rfl, -⟩ := spans
    omega
  | sequence first second ih ih' =>
    obtain ⟨k, start, finish⟩ := spans
    have before := ih start
    have after := ih' finish
    omega
  | choice first second ih ih' => exact spans.elim ih ih'
  | repeated least most? body ih =>
    obtain ⟨extra, -, rounds⟩ := spans
    generalize least + extra = count at rounds
    induction rounds with
    | none => omega
    | next _ last before =>
      have further := ih last
      omega
  | group body ih => exact ih spans

/-- In more rounds than the text has characters, the number of rounds does not matter. -/
theorem rounds_capped_iff {body : Pattern} {count cap i j : Nat} (ample : text.size < cap) :
    Rounds (Spans text body) (min count cap) i j ↔ Rounds (Spans text body) count i j := by
  rcases Nat.le_total count cap with few | many
  · rw [Nat.min_eq_left few]
  · rw [Nat.min_eq_right many]
    have forward : ∀ i j, Spans text body i j → i ≤ j := fun _ _ spans => spans.bounds.1
    have near {count : Nat} (rounds : Rounds (Spans text body) count i j) : j ≤ i + text.size := by
      have spans : Spans text (.repeated count none body) i j := ⟨0, by simp, rounds⟩
      have bounds := spans.bounds
      omega
    constructor
    · intro rounds
      have close := near rounds
      exact rounds.resize forward (by omega) (by omega)
    · intro rounds
      have close := near rounds
      exact rounds.resize forward (by omega) (by omega)

/-- The positions at which a pattern may end are those that it leads to from where it may start. -/
theorem testBit_ends (pattern : Pattern) (starts : Positions) (j : Nat) :
    (pattern.ends text starts).testBit j ↔ ∃ i, starts.testBit i ∧ Spans text pattern i j := by
  induction pattern generalizing starts j with
  | empty => simp [ends, Spans]
  | char set =>
    rw [ends, Nat.testBit_shiftLeft, Bool.and_eq_true, decide_eq_true_iff, Positions.testBit_below,
      Bool.and_eq_true, Option.any_eq_true]
    constructor
    · rintro ⟨positive, -, member, c, here, inside⟩
      exact ⟨j - 1, member, by omega, c, here, inside⟩
    · rintro ⟨i, member, rfl, c, here, inside⟩
      refine ⟨Nat.le_add_left 1 i, ?_, member, c, here, inside⟩
      exact (Array.getElem?_eq_some_iff.mp here).choose
  | assertion condition =>
    rw [ends, Positions.testBit_below, Bool.and_eq_true]
    constructor
    · rintro ⟨inside, member, held⟩
      exact ⟨j, member, rfl, Nat.le_of_lt_succ inside, held⟩
    · rintro ⟨_, member, rfl, inside, held⟩
      exact ⟨Nat.lt_succ_of_le inside, member, held⟩
  | sequence first second ih ih' =>
    rw [ends, ih']
    simp only [ih, Spans]
    constructor
    · rintro ⟨k, ⟨i, member, start⟩, finish⟩
      exact ⟨i, member, k, start, finish⟩
    · rintro ⟨i, member, k, start, finish⟩
      exact ⟨k, ⟨i, member, start⟩, finish⟩
  | choice first second ih ih' =>
    rw [ends, Nat.testBit_or, Bool.or_eq_true, ih, ih']
    simp only [Spans, and_or_left, exists_or]
  | repeated least most? body ih =>
    -- More rounds than there are characters lead nowhere new, so the count is capped.
    have ample : text.size < text.size + 1 := Nat.lt_succ_self _
    rw [ends.eq_def]
    dsimp only
    rw [Positions.testBit_iterate_or ih]
    simp only [Positions.testBit_iterate ih, rounds_capped_iff ample]
    constructor
    · rintro ⟨k, ⟨i, member, required⟩, extra, few, optional⟩
      refine ⟨i, member, extra, ?_, Rounds.add_iff.mpr ⟨k, required, optional⟩⟩
      rintro most ⟨⟩
      exact few.trans (Nat.min_le_left ..)
    · rintro ⟨i, member, extra, few, rounds⟩
      obtain ⟨k, required, optional⟩ := Rounds.add_iff.mp rounds
      refine ⟨k, ⟨i, member, required⟩, min extra (text.size + 1), ?_,
        (rounds_capped_iff ample).mpr optional⟩
      cases most? with
      | none => exact Nat.min_le_right ..
      | some most =>
        have allowed := few most rfl
        dsimp only
        omega
  | group body ih => exact ih starts j

/-- A pattern is found in a text when it leads from some position of it to another one. -/
theorem isFoundIn_iff {pattern : Pattern} {text : String} :
    pattern.isFoundIn text ↔
      ∃ i j, i ≤ text.toList.length ∧ Spans text.toList.toArray pattern i j := by
  have start (i : Nat) : (2 ^ (text.toList.toArray.size + 1) - 1).testBit i ↔
      i ≤ text.toList.length := by
    rw [Nat.testBit_two_pow_sub_one, decide_eq_true_iff, Nat.lt_succ_iff, List.size_toArray]
  rw [isFoundIn, bne_iff_ne]
  constructor
  · intro some
    obtain ⟨j, ended⟩ := Nat.exists_testBit_of_ne_zero some
    obtain ⟨i, member, spans⟩ := (testBit_ends pattern _ j).mp ended
    exact ⟨i, j, (start i).mp member, spans⟩
  · rintro ⟨i, j, inside, spans⟩ nothing
    have ended := (testBit_ends pattern _ j).mpr ⟨i, (start i).mpr inside, spans⟩
    rw [nothing, Nat.zero_testBit] at ended
    cases ended

end Pattern

end Intake
