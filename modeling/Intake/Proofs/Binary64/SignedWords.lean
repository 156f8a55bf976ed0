import Intake.Proofs.Binary64.Integers

/-! # Whole numbers at the ends of a signed word

From `2 ^ 63` on the magnitudes are `2 ^ 11` apart, so `2 ^ 63` is the nearest one to every integer up
to half of that above it. As a positive number it is no signed word any more, and as a negative one it
is the least. So a decimal integer beyond the range of a signed word is rounded into it in one place
only: shortly below the least word.
-/

namespace Intake.Binary64

variable {x : Binary64} {value : Int}

private theorem toSigned?_eq_some (units : x.units = value * unitsPerOne) (fits : fitsSigned value) :
    x.toSigned? = some value := by
  have positive : (unitsPerOne : Int) ≠ 0 := by exact_mod_cast unitsPerOne_pos.ne'
  have size : x.magnitude = value.natAbs * unitsPerOne := by
    rw [← natAbs_units, units, Int.natAbs_mul, Int.natAbs_natCast]
  have whole : x.isWhole := by
    rw [isWhole, size, Nat.mul_mod_left]
    rfl
  rw [toSigned?, toInt?, if_pos whole, units, Int.mul_ediv_cancel _ positive, Option.filter_some,
    if_pos fits]

/-- What is less or greater than every signed word is none. -/
theorem toSigned?_eq_none
    (outside : x.units < -2 ^ 63 * unitsPerOne ∨ 2 ^ 63 * unitsPerOne ≤ x.units) :
    x.toSigned? = none := by
  have positive : (0 : Int) < unitsPerOne := Int.natCast_pos.mpr unitsPerOne_pos
  have beyond : x.units / unitsPerOne < -2 ^ 63 ∨ 2 ^ 63 ≤ x.units / unitsPerOne :=
    outside.imp (Int.ediv_lt_of_lt_mul positive) (Int.le_ediv_of_mul_le positive)
  have unfit : ¬fitsSigned (x.units / unitsPerOne) := by
    simp only [fitsSigned, Bool.and_eq_true, decide_eq_true_iff]
    omega
  rw [toSigned?, toInt?]
  split_ifs with whole
  · rw [Option.filter_some, if_neg unfit]
  · rfl

/-- The rank of the magnitude `2 ^ 63`. -/
def wordRank : Nat := 1085 * 2 ^ 52 + 2 ^ 52

/-- Magnitudes between `2 ^ 63` and `2 ^ 64` are multiples of `2 ^ 11`. -/
theorem magnitudeOfRank_word {steps : Nat} (few : steps ≤ 2 ^ 52) :
    magnitudeOfRank (wordRank + steps) = (2 ^ 63 + steps * 2 ^ 11) * unitsPerOne := by
  obtain ⟨power, same⟩ : ∃ power, power = 1074 := ⟨_, rfl⟩
  have units := unitsPerOne.eq_def
  have sum : 1085 = 11 + power := by omega
  rw [← same] at units
  rw [wordRank, Nat.add_assoc, magnitudeOfRank_scaled (by omega) (.inr (Nat.le_add_right _ _)), units,
    sum, Nat.pow_add]
  ring

private theorem magnitudeOfRank_wordRank : magnitudeOfRank wordRank = 2 ^ 63 * unitsPerOne := by
  have whole := @magnitudeOfRank_word 0 (Nat.zero_le _)
  rwa [Nat.add_zero, Nat.zero_mul, Nat.add_zero] at whole

/-- The magnitude `2 ^ 63` is the nearest one to what is no more than half a step above it. -/
theorem roundsTo_word_iff {n : Nat} (large : 2 ^ 63 ≤ n) :
    RoundsTo wordRank (n * unitsPerOne) 1 ↔ n ≤ 2 ^ 63 + 2 ^ 10 := by
  have next := @magnitudeOfRank_word 1 (by decide)
  have upper : twiceUpperEnd wordRank = 2 * ((2 ^ 63 + 2 ^ 10) * unitsPerOne) := by
    rw [twiceUpperEnd, magnitudeOfRank_wordRank, next]
    ring
  have lower : twiceLowerEnd wordRank ≤ 2 * (2 ^ 63 * unitsPerOne) := by
    have before : magnitudeOfRank (wordRank - 1) ≤ magnitudeOfRank wordRank :=
      magnitudeOfRank_strictMono.monotone (Nat.sub_le _ _)
    rw [magnitudeOfRank_wordRank] at before
    rw [twiceLowerEnd, magnitudeOfRank_wordRank]
    omega
  have grows : 2 ^ 63 * unitsPerOne ≤ n * unitsPerOne := Nat.mul_le_mul_right _ large
  have even : ¬wordRank % 2 = 1 := by decide
  constructor
  · intro rounds
    have most := rounds.upper
    rw [upper, Nat.mul_one] at most
    exact Nat.le_of_mul_le_mul_right (Nat.le_of_mul_le_mul_left most (by decide)) unitsPerOne_pos
  · intro close
    refine ⟨?_, ?_, fun odd => absurd odd even⟩
    · rw [Nat.mul_one]
      exact lower.trans (Nat.mul_le_mul_left 2 grows)
    · rw [upper, Nat.mul_one]
      exact Nat.mul_le_mul_left 2 (Nat.mul_le_mul_right _ close)

variable {negative : Bool} {n numerator : Nat}

/-- A decimal integer is rounded like the integer itself, unless it is out of all range. -/
theorem nearest?_of_ofDecimal? (read : ofDecimal? negative n 0 = some x) :
    nearest? negative (n * unitsPerOne) 1 = some x := by
  by_cases fits : n ≤ 2 ^ 64
  · rwa [← ofDecimal?_integer fits]
  · rw [ofDecimal?, if_neg (by omega)] at read
    split_ifs at read
    rwa [Int.neg_zero, Int.toNat_zero, pow_zero, Nat.mul_one] at read

private theorem le_rank_of_nearest? {rank : Nat} (rounds : nearest? negative numerator 1 = some x)
    (least : magnitudeOfRank rank ≤ numerator) : rank ≤ x.rank := by
  rw [(of_nearest?_eq_some rounds).2, ← nearestRank_magnitudeOfRank rank]
  exact nearestRank_mono Nat.one_pos Nat.one_pos (Nat.mul_le_mul_right _ least)

private theorem wordRank_le (read : ofDecimal? negative n 0 = some x) (large : 2 ^ 63 ≤ n) :
    wordRank ≤ x.rank := by
  apply le_rank_of_nearest? (nearest?_of_ofDecimal? read)
  rw [magnitudeOfRank_wordRank]
  exact Nat.mul_le_mul_right _ large

/-- No positive decimal integer is rounded into the range of signed words from above. -/
theorem toSigned?_ofDecimal?_above (large : 2 ^ 63 ≤ n) :
    (ofDecimal? false n 0).bind toSigned? = none := by
  cases read : ofDecimal? false n 0 with
  | none => rfl
  | some x =>
    have sign := (of_nearest?_eq_some (nearest?_of_ofDecimal? read)).1
    have least := magnitudeOfRank_strictMono.monotone (wordRank_le read large)
    rw [magnitudeOfRank_wordRank] at least
    refine toSigned?_eq_none (.inr ?_)
    rw [units, sign, if_neg Bool.false_ne_true, magnitude]
    exact_mod_cast least

/-- A negative decimal integer is rounded up to the least signed word if that is no more than half a
step away. -/
theorem toSigned?_ofDecimal?_below (large : 2 ^ 63 < n) :
    (ofDecimal? true n 0).bind toSigned? = if n ≤ 2 ^ 63 + 2 ^ 10 then some (-2 ^ 63) else none := by
  split_ifs with close
  · have rounds := (roundsTo_word_iff large.le).mpr close
    let least : Binary64 := ⟨true, wordRank, by decide⟩
    have read : ofDecimal? true n 0 = some least := by
      rw [ofDecimal?_integer (by omega)]
      exact @nearest?_eq_some least _ _ Nat.one_pos rounds
    have value : least.units = -2 ^ 63 * unitsPerOne := by
      rw [units, if_pos rfl, magnitude, magnitudeOfRank_wordRank]
      push_cast
      ring
    rw [read, Option.bind_some]
    exact toSigned?_eq_some value (by decide)
  · cases read : ofDecimal? true n 0 with
    | none => rfl
    | some x =>
      obtain ⟨sign, rank⟩ := of_nearest?_eq_some (nearest?_of_ofDecimal? read)
      have least := wordRank_le read large.le
      have other : x.rank ≠ wordRank := by
        rw [rank, Ne, nearestRank_eq_iff Nat.one_pos, roundsTo_word_iff large.le]
        exact close
      have beyond : magnitudeOfRank wordRank < x.magnitude :=
        magnitudeOfRank_strictMono (Nat.lt_of_le_of_ne least other.symm)
      rw [magnitudeOfRank_wordRank] at beyond
      refine toSigned?_eq_none (.inl ?_)
      rw [units, sign, if_pos rfl, Int.neg_mul, Int.neg_lt_neg_iff]
      exact_mod_cast beyond

end Intake.Binary64
