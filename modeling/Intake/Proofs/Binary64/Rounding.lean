import Intake.Binary64.Shortest
import Mathlib.Algebra.Order.Ring.Nat
import Mathlib.Order.Monotone.Basic
import Mathlib.Tactic.Ring

/-! # Rounding to the nearest magnitude

A ratio rounds to a rank when it lies in the interval that reaches halfway to the magnitudes of the
two neighbours, ends included for even ranks. The magnitudes ascend strictly, so no ratio rounds to
two ranks; the nearest rank of a ratio is one that it rounds to, hence the only one.
-/

namespace Intake.Binary64

/-- A rank is a significand and the number of times its spacing was doubled. -/
theorem magnitudeOfRank_scaled {significand shift : Nat} (bounded : significand ≤ 2 ^ 53)
    (normal : shift = 0 ∨ 2 ^ 52 ≤ significand) :
    magnitudeOfRank (shift * 2 ^ 52 + significand) = significand * 2 ^ shift := by
  by_cases small : significand < 2 ^ 52
  · have none : shift = 0 := by omega
    subst none
    rw [magnitudeOfRank, if_pos (by omega)]
    omega
  · rw [magnitudeOfRank, if_neg (by omega)]
    by_cases full : significand = 2 ^ 53
    · have rest : (shift * 2 ^ 52 + significand) % 2 ^ 52 = 0 := by omega
      have doubled : (shift * 2 ^ 52 + significand) / 2 ^ 52 - 1 = shift + 1 := by omega
      rw [rest, doubled, full, Nat.pow_succ]
      ring
    · have rest : 2 ^ 52 + (shift * 2 ^ 52 + significand) % 2 ^ 52 = significand := by omega
      have doubled : (shift * 2 ^ 52 + significand) / 2 ^ 52 - 1 = shift := by omega
      rw [rest, doubled]

private theorem exists_scaled (rank : Nat) : ∃ shift significand,
    rank = shift * 2 ^ 52 + significand ∧ significand < 2 ^ 53 ∧
      (shift = 0 ∨ 2 ^ 52 ≤ significand) := by
  refine ⟨rank / 2 ^ 52 - 1, rank - (rank / 2 ^ 52 - 1) * 2 ^ 52, ?_, ?_, ?_⟩ <;> omega

theorem magnitudeOfRank_strictMono : StrictMono magnitudeOfRank := by
  refine strictMono_nat_of_lt_succ fun rank => ?_
  obtain ⟨shift, significand, rfl, bounded, normal⟩ := exists_scaled rank
  rw [Nat.add_assoc, magnitudeOfRank_scaled bounded.le normal,
    magnitudeOfRank_scaled bounded (by omega)]
  exact Nat.mul_lt_mul_of_pos_right (Nat.lt_succ_self _) (Nat.two_pow_pos shift)

/-- The ratio lies in the interval of the rank. -/
structure RoundsTo (rank numerator denominator : Nat) : Prop where
  lower : twiceLowerEnd rank * denominator ≤ 2 * numerator
  upper : 2 * numerator ≤ twiceUpperEnd rank * denominator
  strict : rank % 2 = 1 → twiceLowerEnd rank * denominator < 2 * numerator ∧
    2 * numerator < twiceUpperEnd rank * denominator

theorem roundsTo_mul_iff {rank numerator denominator factor : Nat} (positive : 0 < factor) :
    RoundsTo rank (factor * numerator) (factor * denominator) ↔
      RoundsTo rank numerator denominator := by
  have turn (n : Nat) : n * (factor * denominator) = factor * (n * denominator) := by ring
  have turn' : 2 * (factor * numerator) = factor * (2 * numerator) := by ring
  constructor
  · rintro ⟨lower, upper, strict⟩
    rw [turn, turn'] at lower upper strict
    rw [turn] at strict
    exact ⟨Nat.le_of_mul_le_mul_left lower positive, Nat.le_of_mul_le_mul_left upper positive,
      fun odd => ⟨Nat.lt_of_mul_lt_mul_left (strict odd).1,
        Nat.lt_of_mul_lt_mul_left (strict odd).2⟩⟩
  · rintro ⟨lower, upper, strict⟩
    constructor
    · rw [turn, turn']
      exact Nat.mul_le_mul_left _ lower
    · rw [turn, turn']
      exact Nat.mul_le_mul_left _ upper
    · rw [turn, turn, turn']
      exact fun odd => ⟨Nat.mul_lt_mul_of_pos_left (strict odd).1 positive,
        Nat.mul_lt_mul_of_pos_left (strict odd).2 positive⟩

/-- A ratio that is no greater rounds to no greater rank: intervals of different ranks meet at most in
an end that only one of them includes. -/
theorem RoundsTo.le_of_le {rank other numerator denominator top bottom : Nat}
    (positive : 0 < denominator) (positive' : 0 < bottom)
    (rounds : RoundsTo rank numerator denominator) (also : RoundsTo other top bottom)
    (less : top * denominator ≤ numerator * bottom) : other ≤ rank := by
  by_contra above
  -- Intervals in this order have no more than an end in common.
  have apart : twiceUpperEnd rank ≤ twiceLowerEnd other ∧
      (twiceUpperEnd rank = twiceLowerEnd other → other = rank + 1) := by
    have first : magnitudeOfRank rank ≤ magnitudeOfRank (other - 1) :=
      magnitudeOfRank_strictMono.monotone (by omega)
    have second : magnitudeOfRank (rank + 1) ≤ magnitudeOfRank other :=
      magnitudeOfRank_strictMono.monotone (by omega)
    refine ⟨Nat.add_le_add first second, fun meet => ?_⟩
    have same : magnitudeOfRank (rank + 1) = magnitudeOfRank other := by
      simp only [twiceUpperEnd, twiceLowerEnd] at meet
      omega
    exact (magnitudeOfRank_strictMono.injective same).symm
  have lower : twiceLowerEnd other * (bottom * denominator) ≤ 2 * (top * denominator) := by
    calc twiceLowerEnd other * (bottom * denominator)
        = twiceLowerEnd other * bottom * denominator := by ring
      _ ≤ 2 * top * denominator := Nat.mul_le_mul_right _ also.lower
      _ = 2 * (top * denominator) := by ring
  have upper : 2 * (numerator * bottom) ≤ twiceUpperEnd rank * (bottom * denominator) := by
    calc 2 * (numerator * bottom) = 2 * numerator * bottom := by ring
      _ ≤ twiceUpperEnd rank * denominator * bottom := Nat.mul_le_mul_right _ rounds.upper
      _ = twiceUpperEnd rank * (bottom * denominator) := by ring
  have between : twiceLowerEnd other * (bottom * denominator) ≤
      twiceUpperEnd rank * (bottom * denominator) := by
    omega
  have meet : twiceUpperEnd rank = twiceLowerEnd other :=
    le_antisymm apart.1 (Nat.le_of_mul_le_mul_right between (Nat.mul_pos positive' positive))
  have next := apart.2 meet
  -- One of two neighbours is odd, and that one leaves the common end out.
  rcases Nat.mod_two_eq_zero_or_one rank with even | odd
  · have strict : twiceLowerEnd other * (bottom * denominator) < 2 * (top * denominator) := by
      calc twiceLowerEnd other * (bottom * denominator)
          = twiceLowerEnd other * bottom * denominator := by ring
        _ < 2 * top * denominator := Nat.mul_lt_mul_of_pos_right (also.strict (by omega)).1 positive
        _ = 2 * (top * denominator) := by ring
    rw [meet] at upper
    omega
  · have strict : 2 * (numerator * bottom) < twiceUpperEnd rank * (bottom * denominator) := by
      calc 2 * (numerator * bottom) = 2 * numerator * bottom := by ring
        _ < twiceUpperEnd rank * denominator * bottom :=
          Nat.mul_lt_mul_of_pos_right (rounds.strict odd).2 positive'
        _ = twiceUpperEnd rank * (bottom * denominator) := by ring
    rw [meet] at strict
    omega

private theorem RoundsTo.unique {rank other numerator denominator : Nat} (positive : 0 < denominator)
    (rounds : RoundsTo rank numerator denominator) (also : RoundsTo other numerator denominator) :
    rank = other :=
  le_antisymm (also.le_of_le positive positive rounds le_rfl)
    (rounds.le_of_le positive positive also le_rfl)

/-- Rounding to a whole number goes to one that is at most half away, ties to the even one. -/
theorem roundHalfEven_bounds (numerator : Nat) {denominator : Nat} (positive : 0 < denominator) :
    2 * roundHalfEven numerator denominator * denominator ≤ 2 * numerator + denominator ∧
      2 * numerator ≤ (2 * roundHalfEven numerator denominator + 1) * denominator ∧
      (roundHalfEven numerator denominator % 2 = 1 →
        2 * roundHalfEven numerator denominator * denominator < 2 * numerator + denominator ∧
          2 * numerator < (2 * roundHalfEven numerator denominator + 1) * denominator) := by
  have whole := Nat.div_add_mod numerator denominator
  have less := Nat.mod_lt numerator positive
  rw [Nat.mul_comm] at whole
  simp only [roundHalfEven]
  generalize numerator / denominator = quotient at *
  generalize numerator % denominator = rest at *
  have step : 2 * (quotient + 1) * denominator = 2 * (quotient * denominator) + 2 * denominator := by
    ring
  have step' : (2 * (quotient + 1) + 1) * denominator =
      2 * (quotient * denominator) + 3 * denominator := by ring
  have stay : 2 * quotient * denominator = 2 * (quotient * denominator) := by ring
  have stay' : (2 * quotient + 1) * denominator =
      2 * (quotient * denominator) + denominator := by ring
  generalize quotient * denominator = product at *
  split_ifs with up
  · rw [step, step']
    omega
  · rw [stay, stay']
    omega

theorem roundHalfEven_mem (numerator denominator : Nat) :
    numerator / denominator ≤ roundHalfEven numerator denominator ∧
      roundHalfEven numerator denominator ≤ numerator / denominator + 1 := by
  simp only [roundHalfEven]
  split_ifs <;> omega

/-- The spacing is chosen so that the significand fits, and is no finer than that. -/
theorem exists_nearestRank_eq (numerator denominator : Nat) : ∃ shift,
    nearestRank numerator denominator =
        shift * 2 ^ 52 + roundHalfEven numerator (denominator * 2 ^ shift) ∧
      roundHalfEven numerator (denominator * 2 ^ shift) ≤ 2 ^ 53 ∧
      (shift = 0 ∨ 2 ^ 52 ≤ numerator / denominator / 2 ^ shift) := by
  refine ⟨Nat.log2 (numerator / denominator) - 52, rfl, ?_, ?_⟩
  · have fits : numerator / (denominator * 2 ^ (Nat.log2 (numerator / denominator) - 52)) < 2 ^ 53 := by
      rw [← Nat.div_div_eq_div_mul, Nat.div_lt_iff_lt_mul (Nat.two_pow_pos _), ← Nat.pow_add]
      exact Nat.lt_log2_self.trans_le (Nat.pow_le_pow_right (by decide) (by omega))
    exact (roundHalfEven_mem ..).2.trans fits
  · by_cases small : Nat.log2 (numerator / denominator) ≤ 52
    · left
      omega
    · right
      have some : numerator / denominator ≠ 0 := by
        intro zero
        simp [zero] at small
      rw [Nat.le_div_iff_mul_le (Nat.two_pow_pos _), ← Nat.pow_add, Nat.add_sub_cancel' (by omega)]
      exact Nat.log2_self_le some

theorem twiceUpperEnd_scaled {significand shift : Nat} (bounded : significand ≤ 2 ^ 53)
    (normal : shift = 0 ∨ 2 ^ 52 ≤ significand) :
    (2 * significand + 1) * 2 ^ shift ≤ twiceUpperEnd (shift * 2 ^ 52 + significand) := by
  rw [twiceUpperEnd, magnitudeOfRank_scaled bounded normal]
  by_cases full : significand = 2 ^ 53
  · have next : shift * 2 ^ 52 + significand + 1 = (shift + 1) * 2 ^ 52 + (2 ^ 52 + 1) := by omega
    rw [next, magnitudeOfRank_scaled (by decide) (.inr (by decide)), full]
    have sum : 2 ^ 53 * 2 ^ shift + (2 ^ 52 + 1) * 2 ^ (shift + 1) = (2 * 2 ^ 53 + 2) * 2 ^ shift := by
      ring
    rw [sum]
    exact Nat.mul_le_mul_right _ (Nat.le_succ _)
  · rw [Nat.add_assoc, magnitudeOfRank_scaled (by omega) (by omega)]
    have sum : (2 * significand + 1) * 2 ^ shift =
        significand * 2 ^ shift + (significand + 1) * 2 ^ shift := by ring
    exact sum.le

/-- The lower end is half a spacing below, except where the spacing changes. -/
theorem twiceLowerEnd_scaled {significand shift : Nat} (bounded : significand ≤ 2 ^ 53)
    (normal : shift = 0 ∨ 2 ^ 52 < significand) :
    twiceLowerEnd (shift * 2 ^ 52 + significand) = (2 * significand - 1) * 2 ^ shift := by
  by_cases zero : significand = 0
  · have none : shift = 0 := by omega
    subst zero none
    rfl
  · have before : shift * 2 ^ 52 + significand - 1 = shift * 2 ^ 52 + (significand - 1) := by omega
    rw [twiceLowerEnd, before, magnitudeOfRank_scaled (by omega) (by omega),
      magnitudeOfRank_scaled bounded (by omega), ← Nat.add_mul]
    congr 1
    omega

/-- A ratio rounds to its nearest rank. -/
theorem nearestRank_roundsTo (numerator : Nat) {denominator : Nat} (positive : 0 < denominator) :
    RoundsTo (nearestRank numerator denominator) numerator denominator := by
  obtain ⟨shift, same, bounded, large⟩ := exists_nearestRank_eq numerator denominator
  have spacing : 0 < denominator * 2 ^ shift := Nat.mul_pos positive (Nat.two_pow_pos shift)
  obtain ⟨above, below, odd⟩ := roundHalfEven_bounds numerator spacing
  have least := (roundHalfEven_mem numerator (denominator * 2 ^ shift)).1
  rw [← Nat.div_div_eq_div_mul] at least
  rw [same]
  generalize roundHalfEven numerator (denominator * 2 ^ shift) = significand at *
  have normal : shift = 0 ∨ 2 ^ 52 ≤ significand := large.imp_right fun large => large.trans least
  have upper : (2 * significand + 1) * (denominator * 2 ^ shift) ≤
      twiceUpperEnd (shift * 2 ^ 52 + significand) * denominator := by
    rw [Nat.mul_comm denominator, ← Nat.mul_assoc]
    exact Nat.mul_le_mul_right _ (twiceUpperEnd_scaled bounded normal)
  have lower : twiceLowerEnd (shift * 2 ^ 52 + significand) * denominator ≤ 2 * numerator ∧
      (significand % 2 = 1 →
        twiceLowerEnd (shift * 2 ^ 52 + significand) * denominator < 2 * numerator) := by
    -- Right below a power of two the spacing is half as wide, which takes an argument of its own.
    by_cases coarse : shift = 0 ∨ 2 ^ 52 < significand
    · have half : (2 * significand - 1) * 2 ^ shift * denominator =
          2 * significand * (denominator * 2 ^ shift) - denominator * 2 ^ shift := by
        rw [Nat.mul_assoc, Nat.sub_mul, Nat.one_mul, Nat.mul_comm denominator]
      rw [twiceLowerEnd_scaled bounded coarse, half]
      constructor
      · omega
      · intro isOdd
        have strict := (odd isOdd).1
        have least : denominator * 2 ^ shift ≤ 2 * significand * (denominator * 2 ^ shift) :=
          Nat.le_mul_of_pos_left _ (by omega)
        omega
    · -- The significand is the least one, so the ratio is no less than the magnitude.
      have same : significand = 2 ^ 52 := by omega
      have reaches : 2 ^ 52 * 2 ^ shift * denominator ≤ numerator := by
        have ratio := large.resolve_left (by omega)
        rwa [Nat.le_div_iff_mul_le (Nat.two_pow_pos _), Nat.le_div_iff_mul_le positive] at ratio
      have below : twiceLowerEnd (shift * 2 ^ 52 + significand) < 2 * (2 ^ 52 * 2 ^ shift) := by
        have whole : 2 ^ 52 * 2 ^ shift = magnitudeOfRank (shift * 2 ^ 52 + significand) := by
          rw [magnitudeOfRank_scaled bounded normal, same]
        rw [whole, twiceLowerEnd, Nat.two_mul]
        apply Nat.add_lt_add_right
        exact magnitudeOfRank_strictMono (by omega)
      have strict : twiceLowerEnd (shift * 2 ^ 52 + significand) * denominator < 2 * numerator := by
        calc twiceLowerEnd (shift * 2 ^ 52 + significand) * denominator
            < 2 * (2 ^ 52 * 2 ^ shift) * denominator := Nat.mul_lt_mul_of_pos_right below positive
          _ = 2 * (2 ^ 52 * 2 ^ shift * denominator) := by ring
          _ ≤ 2 * numerator := Nat.mul_le_mul_left 2 reaches
      exact ⟨strict.le, fun _ => strict⟩
  have parity : (shift * 2 ^ 52 + significand) % 2 = significand % 2 := by omega
  refine ⟨lower.1, below.trans upper, ?_⟩
  rw [parity]
  exact fun isOdd => ⟨lower.2 isOdd, (odd isOdd).2.trans_le upper⟩

/-- The nearest rank is the only one that a ratio rounds to. -/
theorem nearestRank_eq_iff {rank numerator denominator : Nat} (positive : 0 < denominator) :
    nearestRank numerator denominator = rank ↔ RoundsTo rank numerator denominator := by
  constructor
  · rintro rfl
    exact nearestRank_roundsTo numerator positive
  · exact fun rounds => (nearestRank_roundsTo numerator positive).unique positive rounds

theorem nearestRank_mono {numerator denominator top bottom : Nat} (positive : 0 < denominator)
    (positive' : 0 < bottom) (less : numerator * bottom ≤ top * denominator) :
    nearestRank numerator denominator ≤ nearestRank top bottom :=
  (nearestRank_roundsTo top positive').le_of_le positive' positive
    (nearestRank_roundsTo numerator positive) less

/-- A number is the nearest one to every ratio in the interval of its rank. -/
theorem nearest?_eq_some {x : Binary64} {numerator denominator : Nat} (positive : 0 < denominator)
    (rounds : RoundsTo x.rank numerator denominator) :
    nearest? x.negative numerator denominator = some x := by
  have rank := (nearestRank_eq_iff positive).mpr rounds
  simp only [nearest?, rank, dif_pos x.rank_lt]

end Intake.Binary64
