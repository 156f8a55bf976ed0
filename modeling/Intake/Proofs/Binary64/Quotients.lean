import Intake.Proofs.Binary64.Range
import Mathlib.Data.Nat.Prime.Basic

/-! # Quotients of whole numbers

A ratio is rounded to a multiple of its spacing that is no more than half a spacing away. The spacing
is a power of two, so it either divides one or is greater than one, and in the first case the distance
of the rounded ratio from a whole number is a multiple of the spacing again. A whole quotient is
rounded to itself.
-/

namespace Intake.Binary64

/-- The ratio is rounded to a multiple of a power of two, half of it away at most, and it is `2 ^ 52`
times that power at least if the power is not the smallest one. -/
structure Spaced (shift numerator denominator : Nat) : Prop where
  multiple : 2 ^ shift ∣ magnitudeOfRank (nearestRank numerator denominator)
  above : 2 * (magnitudeOfRank (nearestRank numerator denominator) * denominator) ≤
    2 * numerator + denominator * 2 ^ shift
  below : 2 * numerator ≤
    2 * (magnitudeOfRank (nearestRank numerator denominator) * denominator) + denominator * 2 ^ shift
  large : shift = 0 ∨ 2 ^ 52 * (denominator * 2 ^ shift) ≤ numerator

theorem exists_spaced (numerator : Nat) {denominator : Nat} (positive : 0 < denominator) :
    ∃ shift, Spaced shift numerator denominator := by
  obtain ⟨shift, same, bounded, large⟩ := exists_nearestRank_eq numerator denominator
  have spacing : 0 < denominator * 2 ^ shift := Nat.mul_pos positive (Nat.two_pow_pos shift)
  obtain ⟨above, below, -⟩ := roundHalfEven_bounds numerator spacing
  have least := (roundHalfEven_mem numerator (denominator * 2 ^ shift)).1
  rw [← Nat.div_div_eq_div_mul] at least
  generalize roundHalfEven numerator (denominator * 2 ^ shift) = significand at *
  have normal : shift = 0 ∨ 2 ^ 52 ≤ significand := large.imp_right fun large => large.trans least
  have magnitude := magnitudeOfRank_scaled bounded normal
  rw [← same] at magnitude
  have scaled : 2 * (significand * 2 ^ shift * denominator) =
      2 * significand * (denominator * 2 ^ shift) := by ring
  refine ⟨shift, ⟨Dvd.intro_left _ magnitude.symm, ?_, ?_, large.imp_right fun large => ?_⟩⟩
  · rwa [magnitude, scaled]
  · rwa [magnitude, scaled, ← Nat.succ_mul]
  · rwa [Nat.div_div_eq_div_mul, Nat.le_div_iff_mul_le spacing] at large

variable {a b shift : Nat}

private theorem exists_unitsPerOne_eq : ∃ power, unitsPerOne = 2 ^ power := ⟨1074, by decide +kernel⟩

/-- The spacing of a ratio of small numbers is not far above one part of the denominator. -/
theorem spacing_le (small : a ≤ 2 ^ 53)
    (large : 2 ^ 52 * (b * 2 ^ shift) ≤ a * unitsPerOne) : b * 2 ^ shift ≤ 2 * unitsPerOne := by
  have most : 2 ^ 52 * (b * 2 ^ shift) ≤ 2 ^ 52 * (2 * unitsPerOne) := by
    calc 2 ^ 52 * (b * 2 ^ shift) ≤ a * unitsPerOne := large
      _ ≤ 2 ^ 52 * 2 * unitsPerOne := Nat.mul_le_mul_right _ small
      _ = 2 ^ 52 * (2 * unitsPerOne) := Nat.mul_assoc ..
  exact Nat.le_of_mul_le_mul_left most (by decide)

/-- A ratio of small numbers that is not whole has a spacing that divides one. -/
theorem spacing_dvd (positive : 0 < b) (small : a ≤ 2 ^ 53) (proper : ¬b ∣ a)
    (large : shift = 0 ∨ 2 ^ 52 * (b * 2 ^ shift) ≤ a * unitsPerOne) : 2 ^ shift ∣ unitsPerOne := by
  rcases large with rfl | large
  · exact one_dvd _
  · have several : 2 ≤ b := by
      by_contra single
      obtain rfl : b = 1 := by omega
      exact proper (one_dvd a)
    have most : 2 * 2 ^ shift ≤ 2 * unitsPerOne :=
      (Nat.mul_le_mul_right _ several).trans (spacing_le small large)
    obtain ⟨power, same⟩ := exists_unitsPerOne_eq
    rw [same] at most ⊢
    have order := Nat.le_of_mul_le_mul_left most Nat.two_pos
    exact Nat.pow_dvd_pow 2 ((Nat.pow_le_pow_iff_right Nat.one_lt_two).mp order)

/-- A spacing of two parts of the denominator takes the greatest numerator and a denominator that
divides it. -/
theorem dvd_of_spacing (small : a ≤ 2 ^ 53) (small' : b ≤ 2 ^ 53)
    (large : 2 ^ 52 * (b * 2 ^ shift) ≤ a * unitsPerOne)
    (wide : 2 * unitsPerOne ≤ b * 2 ^ shift) : b ∣ a := by
  have same := Nat.le_antisymm (spacing_le small large) wide
  have greatest : a = 2 ^ 53 := by
    rw [same, ← Nat.mul_assoc] at large
    have least : 2 ^ 52 * 2 ≤ a := Nat.le_of_mul_le_mul_right large unitsPerOne_pos
    exact Nat.le_antisymm small least
  obtain ⟨power, unit⟩ := exists_unitsPerOne_eq
  have divides : b ∣ 2 ^ (power + 1) := by
    rw [Nat.pow_succ, ← unit, Nat.mul_comm, ← same]
    exact Nat.dvd_mul_right _ _
  obtain ⟨exponent, -, rfl⟩ := (Nat.dvd_prime_pow Nat.prime_two).mp divides
  rw [greatest]
  exact Nat.pow_dvd_pow 2 ((Nat.pow_le_pow_iff_right Nat.one_lt_two).mp small')

variable {x y : Binary64}

theorem distanceToWhole_eq {whole rest : Nat} (split : x.magnitude = whole * unitsPerOne + rest)
    (close : 2 * rest < unitsPerOne) : x.distanceToWhole = rest := by
  have nearest : x.wholeMagnitude = whole := by
    have sum : 2 * (whole * unitsPerOne + rest) + unitsPerOne =
        2 * rest + unitsPerOne + 2 * unitsPerOne * whole := by ring
    rw [wholeMagnitude, split, sum, Nat.add_mul_div_left _ _ (by omega), Nat.div_eq_of_lt (by omega),
      Nat.zero_add]
  rw [distanceToWhole, nearest, split]
  omega

theorem dvd_distanceToWhole {spacing : Nat} (multiple : spacing ∣ x.magnitude)
    (unit : spacing ∣ unitsPerOne) : spacing ∣ x.distanceToWhole := by
  rw [distanceToWhole, ← Int.natCast_dvd]
  exact Int.dvd_sub (Int.natCast_dvd_natCast.mpr multiple)
    (Int.natCast_dvd_natCast.mpr (unit.mul_left _))

/-- What the rounded quotient lacks to a whole number, and what it was rounded by, is all that the
quotient itself lacks. -/
theorem Spaced.remainder_le (spaced : Spaced shift (a * unitsPerOne) b)
    (rounded : x.magnitude = magnitudeOfRank (nearestRank (a * unitsPerOne) b)) :
    2 * (((a : Int) - x.wholeMagnitude * b).natAbs * unitsPerOne) ≤
      b * (2 ^ shift + 2 * x.distanceToWhole) := by
  obtain ⟨-, above, below, -⟩ := spaced
  rw [← rounded] at above below
  rw [distanceToWhole]
  generalize x.wholeMagnitude = whole at *
  generalize unitsPerOne = one at *
  have remainder : ((a : Int) - whole * b).natAbs * one =
      (((a * one : Nat) : Int) - (whole * one * b : Nat)).natAbs := by
    rw [← Int.natAbs_natCast one, ← Int.natAbs_mul, Int.natAbs_natCast]
    congr 1
    push_cast
    ring
  have distance : ((x.magnitude : Int) - (whole * one : Nat)).natAbs * b =
      (((x.magnitude * b : Nat) : Int) - (whole * one * b : Nat)).natAbs := by
    rw [← Int.natAbs_natCast b, ← Int.natAbs_mul, Int.natAbs_natCast]
    congr 1
    push_cast
    ring
  rw [remainder, Nat.mul_add, Nat.mul_left_comm, Nat.mul_comm b (Int.natAbs _), distance]
  omega

private theorem nearestRank_mul_left {numerator denominator factor : Nat} (positive : 0 < factor)
    (positive' : 0 < denominator) :
    nearestRank (factor * numerator) (factor * denominator) = nearestRank numerator denominator := by
  rw [nearestRank_eq_iff (Nat.mul_pos positive positive'), roundsTo_mul_iff positive]
  exact nearestRank_roundsTo numerator positive'

/-- Dividing one small integer by another is rounding their ratio. -/
theorem exists_div?_eq {a b : Int} (small : a.natAbs ≤ 2 ^ 53) (small' : b.natAbs ≤ 2 ^ 53)
    (some : b ≠ 0) (first : ofInt? a = Option.some x) (second : ofInt? b = Option.some y) :
    ∃ ratio ∈ x.div? y,
      ratio.magnitude = magnitudeOfRank (nearestRank (a.natAbs * unitsPerOne) b.natAbs) := by
  have positive : 0 < b.natAbs := Int.natAbs_pos.mpr some
  have size := magnitude_of_small small first
  have size' := magnitude_of_small small' second
  have least : unitsPerOne ≤ y.magnitude := by
    rw [size']
    exact Nat.le_mul_of_pos_left _ positive
  have filled : y.magnitude ≠ 0 := (Nat.lt_of_lt_of_le unitsPerOne_pos least).ne'
  obtain ⟨ratio, divides⟩ := Option.isSome_iff_exists.mp (div?_isSome (x := x) least)
  have rank := divides
  rw [div?, if_neg filled] at rank
  have common : nearestRank (x.magnitude * unitsPerOne) y.magnitude =
      nearestRank (a.natAbs * unitsPerOne) b.natAbs := by
    rw [size, size', Nat.mul_comm (a.natAbs * unitsPerOne), Nat.mul_comm b.natAbs,
      nearestRank_mul_left unitsPerOne_pos positive]
  exact ⟨ratio, divides, by rw [magnitude, (of_nearest?_eq_some rank).2, common]⟩

/-- A small whole quotient is not rounded. -/
theorem magnitude_of_whole {whole b : Nat} (small : whole ≤ 2 ^ 53) (positive : 0 < b) :
    magnitudeOfRank (nearestRank (whole * b * unitsPerOne) b) = whole * unitsPerOne := by
  obtain ⟨rank, same⟩ := exists_magnitudeOfRank_eq small
  have itself := @nearestRank_mul_left (magnitudeOfRank rank) 1 b positive Nat.one_pos
  rw [Nat.mul_one, nearestRank_magnitudeOfRank, same] at itself
  rw [Nat.mul_comm whole, Nat.mul_assoc, itself, same]

end Intake.Binary64
