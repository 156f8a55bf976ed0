import Intake.Proofs.Binary64.Integers

/-! # Results within the range

A result that is no greater than a magnitude is rounded to a number. So rounding to a whole number
always gives one, the greatest magnitude being whole itself, and so does the quotient by a number
that is not less than one.
-/

namespace Intake.Binary64

private theorem nearest?_isSome_of_le {negative : Bool} {numerator denominator : Nat} {x : Binary64}
    (positive : 0 < denominator) (less : numerator ≤ x.magnitude * denominator) :
    (nearest? negative numerator denominator).isSome := by
  have order : nearestRank numerator denominator ≤ nearestRank x.magnitude 1 := by
    apply nearestRank_mono positive Nat.one_pos
    rwa [Nat.mul_one]
  rw [magnitude, nearestRank_magnitudeOfRank] at order
  rw [nearest?, dif_pos (Nat.lt_of_le_of_lt order x.rank_lt)]
  rfl

/-- The greatest number. -/
def greatest : Binary64 := ⟨false, 2047 * 2 ^ 52 - 1, by decide⟩

/-- The greatest magnitude is that of a whole number. -/
theorem magnitude_greatest : greatest.magnitude = (2 ^ 53 - 1) * 2 ^ 971 * unitsPerOne := by
  have rank : greatest.rank = 2045 * 2 ^ 52 + (2 ^ 53 - 1) := by decide
  obtain ⟨power, same⟩ : ∃ power, power = 1074 := ⟨_, rfl⟩
  have sum : 971 + power = 2045 := by omega
  have units := unitsPerOne.eq_def
  rw [← same] at units
  rw [magnitude, rank, magnitudeOfRank_scaled (by decide) (.inr (by decide)), Nat.mul_assoc, units,
    ← pow_add, sum]

private theorem magnitude_le_greatest (x : Binary64) : x.magnitude ≤ greatest.magnitude :=
  magnitudeOfRank_strictMono.monotone (Nat.le_sub_one_of_lt x.rank_lt)

/-- What is rounded to a whole number does not leave the range. -/
theorem round?_isSome (x : Binary64) : x.round?.isSome := by
  have most := x.magnitude_le_greatest
  have whole : x.wholeMagnitude * unitsPerOne ≤ greatest.magnitude := by
    rw [magnitude_greatest] at most ⊢
    generalize (2 ^ 53 - 1) * 2 ^ 971 = top at most
    have positive := unitsPerOne_pos
    rw [wholeMagnitude]
    generalize unitsPerOne = one at most positive ⊢
    apply Nat.mul_le_mul_right
    apply Nat.le_of_lt_succ
    rw [Nat.div_lt_iff_lt_mul (Nat.mul_pos (by decide) positive)]
    calc 2 * x.magnitude + one < 2 * (top * one) + 2 * one := by omega
      _ = (top + 1) * (2 * one) := by ring
  apply nearest?_isSome_of_le Nat.one_pos
  rwa [Nat.mul_one]

/-- A quotient by a number that is not less than one does not leave the range. -/
theorem div?_isSome {x y : Binary64} (least : unitsPerOne ≤ y.magnitude) : (x.div? y).isSome := by
  have positive : 0 < y.magnitude := Nat.lt_of_lt_of_le unitsPerOne_pos least
  rw [div?, if_neg positive.ne']
  exact nearest?_isSome_of_le positive (Nat.mul_le_mul_left _ least)

end Intake.Binary64
