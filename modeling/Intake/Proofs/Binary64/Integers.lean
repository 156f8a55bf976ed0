import Intake.Proofs.Document.NumberText

/-! # Integers as binary64 numbers

Rounding keeps integers in order but may bring two of them together. It does so only if both are
`2 ^ 53` at least, for up to there every integer is a binary64 number.
-/

namespace Intake.Binary64

theorem nearestRank_magnitudeOfRank (rank : Nat) : nearestRank (magnitudeOfRank rank) 1 = rank := by
  rw [nearestRank_eq_iff (by decide)]
  rcases Nat.eq_zero_or_pos rank with rfl | positive
  · constructor <;> simp [twiceLowerEnd, magnitudeOfRank]
  · exact roundsTo_magnitude positive

theorem unitsPerOne_pos : 0 < unitsPerOne := by
  rw [unitsPerOne]
  generalize 1074 = power
  exact Nat.two_pow_pos power

/-- A small integer is a significand of full width times a power of two. -/
theorem exists_spare {n : Nat} (positive : 0 < n) (small : n ≤ 2 ^ 53) :
    ∃ spare ≤ 52, 2 ^ 52 ≤ n * 2 ^ spare ∧ n * 2 ^ spare ≤ 2 ^ 53 := by
  have least := Nat.log2_self_le positive.ne'
  have most := @Nat.lt_log2_self n
  refine ⟨52 - Nat.log2 n, Nat.sub_le _ _, ?_, ?_⟩
  · calc 2 ^ 52 ≤ 2 ^ (Nat.log2 n + (52 - Nat.log2 n)) :=
          Nat.pow_le_pow_right (by decide) (by omega)
      _ = 2 ^ Nat.log2 n * 2 ^ (52 - Nat.log2 n) := pow_add _ _ _
      _ ≤ n * 2 ^ (52 - Nat.log2 n) := Nat.mul_le_mul_right _ least
  · by_cases wide : 52 ≤ Nat.log2 n
    · rwa [Nat.sub_eq_zero_of_le wide, pow_zero, Nat.mul_one]
    · calc n * 2 ^ (52 - Nat.log2 n) ≤ 2 ^ (Nat.log2 n + 1) * 2 ^ (52 - Nat.log2 n) :=
            Nat.mul_le_mul_right _ most.le
        _ = 2 ^ (Nat.log2 n + 1 + (52 - Nat.log2 n)) := (pow_add _ _ _).symm
        _ = 2 ^ 53 := by rw [show Nat.log2 n + 1 + (52 - Nat.log2 n) = 53 by omega]

/-- Small integers are magnitudes. -/
theorem exists_magnitudeOfRank_eq {n : Nat} (small : n ≤ 2 ^ 53) :
    ∃ rank, magnitudeOfRank rank = n * unitsPerOne := by
  rcases Nat.eq_zero_or_pos n with rfl | positive
  · exact ⟨0, by rw [Nat.zero_mul, magnitudeOfRank, if_pos (Nat.two_pow_pos _)]⟩
  · obtain ⟨spare, less, normal, bounded⟩ := exists_spare positive small
    -- The spacing makes up for the width of the significand.
    have scaled := magnitudeOfRank_scaled bounded (@Or.inr (1074 - spare = 0) _ normal)
    have powers : spare + (1074 - spare) = 1074 := by omega
    refine ⟨_, scaled.trans ?_⟩
    rw [Nat.mul_assoc, ← pow_add, powers, unitsPerOne]

variable {a b : Int} {x y : Binary64}

theorem of_nearest?_eq_some {negative : Bool} {numerator denominator : Nat}
    (rounds : nearest? negative numerator denominator = some x) :
    x.negative = negative ∧ x.rank = nearestRank numerator denominator := by
  simp only [nearest?] at rounds
  split_ifs at rounds with bound
  cases rounds
  exact ⟨rfl, rfl⟩

theorem ofInt?_eq_some (rounds : ofInt? a = some x) :
    x.negative = decide (a < 0) ∧ x.rank = nearestRank (a.natAbs * unitsPerOne) 1 :=
  of_nearest?_eq_some rounds

/-- Rounding keeps the order. -/
theorem ofInt?_mono (less : a ≤ b) (first : ofInt? a = some x) (second : ofInt? b = some y) :
    x ≤ y := by
  obtain ⟨sign, rank⟩ := ofInt?_eq_some first
  obtain ⟨sign', rank'⟩ := ofInt?_eq_some second
  change x.units ≤ y.units
  rw [units, units, magnitude, magnitude, sign, sign', rank, rank']
  have grows {n m : Nat} (less : n ≤ m) :
      magnitudeOfRank (nearestRank (n * unitsPerOne) 1) ≤
        magnitudeOfRank (nearestRank (m * unitsPerOne) 1) :=
    magnitudeOfRank_strictMono.monotone (nearestRank_mono Nat.one_pos Nat.one_pos
      (Nat.mul_le_mul_right _ (Nat.mul_le_mul_right _ less)))
  generalize unitsPerOne = one at grows ⊢
  by_cases negative : a < 0
  · by_cases negative' : b < 0
    · have grown := grows (by omega : b.natAbs ≤ a.natAbs)
      simp only [negative, negative', decide_true, if_true]
      omega
    · simp only [negative, negative', decide_true, decide_false, if_true, Bool.false_eq_true, if_false]
      omega
  · have negative' : ¬b < 0 := by omega
    have grown := grows (by omega : a.natAbs ≤ b.natAbs)
    simp only [negative, negative', decide_false, Bool.false_eq_true, if_false]
    omega

/-- Small integers are not rounded. -/
theorem units_of_small (small : a.natAbs ≤ 2 ^ 53) (rounds : ofInt? a = some x) :
    x.units = a * unitsPerOne := by
  obtain ⟨sign, rank⟩ := ofInt?_eq_some rounds
  obtain ⟨held, same⟩ := exists_magnitudeOfRank_eq small
  rw [← same, nearestRank_magnitudeOfRank] at rank
  rw [units, magnitude, sign, rank, same]
  by_cases negative : a < 0
  · have size : -(a.natAbs : Int) = a := by omega
    rw [decide_eq_true negative, if_pos rfl, Int.natCast_mul, ← Int.neg_mul, size]
  · have size : (a.natAbs : Int) = a := by omega
    rw [decide_eq_false negative, if_neg Bool.false_ne_true, Int.natCast_mul, size]

theorem natAbs_units (x : Binary64) : x.units.natAbs = x.magnitude := by
  rw [units]
  split_ifs <;> omega

theorem magnitude_of_small (small : a.natAbs ≤ 2 ^ 53) (rounds : ofInt? a = some x) :
    x.magnitude = a.natAbs * unitsPerOne := by
  rw [← natAbs_units, units_of_small small rounds, Int.natAbs_mul, Int.natAbs_natCast]

theorem exists_ofInt? (fits : a.natAbs ≤ 2 ^ 64) : ∃ x, ofInt? a = some x :=
  Option.isSome_iff_exists.mp (nearest?_isSome fits)

/-- A small integer is not brought together with the next one. -/
theorem lt_of_small (small : a.natAbs ≤ 2 ^ 53) (small' : b.natAbs ≤ 2 ^ 53) (less : a < b)
    (first : ofInt? a = some x) (second : ofInt? b = some y) : x < y := by
  change x.units < y.units
  rw [units_of_small small first, units_of_small small' second]
  exact Int.mul_lt_mul_of_pos_right less (Int.natCast_pos.mpr unitsPerOne_pos)

/-- Two integers that differ are told apart by their nearest binary64 numbers if one of them is
small. -/
theorem lt_of_lt (less : a < b) (small : a.natAbs < 2 ^ 53 ∨ b.natAbs < 2 ^ 53)
    (first : ofInt? a = some x) (second : ofInt? b = some y) : x < y := by
  rcases small with small | small
  · obtain ⟨z, next⟩ := exists_ofInt? (a := a + 1) (by omega)
    have apart := lt_of_small (by omega) (by omega) (Int.lt_succ a) first next
    have order := ofInt?_mono (by omega) next second
    exact Int.lt_of_lt_of_le apart order
  · obtain ⟨z, before⟩ := exists_ofInt? (a := b - 1) (by omega)
    have apart := lt_of_small (by omega) (by omega) (by omega) before second
    have order := ofInt?_mono (by omega) first before
    exact Int.lt_of_le_of_lt order apart

/-- Two integers are brought together when rounded: both are `2 ^ 53` at least, and one binary64
number is the nearest to both. -/
structure Merges (a b : Int) : Prop where
  large : 2 ^ 53 ≤ a.natAbs ∧ 2 ^ 53 ≤ b.natAbs
  same : ∃ x ∈ ofInt? a, ∃ y ∈ ofInt? b, x.sameValue y

/-- The nearest binary64 numbers are in order exactly if the integers are or are brought together. -/
theorem le_iff (first : ofInt? a = some x) (second : ofInt? b = some y) :
    x ≤ y ↔ a ≤ b ∨ Merges a b := by
  constructor
  · intro order
    by_cases less : a ≤ b
    · exact .inl less
    · right
      have back : y ≤ x := ofInt?_mono (by omega) second first
      have large : ¬(b.natAbs < 2 ^ 53 ∨ a.natAbs < 2 ^ 53) := by
        intro small
        exact Int.not_le.mpr (lt_of_lt (by omega) small second first) order
      refine ⟨by omega, x, first, y, second, ?_⟩
      rw [sameValue, beq_iff_eq]
      exact Int.le_antisymm order back
  · rintro (less | ⟨-, x', first', y', second', same⟩)
    · exact ofInt?_mono less first second
    · cases first.symm.trans first'
      cases second.symm.trans second'
      rw [sameValue, beq_iff_eq] at same
      exact Int.le_of_eq same

theorem sameValue_iff (first : ofInt? a = some x) (second : ofInt? b = some y) :
    x.sameValue y ↔ a = b ∨ Merges a b := by
  constructor
  · intro same
    by_cases equal : a = b
    · exact .inl equal
    · right
      refine ⟨?_, x, first, y, second, same⟩
      rw [sameValue, beq_iff_eq] at same
      by_contra small
      rcases Int.lt_or_gt_of_ne equal with less | less
      · exact Int.ne_of_lt (lt_of_lt less (by omega) first second) same
      · exact Int.ne_of_gt (lt_of_lt less (by omega) second first) same
  · rintro (rfl | ⟨-, x', first', y', second', same⟩)
    · cases first.symm.trans second
      rw [sameValue, beq_iff_eq]
    · cases first.symm.trans first'
      cases second.symm.trans second'
      exact same

end Intake.Binary64
