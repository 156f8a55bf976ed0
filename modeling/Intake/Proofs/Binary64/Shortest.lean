import Intake.Proofs.Binary64.Rounding

/-! # The shortest decimal reads back

Whichever decimal the search for the shortest one comes upon, it lies in the interval of its rank:
candidates are tested for that, trailing zeros move to the exponent without changing the value, and
the exact value lies in its own interval. A decimal in the interval of a rank is read as the number
of that rank; its exponent is never so small that reading would go by the number of digits alone.
-/

namespace Intake.Binary64

namespace Decimal

/-- The numerator of a decimal in units. -/
def numerator (decimal : Decimal) : Nat :=
  decimal.digits * 10 ^ decimal.exponent.toNat * unitsPerOne

/-- The denominator of a decimal. -/
def denominator (decimal : Decimal) : Nat :=
  10 ^ (-decimal.exponent).toNat

private theorem denominator_pos (decimal : Decimal) : 0 < decimal.denominator :=
  Nat.pow_pos (by decide)

/-- The decimal lies in the interval of the rank. -/
def RoundsTo (decimal : Decimal) (rank : Nat) : Prop :=
  Binary64.RoundsTo rank decimal.numerator decimal.denominator

/-- A zero at the end of the digits may as well stand in the exponent. -/
theorem roundsTo_shift_iff {rank digits : Nat} {exponent : Int} :
    RoundsTo ⟨digits * 10, exponent⟩ rank ↔ RoundsTo ⟨digits, exponent + 1⟩ rank := by
  rcases Int.lt_or_le exponent 0 with negative | nonnegative
  · obtain ⟨power, rfl⟩ : ∃ power : Nat, exponent = -(power + 1 : Int) :=
      ⟨(-exponent - 1).toNat, by omega⟩
    have top : numerator ⟨digits * 10, -(power + 1 : Int)⟩ =
        10 * numerator ⟨digits, -(power + 1 : Int) + 1⟩ := by
      have none : (-(power + 1 : Int)).toNat = 0 := by omega
      have none' : (-(power + 1 : Int) + 1).toNat = 0 := by omega
      simp only [numerator, none, none']
      ring
    have bottom : denominator ⟨digits * 10, -(power + 1 : Int)⟩ =
        10 * denominator ⟨digits, -(power + 1 : Int) + 1⟩ := by
      have all : (- -(power + 1 : Int)).toNat = power + 1 := by omega
      have rest : (-(-(power + 1 : Int) + 1)).toNat = power := by omega
      simp only [denominator, all, rest]
      ring
    rw [RoundsTo, top, bottom]
    exact roundsTo_mul_iff (by decide)
  · have top : numerator ⟨digits * 10, exponent⟩ = numerator ⟨digits, exponent + 1⟩ := by
      have next : (exponent + 1).toNat = exponent.toNat + 1 := by omega
      simp only [numerator, next]
      ring
    have bottom : denominator ⟨digits * 10, exponent⟩ = denominator ⟨digits, exponent + 1⟩ := by
      have none : (-exponent).toNat = 0 := by omega
      have none' : (-(exponent + 1)).toNat = 0 := by omega
      simp only [denominator, none, none']
    rw [RoundsTo, top, bottom]
    rfl

/-- A decimal without a fraction may be written out with a zero behind the point. -/
theorem roundsTo_whole_iff {rank digits power : Nat} :
    RoundsTo ⟨digits * 10 ^ (power + 1), -1⟩ rank ↔ RoundsTo ⟨digits, power⟩ rank := by
  have top : numerator ⟨digits * 10 ^ (power + 1), -1⟩ = 10 * numerator ⟨digits, power⟩ := by
    have none : (-1 : Int).toNat = 0 := rfl
    simp only [numerator, none, Int.toNat_natCast]
    ring
  have bottom : denominator ⟨digits * 10 ^ (power + 1), -1⟩ = 10 * denominator ⟨digits, power⟩ := by
    have none : (-(power : Int)).toNat = 0 := by omega
    simp only [denominator, none]
    rfl
  rw [RoundsTo, top, bottom]
  exact roundsTo_mul_iff (by decide)

private theorem strip_roundsTo_iff {rank : Nat} (fuel : Nat) {decimal : Decimal} :
    (strip fuel decimal).RoundsTo rank ↔ decimal.RoundsTo rank := by
  induction fuel generalizing decimal with
  | zero => rfl
  | succ fuel ih =>
    rw [strip]
    split_ifs with zeros
    · rw [ih, ← roundsTo_shift_iff]
      have whole : decimal.digits / 10 * 10 = decimal.digits := by omega
      rw [whole]
    · rfl

private theorem exponent_le_strip (fuel : Nat) (decimal : Decimal) :
    decimal.exponent ≤ (strip fuel decimal).exponent := by
  induction fuel generalizing decimal with
  | zero => rfl
  | succ fuel ih =>
    rw [strip]
    split_ifs
    · exact (Int.le_add_of_nonneg_right (by decide)).trans (ih _)
    · exact le_rfl

end Decimal

private theorem readsBack_eq (rank : Nat) (decimal : Decimal) :
    readsBack rank decimal =
      if rank % 2 = 0 then
        decide (twiceLowerEnd rank * decimal.denominator ≤ 2 * decimal.numerator ∧
          2 * decimal.numerator ≤ twiceUpperEnd rank * decimal.denominator)
      else
        decide (twiceLowerEnd rank * decimal.denominator < 2 * decimal.numerator ∧
          2 * decimal.numerator < twiceUpperEnd rank * decimal.denominator) := by
  have twice : 2 * decimal.digits * 10 ^ decimal.exponent.toNat * unitsPerOne =
      2 * decimal.numerator := by
    rw [Decimal.numerator]
    ring
  rw [readsBack, twice]
  rfl

private theorem readsBack_iff {rank : Nat} {decimal : Decimal} :
    readsBack rank decimal ↔ decimal.RoundsTo rank := by
  rw [readsBack_eq]
  constructor
  · split_ifs with even
    · intro closed
      obtain ⟨lower, upper⟩ := of_decide_eq_true closed
      exact ⟨lower, upper, fun odd => by omega⟩
    · intro interior
      obtain ⟨lower, upper⟩ := of_decide_eq_true interior
      exact ⟨lower.le, upper.le, fun _ => ⟨lower, upper⟩⟩
  · intro rounds
    split_ifs with even
    · exact decide_eq_true ⟨rounds.lower, rounds.upper⟩
    · exact decide_eq_true (rounds.strict (by omega))

/-- Rounding to a whole number goes to one of two neighbours. -/
theorem readsBack_roundHalfEven {rank top bottom : Nat} {exponent : Int}
    (below : readsBack rank ⟨top / bottom, exponent⟩)
    (above : readsBack rank ⟨top / bottom + 1, exponent⟩) :
    readsBack rank ⟨roundHalfEven top bottom, exponent⟩ := by
  have near := roundHalfEven_mem top bottom
  rcases Nat.eq_or_lt_of_le near.1 with same | more
  · rewrite [← same]
    exact below
  · have next : roundHalfEven top bottom = top / bottom + 1 := by omega
    rewrite [next]
    exact above

private theorem candidate?_eq_some {rank count : Nat} {decimal : Decimal}
    (found : candidate? rank count = some decimal) :
    decimal.RoundsTo rank ∧ decimal.exponent = decimalPoint rank - count := by
  rewrite [← readsBack_iff]
  rewrite [candidate?] at found
  split at found
  · next below above =>
    have same := Option.some.inj found
    subst same
    exact ⟨readsBack_roundHalfEven below above, rfl⟩
  · next below _ =>
    have same := Option.some.inj found
    subst same
    exact ⟨below, rfl⟩
  · next _ above =>
    have same := Option.some.inj found
    subst same
    exact ⟨above, rfl⟩
  · cases found

private theorem digitCount_le {n count : Nat} (positive : 0 < count) (small : n < 10 ^ count) :
    digitCount n ≤ count :=
  (Nat.length_toDigits_le_iff (by decide) positive).mpr small

private theorem unitsPerOne_lt : unitsPerOne < 10 ^ 324 := by
  rewrite [unitsPerOne]
  decide +kernel

/-- No magnitude is so small that its decimals start later than this. -/
theorem le_decimalPoint (rank : Nat) : -323 ≤ decimalPoint rank := by
  rewrite [decimalPoint]
  split_ifs
  · omega
  · have small : (unitsPerOne - 1) / magnitudeOfRank rank < 10 ^ 324 :=
      (Nat.div_le_self ..).trans_lt ((Nat.sub_le ..).trans_lt unitsPerOne_lt)
    have few := digitCount_le (by decide) small
    omega

theorem roundsTo_magnitude {rank : Nat} (positive : 0 < rank) :
    RoundsTo rank (magnitudeOfRank rank) 1 := by
  have below : magnitudeOfRank (rank - 1) < magnitudeOfRank rank :=
    magnitudeOfRank_strictMono (by omega)
  have above : magnitudeOfRank rank < magnitudeOfRank (rank + 1) :=
    magnitudeOfRank_strictMono (Nat.lt_succ_self rank)
  constructor <;> simp only [twiceLowerEnd, twiceUpperEnd, Nat.mul_one] <;> omega

/-- The exact value in decimal digits lies in its own interval. -/
theorem roundsTo_exact {rank power : Nat} (positive : 0 < rank) (units : unitsPerOne = 2 ^ power) :
    Decimal.RoundsTo ⟨magnitudeOfRank rank * 5 ^ power, -power⟩ rank := by
  have top : Decimal.numerator ⟨magnitudeOfRank rank * 5 ^ power, -power⟩ =
      10 ^ power * magnitudeOfRank rank := by
    have none : (-(power : Int)).toNat = 0 := by omega
    have ten : 10 ^ power = 5 ^ power * 2 ^ power := by
      rw [← Nat.mul_pow]
    simp only [Decimal.numerator, none, units, ten]
    ring
  have bottom : Decimal.denominator ⟨magnitudeOfRank rank * 5 ^ power, -power⟩ = 10 ^ power * 1 := by
    have all : (- -(power : Int)).toNat = power := by omega
    simp only [Decimal.denominator, all, Nat.mul_one]
  rw [Decimal.RoundsTo, top, bottom]
  exact (roundsTo_mul_iff (Nat.pow_pos (by decide))).mpr (roundsTo_magnitude positive)

/-- The shortest decimal lies in the interval of its rank and is not written out too far. -/
theorem shortest_roundsTo {rank : Nat} (positive : 0 < rank) :
    (shortest rank).RoundsTo rank ∧ -1074 ≤ (shortest rank).exponent := by
  rw [shortest]
  split
  · next decimal found =>
    obtain ⟨count, known, candidate⟩ := List.exists_of_findSome?_eq_some found
    obtain ⟨rounds, exponent⟩ := candidate?_eq_some candidate
    refine ⟨(Decimal.strip_roundsTo_iff 17).mpr rounds, ?_⟩
    have least := le_decimalPoint rank
    have few := List.mem_range.mp known
    have kept := Decimal.exponent_le_strip 17 decimal
    omega
  · -- The power is a variable here, so that nothing evaluates it.
    obtain ⟨power, same⟩ : ∃ power, power = 1074 := ⟨_, rfl⟩
    have units := unitsPerOne.eq_def
    have exponent : (-1074 : Int) = -power := by omega
    rw [← same] at units ⊢
    rw [exponent]
    exact ⟨roundsTo_exact positive units, le_rfl⟩

private theorem two_pow_le_ten_pow (n : Nat) : 2 ^ (13 * (n / 4)) ≤ 10 ^ n := by
  calc 2 ^ (13 * (n / 4)) = 8192 ^ (n / 4) := by rw [Nat.pow_mul]
    _ ≤ 10000 ^ (n / 4) := Nat.pow_le_pow_left (by decide) _
    _ = 10 ^ (4 * (n / 4)) := by rw [Nat.pow_mul]
    _ ≤ 10 ^ n := Nat.pow_le_pow_right (by decide) (by omega)

private theorem ten_pow_le_two_pow (n : Nat) : 10 ^ n ≤ 2 ^ (10 * (n / 3 + 1)) := by
  calc 10 ^ n ≤ 10 ^ (3 * (n / 3 + 1)) := Nat.pow_le_pow_right (by decide) (by omega)
    _ = 1000 ^ (n / 3 + 1) := by rw [Nat.pow_mul]
    _ ≤ 1024 ^ (n / 3 + 1) := Nat.pow_le_pow_left (by decide) _
    _ = 2 ^ (10 * (n / 3 + 1)) := by rw [Nat.pow_mul]

private theorem magnitudeOfRank_le {rank shift : Nat} (bounded : rank ≤ (shift + 1) * 2 ^ 52) :
    magnitudeOfRank rank ≤ 2 ^ (52 + shift) := by
  have top : (shift + 1) * 2 ^ 52 = shift * 2 ^ 52 + 2 ^ 52 := by omega
  have whole := @magnitudeOfRank_scaled (2 ^ 52) shift (by decide) (.inr le_rfl)
  rw [pow_add, ← whole, ← top]
  exact magnitudeOfRank_strictMono.monotone bounded

private theorem twiceUpperEnd_le {rank shift : Nat} (bounded : rank < (shift + 1) * 2 ^ 52) :
    twiceUpperEnd rank ≤ 2 ^ (53 + shift) := by
  have here := magnitudeOfRank_le bounded.le
  have next := magnitudeOfRank_le (Nat.succ_le_of_lt bounded)
  have twice : 2 ^ (53 + shift) = 2 ^ (52 + shift) + 2 ^ (52 + shift) := by ring
  rw [twiceUpperEnd, twice]
  exact Nat.add_le_add here next

private theorem eight_pow_le_ten_pow (n : Nat) : 2 ^ (3 * n) ≤ 10 ^ n := by
  calc 2 ^ (3 * n) = 8 ^ n := by rw [Nat.pow_mul]
    _ ≤ 10 ^ n := Nat.pow_le_pow_left (by decide) n

namespace Decimal.RoundsTo

variable {decimal : Decimal} {rank : Nat}

/-- A decimal in the interval of a positive magnitude is not zero. -/
theorem digits_ne_zero (positive : 0 < rank) (rounds : decimal.RoundsTo rank) :
    decimal.digits ≠ 0 := by
  intro zero
  have some : 0 < twiceLowerEnd rank :=
    Nat.add_pos_right _ (Nat.zero_le _ |>.trans_lt (magnitudeOfRank_strictMono positive))
  have lower := rounds.lower
  rw [numerator, zero, Nat.zero_mul, Nat.zero_mul, Nat.mul_zero, Nat.le_zero] at lower
  exact absurd lower (Nat.mul_pos some decimal.denominator_pos).ne'

/-- It is not too large for binary64. -/
theorem log2_digits_le (positive : 0 < rank) (bounded : rank < 2047 * 2 ^ 52)
    (rounds : decimal.RoundsTo rank) :
    Nat.log2 decimal.digits + 3 * decimal.exponent.toNat ≤
      1024 + 10 * ((-decimal.exponent).toNat / 3 + 1) := by
  obtain ⟨power, same⟩ : ∃ power, power = 1074 := ⟨_, rfl⟩
  have units := unitsPerOne.eq_def
  rw [← same] at units
  have digits := Nat.log2_self_le (rounds.digits_ne_zero positive)
  have chain : 2 ^ (Nat.log2 decimal.digits + 3 * decimal.exponent.toNat + (power + 1)) ≤
      2 ^ (2099 + 10 * ((-decimal.exponent).toNat / 3 + 1)) := by
    calc 2 ^ (Nat.log2 decimal.digits + 3 * decimal.exponent.toNat + (power + 1))
        = 2 * (2 ^ Nat.log2 decimal.digits * 2 ^ (3 * decimal.exponent.toNat) * 2 ^ power) := by ring
      _ ≤ 2 * (decimal.digits * 10 ^ decimal.exponent.toNat * 2 ^ power) :=
        Nat.mul_le_mul_left _ (Nat.mul_le_mul_right _
          (Nat.mul_le_mul digits (eight_pow_le_ten_pow _)))
      _ = 2 * decimal.numerator := by rw [numerator, units]
      _ ≤ twiceUpperEnd rank * decimal.denominator := rounds.upper
      _ ≤ 2 ^ (53 + 2046) * 2 ^ (10 * ((-decimal.exponent).toNat / 3 + 1)) :=
        Nat.mul_le_mul (twiceUpperEnd_le bounded) (ten_pow_le_two_pow _)
      _ = 2 ^ (2099 + 10 * ((-decimal.exponent).toNat / 3 + 1)) := by rw [← pow_add]
  have exponents := (Nat.pow_le_pow_iff_right (by decide)).mp chain
  omega

/-- It is not too small for binary64. -/
theorem lt_log2_digits (positive : 0 < rank) (rounds : decimal.RoundsTo rank) :
    13 * ((-decimal.exponent).toNat / 4) <
      Nat.log2 decimal.digits + 1076 + 10 * (decimal.exponent.toNat / 3 + 1) := by
  obtain ⟨power, same⟩ : ∃ power, power = 1074 := ⟨_, rfl⟩
  have units := unitsPerOne.eq_def
  rw [← same] at units
  have some : 1 ≤ twiceLowerEnd rank :=
    Nat.add_pos_right _ (Nat.zero_le _ |>.trans_lt (magnitudeOfRank_strictMono positive))
  have digits : decimal.digits < 2 ^ (Nat.log2 decimal.digits + 1) := Nat.lt_log2_self
  have chain : 2 ^ (13 * ((-decimal.exponent).toNat / 4)) <
      2 ^ (Nat.log2 decimal.digits + (power + 2) + 10 * (decimal.exponent.toNat / 3 + 1)) := by
    calc 2 ^ (13 * ((-decimal.exponent).toNat / 4)) ≤ decimal.denominator := two_pow_le_ten_pow _
      _ ≤ twiceLowerEnd rank * decimal.denominator := Nat.le_mul_of_pos_left _ some
      _ ≤ 2 * decimal.numerator := rounds.lower
      _ = 2 * (decimal.digits * 10 ^ decimal.exponent.toNat * 2 ^ power) := by rw [numerator, units]
      _ < 2 * (2 ^ (Nat.log2 decimal.digits + 1) * 10 ^ decimal.exponent.toNat * 2 ^ power) :=
        Nat.mul_lt_mul_of_pos_left (Nat.mul_lt_mul_of_pos_right
          (Nat.mul_lt_mul_of_pos_right digits (Nat.pow_pos (by decide))) (Nat.two_pow_pos power))
          (by decide)
      _ ≤ 2 * (2 ^ (Nat.log2 decimal.digits + 1) *
          2 ^ (10 * (decimal.exponent.toNat / 3 + 1)) * 2 ^ power) :=
        Nat.mul_le_mul_left _ (Nat.mul_le_mul_right _
          (Nat.mul_le_mul_left _ (ten_pow_le_two_pow _)))
      _ = 2 ^ (Nat.log2 decimal.digits + (power + 2) + 10 * (decimal.exponent.toNat / 3 + 1)) := by
        ring
  have exponents := (Nat.pow_lt_pow_iff_right (by decide)).mp chain
  omega

end Decimal.RoundsTo

/-- A decimal in the interval of a number is read as that number, unless it is written out very far. -/
theorem ofDecimal?_eq_some {x : Binary64} {decimal : Decimal} (positive : 0 < x.rank)
    (rounds : decimal.RoundsTo x.rank) (least : -1074 ≤ decimal.exponent) :
    ofDecimal? x.negative decimal.digits decimal.exponent = some x := by
  have some := rounds.digits_ne_zero positive
  have large := rounds.log2_digits_le positive x.rank_lt
  have small := rounds.lt_log2_digits positive
  rw [ofDecimal?, if_neg (by omega), if_neg (by omega)]
  exact nearest?_eq_some decimal.denominator_pos rounds

end Intake.Binary64
