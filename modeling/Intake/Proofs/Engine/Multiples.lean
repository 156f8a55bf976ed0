import Intake.Proofs.Binary64.Quotients
import Intake.Proofs.Engine.Executable
import Intake.Proofs.Engine.Meaning

/-! # Multiples of an integer

An integer counts as a multiple if its rounded quotient by the step is closer to a whole number than
the tolerance, which is the same for every step. What the quotient of an integer lacks to a whole
number is no less than one part of the step, so the tolerance tells the multiples of small steps. It
stops doing so where that part, rounded up to the spacing of quotients, gets below it.
-/

namespace Intake

open Binary64

namespace Validator

/-- One in `2 ^ 32` parts. The tolerance is between four and five of them. -/
def grain : Nat := 2 ^ 1042

private theorem grain_pos : 0 < grain := by decide +kernel

private theorem unitsPerOne_eq_grains : unitsPerOne = 2 ^ 32 * grain := by decide +kernel

private theorem grains_lt_tolerance : 4 * grain < tolerance.magnitude := by decide +kernel

private theorem tolerance_le_grains : tolerance.magnitude ≤ 5 * grain := by decide +kernel

/-- A power of two is two grains at most, or four, or more than five. -/
theorem two_pow_cases (shift : Nat) :
    2 ^ shift ≤ 2 * grain ∨ 2 ^ shift = 4 * grain ∨ 5 * grain < 2 ^ shift := by
  obtain ⟨top, double⟩ : ∃ top, 2 * grain = 2 ^ top := ⟨1043, by decide +kernel⟩
  have positive := grain_pos
  rcases Nat.lt_trichotomy shift (top + 1) with less | rfl | greater
  · left
    rw [double]
    exact Nat.pow_le_pow_right Nat.two_pos (Nat.le_of_lt_succ less)
  · right; left
    rw [Nat.pow_succ, ← double]
    omega
  · have grows : 2 ^ (top + 2) ≤ 2 ^ shift := Nat.pow_le_pow_right Nat.two_pos greater
    rw [Nat.pow_add, ← double] at grows
    exact .inr (.inr (by omega))

variable {a b : Nat} {ratio : Binary64}

/-- With a spacing of four grains or less the tolerance and the rounding amount to six grains. -/
theorem slack_le {shift : Nat} (multiple : 2 ^ shift ∣ ratio.distanceToWhole)
    (near : ratio.distanceToWhole < tolerance.magnitude) :
    2 ^ shift + 2 * ratio.distanceToWhole ≤ 12 * grain ∨
      5 * grain < 2 ^ shift ∧ ratio.distanceToWhole = 0 := by
  have most := tolerance_le_grains
  rcases two_pow_cases shift with fine | medium | coarse
  · left
    omega
  · left
    -- Two spacings would exceed the tolerance.
    obtain ⟨spacings, same⟩ := multiple
    have few : spacings ≤ 1 := by
      by_contra more
      have least : 4 * grain * 2 ≤ 4 * grain * spacings := Nat.mul_le_mul_left _ (by omega)
      rw [← medium, ← same] at least
      omega
    have one : 4 * grain * spacings ≤ 4 * grain * 1 := Nat.mul_le_mul_left _ few
    rw [← medium, ← same] at one
    omega
  · exact .inr ⟨coarse, Nat.eq_zero_of_dvd_of_lt multiple (by omega)⟩

private theorem rest_le_of_slack {rest : Nat} (slack : 2 * (rest * unitsPerOne) ≤ b * (12 * grain)) :
    2 ^ 31 * rest ≤ 3 * b := by
  have scaled : 2 ^ 31 * rest * (4 * grain) ≤ 3 * b * (4 * grain) := by
    calc 2 ^ 31 * rest * (4 * grain) = 2 * (rest * (2 ^ 32 * grain)) := by ring
      _ ≤ b * (12 * grain) := by rwa [← unitsPerOne_eq_grains]
      _ = 3 * b * (4 * grain) := by ring
  exact Nat.le_of_mul_le_mul_right scaled (Nat.mul_pos (by decide) grain_pos)

/-- A ratio of small numbers that is as good as whole is one of numbers that leave no remainder, or
next to none. -/
theorem exists_close (positive : 0 < b) (small : a ≤ 2 ^ 53) (small' : b ≤ 2 ^ 53)
    (rounded : ratio.magnitude = magnitudeOfRank (nearestRank (a * unitsPerOne) b))
    (near : ratio.distanceToWhole < tolerance.magnitude) :
    ∃ whole : Nat, 2 ^ 31 * ((a : Int) - whole * b).natAbs ≤ 3 * b := by
  by_cases proper : b ∣ a
  · obtain ⟨whole, rfl⟩ := proper
    refine ⟨whole, ?_⟩
    rw [Nat.mul_comm b, Nat.cast_mul, Int.sub_self]
    exact Nat.zero_le _
  · refine ⟨ratio.wholeMagnitude, ?_⟩
    obtain ⟨shift, spaced⟩ := exists_spaced (a * unitsPerOne) positive
    have remainder := spaced.remainder_le rounded
    have unit := spacing_dvd positive small proper spaced.large
    have multiple := spaced.multiple
    rw [← rounded] at multiple
    have some : 0 < ((a : Int) - ratio.wholeMagnitude * b).natAbs := by
      rw [Int.natAbs_pos, sub_ne_zero]
      intro whole
      exact proper (Dvd.intro_left ratio.wholeMagnitude (by exact_mod_cast whole.symm))
    generalize ((a : Int) - ratio.wholeMagnitude * b).natAbs = rest at remainder some ⊢
    rcases slack_le (dvd_distanceToWhole multiple unit) near with slack | ⟨coarse, whole⟩
    · exact rest_le_of_slack (remainder.trans (Nat.mul_le_mul_left b slack))
    · have large : 2 ^ 52 * (b * 2 ^ shift) ≤ a * unitsPerOne := by
        apply spaced.large.resolve_left
        rintro rfl
        have positive := grain_pos
        omega
      have least : unitsPerOne ≤ rest * unitsPerOne := Nat.le_mul_of_pos_left _ some
      rw [whole, Nat.mul_zero, Nat.add_zero] at remainder
      have wide : 2 * unitsPerOne ≤ b * 2 ^ shift := (Nat.mul_le_mul_left 2 least).trans remainder
      exact absurd (dvd_of_spacing small small' large wide) proper

/-- One divided by a large step gets below the tolerance. -/
theorem near_of_one (large : 2 ^ 31 ≤ b)
    (rounded : ratio.magnitude = magnitudeOfRank (nearestRank (1 * unitsPerOne) b)) :
    ratio.distanceToWhole < tolerance.magnitude := by
  have positive := grain_pos
  have units := unitsPerOne_eq_grains
  have tolerated := grains_lt_tolerance
  have two : magnitudeOfRank (992 * 2 ^ 52) = 2 * grain := by decide +kernel
  have less : 1 * unitsPerOne * 1 ≤ 2 * grain * b := by
    calc 1 * unitsPerOne * 1 = 2 * grain * 2 ^ 31 := by omega
      _ ≤ 2 * grain * b := Nat.mul_le_mul_left _ large
  have rank : nearestRank (1 * unitsPerOne) b ≤ 992 * 2 ^ 52 := by
    rw [← nearestRank_magnitudeOfRank (992 * 2 ^ 52), two]
    exact nearestRank_mono (by omega) Nat.one_pos less
  have most : ratio.magnitude ≤ 2 * grain := by
    rw [rounded, ← two]
    exact magnitudeOfRank_strictMono.monotone rank
  have split : ratio.magnitude = 0 * unitsPerOne + ratio.magnitude := by omega
  rw [distanceToWhole_eq split (by omega)]
  omega

/-- The rank after that of `2 ^ 22`. -/
def nextRank : Nat := 1044 * 2 ^ 52 + (2 ^ 52 + 1)

private theorem two_pow_eq_grains : 2 ^ 1044 = 4 * grain := by decide +kernel

private theorem magnitudeOfRank_nextRank :
    magnitudeOfRank nextRank = 2 ^ 22 * unitsPerOne + 4 * grain := by
  decide +kernel

/-- One part of a step of more than a third of `2 ^ 31` is rounded to four grains above `2 ^ 22`. -/
theorem roundsTo_nextRank (coarse : 2 ^ 31 < 3 * b) (bounded : b < 2 ^ 31) :
    RoundsTo nextRank ((2 ^ 22 * b + 1) * unitsPerOne) b := by
  have significand : 2 ^ 52 + 1 ≤ 2 ^ 53 := by decide
  have normal : 1044 = 0 ∨ 2 ^ 52 < 2 ^ 52 + 1 := .inr (Nat.lt_succ_self _)
  have lower := twiceLowerEnd_scaled significand normal
  have upper := twiceUpperEnd_scaled significand (normal.imp_right Nat.le_of_lt)
  rw [two_pow_eq_grains] at lower upper
  have reach : 2 ^ 31 * grain < 3 * (b * grain) := by
    rw [← Nat.mul_assoc]
    exact Nat.mul_lt_mul_of_pos_right coarse grain_pos
  have reach' : b * grain < 2 ^ 31 * grain := Nat.mul_lt_mul_of_pos_right bounded grain_pos
  rw [nextRank, unitsPerOne_eq_grains]
  -- The value of a grain is of no account here.
  generalize grain = grain at *
  have twice : 2 * ((2 ^ 22 * b + 1) * (2 ^ 32 * grain)) =
      2 ^ 55 * (b * grain) + 2 ^ 33 * grain := by ring
  have below : twiceLowerEnd (1044 * 2 ^ 52 + (2 ^ 52 + 1)) * b <
      2 * ((2 ^ 22 * b + 1) * (2 ^ 32 * grain)) := by
    have product : (2 * (2 ^ 52 + 1) - 1) * (4 * grain) * b = (2 ^ 55 + 4) * (b * grain) := by ring
    rw [lower, twice, product]
    omega
  have above : 2 * ((2 ^ 22 * b + 1) * (2 ^ 32 * grain)) <
      twiceUpperEnd (1044 * 2 ^ 52 + (2 ^ 52 + 1)) * b := by
    have product : (2 * (2 ^ 52 + 1) + 1) * (4 * grain) * b = (2 ^ 55 + 12) * (b * grain) := by ring
    refine Nat.lt_of_lt_of_le ?_ (Nat.mul_le_mul_right b upper)
    rw [twice, product]
    omega
  exact ⟨below.le, above.le, fun _ => ⟨below, above⟩⟩

private theorem near_of_next (coarse : 2 ^ 31 < 3 * b) (bounded : b < 2 ^ 31)
    (rounded : ratio.magnitude = magnitudeOfRank (nearestRank ((2 ^ 22 * b + 1) * unitsPerOne) b)) :
    ratio.distanceToWhole < tolerance.magnitude := by
  have rank := (nearestRank_eq_iff (by omega)).mpr (roundsTo_nextRank coarse bounded)
  have positive := grain_pos
  have units := unitsPerOne_eq_grains
  rw [rank, magnitudeOfRank_nextRank] at rounded
  rw [distanceToWhole_eq rounded (by omega)]
  exact grains_lt_tolerance

private theorem multiple_eq_ok_none_iff {argument? : Option String} {shown : String}
    {document : Document} {number step : Binary64} (stands : number? document = some number)
    (read : numberArgument "multiple_of" argument? = .ok (shown, step)) :
    multiple argument? document = .ok none ↔ ¬step ≤ 0 ∧ isMultiple number step := by
  rw [multiple, read]
  by_cases dead : step ≤ 0
  · simp [dead, bind, Except.bind, throw, throwThe, MonadExceptOf.throw]
  · simp [dead, stands, bind, Except.bind, pure, Except.pure, complainUnless_eq_none_iff]

end Validator

/-- The token that asks for multiples of an integer. -/
def Token.multipleOf (step : Int) : Token := .withArgument "multiple_of" (Number.integer step).text

namespace StandardEngine

open Validator (tolerance)

variable {step value : Int}

/-- Whether an integer passes is a matter of the rounded ratio of magnitudes. -/
theorem exists_ratio (positive : 0 < step) (small : step.natAbs ≤ 2 ^ 53)
    (inside : value.natAbs ≤ 2 ^ 53) : ∃ ratio : Binary64,
      ratio.magnitude = magnitudeOfRank (nearestRank (value.natAbs * unitsPerOne) step.natAbs) ∧
      (Passes (.ofInt value) (.multipleOf step) ↔ ratio.distanceToWhole < tolerance.magnitude) := by
  have filled : ¬isEmptyInput (.ofInt value) := Bool.false_ne_true
  have sound : (Number.integer step).inRange := by
    simp only [Number.inRange, fitsSigned, Bool.or_eq_true, Bool.and_eq_true, decide_eq_true_iff]
    omega
  obtain ⟨x, first⟩ := exists_ofInt? (a := value) (by omega)
  obtain ⟨y, second, read⟩ := Validator.numberArgument_text "multiple_of" sound
  have stands : Validator.number? (.ofInt value) = some x := first
  obtain ⟨ratio, divides, rounded⟩ := exists_div?_eq inside small positive.ne' first second
  have above : ¬y ≤ 0 := by
    change ¬y.units ≤ (0 : Binary64).units
    have zero : (0 : Binary64).units = 0 := by decide
    rw [units_of_small small second, zero, Int.not_le]
    exact Int.mul_pos positive (Int.natCast_pos.mpr unitsPerOne_pos)
  have tells := Validator.multiple_eq_ok_none_iff stands read
  rw [Validator.isMultiple, divides, Option.any_some, decide_eq_true_iff, and_iff_right above] at tells
  exact ⟨ratio, rounded, (passes_iff_of_find? rfl filled).trans tells⟩

/-- Among the integers up to `2 ^ 53` those pass that the step divides. -/
def TellsMultiples (step : Int) : Prop :=
  ∀ value : Int, value.natAbs ≤ 2 ^ 53 → (Passes (.ofInt value) (.multipleOf step) ↔ step ∣ value)

private theorem passes_of_dvd (positive : 0 < step) (small : step.natAbs ≤ 2 ^ 53)
    (inside : value.natAbs ≤ 2 ^ 53) (divides : step ∣ value) :
    Passes (.ofInt value) (.multipleOf step) := by
  obtain ⟨ratio, rounded, passes⟩ := exists_ratio positive small inside
  have some : 0 < step.natAbs := Int.natAbs_pos.mpr positive.ne'
  obtain ⟨whole, same⟩ := Int.natAbs_dvd_natAbs.mpr divides
  have few : whole ≤ 2 ^ 53 := (Nat.le_mul_of_pos_left whole some).trans (same.ge.trans inside)
  rw [same, Nat.mul_comm step.natAbs, magnitude_of_whole few some] at rounded
  rw [passes, distanceToWhole_eq (rounded.trans (Nat.add_zero _).symm) unitsPerOne_pos]
  exact Nat.zero_lt_of_lt Validator.grains_lt_tolerance

private theorem exists_close_of_passes (positive : 0 < step) (small : step.natAbs ≤ 2 ^ 53)
    (inside : value.natAbs ≤ 2 ^ 53) (accepted : Passes (.ofInt value) (.multipleOf step)) :
    ∃ whole : Int, 2 ^ 31 * ((value - whole * step).natAbs : Int) ≤ 3 * step := by
  obtain ⟨ratio, rounded, passes⟩ := exists_ratio positive small inside
  have some : 0 < step.natAbs := Int.natAbs_pos.mpr positive.ne'
  obtain ⟨whole, close⟩ := Validator.exists_close some inside small rounded (passes.mp accepted)
  have size : (step.natAbs : Int) = step := Int.natAbs_of_nonneg positive.le
  rw [size] at close
  rcases Int.natAbs_eq value with sign | sign
  · refine ⟨whole, ?_⟩
    rw [sign]
    omega
  · refine ⟨-whole, ?_⟩
    rw [sign, Int.neg_mul]
    omega

/-- A coarse step takes some integer for a multiple that it does not divide. -/
theorem exists_passes_not_dvd (positive : 0 < step) (small : step.natAbs ≤ 2 ^ 53)
    (coarse : 2 ^ 31 < 3 * step) :
    ∃ value : Int, value.natAbs ≤ 2 ^ 53 ∧ Passes (.ofInt value) (.multipleOf step) ∧ ¬step ∣ value := by
  by_cases large : 2 ^ 31 ≤ step
  · have inside : (1 : Int).natAbs ≤ 2 ^ 53 := by decide
    have size : (1 : Int).natAbs = 1 := rfl
    obtain ⟨ratio, rounded, passes⟩ := exists_ratio positive small inside
    rw [size] at rounded
    refine ⟨1, inside, passes.mpr (Validator.near_of_one (by omega) rounded), ?_⟩
    intro divides
    have less := Int.le_of_dvd Int.one_pos divides
    omega
  · have size : (2 ^ 22 * step + 1).natAbs = 2 ^ 22 * step.natAbs + 1 := by omega
    have inside : (2 ^ 22 * step + 1).natAbs ≤ 2 ^ 53 := by omega
    obtain ⟨ratio, rounded, passes⟩ := exists_ratio positive small inside
    rw [size] at rounded
    refine ⟨_, inside, passes.mpr (Validator.near_of_next (by omega) (by omega) rounded), ?_⟩
    rw [Int.dvd_add_right (Int.dvd_mul_left _ _)]
    intro divides
    have less := Int.le_of_dvd Int.one_pos divides
    omega

/-- Multiples pass, and what passes is a multiple up to three parts of the step in `2 ^ 31`. So the
multiples are told if that is less than one, and only then. -/
theorem passes_multipleOf (positive : 0 < step) (small : step.natAbs ≤ 2 ^ 53) :
    (∀ value : Int, value.natAbs ≤ 2 ^ 53 → step ∣ value →
      Passes (.ofInt value) (.multipleOf step)) ∧
    (∀ value : Int, value.natAbs ≤ 2 ^ 53 → Passes (.ofInt value) (.multipleOf step) →
      ∃ whole : Int, 2 ^ 31 * ((value - whole * step).natAbs : Int) ≤ 3 * step) ∧
    (TellsMultiples step ↔ 3 * step < 2 ^ 31) := by
  refine ⟨fun value inside => passes_of_dvd positive small inside,
    fun value inside => exists_close_of_passes positive small inside, ?_, ?_⟩
  · intro tells
    by_contra coarse
    obtain ⟨value, inside, accepted, proper⟩ := exists_passes_not_dvd positive small (by omega)
    exact proper ((tells value inside).mp accepted)
  · intro fine value inside
    refine ⟨fun accepted => ?_, passes_of_dvd positive small inside⟩
    obtain ⟨whole, close⟩ := exists_close_of_passes positive small inside accepted
    have none : value = whole * step := by omega
    exact Dvd.intro_left whole none.symm

-- One is let pass as a multiple of two thousand million.
example : Validator.multiple (some "2000000000") (.ofInt 1) = .ok none := by decide +kernel

/-- The coarsest step whose multiples are told, and the next one. -/
theorem passes_multipleOf_coarsest :
    (0 < (715827882 : Int) ∧ (715827882 : Int).natAbs ≤ 2 ^ 53 ∧ TellsMultiples 715827882) ∧
      0 < (715827883 : Int) ∧ (715827883 : Int).natAbs ≤ 2 ^ 53 ∧ ¬TellsMultiples 715827883 := by
  have told := (@passes_multipleOf 715827882 (by decide) (by decide)).2.2
  have coarse := (@passes_multipleOf 715827883 (by decide) (by decide)).2.2
  refine ⟨⟨by decide, by decide, told.mpr (by decide)⟩, by decide, by decide, ?_⟩
  rw [coarse]
  decide

end StandardEngine

end Intake
