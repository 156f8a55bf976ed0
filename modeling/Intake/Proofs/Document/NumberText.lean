import Intake.Proofs.Binary64.Shortest
import Intake.Proofs.Document.WellFormed
import Intake.Proofs.Text.Numeric

/-! # Numbers read back from their text

The text of a number is read as the binary64 number nearest to it: a binary64 number from its
shortest decimal in either layout, an integer from its digits.
-/

namespace Intake

open Text

namespace Binary64

/-- Zero is read whatever its exponent is. -/
theorem ofDecimal?_zero {x : Binary64} (zero : x.rank = 0) (exponent : Int) :
    ofDecimal? x.negative 0 exponent = some x := by
  have rounds : RoundsTo x.rank 0 1 := by
    rw [zero]
    constructor <;> simp [twiceLowerEnd, magnitudeOfRank]
  rw [ofDecimal?, if_pos (.inl rfl)]
  exact nearest?_eq_some (by decide) rounds

/-- What is written positionally has the digits and the exponent of the decimal, except that a whole
number is written out with a zero behind the point. -/
theorem decimal?_positional (negative : Bool) (digits : Nat) (exponent : Int) :
    decimal? (signOf negative ++
        positional (Nat.toDigits 10 digits) (exponent + (Nat.toDigits 10 digits).length)) =
      if 0 ≤ exponent then ofDecimal? negative (digits * 10 ^ (exponent.toNat + 1)) (-1)
      else ofDecimal? negative digits exponent := by
  have all : ∀ c ∈ Nat.toDigits 10 digits, c.isDigit := fun c => isDigit_of_mem_toDigits
  have nonempty : Nat.toDigits 10 digits ≠ [] := Nat.toDigits_ne_nil
  have value := digitsValue_toDigits digits
  generalize Nat.toDigits 10 digits = written at *
  have some : 0 < written.length := List.length_pos_iff.mpr nonempty
  rw [positional]
  split_ifs with small whole whole
  · omega
  · have read := decimal?_before negative all (-(exponent + written.length)).toNat
    have places : -(((-(exponent + written.length)).toNat + written.length : Nat) : Int) = exponent := by
      omega
    rw [value, places] at read
    exact read
  · have behind : written.length ≤ (exponent + written.length).toNat := by omega
    have filled : (exponent + written.length).toNat - written.length = exponent.toNat := by omega
    have read := decimal?_behind negative all nonempty exponent.toNat
    rw [value] at read
    simpa [List.take_of_length_le behind, List.drop_of_length_le behind, filled] using read
  · have before : (exponent + written.length).toNat < written.length := by omega
    have read := decimal?_among negative all (by omega) before isEnding_nil
    have places : (0 : Int) - (written.length - (exponent + written.length).toNat : Nat) = exponent := by
      omega
    have full : (exponent + written.length).toNat -
        (written.take (exponent + written.length).toNat).length = 0 := by
      rw [List.length_take]
      omega
    have rest : (written.drop (exponent + written.length).toNat).isEmpty = false := by
      simpa using before
    rw [value, places] at read
    simp only [full, rest, List.replicate_zero, List.append_nil, Bool.false_eq_true, if_false]
    simpa using read

/-- What is written with an exponent has the digits of the decimal, and its exponent in the end. -/
theorem decimal?_scientific (layout : Layout) (negative : Bool) (digits : Nat) (exponent : Int) :
    decimal? (signOf negative ++ scientific layout (Nat.toDigits 10 digits)
        (exponent + (Nat.toDigits 10 digits).length - 1)) =
      ofDecimal? negative digits exponent := by
  have all : ∀ c ∈ Nat.toDigits 10 digits, c.isDigit := fun c => isDigit_of_mem_toDigits
  have nonempty : Nat.toDigits 10 digits ≠ [] := Nat.toDigits_ne_nil
  have value := digitsValue_toDigits digits
  generalize Nat.toDigits 10 digits = written at *
  have some : 0 < written.length := List.length_pos_iff.mpr nonempty
  have ends (power : Int) : IsEnding ('e' :: ((if power < 0 then ['-'] else
      if layout.signedExponent then ['+'] else []) ++ Nat.toDigits 10 power.natAbs)) power := by
    split_ifs with below signed
    · have ending := isEnding_power true power.natAbs
      rwa [if_pos rfl, show -(power.natAbs : Int) = power by omega] at ending
    · have ending := isEnding_plus power.natAbs
      rwa [show (power.natAbs : Int) = power by omega] at ending
    · have ending := isEnding_power false power.natAbs
      rwa [if_neg Bool.false_ne_true, show (power.natAbs : Int) = power by omega] at ending
  rw [scientific]
  by_cases one : written.length = 1
  · have read := decimal?_whole negative all nonempty (ends (exponent + written.length - 1))
    have places : exponent + written.length - 1 = exponent := by omega
    have none : written.drop 1 = [] := List.drop_of_length_le one.le
    have full : written.take 1 = written := List.take_of_length_le one.le
    rw [value, places] at read
    simpa [none, full, places] using read
  · have read := decimal?_among negative all (by decide) (by omega : 1 < written.length)
      (ends (exponent + written.length - 1))
    have places : exponent + written.length - 1 - (written.length - 1 : Nat) = exponent := by omega
    have rest : (written.drop 1).isEmpty = false := by
      rw [List.isEmpty_eq_false_iff, ← List.length_pos_iff, List.length_drop]
      omega
    rw [value, places] at read
    simp only [rest, Bool.false_eq_true, if_false]
    simpa using read

/-- A binary64 number is read back from its text. -/
theorem decimal?_render (layout : Layout) (x : Binary64) : decimal? (x.render layout) = some x := by
  rw [render, ← signOf]
  by_cases zero : x.rank = 0
  · have read := decimal?_point x.negative isDigit_of_mem_zero (by decide) isDigit_of_mem_zero isEnding_nil
    rw [if_pos zero]
    exact read.trans (ofDecimal?_zero zero _)
  · have positive := Nat.pos_of_ne_zero zero
    obtain ⟨rounds, least⟩ := shortest_roundsTo positive
    rw [if_neg zero]
    dsimp only
    split_ifs with fits
    · rw [decimal?_positional]
      split_ifs with whole
      · have same : Decimal.RoundsTo ⟨(shortest x.rank).digits *
            10 ^ ((shortest x.rank).exponent.toNat + 1), -1⟩ x.rank := by
          rw [Decimal.roundsTo_whole_iff, Int.toNat_of_nonneg whole]
          exact rounds
        have least : (-1074 : Int) ≤ -1 := by decide
        exact ofDecimal?_eq_some positive same least
      · exact ofDecimal?_eq_some positive rounds least
    · rw [decimal?_scientific]
      exact ofDecimal?_eq_some positive rounds least

theorem isNumeral_of_mem_signOf (negative : Bool) : ∀ c ∈ signOf negative, isNumeral c := by
  cases negative <;> simp [signOf, isNumeral]

theorem isNumeral_of_mem_toDigits {n : Nat} : ∀ c ∈ Nat.toDigits 10 n, isNumeral c := by
  intro c member
  simp [isNumeral, isDigit_of_mem_toDigits member]

private theorem isNumeral_of_mem_positional {digits : List Char} (all : ∀ c ∈ digits, isNumeral c)
    (point : Int) : ∀ c ∈ positional digits point, isNumeral c := by
  have zeros (n : Nat) : ∀ c ∈ List.replicate n '0', isNumeral c := by
    intro c member
    rw [List.eq_of_mem_replicate member]
    decide
  have taken : ∀ c ∈ digits.take point.toNat, isNumeral c :=
    fun c member => all c (List.mem_of_mem_take member)
  have dropped : ∀ c ∈ digits.drop point.toNat, isNumeral c :=
    fun c member => all c (List.mem_of_mem_drop member)
  rw [positional]
  split_ifs
  · simp only [List.cons_append, List.forall_mem_cons, List.forall_mem_append]
    exact ⟨by decide, by decide, zeros _, all⟩
  · simp only [List.forall_mem_append, List.forall_mem_cons]
    refine ⟨⟨taken, zeros _⟩, by decide, ?_⟩
    split_ifs
    · exact List.forall_mem_singleton.mpr (by decide)
    · exact dropped

private theorem isNumeral_of_mem_scientific {layout : Layout} {digits : List Char}
    (all : ∀ c ∈ digits, isNumeral c) (exponent : Int) :
    ∀ c ∈ scientific layout digits exponent, isNumeral c := by
  have taken : ∀ c ∈ digits.take 1, isNumeral c := fun c member => all c (List.mem_of_mem_take member)
  have dropped : ∀ c ∈ digits.drop 1, isNumeral c := fun c member => all c (List.mem_of_mem_drop member)
  have sign : ∀ c ∈ if exponent < 0 then ['-'] else if layout.signedExponent then ['+'] else [],
      isNumeral c := by
    split_ifs <;> simp [isNumeral]
  rw [scientific]
  simp only [List.forall_mem_append, List.forall_mem_cons]
  refine ⟨⟨⟨taken, ?_⟩, by decide, sign⟩, isNumeral_of_mem_toDigits⟩
  split_ifs
  · exact List.forall_mem_nil _
  · exact List.forall_mem_cons.mpr ⟨by decide, dropped⟩

theorem isNumeral_of_mem_render {layout : Layout} {x : Binary64} :
    ∀ c ∈ x.render layout, isNumeral c := by
  have sign := isNumeral_of_mem_signOf x.negative
  rw [render, ← signOf]
  split_ifs
  · exact List.forall_mem_append.mpr ⟨sign, by simp [isNumeral]⟩
  · dsimp only
    split_ifs
    · exact List.forall_mem_append.mpr
        ⟨sign, isNumeral_of_mem_positional isNumeral_of_mem_toDigits _⟩
    · exact List.forall_mem_append.mpr
        ⟨sign, isNumeral_of_mem_scientific isNumeral_of_mem_toDigits _⟩

/-- An integer of at most 64 bits is far from the largest magnitude. -/
theorem nearest?_isSome {negative : Bool} {n : Nat} (fits : n ≤ 2 ^ 64) :
    (nearest? negative (n * unitsPerOne) 1).isSome := by
  have rank : nearestRank (n * unitsPerOne) 1 < 2047 * 2 ^ 52 := by
    by_contra large
    obtain ⟨power, same⟩ : ∃ power, power = 1074 := ⟨_, rfl⟩
    have units := unitsPerOne.eq_def
    rw [← same] at units
    have most : 2 ^ (52 + 2046) ≤ twiceLowerEnd (nearestRank (n * unitsPerOne) 1) := by
      have whole := @magnitudeOfRank_scaled (2 ^ 52) 2046 (by decide) (.inr le_rfl)
      rw [pow_add, ← whole, twiceLowerEnd]
      exact (magnitudeOfRank_strictMono.monotone (by omega)).trans (Nat.le_add_left _ _)
    have chain : 2 ^ (52 + 2046) ≤ 2 ^ (65 + power) := by
      calc 2 ^ (52 + 2046) ≤ twiceLowerEnd (nearestRank (n * unitsPerOne) 1) * 1 := by
            rwa [Nat.mul_one]
        _ ≤ 2 * (n * unitsPerOne) := (nearestRank_roundsTo _ (by decide)).lower
        _ ≤ 2 * (2 ^ 64 * 2 ^ power) := by
          rw [units]
          exact Nat.mul_le_mul_left _ (Nat.mul_le_mul_right _ fits)
        _ = 2 ^ (65 + power) := by ring
    have exponents := (Nat.pow_le_pow_iff_right (by decide)).mp chain
    omega
  rw [nearest?, dif_pos rank]
  rfl

/-- An integer that is written in digits is rounded like the integer itself. -/
theorem ofDecimal?_integer {negative : Bool} {n : Nat} (fits : n ≤ 2 ^ 64) :
    ofDecimal? negative n 0 = nearest? negative (n * unitsPerOne) 1 := by
  by_cases zero : n = 0
  · rw [ofDecimal?, if_pos (.inl zero), zero, Nat.zero_mul]
  · have small : Nat.log2 n ≤ 64 := by
      by_contra large
      have most := (Nat.log2_self_le zero).trans fits
      have exponents := (Nat.pow_le_pow_iff_right (by decide)).mp most
      omega
    rw [ofDecimal?, if_neg (by omega), if_neg (by omega), Int.neg_zero, Int.toNat_zero, pow_zero, Nat.mul_one]

end Binary64

namespace Number

theorem chars_integer (value : Int) :
    chars (.integer value) = signOf (value < 0) ++ Nat.toDigits 10 value.natAbs := by
  rw [chars, integerChars, signOf]
  by_cases negative : value < 0 <;> simp [negative]

theorem mem_chars_integer {value : Int} {c : Char} (member : c ∈ chars (.integer value)) :
    c.isDigit ∨ c = '-' := by
  rw [chars_integer, List.mem_append] at member
  rcases member with sign | digit
  · cases negative : decide (value < 0) with
    | false =>
      rw [negative] at sign
      cases sign
    | true =>
      rw [negative] at sign
      exact .inr (List.mem_singleton.mp sign)
  · exact .inl (isDigit_of_mem_toDigits digit)

theorem natAbs_le_of_inRange {value : Int} (sound : (integer value).inRange) :
    value.natAbs ≤ 2 ^ 64 := by
  rw [inRange, Bool.or_eq_true, fitsSigned, fitsUnsigned, Bool.and_eq_true, Bool.and_eq_true,
    decide_eq_true_iff, decide_eq_true_iff, decide_eq_true_iff, decide_eq_true_iff] at sound
  omega

/-- The text of a number is read as the nearest binary64 number, of which there is one. -/
theorem number?_text {number : Number} (sound : number.inRange) :
    Text.number? number.text = number.toBinary64? ∧ number.toBinary64?.isSome := by
  have numerals : ∀ c ∈ number.chars, isNumeral c := by
    cases number with
    | integer value =>
      rw [chars_integer]
      exact List.forall_mem_append.mpr
        ⟨Binary64.isNumeral_of_mem_signOf _, Binary64.isNumeral_of_mem_toDigits⟩
    | real x => exact Binary64.isNumeral_of_mem_render
  have trimmed : Text.number? number.text = decimal? number.chars := by
    rw [Text.number?, text, String.toList_ofList, trimChars_of_isNumeral numerals]
  rw [trimmed]
  cases number with
  | integer value =>
    have fits := natAbs_le_of_inRange sound
    have digits : ∀ c ∈ Nat.toDigits 10 value.natAbs, c.isDigit := fun c => isDigit_of_mem_toDigits
    have read := decimal?_whole (value < 0) digits Nat.toDigits_ne_nil isEnding_nil
    rw [List.append_nil, digitsValue_toDigits, Binary64.ofDecimal?_integer fits] at read
    rw [chars_integer, read, toBinary64?, Binary64.ofInt?]
    exact ⟨rfl, Binary64.nearest?_isSome fits⟩
  | real x => exact ⟨Binary64.decimal?_render layout x, rfl⟩

end Number

end Intake
