import Intake.Document.Number
import Intake.Text.Numeric
import Intake.Proofs.Except
import Intake.Proofs.Text.Trimming
import Mathlib.Algebra.Order.Ring.Nat

/-! # Reading what was written in digits

The digits of a natural number read as that number, as a count and as a decimal. A decimal is read
from its parts: a sign, digits, perhaps a point with digits behind it, and perhaps a power of ten.
-/

namespace Intake

private theorem digitsValue_eq (digits : List Char) :
    digitsValue digits = Nat.ofDigitChars 10 digits 0 := by
  simp only [digitsValue, Nat.ofDigitChars_eq_foldl, digitValue, Nat.mul_comm]

@[simp]
theorem digitsValue_toDigits (n : Nat) : digitsValue (Nat.toDigits 10 n) = n := by
  rw [digitsValue_eq, Nat.ofDigitChars_ten_toDigits]

theorem digitsValue_zeros_append (n : Nat) (digits : List Char) :
    digitsValue (List.replicate n '0' ++ digits) = digitsValue digits := by
  rw [digitsValue_eq, digitsValue_eq, Nat.ofDigitChars_append, Nat.ofDigitChars_replicate_zero,
    Nat.mul_zero]

private theorem digitsValue_append_zeros (digits : List Char) (n : Nat) :
    digitsValue (digits ++ List.replicate n '0') = digitsValue digits * 10 ^ n := by
  rw [digitsValue_eq, digitsValue_eq, Nat.ofDigitChars_append, Nat.ofDigitChars_replicate_zero,
    Nat.mul_comm]

theorem isDigit_of_mem_toDigits {n : Nat} {c : Char} (member : c ∈ Nat.toDigits 10 n) : c.isDigit :=
  Nat.isDigit_of_mem_toDigits (by decide) (by decide) member

/-- What digits add to a value is bounded by their number. -/
theorem foldl_digits_lt {base : Nat} {valueOf : Char → Nat} {digits : List Char}
    (below : ∀ c ∈ digits, valueOf c < base) (value : Nat) :
    digits.foldl (fun value c => value * base + valueOf c) value < (value + 1) * base ^ digits.length := by
  induction digits generalizing value with
  | nil => simp
  | cons c rest ih =>
    obtain ⟨first, others⟩ := List.forall_mem_cons.mp below
    calc (c :: rest).foldl (fun value c => value * base + valueOf c) value
        < (value * base + valueOf c + 1) * base ^ rest.length := ih others _
      _ ≤ (value + 1) * base * base ^ rest.length := by
        apply Nat.mul_le_mul_right
        rw [Nat.add_mul]
        omega
      _ = (value + 1) * base ^ (c :: rest).length := by
        rw [List.length_cons, Nat.pow_succ', Nat.mul_assoc]

theorem digitsValue_lt {digits : List Char} (all : ∀ c ∈ digits, c.isDigit) :
    digitsValue digits < 10 ^ digits.length := by
  have below : ∀ c ∈ digits, digitValue c < 10 := by
    intro c member
    have most : c.toNat ≤ '9'.toNat := (Char.isDigit_iff_toNat.mp (all c member)).2
    exact Nat.lt_of_le_of_lt (Nat.sub_le_sub_right most _) (by decide)
  have less := foldl_digits_lt below 0
  rwa [Nat.zero_add, Nat.one_mul] at less

namespace Text

/-- A character that may stand in the text of a number. -/
def isNumeral (c : Char) : Bool := c.isDigit || c == '-' || c == '+' || c == '.' || c == 'e'

theorem not_isBlank_of_isNumeral {c : Char} (numeral : isNumeral c) : ¬isBlank c := by
  simp only [isNumeral, Bool.or_eq_true, beq_iff_eq] at numeral
  rcases numeral with (((digit | rfl) | rfl) | rfl) | rfl
  · obtain ⟨least, most⟩ := Char.isDigit_iff_toNat.mp digit
    simp only [Char.reduceToNat] at least most
    simp [isBlank, blankRanges]
    omega
  · decide
  · decide
  · decide
  · decide

/-- The text of a number has no blanks to trim. -/
theorem trimChars_of_isNumeral {text : List Char} (numeral : ∀ c ∈ text, isNumeral c) :
    trimChars text = text := by
  apply trimChars_of_isTrimmed
  constructor
  · exact fun c first => not_isBlank_of_isNumeral (numeral c (List.mem_of_head? first))
  · exact fun c last => not_isBlank_of_isNumeral (numeral c (List.mem_of_getLast? last))

theorem magnitudeWithin_eq_ok {limit value : Nat} {beyond : IntegerFault} {digits : List Char}
    (all : ∀ c ∈ digits, c.isDigit)
    (within : digits.foldl (fun value c => value * 10 + digitValue c) value ≤ limit) :
    magnitudeWithin limit beyond value digits =
      .ok (digits.foldl (fun value c => value * 10 + digitValue c) value) := by
  induction digits generalizing value with
  | nil => rfl
  | cons c rest ih =>
    obtain ⟨digit, others⟩ := List.forall_mem_cons.mp all
    have grows : ∀ (digits : List Char) (value : Nat),
        value ≤ digits.foldl (fun value c => value * 10 + digitValue c) value := by
      intro digits
      induction digits with
      | nil => exact fun value => Nat.le_refl value
      | cons c rest ih =>
        intro value
        have step : value ≤ value * 10 + digitValue c := by omega
        exact Nat.le_trans step (ih _)
    have fits : ¬limit < value * 10 + digitValue c := Nat.not_lt.mpr (Nat.le_trans (grows rest _) within)
    rw [magnitudeWithin, digit]
    simp only [Bool.not_true, Bool.false_eq_true, if_false, if_neg fits]
    exact ih others within

/-- What is read is a number of digits, and within the limit. -/
theorem magnitudeWithin_le {limit value n : Nat} {beyond : IntegerFault} {digits : List Char}
    (read : magnitudeWithin limit beyond value digits = .ok n) (start : value ≤ limit) :
    n ≤ limit := by
  induction digits generalizing value with
  | nil =>
    cases read
    exact start
  | cons c rest ih =>
    rw [magnitudeWithin] at read
    split_ifs at read with other large
    exact ih read (Nat.not_lt.mp large)

/-- An integer that is read is one of a signed word. -/
theorem fitsSigned_of_signed? {text : List Char} {value : Int} (read : signed? text = some value) :
    fitsSigned value := by
  have bounded {limit n : Nat} {beyond : IntegerFault} {digits : List Char}
      (read : magnitudeWithin limit beyond 0 digits = .ok n) : n ≤ limit :=
    magnitudeWithin_le read (Nat.zero_le limit)
  rw [signed?] at read
  have stands : signed text = .ok value := by
    cases parsed : signed text with
    | error fault =>
      rw [parsed] at read
      cases read
    | ok other =>
      rw [parsed] at read
      cases read
      rfl
  rw [fitsSigned, Bool.and_eq_true, decide_eq_true_iff, decide_eq_true_iff]
  unfold signed at stands
  split at stands
  · cases stands
  · cases stands
  · cases stands
  · obtain ⟨_, lifted, rfl⟩ := except_map_eq_ok.mp stands
    obtain ⟨n, magnitude, ⟨⟩⟩ := except_bind_eq_ok.mp lifted
    have most := bounded magnitude
    omega
  · obtain ⟨n, magnitude, rfl⟩ := except_map_eq_ok.mp stands
    have most := bounded magnitude
    omega
  · obtain ⟨_, lifted, rfl⟩ := except_map_eq_ok.mp stands
    obtain ⟨n, magnitude, ⟨⟩⟩ := except_bind_eq_ok.mp lifted
    have most := bounded magnitude
    omega

private theorem fitsUnsigned_natCast {n : Nat} : fitsUnsigned n ↔ n ≤ 2 ^ 64 - 1 := by
  rw [fitsUnsigned, Bool.and_eq_true, decide_eq_true_iff, decide_eq_true_iff]
  omega

/-- A count is read back from its digits. -/
theorem unsigned?_toDigits {n : Nat} (fits : fitsUnsigned n) :
    unsigned? (Nat.toDigits 10 n) = some n := by
  have all : ∀ c ∈ Nat.toDigits 10 n, c.isDigit := fun c => isDigit_of_mem_toDigits
  have value : (Nat.toDigits 10 n).foldl (fun value c => value * 10 + digitValue c) 0 = n :=
    digitsValue_toDigits n
  have read : magnitudeWithin (2 ^ 64 - 1) .tooLarge 0 (Nat.toDigits 10 n) = .ok n := by
    have within := Nat.le_trans (Nat.le_of_eq value) (fitsUnsigned_natCast.mp fits)
    exact (magnitudeWithin_eq_ok all within).trans (congrArg Except.ok value)
  have digits : unsigned (Nat.toDigits 10 n) =
      magnitudeWithin (2 ^ 64 - 1) .tooLarge 0 (Nat.toDigits 10 n) := by
    cases text : Nat.toDigits 10 n with
    | nil => exact absurd text Nat.toDigits_ne_nil
    | cons c rest =>
      have digit : c.isDigit := all c (text ▸ List.mem_cons_self ..)
      rw [unsigned]
      · exact fun empty => nomatch empty
      · rintro ⟨⟩
        cases digit
      · rintro digits ⟨⟩
        cases digit
  rw [unsigned?, digits, read]
  rfl

/-- The sign of a number that may be negative. -/
def signOf (negative : Bool) : List Char := if negative then ['-'] else []

theorem signPart_signOf {digits : List Char} (first : ∀ c ∈ digits.head?, c.isDigit)
    (negative : Bool) : signPart (signOf negative ++ digits) = (negative, digits) := by
  cases negative with
  | true => rfl
  | false =>
    cases digits with
    | nil => rfl
    | cons c rest =>
      have digit : c.isDigit := first c rfl
      rw [signOf, if_neg Bool.false_ne_true, List.nil_append, signPart]
      · rintro rest ⟨⟩
        cases digit
      · rintro rest ⟨⟩
        cases digit

/-- The digits in front end where something else begins. -/
theorem digits_append {run rest : List Char} (all : ∀ c ∈ run, c.isDigit)
    (ends : ∀ c ∈ rest.head?, ¬c.isDigit) : Numeral.digits (run ++ rest) = (run, rest) := by
  rw [Numeral.digits, List.takeWhile_append_of_pos all, List.dropWhile_append_of_pos all]
  cases rest with
  | nil => simp
  | cons c rest =>
    have stop : ¬c.isDigit := ends c rfl
    rw [List.takeWhile_cons_of_neg stop, List.dropWhile_cons_of_neg stop, List.append_nil]

/-- The end of a decimal: nothing, or a power of ten. -/
structure IsEnding (ending : List Char) (power : Int) : Prop where
  head : ∀ c ∈ ending.head?, c = 'e'
  power : power? ending = some power

theorem isEnding_nil : IsEnding [] 0 := ⟨fun _ first => (nomatch first), rfl⟩

private theorem IsEnding.not_isDigit {ending : List Char} {power : Int} (ends : IsEnding ending power) :
    ∀ c ∈ ending.head?, ¬c.isDigit := by
  intro c first
  rw [ends.head c first]
  decide

/-- A decimal is read from digits, further digits behind a point, and an ending. -/
theorem decimal?_point (negative : Bool) {whole fraction ending : List Char} {power : Int}
    (digits : ∀ c ∈ whole, c.isDigit) (nonempty : whole ≠ []) (others : ∀ c ∈ fraction, c.isDigit)
    (ends : IsEnding ending power) :
    decimal? (signOf negative ++ (whole ++ '.' :: (fraction ++ ending))) =
      Binary64.ofDecimal? negative (digitsValue (whole ++ fraction)) (power - fraction.length) := by
  have first : ∀ c ∈ (whole ++ '.' :: (fraction ++ ending)).head?, c.isDigit := by
    rw [List.head?_append_of_ne_nil _ nonempty]
    exact fun c first => digits c (List.mem_of_head? first)
  have point : ∀ c ∈ ('.' :: (fraction ++ ending)).head?, ¬c.isDigit := by
    rintro c ⟨⟩
    decide
  have some : whole.isEmpty = false := by simpa using nonempty
  simp only [decimal?, signPart_signOf first, digits_append digits point,
    digits_append others ends.not_isDigit, some, ends.power, Bool.false_and, Bool.false_eq_true,
    if_false, Option.bind_eq_bind, Option.bind_some]

/-- Without a point there is nothing behind it. -/
theorem decimal?_whole (negative : Bool) {whole ending : List Char} {power : Int}
    (digits : ∀ c ∈ whole, c.isDigit) (nonempty : whole ≠ []) (ends : IsEnding ending power) :
    decimal? (signOf negative ++ (whole ++ ending)) =
      Binary64.ofDecimal? negative (digitsValue whole) power := by
  have first : ∀ c ∈ (whole ++ ending).head?, c.isDigit := by
    rw [List.head?_append_of_ne_nil _ nonempty]
    exact fun c first => digits c (List.mem_of_head? first)
  have some : whole.isEmpty = false := by simpa using nonempty
  have noPoint : ∀ rest, ending ≠ '.' :: rest := by
    rintro rest rfl
    cases ends.head '.' rfl
  simp only [decimal?, signPart_signOf first, digits_append digits ends.not_isDigit, some,
    Bool.false_and, Bool.false_eq_true, if_false, Option.bind_eq_bind, ends.power, Option.bind_some,
    List.append_nil, List.length_nil, Int.natCast_zero, Int.sub_zero]

/-- A power of ten is written with its sign, which may be left out if it is not negative. -/
theorem isEnding_power (negative : Bool) (n : Nat) :
    IsEnding ('e' :: (signOf negative ++ Nat.toDigits 10 n)) (if negative then -n else n) := by
  have all : (Nat.toDigits 10 n).all Char.isDigit := by
    rw [List.all_eq_true]
    exact fun c => isDigit_of_mem_toDigits
  have first : ∀ c ∈ (Nat.toDigits 10 n).head?, c.isDigit :=
    fun c first => isDigit_of_mem_toDigits (List.mem_of_head? first)
  constructor
  · rintro c ⟨⟩
    rfl
  · rw [power?, power?.exponent?, signPart_signOf first]
    simp [all]

/-- A sign of plus is passed over as well. -/
theorem isEnding_plus (n : Nat) : IsEnding ('e' :: '+' :: Nat.toDigits 10 n) n := by
  constructor
  · rintro c ⟨⟩
    rfl
  · have all : (Nat.toDigits 10 n).all Char.isDigit := by
      rw [List.all_eq_true]
      exact fun c => isDigit_of_mem_toDigits
    simp [power?, power?.exponent?, signPart, all]

private theorem isDigit_of_mem_zeros {n : Nat} {c : Char} (member : c ∈ List.replicate n '0') :
    c.isDigit := by
  rw [List.eq_of_mem_replicate member]
  decide

theorem isDigit_of_mem_zero : ∀ c ∈ ['0'], c.isDigit := fun _ => @isDigit_of_mem_zeros 1 _

variable {digits : List Char}

/-- The point stands before all digits, with zeros between. -/
theorem decimal?_before (negative : Bool) (all : ∀ c ∈ digits, c.isDigit) (zeros : Nat) :
    decimal? (signOf negative ++ '0' :: '.' :: (List.replicate zeros '0' ++ digits)) =
      Binary64.ofDecimal? negative (digitsValue digits) (-(zeros + digits.length : Nat)) := by
  have fraction : ∀ c ∈ List.replicate zeros '0' ++ digits, c.isDigit := by
    intro c member
    rcases List.mem_append.mp member with zero | digit
    · exact isDigit_of_mem_zeros zero
    · exact all c digit
  have read := decimal?_point negative isDigit_of_mem_zero (by decide) fraction isEnding_nil
  have value : digitsValue (['0'] ++ (List.replicate zeros '0' ++ digits)) = digitsValue digits := by
    rw [← List.append_assoc, ← List.replicate_one, ← List.replicate_add, digitsValue_zeros_append]
  rw [value, List.append_nil, List.length_append, List.length_replicate, Int.zero_sub] at read
  exact read

/-- The point stands behind all digits, with zeros between and one zero after it. -/
theorem decimal?_behind (negative : Bool) (all : ∀ c ∈ digits, c.isDigit) (nonempty : digits ≠ [])
    (zeros : Nat) :
    decimal? (signOf negative ++ (digits ++ List.replicate zeros '0' ++ ['.', '0'])) =
      Binary64.ofDecimal? negative (digitsValue digits * 10 ^ (zeros + 1)) (-1) := by
  have whole : ∀ c ∈ digits ++ List.replicate zeros '0', c.isDigit := by
    intro c member
    rcases List.mem_append.mp member with digit | zero
    · exact all c digit
    · exact isDigit_of_mem_zeros zero
  have read := decimal?_point negative whole (List.append_ne_nil_of_left_ne_nil nonempty _)
    isDigit_of_mem_zero isEnding_nil
  have value : digitsValue (digits ++ List.replicate zeros '0' ++ ['0']) =
      digitsValue digits * 10 ^ (zeros + 1) := by
    rw [List.append_assoc, ← List.replicate_one, ← List.replicate_add, digitsValue_append_zeros]
  rw [value] at read
  exact read

/-- The point stands among the digits, perhaps with a power of ten at the end. -/
theorem decimal?_among (negative : Bool) (all : ∀ c ∈ digits, c.isDigit) {point : Nat}
    (after : 0 < point) (before : point < digits.length) {ending : List Char} {power : Int}
    (ends : IsEnding ending power) :
    decimal? (signOf negative ++ (digits.take point ++ '.' :: (digits.drop point ++ ending))) =
      Binary64.ofDecimal? negative (digitsValue digits) (power - (digits.length - point : Nat)) := by
  have nonempty : digits.take point ≠ [] := by
    intro empty
    have none := congrArg List.length empty
    rw [List.length_take, List.length_nil] at none
    omega
  have others : ∀ c ∈ digits.drop point, c.isDigit :=
    fun c member => all c (List.mem_of_mem_drop member)
  have read := decimal?_point negative (fun c member => all c (List.mem_of_mem_take member)) nonempty
    others ends
  rwa [List.take_append_drop, List.length_drop] at read

end Text

end Intake
