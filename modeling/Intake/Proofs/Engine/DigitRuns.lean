import Intake.Engine.Cast
import Intake.Proofs.Binary64.SignedWords
import Intake.Proofs.Text.Numeric

/-! # Runs of digits as integers

A run of digits is cast to the integer that it denotes if that is a signed word. Any other run is read
once more as a decimal, rounded, and almost always found to be no signed word either. The exception is
an integer shortly below the least word: it is rounded up to that and passes for it.
-/

namespace Intake

namespace Text

/-- The integer that a run of digits denotes, with a sign at most in front. -/
def runValue (text : List Char) : Int :=
  let (negative, digits) := signPart text
  if negative then -digitsValue digits else digitsValue digits

variable {text digits : List Char}

/-- A run is a sign at most, and digits. -/
theorem exists_of_isDigitRun (run : isDigitRun text) :
    ∃ digits, digits ≠ [] ∧ (∀ c ∈ digits, c.isDigit) ∧
      (text = '+' :: digits ∨ text = '-' :: digits ∨ text = digits) := by
  have parts {digits : List Char} (run : (!digits.isEmpty && digits.all Char.isDigit) = true) :
      digits ≠ [] ∧ ∀ c ∈ digits, c.isDigit := by
    simpa using run
  unfold isDigitRun at run
  dsimp only at run
  split at run
  · exact ⟨_, (parts run).1, (parts run).2, .inl rfl⟩
  · exact ⟨_, (parts run).1, (parts run).2, .inr (.inl rfl)⟩
  · exact ⟨_, (parts run).1, (parts run).2, .inr (.inr rfl)⟩

private theorem magnitudeWithin_eq_error {limit value : Nat} {beyond : IntegerFault}
    (all : ∀ c ∈ digits, c.isDigit) (start : value ≤ limit)
    (large : limit < digits.foldl (fun value c => value * 10 + digitValue c) value) :
    magnitudeWithin limit beyond value digits = .error beyond := by
  induction digits generalizing value with
  | nil => exact absurd large (Nat.not_lt.mpr start)
  | cons c rest ih =>
    obtain ⟨digit, others⟩ := List.forall_mem_cons.mp all
    rw [magnitudeWithin, digit]
    by_cases above : limit < value * 10 + digitValue c
    · simp [above]
    · simp only [Bool.not_true, Bool.false_eq_true, if_false, if_neg above]
      exact ih others (Nat.not_lt.mp above) large

/-- Digits are read as their value if that is within the limit. -/
theorem toOption_magnitudeWithin {limit : Nat} {beyond : IntegerFault} (all : ∀ c ∈ digits, c.isDigit) :
    (magnitudeWithin limit beyond 0 digits).toOption =
      if digitsValue digits ≤ limit then some (digitsValue digits) else none := by
  split_ifs with within
  · rw [magnitudeWithin_eq_ok all within]
    rfl
  · rw [magnitudeWithin_eq_error all (Nat.zero_le limit) (Nat.not_le.mp within)]
    rfl

/-- The sign of a run, and its digits. -/
theorem signPart_of_isDigitRun (run : isDigitRun text) :
    ∃ negative digits, signPart text = (negative, digits) ∧ digits ≠ [] ∧ (∀ c ∈ digits, c.isDigit) ∧
      signed? text = if negative
        then (magnitudeWithin (2 ^ 63) .tooSmall 0 digits).toOption.map fun n : Nat => -(n : Int)
        else (magnitudeWithin (2 ^ 63 - 1) .tooLarge 0 digits).toOption.map Nat.cast := by
  obtain ⟨digits, nonempty, all, rfl | rfl | rfl⟩ := exists_of_isDigitRun run
  · refine ⟨false, digits, rfl, nonempty, all, ?_⟩
    cases digits with
    | nil => exact absurd rfl nonempty
    | cons c rest =>
      simp only [signed?, signed]
      cases magnitudeWithin (2 ^ 63 - 1) .tooLarge 0 (c :: rest) <;> rfl
  · refine ⟨true, digits, rfl, nonempty, all, ?_⟩
    cases digits with
    | nil => exact absurd rfl nonempty
    | cons c rest =>
      simp only [signed?, signed]
      cases magnitudeWithin (2 ^ 63) .tooSmall 0 (c :: rest) <;> rfl
  · have first : ∀ c ∈ text.head?, c.isDigit := fun c first => all c (List.mem_of_head? first)
    refine ⟨false, text, signPart_signOf first false, nonempty, all, ?_⟩
    unfold signed? signed
    split
    · exact absurd rfl nonempty
    · exact absurd (all '+' (List.mem_cons_self ..)) (by decide)
    · exact absurd (all '-' (List.mem_cons_self ..)) (by decide)
    · exact absurd (all '+' (List.mem_cons_self ..)) (by decide)
    · exact absurd (all '-' (List.mem_cons_self ..)) (by decide)
    · cases magnitudeWithin (2 ^ 63 - 1) .tooLarge 0 text <;> rfl

/-- A run is read as a signed word if the integer that it denotes is one. -/
theorem signed?_of_isDigitRun (run : isDigitRun text) :
    signed? text = if fitsSigned (runValue text) then some (runValue text) else none := by
  obtain ⟨negative, digits, parts, -, all, read⟩ := signPart_of_isDigitRun run
  rw [read, runValue, parts]
  cases negative with
  | false =>
    have fits : fitsSigned (digitsValue digits) ↔ digitsValue digits ≤ 2 ^ 63 - 1 := by
      simp only [fitsSigned, Bool.and_eq_true, decide_eq_true_iff]
      omega
    simp only [Bool.false_eq_true, if_false, toOption_magnitudeWithin all, fits]
    split_ifs <;> rfl
  | true =>
    have fits : fitsSigned (-digitsValue digits) ↔ digitsValue digits ≤ 2 ^ 63 := by
      simp only [fitsSigned, Bool.and_eq_true, decide_eq_true_iff]
      omega
    simp only [if_true, toOption_magnitudeWithin all, fits]
    split_ifs <;> rfl

/-- A run is read as a decimal without a point and a power of ten. -/
theorem decimal?_of_isDigitRun (run : isDigitRun text) :
    decimal? text = Binary64.ofDecimal? (signPart text).1 (digitsValue (signPart text).2) 0 := by
  obtain ⟨negative, digits, parts, nonempty, all, -⟩ := signPart_of_isDigitRun run
  have whole := @digits_append digits [] all nofun
  have some : digits.isEmpty = false := by simpa using nonempty
  rw [List.append_nil] at whole
  simp only [decimal?, parts, whole, some, Bool.false_and, Bool.false_eq_true, if_false, power?,
    Option.bind_eq_bind, Option.bind_some, List.append_nil, List.length_nil, Int.natCast_zero,
    Int.sub_zero]

/-- A run that denotes no signed word is rounded to none, or to the least one from shortly below. -/
theorem toSigned?_decimal?_of_isDigitRun (run : isDigitRun text) (wide : ¬fitsSigned (runValue text)) :
    (decimal? text).bind Binary64.toSigned? =
      if -2 ^ 63 - 2 ^ 10 ≤ runValue text ∧ runValue text < 0 then some (-2 ^ 63) else none := by
  rw [decimal?_of_isDigitRun run]
  rw [runValue] at wide ⊢
  generalize signPart text = parts at wide ⊢
  obtain ⟨negative, digits⟩ := parts
  simp only [fitsSigned, Bool.and_eq_true, decide_eq_true_iff] at wide
  cases negative with
  | false =>
    simp only [Bool.false_eq_true, if_false] at wide ⊢
    rw [Binary64.toSigned?_ofDecimal?_above (by omega), if_neg (by omega)]
  | true =>
    simp only [if_true] at wide ⊢
    rw [Binary64.toSigned?_ofDecimal?_below (by omega)]
    exact if_congr (by omega) rfl rfl

end Text

namespace Cast

variable {text : String}

private theorem isBlank_of_isDigitRun (run : Text.isDigitRun (Text.trimChars text.toList)) :
    isBlank (.string text) = false := by
  by_contra blank
  rw [Bool.not_eq_false] at blank
  rw [Text.trimChars_of_isBlankText blank] at run
  cases run

/-- A run of digits is cast to the integer that it denotes if that is a signed word. Otherwise it is
refused, except that an integer no more than half a step below the least word is cast to that. -/
theorem integer_of_isDigitRun (run : Text.isDigitRun (Text.trimChars text.toList)) :
    integer (.string text) =
      if fitsSigned (Text.runValue (Text.trimChars text.toList)) then
        .ok (.ofInt (Text.runValue (Text.trimChars text.toList)))
      else if -2 ^ 63 - 2 ^ 10 ≤ Text.runValue (Text.trimChars text.toList) ∧
          Text.runValue (Text.trimChars text.toList) < 0 then
        .ok (.ofInt (-2 ^ 63))
      else .error .notAnInteger := by
  rw [integer, isBlank_of_isDigitRun run, if_neg Bool.false_ne_true, integer?, textInteger?,
    Text.signed?_of_isDigitRun run, Text.number?]
  by_cases fits : fitsSigned (Text.runValue (Text.trimChars text.toList))
  · rw [if_pos fits, if_pos fits]
    rfl
  · rw [if_neg fits, if_neg fits, Option.orElse_none, Text.toSigned?_decimal?_of_isDigitRun run fits]
    split_ifs <;> rfl

/-- The greatest signed word is read and the next integer refused, but the one next below the least
word is cast to that word. -/
theorem integer_of_isDigitRun_below :
    let chars (text : String) : List Char := Text.trimChars text.toList
    (Text.isDigitRun (chars " +9223372036854775807 ") ∧
        integer (.string " +9223372036854775807 ") = .ok (.ofInt 9223372036854775807)) ∧
      (Text.isDigitRun (chars "9223372036854775808") ∧
        integer (.string "9223372036854775808") = .error .notAnInteger) ∧
      (Text.isDigitRun (chars "-9223372036854775809") ∧
        Text.runValue (chars "-9223372036854775809") = -9223372036854775809 ∧
        integer (.string "-9223372036854775809") = .ok (.ofInt (-9223372036854775808))) := by
  intro chars
  have greatest : Text.isDigitRun (chars " +9223372036854775807 ") := by decide
  have above : Text.isDigitRun (chars "9223372036854775808") := by decide
  have below : Text.isDigitRun (chars "-9223372036854775809") := by decide
  exact ⟨⟨greatest, integer_of_isDigitRun greatest⟩, ⟨above, integer_of_isDigitRun above⟩,
    below, rfl, integer_of_isDigitRun below⟩

end Cast

end Intake
