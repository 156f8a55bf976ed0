import Intake.Calendar.Rendering
import Intake.Proofs.Calendar.Soundness
import Intake.Proofs.Text.Numeric

/-! # What is written is read back

A number of two digits and a year are read back from their digits. Hence a date is read back from its
text, and so are a time of day, but for the fraction that is not written, and a moment with its offset.
-/

namespace Intake

-- Powers are those of natural numbers, whatever algebra is in scope.
attribute [local instance (high)] instPowNat

namespace Layout

private theorem digit_ofNat : ∀ digit < 10, (Char.ofNat ('0'.toNat + digit)).isDigit ∧
    digitValue (Char.ofNat ('0'.toNat + digit)) = digit := by decide

/-- Two digits. -/
theorem pairChars_zeros {value : Nat} (small : value < 100) :
    ∃ tens ones : Char, pairChars .zeros value = [tens, ones] ∧ (tens.isDigit ∧ ones.isDigit) ∧
      digitsValue [tens, ones] = value := by
  obtain ⟨ones, isOnes⟩ := digit_ofNat (value % 10) (by omega)
  obtain ⟨tens, isTens⟩ := digit_ofNat (value / 10) (by omega)
  have zero : digitValue '0' = 0 := by decide
  rw [pairChars]
  split_ifs with single
  · refine ⟨'0', _, rfl, ⟨by decide, ones⟩, ?_⟩
    simp only [digitsValue, List.foldl_cons, List.foldl_nil, zero, isOnes]
    omega
  · refine ⟨_, _, rfl, ⟨tens, ones⟩, ?_⟩
    simp only [digitsValue, List.foldl_cons, List.foldl_nil, isOnes, isTens]
    omega

theorem startsVisibly_pairChars {value : Nat} (small : value < 100) :
    Text.StartsVisibly (pairChars .zeros value) := by
  obtain ⟨tens, ones, same, ⟨digit, -⟩, -⟩ := pairChars_zeros small
  rw [same]
  exact Text.not_isBlank_of_isNumeral (by simp [Text.isNumeral, digit])

theorem length_pairChars {value : Nat} (small : value < 100) : (pairChars .zeros value).length = 2 := by
  obtain ⟨tens, ones, same, -⟩ := pairChars_zeros small
  rw [same]
  rfl

theorem isDigit_of_mem_pairChars {value : Nat} (small : value < 100) :
    ∀ c ∈ pairChars .zeros value, c.isDigit := by
  obtain ⟨tens, ones, same, digits, -⟩ := pairChars_zeros small
  rw [same, List.forall_mem_cons, List.forall_mem_singleton]
  exact digits

theorem isDigit_of_mem_filled {width n : Nat} :
    ∀ c ∈ filled .zeros width (Nat.toDigits 10 n), c.isDigit := by
  rw [filled, List.forall_mem_append]
  refine ⟨fun c member => ?_, fun c => isDigit_of_mem_toDigits⟩
  rw [List.eq_of_mem_replicate member]
  decide

theorem digitsValue_filled (width n : Nat) :
    digitsValue (filled .zeros width (Nat.toDigits 10 n)) = n := by
  rw [filled, digitsValue_zeros_append, digitsValue_toDigits]

theorem length_filled {width n : Nat} (wide : 0 < width) (fits : n < 10 ^ width) :
    (filled .zeros width (Nat.toDigits 10 n)).length = width := by
  have length := (Nat.length_toDigits_le_iff (by decide : 1 < 10) wide).mpr fits
  rw [filled, List.length_append, List.length_replicate]
  omega

private theorem filled_ne_nil {width n : Nat} : filled .zeros width (Nat.toDigits 10 n) ≠ [] :=
  List.append_ne_nil_of_right_ne_nil _ Nat.toDigits_ne_nil

/-- The digits of a year, with a sign in front where it is not one of four digits. -/
theorem yearChars_zeros (year : Int) :
    (0 ≤ year ∧ year < 10000 ∧ yearChars .zeros year = filled .zeros 4 (Nat.toDigits 10 year.natAbs)) ∨
      (year < 0 ∧ yearChars .zeros year = '-' :: filled .zeros 4 (Nat.toDigits 10 year.natAbs)) ∨
      10000 ≤ year ∧ yearChars .zeros year = '+' :: filled .zeros 4 (Nat.toDigits 10 year.natAbs) := by
  rcases lt_or_ge year 0 with negative | positive
  · have signed : (decide (0 ≤ year) && decide (year < 10000)) = false := by simp; omega
    exact .inr (.inl ⟨negative, by simp [yearChars, numberChars, signed, negative]⟩)
  · have unsigned : ¬year < 0 := by omega
    rcases lt_or_ge year 10000 with small | large
    · have plain : (decide (0 ≤ year) && decide (year < 10000)) = true := by simp; omega
      exact .inl ⟨positive, small, by simp [yearChars, numberChars, plain, unsigned]⟩
    · have signed : (decide (0 ≤ year) && decide (year < 10000)) = false := by simp; omega
      exact .inr (.inr ⟨large, by simp [yearChars, numberChars, signed, unsigned]⟩)

/-- The character is a digit or a sign. -/
def IsSigned (c : Char) : Prop := c.isDigit ∨ c = '-' ∨ c = '+'

instance (c : Char) : Decidable (IsSigned c) := inferInstanceAs (Decidable (_ ∨ _ ∨ _))

private theorem isNumeral_of_isSigned {c : Char} (signed : IsSigned c) : Text.isNumeral c := by
  rcases signed with digit | rfl | rfl
  · simp [Text.isNumeral, digit]
  · rfl
  · rfl

theorem isSigned_of_mem_yearChars {year : Int} : ∀ c ∈ yearChars .zeros year, IsSigned c := by
  have digits : ∀ c ∈ filled .zeros 4 (Nat.toDigits 10 year.natAbs), IsSigned c :=
    fun c member => .inl (isDigit_of_mem_filled c member)
  rcases yearChars_zeros year with ⟨-, -, same⟩ | ⟨-, same⟩ | ⟨-, same⟩
  · rwa [same]
  · rw [same]
    exact List.forall_mem_cons.mpr ⟨.inr (.inl rfl), digits⟩
  · rw [same]
    exact List.forall_mem_cons.mpr ⟨.inr (.inr rfl), digits⟩

theorem yearChars_ne_nil (year : Int) : yearChars .zeros year ≠ [] := by
  rcases yearChars_zeros year with ⟨-, -, same⟩ | ⟨-, same⟩ | ⟨-, same⟩
  · rw [same]
    exact filled_ne_nil
  · rw [same]
    exact List.cons_ne_nil _ _
  · rw [same]
    exact List.cons_ne_nil _ _

theorem startsVisibly_yearChars (year : Int) : Text.StartsVisibly (yearChars .zeros year) := by
  have visible : ∀ c ∈ yearChars .zeros year, ¬Text.isBlank c := fun c member =>
    Text.not_isBlank_of_isNumeral (isNumeral_of_isSigned (isSigned_of_mem_yearChars c member))
  obtain ⟨c, rest, same⟩ := List.exists_cons_of_ne_nil (yearChars_ne_nil year)
  rw [same] at visible ⊢
  exact visible c (List.mem_cons_self ..)

end Layout

namespace Fields

/-- Digits are read up to the width, or up to something else. -/
theorem digits?_append {least width : Nat} {digits rest : List Char} (all : ∀ c ∈ digits, c.isDigit)
    (enough : least ≤ digits.length) (fits : digits.length ≤ width)
    (stops : digits.length = width ∨ ∀ c ∈ rest.head?, ¬c.isDigit)
    (small : digitsValue digits ≤ greatestNumber) :
    digits? least width (digits ++ rest) = some (digitsValue digits, rest) := by
  have none : (rest.take (width - digits.length)).takeWhile Char.isDigit = [] := by
    rcases stops with full | other
    · rw [full, Nat.sub_self, List.take_zero, List.takeWhile_nil]
    · cases rest with
      | nil => rw [List.take_nil, List.takeWhile_nil]
      | cons c rest =>
        cases width - digits.length with
        | zero => rw [List.take_zero, List.takeWhile_nil]
        | succ room => rw [List.take_succ_cons, List.takeWhile_cons_of_neg (other c rfl)]
  have taken : ((digits ++ rest).take width).takeWhile Char.isDigit = digits := by
    rw [List.take_append, List.take_of_length_le fits, List.takeWhile_append_of_pos all, none,
      List.append_nil]
  simp [digits?, taken, enough, small]

/-- Two digits are read back. -/
theorem digits?_pairChars {least value : Nat} {rest : List Char} (enough : least ≤ 2)
    (small : value < 100) :
    digits? least 2 (Layout.pairChars .zeros value ++ rest) = some (value, rest) := by
  obtain ⟨tens, ones, same, digits, reads⟩ := Layout.pairChars_zeros small
  have all : ∀ c ∈ [tens, ones], c.isDigit := by
    rw [List.forall_mem_cons, List.forall_mem_singleton]
    exact digits
  have bounded : digitsValue [tens, ones] ≤ greatestNumber := by
    rw [reads]
    exact Nat.le_trans small.le (by decide)
  have read := @digits?_append least 2 [tens, ones] rest all enough (Nat.le_refl 2) (.inl rfl) bounded
  rw [same, read, reads]

/-- A number filled up to the width is read back. -/
theorem digits?_filled {least width n : Nat} {rest : List Char} (wide : 0 < width) (enough : least ≤ width)
    (fits : n < 10 ^ width) (small : n ≤ greatestNumber) :
    digits? least width (Layout.filled .zeros width (Nat.toDigits 10 n) ++ rest) = some (n, rest) := by
  have length := Layout.length_filled wide fits
  rw [digits?_append Layout.isDigit_of_mem_filled (enough.trans length.ge) length.le (.inl length)
    (by rwa [Layout.digitsValue_filled]), Layout.digitsValue_filled]

/-- A number filled up to any width is read back if all digits are read. -/
theorem allDigits?_filled {width n : Nat} {rest : List Char} (stops : ∀ c ∈ rest.head?, ¬c.isDigit)
    (small : n ≤ greatestNumber) :
    allDigits? (Layout.filled .zeros width (Nat.toDigits 10 n) ++ rest) = some (n, rest) := by
  have nonempty := List.length_pos_of_ne_nil (@Layout.filled_ne_nil width n)
  rw [allDigits?, digits?_append Layout.isDigit_of_mem_filled nonempty (by simp) (.inr stops)
    (by rwa [Layout.digitsValue_filled]), Layout.digitsValue_filled]

private theorem signedYear?_of_isDigit {text : List Char} (first : ∀ c ∈ text.head?, c.isDigit) :
    signedYear? text = (digits? 1 4 text).map fun (value, rest) => ((value : Int), rest) := by
  unfold signedYear?
  split
  · exact absurd (first '-' rfl) (by decide)
  · exact absurd (first '+' rfl) (by decide)
  · rfl

/-- A year is read back from its text. Unless it has four digits, no digit may follow. -/
theorem signedYear?_yearChars {year : Int} {rest : List Char} (known : Date.isYear year)
    (stops : ¬(0 ≤ year ∧ year < 10000) → ∀ c ∈ rest.head?, ¬c.isDigit) :
    signedYear? (Layout.yearChars .zeros year ++ rest) = some (year, rest) := by
  have range : -262143 ≤ year ∧ year ≤ 262142 := by
    rw [Date.isYear, Bool.and_eq_true, decide_eq_true_iff, decide_eq_true_iff] at known
    exact known
  have small : year.natAbs ≤ greatestNumber :=
    Nat.le_trans (by omega : year.natAbs ≤ 262143) (by decide)
  rcases Layout.yearChars_zeros year with ⟨least, most, same⟩ | ⟨negative, same⟩ | ⟨large, same⟩
  · have first : ∀ c ∈ (Layout.filled .zeros 4 (Nat.toDigits 10 year.natAbs) ++ rest).head?,
        c.isDigit := by
      rw [List.head?_append_of_ne_nil _ Layout.filled_ne_nil]
      exact fun c member => Layout.isDigit_of_mem_filled c (List.mem_of_head? member)
    have magnitude : (year.natAbs : Int) = year := by omega
    rw [same, signedYear?_of_isDigit first, digits?_filled (by decide) (by decide) (by omega) small,
      Option.map_some]
    exact congrArg some (Prod.ext magnitude rfl)
  · have magnitude : -(year.natAbs : Int) = year := by omega
    have all := @allDigits?_filled 4 _ rest (stops (by omega)) small
    rw [same, List.cons_append, signedYear?, all, Option.map_some]
    exact congrArg some (Prod.ext magnitude rfl)
  · have magnitude : (year.natAbs : Int) = year := by omega
    have all := @allDigits?_filled 4 _ rest (stops (by omega)) small
    rw [same, List.cons_append, signedYear?, all, Option.map_some]
    exact congrArg some (Prod.ext magnitude rfl)

variable {fields : Fields}

/-- What agrees with the value that is there, if any is, can be entered. -/
theorem enter_of_agrees {α : Type} [DecidableEq α] {old? : Option α} {new : α} (same : agrees old? new) :
    enter old? new = some (some new) := by
  cases old? with
  | none => rfl
  | some old => exact if_pos (of_decide_eq_true same)

theorem agrees_of_eq_none {α : Type} [DecidableEq α] {given? : Option α} (none : given? = .none)
    (actual : α) : agrees given? actual := by
  rw [none]
  rfl

theorem setYear?_of_agrees {value : Int} (same : agrees fields.year value) (known : Date.isYear value) :
    fields.setYear? value = some { fields with year := some value } := by
  rw [Date.isYear, Bool.and_eq_true, decide_eq_true_iff, decide_eq_true_iff] at known
  obtain ⟨least, most⟩ : -262143 ≤ value ∧ value ≤ 262142 := known
  have inside : ¬(value < -2 ^ (31 : Nat) ∨ 2 ^ (31 : Nat) ≤ value) := by omega
  rw [setYear?, if_neg inside, enter_of_agrees same]
  rfl

theorem setMonth?_of_agrees {value : Nat} (same : agrees fields.month value) (least : 1 ≤ value)
    (most : value ≤ 12) : fields.setMonth? value = some { fields with month := some value } := by
  rw [setMonth?, if_neg (by omega), enter_of_agrees same]
  rfl

theorem setDay?_of_agrees {value : Nat} (same : agrees fields.day value) (least : 1 ≤ value)
    (most : value ≤ 31) : fields.setDay? value = some { fields with day := some value } := by
  rw [setDay?, if_neg (by omega), enter_of_agrees same]
  rfl

theorem setHour?_of_agrees {value : Nat} (half : agrees fields.afternoon (decide (12 ≤ value)))
    (same : agrees fields.hourOfHalf (value % 12)) (most : value ≤ 23) :
    fields.setHour? value =
      some { fields with afternoon := some (12 ≤ value), hourOfHalf := some (value % 12) } := by
  rw [setHour?, if_neg (by omega), enter_of_agrees half, enter_of_agrees same]
  rfl

theorem setWeekday?_of_agrees {value : Nat} (same : agrees fields.weekday value) :
    fields.setWeekday? value = some { fields with weekday := some value } := by
  rw [setWeekday?, enter_of_agrees same]
  rfl

theorem setAfternoon?_of_agrees {value : Bool} (same : agrees fields.afternoon value) :
    fields.setAfternoon? value = some { fields with afternoon := some value } := by
  rw [setAfternoon?, enter_of_agrees same]
  rfl

theorem setHour12?_of_agrees {value : Nat} (same : agrees fields.hourOfHalf (value % 12))
    (least : 1 ≤ value) (most : value ≤ 12) :
    fields.setHour12? value = some { fields with hourOfHalf := some (value % 12) } := by
  rw [setHour12?, if_neg (by omega), enter_of_agrees same]
  rfl

theorem setMinute?_of_agrees {value : Nat} (same : agrees fields.minute value) (most : value ≤ 59) :
    fields.setMinute? value = some { fields with minute := some value } := by
  rw [setMinute?, if_neg (by omega), enter_of_agrees same]
  rfl

theorem setSecond?_of_agrees {value : Nat} (same : agrees fields.second value) (most : value ≤ 60) :
    fields.setSecond? value = some { fields with second := some value } := by
  rw [setSecond?, if_neg (by omega), enter_of_agrees same]
  rfl

theorem setNanosecond?_of_agrees {value : Nat} (same : agrees fields.nanosecond value)
    (most : value < nanosecondsPerSecond) :
    fields.setNanosecond? value = some { fields with nanosecond := some value } := by
  rw [setNanosecond?, if_neg (by omega), enter_of_agrees same]
  rfl

/-- The part is read from two digits. -/
def IsPair (part : NumericPart) : Prop := part ∈ [.month, .day, .hour, .hour12, .minute, .second]

theorem readItem?_pair {part : NumericPart} {fill : Fill} {value : Nat} {rest : List Char}
    (pair : IsPair part) (small : value < 100) :
    fields.readItem? (.number part fill) (Layout.pairChars .zeros value ++ rest) =
      (fields.setNumber? part value).map (·, rest) := by
  have trimmed := (Layout.startsVisibly_pairChars small).trimStart_append rest
  have digits := @digits?_pairChars 1 value rest (by decide) small
  simp only [IsPair, List.mem_cons, List.not_mem_nil, or_false] at pair
  rcases pair with rfl | rfl | rfl | rfl | rfl | rfl
  all_goals
    simp only [readItem?, readNumber?, trimmed, width, digits, Option.bind_eq_bind, Option.bind_some]
    cases fields.setNumber? _ value <;> rfl

theorem readItem?_year {fill : Fill} {year : Int} {rest : List Char} (same : agrees fields.year year)
    (known : Date.isYear year)
    (stops : ¬(0 ≤ year ∧ year < 10000) → ∀ c ∈ rest.head?, ¬c.isDigit) :
    fields.readItem? (.number .year fill) (Layout.yearChars .zeros year ++ rest) =
      some ({ fields with year := some year }, rest) := by
  have trimmed := (Layout.startsVisibly_yearChars year).trimStart_append rest
  simp only [readItem?, readNumber?, trimmed, signedYear?_yearChars known stops,
    setYear?_of_agrees same known, Option.bind_eq_bind, Option.bind_some]

theorem readItem?_literal (c : Char) (rest : List Char) :
    fields.readItem? (.literal c) (c :: rest) = some (fields, rest) := by
  simp [readItem?]

end Fields

/-- Year, month and day with hyphens between. -/
def Date.isoChars (date : Date) : List Char :=
  Layout.yearChars .zeros date.year ++ '-' :: (Layout.pairChars .zeros date.month ++
    '-' :: Layout.pairChars .zeros date.day)

theorem Date.daysInMonth_le (year : Int) (month : Nat) : daysInMonth year month ≤ 31 := by
  unfold daysInMonth
  split
  · split_ifs <;> decide
  all_goals decide

private theorem Fields.readItems?_isoDate {date : Date} (valid : date.isValid) (rest : List Char) :
    Fields.readItems? {} Layout.isoDate (date.isoChars ++ rest) =
      some ({ year := date.year, month := date.month, day := date.day }, rest) := by
  obtain ⟨known, ⟨january, december⟩, first, last⟩ := Date.isValid_iff.mp valid
  have most := last.trans (Date.daysInMonth_le _ _)
  have hyphen (text : List Char) : ∀ c ∈ ('-' :: text).head?, ¬c.isDigit := by
    rintro c ⟨⟩
    decide
  simp only [Date.isoChars, List.append_assoc, List.cons_append, Layout.isoDate, Layout.zeros,
    readItems?, Option.bind_eq_bind]
  rw [readItem?_year rfl known fun _ => hyphen _]
  simp only [Option.bind_some, readItem?_literal]
  rw [readItem?_pair (by simp [IsPair]) (by omega), setNumber?, setMonth?_of_agrees rfl january december]
  simp only [Option.map_some, Option.bind_some, readItem?_literal]
  rw [readItem?_pair (by simp [IsPair]) (by omega), setNumber?, setDay?_of_agrees rfl first most]
  rfl

/-- Year, month and day make the date if the day of the week agrees, whatever time of day is known. -/
theorem Fields.toDate_of_isValid {date : Date} (valid : date.isValid) {weekday : Option Nat}
    (same : agrees weekday date.weekday) (afternoon : Option Bool)
    (hour minute second nanosecond : Option Nat) (offset : Option Int) :
    Fields.toDate
      { year := date.year, month := date.month, day := date.day, weekday := weekday
        afternoon := afternoon, hourOfHalf := hour, minute := minute, second := second
        nanosecond := nanosecond, offset := offset } = .ok date := by
  have found : Date.of? date.year date.month date.day = some date := if_pos valid
  have others {α : Type} [DecidableEq α] (actual : α) : agrees none actual := rfl
  simp [toDate, resolveYear, found, checked, isoWeekAgrees, ordinalAgrees, yearAgrees, others, same, bind,
    Except.bind]

theorem Fields.read?_of_readItems? {layout : Layout} {text : List Char} {fields : Fields}
    (items : Fields.readItems? {} layout text = some (fields, [])) :
    Fields.read? layout text = some fields := by
  rw [read?, items]
  rfl

/-- A date is read back from its text. -/
theorem Date.read?_isoChars {date : Date} (valid : date.isValid) :
    Date.read? Layout.isoDate date.isoChars = some date := by
  have items := Fields.readItems?_isoDate valid []
  rw [List.append_nil] at items
  rw [Date.read?, Fields.read?_of_readItems? items, Option.bind_eq_bind, Option.bind_some,
    Fields.toDate_of_isValid valid rfl]
  rfl

/-- Hour, minute and second with colons between. -/
def Time.clockChars (time : Time) : List Char :=
  Layout.pairChars .zeros time.hour ++ ':' :: (Layout.pairChars .zeros time.minute ++
    ':' :: Layout.pairChars .zeros time.shownSecond)

/-- The time of day without the fraction of its second. -/
def Time.whole (time : Time) : Time :=
  { time with nanosecond := time.nanosecond / nanosecondsPerSecond * nanosecondsPerSecond }

/-- Sixty seconds are shown in a leap second and in no other. -/
theorem Fields.shownSecond_cases {time : Time} (sound : time.Sound) :
    (time.shownSecond = 60 ∧ time.second = 59 ∧ time.whole.nanosecond = nanosecondsPerSecond) ∨
      (time.shownSecond ≤ 59 ∧ time.second = time.shownSecond ∧ time.whole.nanosecond = 0) := by
  have second := sound.second
  have less := sound.nanosecond
  have leap := sound.leap
  rw [Time.shownSecond, Time.whole]
  rcases lt_or_ge time.nanosecond nanosecondsPerSecond with small | large
  · rw [Nat.div_eq_of_lt small]
    exact .inr ⟨second, rfl, Nat.zero_mul _⟩
  · have one : time.nanosecond / nanosecondsPerSecond = 1 :=
      Nat.div_eq_of_lt_le (by omega) (by omega)
    rw [one, leap large]
    exact .inl ⟨rfl, rfl, Nat.one_mul _⟩

theorem Time.shownSecond_le {time : Time} (sound : time.Sound) : time.shownSecond ≤ 60 := by
  rcases Fields.shownSecond_cases sound with ⟨leap, -⟩ | ⟨less, -⟩ <;> omega

namespace Fields

variable {fields : Fields} {time : Time}

/-- The fields with those of the time of day. -/
def withClock (fields : Fields) (time : Time) : Fields :=
  { fields with
    afternoon := some (12 ≤ time.hour)
    hourOfHalf := some (time.hour % 12)
    minute := some time.minute
    second := some time.shownSecond }

/-- Nothing is known of the time of day. -/
structure LacksTime (fields : Fields) : Prop where
  afternoon : fields.afternoon = none
  hourOfHalf : fields.hourOfHalf = none
  minute : fields.minute = none
  second : fields.second = none
  nanosecond : fields.nanosecond = none

private theorem readItems?_clock (sound : time.Sound) (lacks : fields.LacksTime) (rest : List Char) :
    fields.readItems? Layout.clock (time.clockChars ++ rest) = some (fields.withClock time, rest) := by
  have hour := sound.hour
  have minute := sound.minute
  have second := Time.shownSecond_le sound
  simp only [Time.clockChars, List.append_assoc, List.cons_append, Layout.clock, Layout.hourMinute,
    Layout.zeros, readItems?, Option.bind_eq_bind, List.nil_append]
  rw [readItem?_pair (by simp [IsPair]) (by omega), setNumber?,
    setHour?_of_agrees (agrees_of_eq_none lacks.afternoon _) (agrees_of_eq_none lacks.hourOfHalf _) hour]
  simp only [Option.map_some, Option.bind_some, readItem?_literal]
  rw [readItem?_pair (by simp [IsPair]) (by omega), setNumber?,
    setMinute?_of_agrees (agrees_of_eq_none (by exact lacks.minute) _) minute]
  simp only [Option.map_some, Option.bind_some, readItem?_literal]
  rw [readItem?_pair (by simp [IsPair]) (by omega), setNumber?,
    setSecond?_of_agrees (agrees_of_eq_none (by exact lacks.second) _) second]
  rfl

/-- The half of the day and the hour in it make the hour. -/
theorem hour_of_half (sound : time.Sound) :
    (if time.isAfternoon then 12 else 0) + time.hour % 12 = time.hour := by
  have most := sound.hour
  rw [Time.isAfternoon]
  split_ifs with afternoon
  · rw [decide_eq_true_iff] at afternoon
    omega
  · rw [decide_eq_true_iff] at afternoon
    omega

/-- The time of day of the fields is the one that they were filled from, up to the fraction. -/
theorem toTime_withClock (sound : time.Sound) (fields : Fields) :
    (fields.withClock time).toTime =
      .ok { time.whole with nanosecond := time.whole.nanosecond + fields.nanosecond.getD 0 } := by
  have hour := hour_of_half sound
  rw [Time.isAfternoon] at hour
  simp only [toTime, withClock, hour, Option.getD_some]
  rcases shownSecond_cases sound with ⟨shown, second, whole⟩ | ⟨shown, second, whole⟩
  · rw [if_pos shown, whole]
    simp only [Time.whole, second]
  · rw [if_neg (by omega), whole, Nat.zero_add]
    simp only [Time.whole, second]

theorem toTime_withClock_of_none (sound : time.Sound) (free : fields.nanosecond = none) :
    (fields.withClock time).toTime = .ok time.whole := by
  rw [toTime_withClock sound, free, Option.getD_none, Nat.add_zero]

end Fields

/-- A time of day is read back from its text, up to the fraction. -/
theorem Time.read?_clockChars {time : Time} (sound : time.Sound) :
    Time.read? Layout.clock time.clockChars = some time.whole := by
  have lacks : Fields.LacksTime {} := ⟨rfl, rfl, rfl, rfl, rfl⟩
  have items := Fields.readItems?_clock sound lacks []
  rw [List.append_nil] at items
  rw [Time.read?, Fields.read?_of_readItems? items, Option.bind_eq_bind, Option.bind_some,
    Fields.toTime_withClock_of_none sound rfl]
  rfl

/-- The date and time of the default format. -/
def Layout.plainMoment : Layout := isoDate ++ .blank [' '] :: clock

private theorem Fields.readItems?_append (fields : Fields) (first second : Layout) (text : List Char) :
    fields.readItems? (first ++ second) text =
      (fields.readItems? first text).bind fun (fields, rest) => fields.readItems? second rest := by
  induction first generalizing fields text with
  | nil => rfl
  | cons item items ih =>
    simp only [List.cons_append, readItems?, Option.bind_eq_bind, Option.bind_assoc, ih]

theorem Fields.toMoment?_of_ok {fields : Fields} {date : Date} {time : Time} (offset : Int)
    (made : fields.toDate = .ok date) (made' : fields.toTime = .ok time)
    (free : fields.timestamp = none) : fields.toMoment? offset = some ⟨date, time⟩ := by
  simp [toMoment?, made, made', free]

/-- A moment is read back from its text, up to the fraction. -/
theorem DateTime.read?_chars {moment : DateTime} (sound : moment.Sound) :
    DateTime.read? Layout.plainMoment (moment.date.isoChars ++ ' ' :: moment.time.clockChars) =
      some ⟨moment.date, moment.time.whole⟩ := by
  obtain ⟨date, time⟩ := moment
  obtain ⟨valid, sound⟩ : date.isValid ∧ time.Sound := ⟨sound.date, sound.time⟩
  have hour := sound.hour
  have trimmed : Text.trimStart (' ' :: time.clockChars) = time.clockChars := by
    rw [Text.trimStart, List.dropWhile_cons_of_pos (by decide), ← Text.trimStart, Time.clockChars]
    exact (Layout.startsVisibly_pairChars (by omega)).trimStart_append _
  let dated : Fields := { year := date.year, month := date.month, day := date.day }
  have lacks : dated.LacksTime := ⟨rfl, rfl, rfl, rfl, rfl⟩
  have items : Fields.readItems? {} Layout.plainMoment (date.isoChars ++ ' ' :: time.clockChars) =
      some (dated.withClock time, []) := by
    have clock := Fields.readItems?_clock sound lacks []
    rw [List.append_nil] at clock
    rw [Layout.plainMoment, Fields.readItems?_append, Fields.readItems?_isoDate valid, Option.bind_some]
    change dated.readItems? Layout.clock (Text.trimStart (' ' :: time.clockChars)) = _
    rw [trimmed, clock]
  have made : (dated.withClock time).toDate = .ok date := Fields.toDate_of_isValid valid rfl _ _ _ _ _ _
  have made' : (dated.withClock time).toTime = .ok time.whole := Fields.toTime_withClock_of_none sound rfl
  rw [DateTime.read?, Fields.read?_of_readItems? items, Option.bind_eq_bind, Option.bind_some,
    Fields.toMoment?_of_ok 0 made made' rfl]

end Intake
