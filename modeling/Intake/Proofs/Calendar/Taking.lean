import Intake.Calendar.ZonedDateTime
import Mathlib.Data.List.Basic
import Mathlib.Data.List.TakeWhile

/-! # What reading takes off a text

Whatever an item takes, it takes it off the front, so the characters that stand for themselves in a
layout stand in every text that is read along it. A number takes digits at least, and nothing but
blanks and a sign beside them; hence the colons of a time of day stand one by one, and are one or two.
-/

namespace Intake

namespace Fields

variable {fields other : Fields} {text rest : List Char}

/-- Digits are taken off the front of the text. -/
theorem exists_of_digits? {least width value : Nat}
    (read : digits? least width text = some (value, rest)) :
    ∃ digits, text = digits ++ rest ∧ least ≤ digits.length ∧ ∀ c ∈ digits, c.isDigit := by
  rw [digits?] at read
  split_ifs at read with refused
  cases read
  rw [Bool.or_eq_true, not_or, decide_eq_true_iff, Nat.not_lt] at refused
  have front : (text.take width).takeWhile Char.isDigit <+: text :=
    (List.takeWhile_prefix _).trans (List.take_prefix _ _)
  refine ⟨(text.take width).takeWhile Char.isDigit, ?_, refused.1, fun c => List.mem_takeWhile_imp⟩
  calc text
      = text.take ((text.take width).takeWhile Char.isDigit).length ++
          text.drop ((text.take width).takeWhile Char.isDigit).length :=
        (List.take_append_drop _ _).symm
    _ = _ := by rw [← List.prefix_iff_eq_take.mp front]

/-- The character may be taken by a number. -/
def IsTaken (c : Char) : Prop := Text.isBlank c ∨ c.isDigit ∨ c = '+' ∨ c = '-'

/-- A number takes something off the front of the text, and only such characters. -/
def Takes (text rest : List Char) : Prop :=
  ∃ taken, text = taken ++ rest ∧ taken ≠ [] ∧ ∀ c ∈ taken, IsTaken c

private theorem Takes.of_digits? {least width value : Nat} (positive : 0 < least)
    (read : digits? least width text = some (value, rest)) : Takes text rest := by
  obtain ⟨digits, whole, length, all⟩ := exists_of_digits? read
  exact ⟨digits, whole, List.ne_nil_of_length_pos (Nat.lt_of_lt_of_le positive length),
    fun c member => .inr (.inl (all c member))⟩

private theorem Takes.cons {c : Char} (takes : Takes text rest) (first : IsTaken c) :
    Takes (c :: text) rest := by
  obtain ⟨taken, rfl, -, all⟩ := takes
  exact ⟨c :: taken, rfl, List.cons_ne_nil _ _, List.forall_mem_cons.mpr ⟨first, all⟩⟩

private theorem Takes.of_trimStart (takes : Takes (Text.trimStart text) rest) : Takes text rest := by
  obtain ⟨taken, whole, nonempty, all⟩ := takes
  refine ⟨text.takeWhile Text.isBlank ++ taken, ?_, List.append_ne_nil_of_right_ne_nil _ nonempty, ?_⟩
  · rw [List.append_assoc, ← whole, Text.trimStart, List.takeWhile_append_dropWhile]
  · exact List.forall_mem_append.mpr ⟨fun c member => .inl (List.mem_takeWhile_imp member), all⟩

private theorem Takes.of_signedYear? {value : Int} (read : signedYear? text = some (value, rest)) :
    Takes text rest := by
  unfold signedYear? at read
  split at read
  all_goals
    obtain ⟨⟨number, after⟩, digits, same⟩ := Option.map_eq_some_iff.mp read
    cases same
  · exact (Takes.of_digits? Nat.one_pos digits).cons (.inr (.inr (.inr rfl)))
  · exact (Takes.of_digits? Nat.one_pos digits).cons (.inr (.inr (.inl rfl)))
  · exact .of_digits? Nat.one_pos digits

private theorem Takes.of_readNumber? {part : NumericPart}
    (read : fields.readNumber? part text = some (other, rest)) : Takes text rest := by
  unfold readNumber? at read
  dsimp only at read
  apply Takes.of_trimStart
  split at read
  all_goals
    obtain ⟨⟨value, after⟩, number, set⟩ := Option.bind_eq_some_iff.mp read
    obtain ⟨entered, -, same⟩ := Option.bind_eq_some_iff.mp set
    cases same
  · exact .of_signedYear? number
  · exact .of_signedYear? number
  · exact .of_digits? Nat.one_pos number
  · exact .of_digits? Nat.one_pos number

private theorem Takes.of_number {part : NumericPart} {fill : Fill}
    (read : fields.readItem? (.number part fill) text = some (other, rest)) : Takes text rest :=
  .of_readNumber? read

private theorem Takes.suffix (takes : Takes text rest) : rest <:+ text := by
  obtain ⟨taken, rfl, -⟩ := takes
  exact List.suffix_append _ _

private theorem suffix_of_digits? {least width value : Nat}
    (read : digits? least width text = some (value, rest)) : rest <:+ text := by
  obtain ⟨digits, rfl, -⟩ := exists_of_digits? read
  exact List.suffix_append _ _

private theorem suffix_of_name? {names : List String} {full : Bool} {place : Nat}
    (read : name? names full text = some (place, rest)) : rest <:+ text := by
  obtain ⟨found, -, same⟩ := Option.bind_eq_some_iff.mp read
  cases same
  split_ifs
  · exact (List.drop_suffix _ _).trans (List.drop_suffix _ _)
  · exact List.drop_suffix _ _

private theorem suffix_of_readHalf? (read : fields.readHalf? text = some (other, rest)) :
    rest <:+ text := by
  rw [readHalf?] at read
  split_ifs at read
  all_goals
    obtain ⟨entered, -, same⟩ := Option.map_eq_some_iff.mp read
    cases same
    exact List.drop_suffix _ _

private theorem suffix_of_readFraction? {count? : Option Nat}
    (read : fields.readFraction? count? text = some (other, rest)) : rest <:+ text := by
  obtain ⟨⟨value, after⟩, digits, set⟩ := Option.bind_eq_some_iff.mp read
  obtain ⟨entered, -, same⟩ := Option.bind_eq_some_iff.mp set
  cases same
  split_ifs
  · exact suffix_of_digits? digits
  · exact (List.dropWhile_suffix _).trans (suffix_of_digits? digits)

/-- Hours and minutes behind the sign of an offset. -/
def signedOffset? (separator? : List Char → Option (List Char)) (missingMinutes negative : Bool)
    (text : List Char) : Option (Int × List Char) :=
  (digits? 2 2 text).bind fun (hours, behind) =>
    (separator? behind).bind fun between =>
      (if missingMinutes && (String.ofList between).utf8ByteSize < 2 then
        if between.isEmpty then some (0, between) else none
      else digits? 2 2 between).bind fun (minutes, rest) =>
        if 59 < minutes then none
        else
          some (if negative then -((hours : Int) * 3600 + minutes * 60) else hours * 3600 + minutes * 60,
            rest)

/-- The characters that stand before the hours and minutes of an offset. -/
def offsetSigns : List Char := ['+', '-', '−']

/-- Behind a sign stand hours and minutes, which any sign but a plus makes negative. -/
theorem offset?_cons (separator? : List Char → Option (List Char)) (letter missing : Bool)
    (text : List Char) {sign : Char} (known : sign ∈ offsetSigns) :
    offset? separator? letter missing (sign :: text) =
      signedOffset? separator? missing (sign != '+') text := by
  simp only [offsetSigns, List.mem_cons, List.not_mem_nil, or_false] at known
  rcases known with rfl | rfl | rfl
  all_goals
    refine congrArg (Option.bind _) (funext fun (hours, behind) => ?_)
    refine congrArg (Option.bind _) (funext fun between => ?_)
    by_cases short : (missing && (String.ofList between).utf8ByteSize < 2) = true
    · by_cases empty : between.isEmpty = true
      · simp only [if_pos short, if_pos empty]
        rfl
      · simp only [if_pos short, if_neg empty]
        rfl
    · simp only [if_neg short]
      rfl

/-- An offset is a letter, or hours and minutes behind a sign. -/
theorem offset?_eq_some {separator? : List Char → Option (List Char)} {letter missing : Bool}
    {seconds : Int} (read : offset? separator? letter missing text = some (seconds, rest)) :
    (∃ c, text = c :: rest ∧ seconds = 0) ∨ ∃ sign behind, text = sign :: behind ∧
      signedOffset? separator? missing (sign != '+') behind = some (seconds, rest) := by
  have shape := read
  unfold offset? at shape
  dsimp only at shape
  split at shape
  case h_1 | h_2 =>
    split_ifs at shape
    cases shape
    exact .inl ⟨_, rfl, rfl⟩
  case h_6 => cases shape
  all_goals
    rw [offset?_cons _ _ _ _ (by decide)] at read
    exact .inr ⟨_, _, rfl, read⟩

theorem exists_of_signedOffset? {separator? : List Char → Option (List Char)} {missing negative : Bool}
    {seconds : Int} (read : signedOffset? separator? missing negative text = some (seconds, rest)) :
    ∃ hours minutes behind between, digits? 2 2 text = some (hours, behind) ∧
      separator? behind = some between ∧
      (between = rest ∨ digits? 2 2 between = some (minutes, rest)) ∧
      seconds.natAbs = hours * 3600 + minutes * 60 := by
  obtain ⟨⟨hours, behind⟩, hour, read⟩ := Option.bind_eq_some_iff.mp read
  obtain ⟨between, separated, read⟩ := Option.bind_eq_some_iff.mp read
  obtain ⟨⟨minutes, after⟩, minute, read⟩ := Option.bind_eq_some_iff.mp read
  dsimp only at read
  split_ifs at read
  all_goals
    cases read
    refine ⟨hours, minutes, behind, between, hour, separated, ?_, by omega⟩
    split_ifs at minute
    · cases minute
      exact .inl rfl
    · exact .inr minute

private theorem suffix_of_offset? {separator? : List Char → Option (List Char)} {letter missing : Bool}
    {seconds : Int} (separates : ∀ {text rest}, separator? text = some rest → rest <:+ text)
    (read : offset? separator? letter missing text = some (seconds, rest)) : rest <:+ text := by
  rcases offset?_eq_some read with ⟨c, rfl, -⟩ | ⟨sign, behind, rfl, signed⟩
  · exact List.suffix_cons _ _
  · obtain ⟨hours, minutes, _, between, hour, separated, minute, -⟩ := exists_of_signedOffset? signed
    have start : between <:+ sign :: behind :=
      ((separates separated).trans (suffix_of_digits? hour)).trans (List.suffix_cons _ _)
    rcases minute with rfl | minute
    · exact start
    · exact (suffix_of_digits? minute).trans start

private theorem suffix_of_readOffset? {letter missing : Bool}
    (read : fields.readOffset? letter missing text = some (other, rest)) : rest <:+ text := by
  obtain ⟨⟨seconds, after⟩, offset, set⟩ := Option.bind_eq_some_iff.mp read
  obtain ⟨entered, -, same⟩ := Option.bind_eq_some_iff.mp set
  cases same
  refine suffix_of_offset? ?_ offset
  rintro text rest ⟨⟩
  exact List.dropWhile_suffix _

/-- What is left after an item is an end of the text. -/
theorem suffix_of_readItem? {item : LayoutItem}
    (read : fields.readItem? item text = some (other, rest)) : rest <:+ text := by
  cases item with
  | literal c =>
    unfold readItem? at read
    dsimp only at read
    split at read
    · split_ifs at read
      cases read
      exact List.suffix_cons _ _
    · cases read
  | blank _ =>
    cases read
    exact List.dropWhile_suffix _
  | number part _ => exact (Takes.of_number read).suffix
  | monthName full =>
    obtain ⟨⟨place, after⟩, name, set⟩ := Option.bind_eq_some_iff.mp read
    obtain ⟨entered, -, same⟩ := Option.bind_eq_some_iff.mp set
    cases same
    exact suffix_of_name? name
  | weekdayName full =>
    obtain ⟨⟨place, after⟩, name, set⟩ := Option.bind_eq_some_iff.mp read
    obtain ⟨entered, -, same⟩ := Option.bind_eq_some_iff.mp set
    cases same
    exact suffix_of_name? name
  | half _ => exact suffix_of_readHalf? read
  | fraction digits? =>
    unfold readItem? at read
    dsimp only at read
    split at read
    · exact (suffix_of_readFraction? read).trans (List.suffix_cons _ _)
    · cases read
      exact List.suffix_refl _
  | bareFraction digits => exact suffix_of_readFraction? read
  | zoneName =>
    cases read
    exact List.dropWhile_suffix _
  | zoneOffset lenient => exact (suffix_of_readOffset? read).trans (List.dropWhile_suffix _)
  | joint =>
    unfold readItem? at read
    dsimp only at read
    split at read <;> cases read <;> exact List.suffix_cons _ _
  | zone =>
    rw [readItem?] at read
    split_ifs at read
    · obtain ⟨entered, -, same⟩ := Option.map_eq_some_iff.mp read
      cases same
      exact List.drop_suffix _ _
    · exact suffix_of_readOffset? read
  | invalid => cases read

private theorem readItem?_literal_eq_some {c : Char}
    (read : fields.readItem? (.literal c) text = some (other, rest)) :
    text = c :: rest ∧ other = fields := by
  unfold readItem? at read
  dsimp only at read
  split at read
  · split_ifs at read with same
    cases read
    exact ⟨by rw [same], rfl⟩
  · cases read

/-- A character that stands for itself in the layout stands in the text. -/
theorem mem_of_readItems? {layout : Layout} {c : Char} (member : .literal c ∈ layout)
    (read : fields.readItems? layout text = some (other, rest)) : c ∈ text := by
  induction layout generalizing fields text with
  | nil => cases member
  | cons item items ih =>
    obtain ⟨⟨entered, after⟩, first, read⟩ := Option.bind_eq_some_iff.mp read
    rcases List.mem_cons.mp member with rfl | later
    · rw [(readItem?_literal_eq_some first).1]
      exact List.mem_cons_self
    · exact (suffix_of_readItem? first).subset (ih later read)

theorem mem_of_read? {layout : Layout} {c : Char} (member : .literal c ∈ layout)
    (read : Fields.read? layout text = some fields) : c ∈ text := by
  obtain ⟨⟨filled, after⟩, items, -⟩ := Option.bind_eq_some_iff.mp read
  exact mem_of_readItems? member items

/-- One or two colons, none beside another. -/
structure SingleColons (text : List Char) : Prop where
  some : ':' ∈ text
  few : text.count ':' ≤ 2
  apart : ¬[':', ':'] <:+: text

private theorem not_isTaken_colon : ¬IsTaken ':' := by
  rintro (blank | digit | plus | minus)
  · revert blank
    decide
  · revert digit
    decide
  · revert plus
    decide
  · revert minus
    decide

private theorem Takes.count_colon (takes : Takes text rest) : text.count ':' = rest.count ':' := by
  obtain ⟨taken, rfl, -, all⟩ := takes
  have none : ':' ∉ taken := fun member => not_isTaken_colon (all _ member)
  rw [List.count_append, List.count_eq_zero.mpr none, Nat.zero_add]

private theorem Takes.head?_ne_colon (takes : Takes text rest) : text.head? ≠ some ':' := by
  obtain ⟨taken, rfl, nonempty, all⟩ := takes
  rw [List.head?_append_of_ne_nil _ nonempty]
  exact fun first => not_isTaken_colon (all _ (List.mem_of_head? first))

private theorem Takes.apart (takes : Takes text rest) (apart : ¬[':', ':'] <:+: rest) :
    ¬[':', ':'] <:+: text := by
  obtain ⟨taken, rfl, -, all⟩ := takes
  induction taken with
  | nil => exact apart
  | cons c taken ih =>
    obtain ⟨first, others⟩ := List.forall_mem_cons.mp all
    rw [List.cons_append, List.infix_cons_iff]
    rintro (front | later)
    · obtain ⟨rfl, -⟩ := List.cons_prefix_cons.mp front
      exact not_isTaken_colon first
    · exact ih others later

private theorem apart_cons (first : text.head? ≠ some ':') (apart : ¬[':', ':'] <:+: text) :
    ¬[':', ':'] <:+: ':' :: text := by
  rw [List.infix_cons_iff]
  rintro (front | later)
  · cases text with
    | nil => simp at front
    | cons c text =>
      obtain ⟨rfl, -⟩ := List.cons_prefix_cons.mp (List.cons_prefix_cons.mp front).2
      exact first rfl
  · exact apart later

private theorem apart_nil : ¬[':', ':'] <:+: [] := by simp

/-- Hour and minute, and perhaps the second, have a colon between them. -/
theorem singleColons_of_read? {layout : Layout} (clock : layout = Layout.clock ∨ layout = Layout.hourMinute)
    (read : Fields.read? layout text = some fields) : SingleColons text := by
  obtain ⟨⟨filled, after⟩, items, ends⟩ := Option.bind_eq_some_iff.mp read
  obtain rfl : after = [] := by
    dsimp only at ends
    split_ifs at ends with empty
    exact List.isEmpty_iff.mp empty
  rcases clock with rfl | rfl
  · obtain ⟨⟨_, text₁⟩, hour, items⟩ := Option.bind_eq_some_iff.mp items
    obtain ⟨⟨_, text₂⟩, colon, items⟩ := Option.bind_eq_some_iff.mp items
    obtain ⟨⟨_, text₃⟩, minute, items⟩ := Option.bind_eq_some_iff.mp items
    obtain ⟨⟨_, text₄⟩, colon', items⟩ := Option.bind_eq_some_iff.mp items
    obtain ⟨⟨_, text₅⟩, second, items⟩ := Option.bind_eq_some_iff.mp items
    cases items
    obtain ⟨rfl, -⟩ := readItem?_literal_eq_some colon
    obtain ⟨rfl, -⟩ := readItem?_literal_eq_some colon'
    have hour := Takes.of_number hour
    have minute := Takes.of_number minute
    have second := Takes.of_number second
    -- Numbers take no colon, so those of the text are those of the layout.
    refine ⟨hour.suffix.subset List.mem_cons_self, ?_, ?_⟩
    · rw [hour.count_colon, List.count_cons_self, minute.count_colon, List.count_cons_self,
        second.count_colon, List.count_nil]
    · exact hour.apart (apart_cons minute.head?_ne_colon
        (minute.apart (apart_cons second.head?_ne_colon (second.apart apart_nil))))
  · obtain ⟨⟨_, text₁⟩, hour, items⟩ := Option.bind_eq_some_iff.mp items
    obtain ⟨⟨_, text₂⟩, colon, items⟩ := Option.bind_eq_some_iff.mp items
    obtain ⟨⟨_, text₃⟩, minute, items⟩ := Option.bind_eq_some_iff.mp items
    cases items
    obtain ⟨rfl, -⟩ := readItem?_literal_eq_some colon
    have hour := Takes.of_number hour
    have minute := Takes.of_number minute
    refine ⟨hour.suffix.subset List.mem_cons_self, ?_, ?_⟩
    · rw [hour.count_colon, List.count_cons_self, minute.count_colon, List.count_nil]
      decide
    · exact hour.apart (apart_cons minute.head?_ne_colon (minute.apart apart_nil))

end Fields

namespace ZonedDateTime

variable {text rest : List Char}

private theorem given?_eq_some {c : Char} (read : given? c text = some rest) : text = c :: rest := by
  cases text with
  | nil => cases read
  | cons first others =>
    rw [given?] at read
    split_ifs at read with same
    cases read
    rw [same]

private theorem exists_of_joint? (read : joint? text = some rest) : ∃ c, text = c :: rest := by
  unfold joint? at read
  split at read <;> cases read <;> exact ⟨_, rfl⟩

private theorem suffix_of_fraction? {fields other : Fields}
    (read : fraction? fields text = some (other, rest)) : rest <:+ text := by
  unfold fraction? at read
  split at read
  · exact (Fields.suffix_of_readFraction? read).trans (List.suffix_cons _ _)
  · cases read
    exact List.suffix_refl _

/-- The parts of a date and of a time of day are read one after another and entered into empty fields;
the fraction and the offset are what is behind them. -/
theorem fields?_eq_some_iff {result : Fields} :
    fields? text = some result ↔
      ∃ year text₁ month text₂ day text₃ hour text₄ minute text₅ second text₆,
        Fields.digits? 4 4 text = some (year, text₁) ∧
        (given? '-' text₁).bind (Fields.digits? 2 2) = some (month, text₂) ∧
        (given? '-' text₂).bind (Fields.digits? 2 2) = some (day, text₃) ∧
        (joint? text₃).bind (Fields.digits? 2 2) = some (hour, text₄) ∧
        (given? ':' text₄).bind (Fields.digits? 2 2) = some (minute, text₅) ∧
        (given? ':' text₅).bind (Fields.digits? 2 2) = some (second, text₆) ∧
        ∃ fields filled text₇ offset,
          ((((((Fields.setYear? {} year).bind (Fields.setMonth? · month)).bind
            (Fields.setDay? · day)).bind (Fields.setHour? · hour)).bind
            (Fields.setMinute? · minute)).bind (Fields.setSecond? · second) = some fields) ∧
          fraction? fields text₆ = some (filled, text₇) ∧
          Fields.offset? (given? ':') true false text₇ = some (offset, []) ∧
          offset.natAbs ≤ greatestOffset ∧ filled.setOffset? offset = some result := by
  constructor
  · intro read
    obtain ⟨⟨year, text₁⟩, years, read⟩ := Option.bind_eq_some_iff.mp read
    obtain ⟨⟨month, text₂⟩, months, read⟩ := Option.bind_eq_some_iff.mp read
    obtain ⟨⟨day, text₃⟩, days, read⟩ := Option.bind_eq_some_iff.mp read
    obtain ⟨⟨hour, text₄⟩, hours, read⟩ := Option.bind_eq_some_iff.mp read
    obtain ⟨⟨minute, text₅⟩, minutes, read⟩ := Option.bind_eq_some_iff.mp read
    obtain ⟨⟨second, text₆⟩, seconds, read⟩ := Option.bind_eq_some_iff.mp read
    obtain ⟨fields₁, set₁, read⟩ := Option.bind_eq_some_iff.mp read
    obtain ⟨fields₂, set₂, read⟩ := Option.bind_eq_some_iff.mp read
    obtain ⟨fields₃, set₃, read⟩ := Option.bind_eq_some_iff.mp read
    obtain ⟨fields₄, set₄, read⟩ := Option.bind_eq_some_iff.mp read
    obtain ⟨fields₅, set₅, read⟩ := Option.bind_eq_some_iff.mp read
    obtain ⟨fields₆, set₆, read⟩ := Option.bind_eq_some_iff.mp read
    obtain ⟨⟨filled, text₇⟩, fraction, read⟩ := Option.bind_eq_some_iff.mp read
    obtain ⟨⟨offset, text₈⟩, offsets, read⟩ := Option.bind_eq_some_iff.mp read
    dsimp only at read
    split_ifs at read with outside
    · cases read
    · rw [not_or, not_or, Bool.not_eq_true, Bool.not_eq_false', List.isEmpty_iff] at outside
      obtain ⟨high, low, rfl⟩ := outside
      refine ⟨year, text₁, month, text₂, day, text₃, hour, text₄, minute, text₅, second, text₆, years,
        months, days, hours, minutes, seconds, fields₆, filled, text₇, offset, ?_, fraction, offsets,
        by omega, read⟩
      rw [set₁, Option.bind_some, set₂, Option.bind_some, set₃, Option.bind_some, set₄, Option.bind_some,
        set₅, Option.bind_some, set₆]
  · rintro ⟨year, text₁, month, text₂, day, text₃, hour, text₄, minute, text₅, second, text₆, years,
      months, days, hours, minutes, seconds, fields, filled, text₇, offset, entered, fraction, offsets,
      within, set⟩
    simp only [Option.bind_eq_some_iff] at entered
    obtain ⟨_, ⟨_, ⟨_, ⟨_, ⟨_, set₁, set₂⟩, set₃⟩, set₄⟩, set₅⟩, set₆⟩ := entered
    have inside : ¬(greatestOffset < offset ∨ offset < -greatestOffset ∨ (!true) = true) := by
      rintro (high | low | ended)
      · omega
      · omega
      · cases ended
    refine Option.bind_eq_some_iff.mpr ⟨_, years, ?_⟩
    refine Option.bind_eq_some_iff.mpr ⟨_, months, ?_⟩
    refine Option.bind_eq_some_iff.mpr ⟨_, days, ?_⟩
    refine Option.bind_eq_some_iff.mpr ⟨_, hours, ?_⟩
    refine Option.bind_eq_some_iff.mpr ⟨_, minutes, ?_⟩
    refine Option.bind_eq_some_iff.mpr ⟨_, seconds, ?_⟩
    refine Option.bind_eq_some_iff.mpr ⟨_, set₁, ?_⟩
    refine Option.bind_eq_some_iff.mpr ⟨_, set₂, ?_⟩
    refine Option.bind_eq_some_iff.mpr ⟨_, set₃, ?_⟩
    refine Option.bind_eq_some_iff.mpr ⟨_, set₄, ?_⟩
    refine Option.bind_eq_some_iff.mpr ⟨_, set₅, ?_⟩
    refine Option.bind_eq_some_iff.mpr ⟨_, set₆, ?_⟩
    refine Option.bind_eq_some_iff.mpr ⟨_, fraction, ?_⟩
    refine Option.bind_eq_some_iff.mpr ⟨_, offsets, ?_⟩
    exact (if_neg inside).trans set

/-- A moment with its offset is a date, a character, a time of day and something behind it. -/
theorem exists_of_fields? {fields : Fields} (filled : fields? text = some fields) :
    ∃ year month day joint hour minute second behind,
      text = year ++ '-' :: (month ++ '-' :: (day ++ joint :: (hour ++ ':' :: (minute ++ ':' ::
        (second ++ behind))))) ∧
      (4 ≤ year.length ∧ ∀ c ∈ year, c.isDigit) ∧
      (∀ part ∈ [month, day, hour, minute, second], 2 ≤ part.length) ∧ behind ≠ [] := by
  obtain ⟨_, _, _, _, _, _, _, _, _, _, _, behind, years, months, days, hours, minutes, seconds, _, _, _, _,
    -, fraction, offset, -⟩ := fields?_eq_some_iff.mp filled
  have given {c : Char} {value : Nat} {text rest : List Char}
      (read : (given? c text).bind (Fields.digits? 2 2) = some (value, rest)) :
      ∃ digits, text = c :: (digits ++ rest) ∧ 2 ≤ digits.length := by
    obtain ⟨after, first, number⟩ := Option.bind_eq_some_iff.mp read
    obtain ⟨digits, rfl, enough, -⟩ := Fields.exists_of_digits? number
    exact ⟨digits, given?_eq_some first, enough⟩
  obtain ⟨year, rfl, four, all⟩ := Fields.exists_of_digits? years
  obtain ⟨month, rfl, month₂⟩ := given months
  obtain ⟨day, rfl, day₂⟩ := given days
  obtain ⟨after, between, clock⟩ := Option.bind_eq_some_iff.mp hours
  obtain ⟨joint, rfl⟩ := exists_of_joint? between
  obtain ⟨hour, rfl, hour₂, -⟩ := Fields.exists_of_digits? clock
  obtain ⟨minute, rfl, minute₂⟩ := given minutes
  obtain ⟨second, rfl, second₂⟩ := given seconds
  refine ⟨year, month, day, joint, hour, minute, second, behind, rfl, ⟨four, all⟩, by simp [*], ?_⟩
  rintro rfl
  rw [List.suffix_nil.mp (suffix_of_fraction? fraction)] at offset
  cases offset

/-- A moment with its offset has hyphens and colons. -/
theorem mem_of_read? {zoned : ZonedDateTime} (read : ZonedDateTime.read? text = some zoned) :
    '-' ∈ text ∧ ':' ∈ text := by
  obtain ⟨fields, filled, -⟩ := Option.bind_eq_some_iff.mp read
  obtain ⟨year, month, day, joint, hour, minute, second, behind, rfl, -⟩ := exists_of_fields? filled
  simp

end ZonedDateTime

end Intake
