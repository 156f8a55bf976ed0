import Intake.Proofs.Calendar.Zoned
import Intake.Proofs.Text.Printable
import Mathlib.Data.Bool.AllAny

/-! # How dates and times are written

In the default formats a date is written in digits with hyphens, a time of day in digits with colons,
and a moment as both with a blank between or, if it has an offset, in one run of characters. The text
of a moment without an offset is too short to be that of one with it.
-/

namespace Intake

-- Powers are those of natural numbers, whatever algebra is in scope.
attribute [local instance (high)] instPowNat

/-- The text of a moment without an offset. -/
def DateTime.chars (moment : DateTime) : List Char :=
  moment.date.isoChars ++ ' ' :: moment.time.clockChars

namespace Layout

theorem render?_isoDate (date : Date) : isoDate.render? (some date) none = some date.isoChars := by
  simp [render?, isoDate, zeros, item?, number?, dateNumber?, Date.isoChars]

theorem render?_clock (time : Time) : clock.render? none (some time) = some time.clockChars := by
  simp [render?, clock, hourMinute, zeros, item?, number?, timeNumber?, Time.clockChars]

theorem render?_plainMoment (moment : DateTime) :
    plainMoment.render? (some moment.date) (some moment.time) = some moment.chars := by
  simp [render?, plainMoment, isoDate, clock, hourMinute, zeros, item?, number?, dateNumber?,
    timeNumber?, DateTime.chars, Date.isoChars, Time.clockChars]

end Layout

/-- The character is a digit, a sign or one that stands between the parts of a moment. -/
def IsMomentPart (c : Char) : Prop := Layout.IsSigned c ∨ c ∈ [':', 'T', '.']

instance (c : Char) : Decidable (IsMomentPart c) := inferInstanceAs (Decidable (_ ∨ _))

theorem IsMomentPart.of_isDigit {c : Char} (digit : c.isDigit) : IsMomentPart c := .inl (.inl digit)

theorem IsMomentPart.isPrintable {c : Char} (part : IsMomentPart c) : Text.IsPrintable c := by
  rcases part with (digit | rfl | rfl) | sign
  · exact Text.isPrintable_of_isDigit digit
  · decide
  · decide
  · exact List.all_iff_forall_prop.mp (by decide : [':', 'T', '.'].all (Text.IsPrintable ·)) c sign

theorem IsMomentPart.of_isSigned {c : Char} (signed : Layout.IsSigned c) : IsMomentPart c := .inl signed

theorem Date.isSigned_of_mem_isoChars {date : Date} (valid : date.isValid) :
    ∀ c ∈ date.isoChars, Layout.IsSigned c := by
  obtain ⟨-, ⟨-, december⟩, -, last⟩ := Date.isValid_iff.mp valid
  have month := @Layout.isDigit_of_mem_pairChars date.month (by omega)
  have day := @Layout.isDigit_of_mem_pairChars date.day
    (by have := last.trans (daysInMonth_le date.year date.month); omega)
  simp only [isoChars, List.forall_mem_append, List.forall_mem_cons]
  exact ⟨Layout.isSigned_of_mem_yearChars, .inr (.inl rfl), fun c member => .inl (month c member),
    .inr (.inl rfl), fun c member => .inl (day c member)⟩

theorem Time.isDigit_or_of_mem_clockChars {time : Time} (sound : time.Sound) :
    ∀ c ∈ time.clockChars, c.isDigit ∨ c = ':' := by
  have hour := @Layout.isDigit_of_mem_pairChars time.hour (by have := sound.hour; omega)
  have minute := @Layout.isDigit_of_mem_pairChars time.minute (by have := sound.minute; omega)
  have second := @Layout.isDigit_of_mem_pairChars time.shownSecond (by have := shownSecond_le sound; omega)
  simp only [clockChars, List.forall_mem_append, List.forall_mem_cons]
  exact ⟨fun c member => .inl (hour c member), .inr trivial, fun c member => .inl (minute c member),
    .inr trivial, fun c member => .inl (second c member)⟩

theorem Time.isMomentPart_of_mem_clockChars {time : Time} (sound : time.Sound) :
    ∀ c ∈ time.clockChars, IsMomentPart c := by
  intro c member
  rcases isDigit_or_of_mem_clockChars sound c member with digit | rfl
  · exact .of_isDigit digit
  · exact .inr (by decide)

/-- A second that ends a fraction does not show. -/
theorem Time.clockChars_whole (time : Time) : time.whole.clockChars = time.clockChars := by
  have shown : time.whole.shownSecond = time.shownSecond := by
    rw [shownSecond, shownSecond, whole, Nat.mul_div_cancel _ (by decide)]
  rw [clockChars, clockChars, shown]
  rfl

namespace ZonedDateTime

private theorem isMomentPart_of_mem_neededFraction (time : Time) :
    ∀ c ∈ Layout.neededFraction time, IsMomentPart c := by
  have point : IsMomentPart '.' := .inr (by decide)
  have digits (width : Nat) : ∀ c ∈ Layout.fractionChars time width, IsMomentPart c :=
    fun c member => .of_isDigit (Layout.isDigit_of_mem_filled c member)
  rw [Layout.neededFraction]
  split_ifs
  · exact List.forall_mem_nil _
  all_goals exact List.forall_mem_cons.mpr ⟨point, digits _⟩

private theorem isMomentPart_of_mem_offsetChars {offset : Int}
    (within : offset.natAbs ≤ greatestOffset) : ∀ c ∈ offsetChars offset, IsMomentPart c := by
  have greatest : greatestOffset = 86340 := rfl
  have hours := @Layout.isDigit_of_mem_pairChars (offset.natAbs / 60 / 60) (by omega)
  have minutes := @Layout.isDigit_of_mem_pairChars (offset.natAbs / 60 % 60) (by omega)
  simp only [offsetChars, List.forall_mem_append, List.forall_mem_cons, List.cons_append]
  refine ⟨?_, fun c member => .of_isDigit (hours c member), .inr (by decide),
    fun c member => .of_isDigit (minutes c member)⟩
  split_ifs
  · exact .inl (.inr (.inl rfl))
  · exact .inl (.inr (.inr rfl))

/-- The text is a date, the letter, a time of day, a fraction at need, and the offset. -/
theorem chars_eq (zoned : ZonedDateTime) :
    zoned.chars = zoned.moment.date.isoChars ++ 'T' :: (zoned.moment.time.clockChars ++
      (Layout.neededFraction zoned.moment.time ++ offsetChars zoned.offset)) := by
  simp [chars, Date.isoChars, Time.clockChars]

theorem isMomentPart_of_mem_chars {zoned : ZonedDateTime} (sound : zoned.Sound) :
    ∀ c ∈ zoned.chars, IsMomentPart c := by
  simp only [chars_eq, List.forall_mem_append, List.forall_mem_cons]
  exact ⟨fun c member => .inl (Date.isSigned_of_mem_isoChars sound.moment.date c member),
    .inr (by decide), Time.isMomentPart_of_mem_clockChars sound.moment.time,
    isMomentPart_of_mem_neededFraction _, isMomentPart_of_mem_offsetChars sound.within⟩

/-- A moment with its offset starts with a digit, and takes up twenty characters at least. -/
theorem length_of_read? {text : List Char} {zoned : ZonedDateTime}
    (read : ZonedDateTime.read? text = some zoned) :
    (∀ c ∈ text.head?, c.isDigit) ∧ 20 ≤ text.length := by
  obtain ⟨fields, filled, -⟩ := Option.bind_eq_some_iff.mp read
  obtain ⟨year, month, day, joint, hour, minute, second, behind, rfl, ⟨four, all⟩, two, more⟩ :=
    exists_of_fields? filled
  constructor
  · intro c first
    rw [List.head?_append_of_ne_nil _ (List.ne_nil_of_length_pos (Nat.lt_of_lt_of_le (by decide) four))] at first
    exact all c (List.mem_of_head? first)
  · have some := List.length_pos_of_ne_nil more
    simp only [List.forall_mem_cons] at two
    simp only [List.length_append, List.length_cons]
    omega

end ZonedDateTime

namespace DateTime

variable {moment : DateTime}

theorem mem_chars (sound : moment.Sound) : ∀ c ∈ moment.chars, IsMomentPart c ∨ c = ' ' := by
  simp only [chars, List.forall_mem_append, List.forall_mem_cons]
  exact ⟨fun c member => .inl (.inl (Date.isSigned_of_mem_isoChars sound.date c member)), .inr trivial,
    fun c member => .inl (Time.isMomentPart_of_mem_clockChars sound.time c member)⟩

theorem isTrimmed_chars (sound : moment.Sound) : Text.IsTrimmed moment.chars := by
  have date := Date.isSigned_of_mem_isoChars sound.date
  have time := Time.isMomentPart_of_mem_clockChars sound.time
  have trimmed := Text.isTrimmed_append
    (List.append_ne_nil_of_left_ne_nil (Layout.yearChars_ne_nil _) _ : moment.date.isoChars ≠ [])
    (List.append_ne_nil_of_right_ne_nil _ (List.cons_ne_nil _ _) : moment.time.clockChars ≠ [])
    (Text.isTrimmed_of_isPrintable fun c member => (IsMomentPart.of_isSigned (date c member)).isPrintable)
    (Text.isTrimmed_of_isPrintable fun c member => (time c member).isPrintable) [' ']
  rwa [List.append_assoc, List.singleton_append] at trimmed

theorem chars_whole (moment : DateTime) :
    DateTime.chars ⟨moment.date, moment.time.whole⟩ = moment.chars := by
  rw [chars, chars, Time.clockChars_whole]

/-- The text of a moment without an offset is not that of one with it. -/
theorem zoned_read?_chars (sound : moment.Sound) : ZonedDateTime.read? moment.chars = none := by
  cases read : ZonedDateTime.read? moment.chars with
  | none => rfl
  | some zoned =>
    obtain ⟨digit, long⟩ := ZonedDateTime.length_of_read? read
    have start (c : Char) (rest : List Char) (same : Layout.yearChars .zeros moment.date.year = c :: rest) :
        c.isDigit := digit c (by rw [chars, Date.isoChars, same]; rfl)
    rcases Layout.yearChars_zeros moment.date.year with ⟨least, small, same⟩ | ⟨-, same⟩ | ⟨-, same⟩
    · have year := @Layout.length_filled 4 moment.date.year.natAbs (by decide) (by omega)
      obtain ⟨-, ⟨-, december⟩, -, last⟩ := Date.isValid_iff.mp sound.date
      have days := Date.daysInMonth_le moment.date.year moment.date.month
      have hour := sound.time.hour
      have minute := sound.time.minute
      have second := Time.shownSecond_le sound.time
      rw [chars, Date.isoChars, Time.clockChars, same] at long
      simp only [List.length_append, List.length_cons, year,
        Layout.length_pairChars (by omega : moment.date.month < 100),
        Layout.length_pairChars (by omega : moment.date.day < 100),
        Layout.length_pairChars (by omega : moment.time.hour < 100),
        Layout.length_pairChars (by omega : moment.time.minute < 100),
        Layout.length_pairChars (by omega : moment.time.shownSecond < 100)] at long
      omega
    · exact absurd (start '-' _ same) (by decide)
    · exact absurd (start '+' _ same) (by decide)

end DateTime

end Intake
