import Intake.Proofs.Calendar.RoundTrip
import Intake.Proofs.Calendar.Taking

/-! # Moments with their offset are read back

A moment with its offset that is read has a year of four digits, a date that exists, a time of day and
an offset of whole minutes; its text is read as the same moment, the fraction of the second included.
-/

namespace Intake

-- Powers are those of natural numbers, whatever algebra is in scope.
attribute [local instance (high)] instPowNat

/-- The year has four digits, the date and the time of day exist, and the offset is one of whole
minutes within a day. -/
structure ZonedDateTime.Sound (zoned : ZonedDateTime) : Prop where
  moment : zoned.moment.Sound
  year : 0 ≤ zoned.moment.date.year ∧ zoned.moment.date.year < 10000
  minutes : 60 ∣ zoned.offset
  within : zoned.offset.natAbs ≤ ZonedDateTime.greatestOffset

namespace Fields

variable {fields : Fields} {text rest : List Char}

private theorem lt_of_digits? {least width value : Nat}
    (read : digits? least width text = some (value, rest)) : value < 10 ^ width := by
  rw [digits?] at read
  split_ifs at read
  cases read
  have less := @digitsValue_lt ((text.take width).takeWhile Char.isDigit)
    fun c => List.mem_takeWhile_imp
  have short : ((text.take width).takeWhile Char.isDigit).length ≤ width :=
    (List.takeWhile_prefix _).length_le.trans (List.length_take_le _ _)
  exact less.trans_le (Nat.pow_le_pow_right (by decide) short)

/-- An offset is one of whole minutes. -/
theorem dvd_of_offset? {separator? : List Char → Option (List Char)} {letter missing : Bool}
    {seconds : Int} (read : offset? separator? letter missing text = some (seconds, rest)) :
    60 ∣ seconds := by
  rcases offset?_eq_some read with ⟨_, -, rfl⟩ | ⟨_, _, -, signed⟩
  · exact Int.dvd_zero 60
  · obtain ⟨hours, minutes, _, _, -, -, -, magnitude⟩ := exists_of_signedOffset? signed
    omega

/-- The year, the month and the day are those of the date that is made. -/
theorem year_of_toDate {date : Date} {year : Int} {month day : Nat} (years : fields.year = some year)
    (months : fields.month = some month) (days : fields.day = some day) (century : fields.century = none)
    (rest : fields.yearOfCentury = none) (made : fields.toDate = .ok date) : date.year = year := by
  rw [toDate, years, months, days, century, rest] at made
  obtain ⟨year?, resolved, made⟩ := except_bind_eq_ok.mp made
  obtain ⟨isoYear?, -, made⟩ := except_bind_eq_ok.mp made
  cases resolved
  rw [(Date.isValid_of_of? (eq_some_of_checked made)).2]

private theorem toDate_of_toMoment? {offset : Int} {moment : DateTime} (free : fields.timestamp = none)
    (made : fields.toMoment? offset = some moment) : fields.toDate = .ok moment.date := by
  rw [toMoment?, free] at made
  split at made
  · next date time date? time? =>
    dsimp only at made
    split_ifs at made
    cases made
    exact date?
  · cases made
  · cases made
  · cases made
  · next impossible _ _ _ => cases impossible

end Fields

namespace ZonedDateTime

variable {fields other : Fields} {text rest : List Char} {zoned : ZonedDateTime}

/-- A fraction of the second enters nothing else. -/
theorem fraction?_eq_some (read : fraction? fields text = some (other, rest)) :
    other = { fields with nanosecond := other.nanosecond } ∧ (fields.InRange → other.InRange) := by
  unfold fraction? at read
  split at read
  · refine ⟨?_, fun inRange => inRange.readFraction? read⟩
    obtain ⟨⟨value, after⟩, -, set⟩ := Option.bind_eq_some_iff.mp read
    obtain ⟨entered, entry, same⟩ := Option.bind_eq_some_iff.mp set
    cases same
    rw [(Fields.setNanosecond?_eq_some entry).2]
  · cases read
    exact ⟨rfl, id⟩

/-- The fields that are filled are those of a date, of a time of day and of an offset. -/
structure Fills (fields : Fields) (year month day : Nat) (offset : Int) : Prop where
  inRange : fields.InRange
  fields : ∃ afternoon hour minute second nanosecond, fields =
    { year := some (year : Int), month := some month, day := some day, afternoon := afternoon
      hourOfHalf := hour, minute := minute, second := second, nanosecond := nanosecond
      offset := some offset }
  year : year < 10000
  minutes : 60 ∣ offset
  within : offset.natAbs ≤ greatestOffset

private theorem fills_of_fields? (filled : fields? text = some fields) :
    ∃ year month day offset, Fills fields year month day offset := by
  obtain ⟨year, _, month, _, day, _, hour, _, minute, _, second, _, years, -, -, -, -, -, _, _, _, offset,
    entered, fraction, offsets, within, set⟩ := fields?_eq_some_iff.mp filled
  simp only [Option.bind_eq_some_iff] at entered
  obtain ⟨_, ⟨_, ⟨dated, ⟨_, ⟨_, set₁, set₂⟩, set₃⟩, set₄⟩, set₅⟩, set₆⟩ := entered
  obtain ⟨same, clocked⟩ := fraction?_eq_some fraction
  have inRange : dated.InRange := by
    rw [Fields.setDay?_eq_some set₃, Fields.setMonth?_eq_some set₂, Fields.setYear?_eq_some set₁]
    exact Fields.inRange_empty.of_same rfl rfl rfl rfl
  have stays := (clocked (((inRange.setHour? set₄).setMinute? set₅).setSecond? set₆)).setOffset? set
  refine ⟨year, month, day, offset, stays, ?_, Fields.lt_of_digits? years,
    Fields.dvd_of_offset? offsets, within⟩
  rw [Fields.setOffset?_eq_some set, same, (Fields.setSecond?_eq_some set₆).2,
    (Fields.setMinute?_eq_some set₅).2, Fields.setHour?_eq_some set₄, Fields.setDay?_eq_some set₃,
    Fields.setMonth?_eq_some set₂, Fields.setYear?_eq_some set₁]
  exact ⟨_, _, _, _, _, rfl⟩

/-- A moment with its offset that is read has a year of four digits and an offset that is written. -/
theorem sound_of_read? (read : ZonedDateTime.read? text = some zoned) : zoned.Sound := by
  obtain ⟨fields, filled, read⟩ := Option.bind_eq_some_iff.mp read
  obtain ⟨offset, given, read⟩ := Option.bind_eq_some_iff.mp read
  obtain ⟨moment, made, same⟩ := Option.bind_eq_some_iff.mp read
  cases same
  obtain ⟨year, month, day, other, inRange, ⟨_, _, _, _, _, rfl⟩, small, minutes, within⟩ :=
    fills_of_fields? filled
  cases given
  have dated := Fields.toDate_of_toMoment? rfl made
  have same : moment.date.year = year := Fields.year_of_toDate rfl rfl rfl rfl rfl dated
  have known : 0 ≤ moment.date.year ∧ moment.date.year < 10000 := by omega
  exact ⟨inRange.sound_toMoment? made, known, minutes, within⟩

private theorem given?_cons (c : Char) (rest : List Char) :
    given? c (c :: rest) = some rest := if_pos rfl

private theorem dropWhile_isDigit (stops : ∀ c ∈ rest.head?, ¬c.isDigit) :
    rest.dropWhile Char.isDigit = rest := by
  cases rest with
  | nil => rfl
  | cons c rest => exact List.dropWhile_cons_of_neg (stops c rfl)

/-- A fraction of the second of which some digits are written is read back if all others are zero. -/
theorem readFraction?_fractionChars {time : Time} (free : fields.nanosecond = none)
    (stops : ∀ c ∈ rest.head?, ¬c.isDigit) {width : Nat} (wide : 0 < width) (narrow : width ≤ 9)
    (exact : 10 ^ (9 - width) ∣ time.fraction) :
    fields.readFraction? none (Layout.fractionChars time width ++ rest) =
      some ({ fields with nanosecond := some time.fraction }, rest) := by
  have bounded : time.fraction < 10 ^ 9 := Nat.mod_lt _ (by decide)
  have whole : 10 ^ (9 - width) * 10 ^ width = 10 ^ 9 := by
    rw [← Nat.pow_add, Nat.sub_add_cancel narrow]
  have fits : time.fraction / 10 ^ (9 - width) < 10 ^ width := by
    apply Nat.div_lt_of_lt_mul
    rwa [whole]
  have value := Layout.digitsValue_filled width (time.fraction / 10 ^ (9 - width))
  have length := Layout.length_filled wide fits
  have small : time.fraction / 10 ^ (9 - width) ≤ Fields.greatestNumber :=
    ((Nat.div_le_self _ _).trans bounded.le).trans (by decide)
  have digits := Fields.digits?_append Layout.isDigit_of_mem_filled (length.ge.trans' wide)
    (length.le.trans narrow) (.inr stops) (value.le.trans small)
  have taken : (Layout.fractionChars time width ++ rest).length - rest.length = width := by
    rw [List.length_append, Nat.add_sub_cancel]
    exact length
  rw [value] at digits
  rw [Layout.fractionChars] at taken ⊢
  simp only [Fields.readFraction?, Option.getD_none, digits, taken, Option.bind_eq_bind, Option.bind_some,
    Nat.div_mul_cancel exact, Fields.setNanosecond?_of_agrees (Fields.agrees_of_eq_none free _) bounded, Option.isSome_none,
    Bool.false_eq_true, if_false, dropWhile_isDigit stops]

/-- The fraction of the second is read back, whether three, six or nine digits of it are needed. -/
theorem fraction?_neededFraction (time : Time) (free : fields.nanosecond = none)
    (stops : ∀ c ∈ rest.head?, ¬c.isDigit ∧ c ≠ '.') :
    ∃ nanosecond, fraction? fields (Layout.neededFraction time ++ rest) =
        some ({ fields with nanosecond := nanosecond }, rest) ∧ nanosecond.getD 0 = time.fraction := by
  have ends : ∀ c ∈ rest.head?, ¬c.isDigit := fun c first => (stops c first).1
  have reads {width : Nat} (wide : 0 < width) (narrow : width ≤ 9)
      (exact : 10 ^ (9 - width) ∣ time.fraction) :=
    readFraction?_fractionChars free ends wide narrow exact
  rw [Layout.neededFraction]
  split_ifs with zero milli micro
  · refine ⟨none, ?_, zero.symm⟩
    have same : { fields with nanosecond := none } = fields := by rw [← free]
    rw [same, List.nil_append]
    unfold fraction?
    split
    · exact absurd rfl (stops '.' rfl).2
    · rfl
  · exact ⟨_, reads (by decide) (by decide) (Nat.dvd_of_mod_eq_zero milli), rfl⟩
  · exact ⟨_, reads (by decide) (by decide) (Nat.dvd_of_mod_eq_zero micro), rfl⟩
  · exact ⟨_, reads (by decide) (by decide) (Nat.one_dvd _), rfl⟩

/-- An offset of whole minutes is read back. -/
theorem offset?_offsetChars {offset : Int} (minutes : 60 ∣ offset)
    (within : offset.natAbs ≤ greatestOffset) :
    Fields.offset? (given? ':') true false (offsetChars offset) = some (offset, []) := by
  have range : offset.natAbs / 60 / 60 < 100 := by
    have greatest : greatestOffset = 86340 := rfl
    omega
  have rest : offset.natAbs / 60 % 60 < 60 := Nat.mod_lt _ (by decide)
  have hours := @Fields.digits?_pairChars 2 _ (':' :: Layout.pairChars .zeros (offset.natAbs / 60 % 60))
    (Nat.le_refl 2) range
  have minute := @Fields.digits?_pairChars 2 (offset.natAbs / 60 % 60) [] (Nat.le_refl 2) (by omega)
  rw [List.append_nil] at minute
  have few : ¬59 < offset.natAbs / 60 % 60 := by omega
  have signed (negative : Bool) (sign : negative = decide (offset < 0)) :
      Fields.signedOffset? (given? ':') false negative (Layout.pairChars .zeros (offset.natAbs / 60 / 60) ++
        ':' :: Layout.pairChars .zeros (offset.natAbs / 60 % 60)) = some (offset, []) := by
    simp only [Fields.signedOffset?, hours, Option.bind_some, given?_cons, Bool.false_and,
      Bool.false_eq_true, if_false, minute, if_neg few, Option.some.injEq, Prod.mk.injEq, and_true]
    subst sign
    simp only [decide_eq_true_eq]
    split_ifs with negative <;> omega
  rw [offsetChars]
  by_cases negative : offset < 0
  · rw [if_pos negative]
    exact (Fields.offset?_cons _ _ _ _ (by decide)).trans (signed true (by simp [negative]))
  · rw [if_neg negative]
    exact (Fields.offset?_cons _ _ _ _ (by decide)).trans (signed false (by simp [negative]))

private theorem offsetChars_stops (offset : Int) :
    ∀ c ∈ (offsetChars offset).head?, ¬c.isDigit ∧ c ≠ '.' := by
  rw [offsetChars]
  rintro c ⟨⟩
  split_ifs <;> decide

/-- The fields of a moment with its offset are read back from its text. -/
theorem fields?_chars (sound : zoned.Sound) :
    ∃ nanosecond, nanosecond.getD 0 = zoned.moment.time.fraction ∧ fields? zoned.chars =
      some (Fields.withClock
        { year := zoned.moment.date.year, month := zoned.moment.date.month
          day := zoned.moment.date.day, nanosecond := nanosecond, offset := some zoned.offset }
        zoned.moment.time) := by
  obtain ⟨⟨date, time⟩, offset⟩ := zoned
  obtain ⟨⟨valid, clock⟩, ⟨least, most⟩, minutes, within⟩ := sound
  dsimp only at valid clock least most minutes within ⊢
  obtain ⟨known, ⟨january, december⟩, first, last⟩ := Date.isValid_iff.mp valid
  have lastDay := last.trans (Date.daysInMonth_le _ _)
  have hour := clock.hour
  have minute := clock.minute
  have second := Time.shownSecond_le clock
  have magnitude : (date.year.natAbs : Int) = date.year := by omega
  have year (rest : List Char) :
      Fields.digits? 4 4 (Layout.yearChars .zeros date.year ++ rest) = some (date.year.natAbs, rest) := by
    rcases Layout.yearChars_zeros date.year with ⟨-, -, same⟩ | ⟨negative, -⟩ | ⟨large, -⟩
    · have small : date.year.natAbs ≤ Fields.greatestNumber :=
        Nat.le_trans (by omega : date.year.natAbs ≤ 10000) (by decide)
      rw [same]
      exact Fields.digits?_filled (by decide) (Nat.le_refl 4) (by omega) small
    · omega
    · omega
  have pair {value : Nat} (small : value < 100) (rest : List Char) :
      Fields.digits? 2 2 (Layout.pairChars .zeros value ++ rest) = some (value, rest) :=
    Fields.digits?_pairChars (Nat.le_refl 2) small
  have behind (c : Char) {value : Nat} (small : value < 100) (rest : List Char) :
      (given? c (c :: (Layout.pairChars .zeros value ++ rest))).bind (Fields.digits? 2 2) =
        some (value, rest) := by
    rw [given?_cons]
    exact pair small rest
  let dated : Fields := { year := date.year, month := date.month, day := date.day }
  -- Each part is entered into fields that do not know it yet, so there is nothing to agree with.
  have entered : (((((Fields.setYear? {} date.year.natAbs).bind (Fields.setMonth? · date.month)).bind
      (Fields.setDay? · date.day)).bind (Fields.setHour? · time.hour)).bind
      (Fields.setMinute? · time.minute)).bind (Fields.setSecond? · time.shownSecond) =
        some (dated.withClock time) := by
    rw [magnitude, Fields.setYear?_of_agrees rfl known, Option.bind_some,
      Fields.setMonth?_of_agrees rfl january december, Option.bind_some,
      Fields.setDay?_of_agrees rfl first lastDay, Option.bind_some, Fields.setHour?_of_agrees rfl rfl hour,
      Option.bind_some, Fields.setMinute?_of_agrees rfl minute, Option.bind_some,
      Fields.setSecond?_of_agrees rfl second]
    rfl
  obtain ⟨nanosecond, fraction, same⟩ :=
    @fraction?_neededFraction (dated.withClock time) (offsetChars offset) time rfl (offsetChars_stops offset)
  refine ⟨nanosecond, same, ?_⟩
  have offsets := offset?_offsetChars minutes within
  simp only [chars, List.append_assoc, List.cons_append]
  have hours (rest : List Char) : (joint? ('T' :: (Layout.pairChars .zeros time.hour ++ rest))).bind
      (Fields.digits? 2 2) = some (time.hour, rest) := pair (by omega) rest
  exact fields?_eq_some_iff.mpr ⟨_, _, _, _, _, _, _, _, _, _, _, _, year _, behind '-' (by omega) _,
    behind '-' (by omega) _, hours _, behind ':' (by omega) _, behind ':' (by omega) _, _, _, _, _,
    entered, fraction, offsets, within, rfl⟩

/-- A moment with its offset is read back from its text. -/
theorem read?_chars (sound : zoned.Sound) : ZonedDateTime.read? zoned.chars = some zoned := by
  obtain ⟨nanosecond, same, filled⟩ := fields?_chars sound
  obtain ⟨⟨date, time⟩, offset⟩ := zoned
  obtain ⟨⟨valid, clock⟩, -⟩ := sound
  have whole : ({ time.whole with nanosecond := time.whole.nanosecond + nanosecond.getD 0 } : Time) = time := by
    rw [same, Time.whole, Time.fraction, Nat.div_add_mod']
  have dated := @Fields.toDate_of_isValid date valid none rfl (some (12 ≤ time.hour)) (some (time.hour % 12))
    (some time.minute) (some time.shownSecond) nanosecond (some offset)
  have clocked := Fields.toTime_withClock clock
    { year := date.year, month := date.month, day := date.day, nanosecond := nanosecond, offset := some offset }
  rw [whole] at clocked
  have made := Fields.toMoment?_of_ok offset dated clocked rfl
  rw [ZonedDateTime.read?, filled]
  exact congrArg (fun moment? => moment?.bind fun moment => some (ZonedDateTime.mk moment offset)) made

end ZonedDateTime

end Intake
