import Intake.Calendar.Parsing
import Intake.Proofs.Except

/-! # What is read is a date or a time

Whatever the layout, a date that is read exists, and the parts of a time of day that is read are in
their ranges. The fields that a layout fills are, item by item, and only from such fields dates and
times are made.
-/

namespace Intake

namespace Date

variable {year : Int} {date : Date}

theorem isValid_of_of? {month day : Nat} (found : of? year month day = some date) :
    date.isValid ∧ date = ⟨year, month, day⟩ := by
  rw [of?] at found
  split_ifs at found with valid
  cases found
  exact ⟨valid, rfl⟩

theorem isValid_iff :
    date.isValid ↔ isYear date.year ∧ (1 ≤ date.month ∧ date.month ≤ 12) ∧
      1 ≤ date.day ∧ date.day ≤ daysInMonth date.year date.month := by
  simp [isValid, and_assoc]

/-- The month that a day of the year falls in is looked for among the twelve. -/
theorem isValid_monthDay? (known : isYear year) {fuel month day : Nat} (start : 1 ≤ month)
    (room : month + fuel = 13) (some : 1 ≤ day) (found : monthDay? year fuel month day = .some date) :
    date.isValid := by
  induction fuel generalizing month day with
  | zero => cases found
  | succ fuel ih =>
    rw [monthDay?] at found
    split_ifs at found with fits
    · cases found
      have last : month ≤ 12 := by omega
      exact isValid_iff.mpr ⟨known, ⟨start, last⟩, some, fits⟩
    · exact ih (by omega) (by omega) (by omega) found

private theorem isValid_ofOrdinal? {ordinal : Nat} (found : ofOrdinal? year ordinal = some date) :
    date.isValid := by
  rw [ofOrdinal?] at found
  split_ifs at found with inside
  exact isValid_monthDay? inside.1 (Nat.le_refl 1) rfl inside.2.1 found

private theorem isValid_ofIsoWeek? {week weekday : Nat}
    (found : ofIsoWeek? year week weekday = some date) : date.isValid := by
  rw [ofIsoWeek?] at found
  split_ifs at found
  exact (Option.filter_eq_some_iff.mp found).2

end Date

/-- The parts of a time of day are in their ranges. More than a second is shown in the last second of
a minute only. -/
structure Time.Sound (time : Time) : Prop where
  hour : time.hour ≤ 23
  minute : time.minute ≤ 59
  second : time.second ≤ 59
  nanosecond : time.nanosecond < 2 * nanosecondsPerSecond
  leap : nanosecondsPerSecond ≤ time.nanosecond → time.second = 59

namespace Fields

variable {fields : Fields}

theorem eq_some_of_checked {date? : Option Date} {check : Date → Bool} {date : Date}
    (made : fields.checked date? check = .ok date) : date? = some date := by
  unfold checked at made
  split at made
  · split_ifs at made
    cases made
    rfl
  · cases made

private theorem isValid_weekDate {year : Int} {week weekday start : Nat} {date : Date}
    (made : weekDate year week weekday start = .ok date) : date.isValid := by
  rw [weekDate] at made
  split_ifs at made
  split at made
  · next found =>
    cases made
    exact Date.isValid_ofOrdinal? found
  · cases made

/-- Fields only make dates that exist. -/
theorem isValid_toDate {date : Date} (made : fields.toDate = .ok date) : date.isValid := by
  rw [toDate] at made
  obtain ⟨year?, -, made⟩ := except_bind_eq_ok.mp made
  obtain ⟨isoYear?, -, made⟩ := except_bind_eq_ok.mp made
  dsimp only at made
  split at made
  · exact (Date.isValid_of_of? (eq_some_of_checked made)).1
  split at made
  · exact Date.isValid_ofOrdinal? (eq_some_of_checked made)
  split at made
  · obtain ⟨found, week, made⟩ := except_bind_eq_ok.mp made
    cases eq_some_of_checked made
    exact isValid_weekDate week
  split at made
  · obtain ⟨found, week, made⟩ := except_bind_eq_ok.mp made
    cases eq_some_of_checked made
    exact isValid_weekDate week
  split at made
  · exact Date.isValid_ofIsoWeek? (eq_some_of_checked made)
  · cases made

/-- The fields of a time of day are in their ranges. -/
structure InRange (fields : Fields) : Prop where
  hourOfHalf : ∀ hour ∈ fields.hourOfHalf, hour < 12
  minute : ∀ minute ∈ fields.minute, minute ≤ 59
  second : ∀ second ∈ fields.second, second ≤ 60
  nanosecond : ∀ nanosecond ∈ fields.nanosecond, nanosecond < nanosecondsPerSecond

/-- Fields in their ranges only make times that are. -/
theorem InRange.sound_toTime (inRange : fields.InRange) {time : Time}
    (made : fields.toTime = .ok time) : time.Sound := by
  rw [toTime] at made
  split at made
  · next afternoon hour minute _ hourOfHalf minutes =>
    have hourLess := inRange.hourOfHalf hour hourOfHalf
    have minuteLess := inRange.minute minute minutes
    have hourFits : (if afternoon then 12 else 0) + hour ≤ 23 := by
      split_ifs <;> omega
    have fractionLess : fields.nanosecond.getD 0 < nanosecondsPerSecond := by
      cases given : fields.nanosecond with
      | none => decide
      | some nanosecond => exact inRange.nanosecond nanosecond given
    have secondLess : fields.second.getD 0 ≤ 60 := by
      cases given : fields.second with
      | none => decide
      | some second => exact inRange.second second given
    split at made
    · cases made
    · dsimp only at made
      generalize (if afternoon then 12 else 0) + hour = shown at made hourFits
      generalize fields.second.getD 0 = second at made secondLess
      generalize fields.nanosecond.getD 0 = nanosecond at made fractionLess
      split_ifs at made with leap
      · cases made
        have less : nanosecondsPerSecond + nanosecond < 2 * nanosecondsPerSecond := by omega
        exact ⟨hourFits, minuteLess, Nat.le_refl 59, less, fun _ => rfl⟩
      · cases made
        have shorter : second ≤ 59 := by omega
        have less : nanosecond < 2 * nanosecondsPerSecond := by omega
        exact ⟨hourFits, minuteLess, shorter, less, fun large => absurd fractionLess (Nat.not_lt.mpr large)⟩
  · cases made

variable {other : Fields}

private theorem enter_eq_some {α : Type} [DecidableEq α] {old? : Option α} {new : α} {result : Option α}
    (entered : enter old? new = some result) : result = some new := by
  unfold enter at entered
  split at entered
  · split_ifs at entered
    exact (Option.some.inj entered).symm
  · exact (Option.some.inj entered).symm

/-- A field that is entered has the value that was to be entered. -/
theorem update_eq_some {α : Type} [DecidableEq α] {old? : Option α} {new : α}
    {update : Option α → Fields}
    (set : ((enter old? new).bind fun value => some (update value)) = some other) :
    other = update (some new) := by
  obtain ⟨value, entered, same⟩ := Option.bind_eq_some_iff.mp set
  rw [← enter_eq_some entered]
  exact (Option.some.inj same).symm

/-- What is out of range is not entered. -/
theorem guarded_eq_some {α β : Type} {outside : Prop} [Decidable outside] {refused : α → Option β}
    {entered : Option β} {result : β}
    (set : (if outside then none.bind refused else entered) = some result) :
    ¬outside ∧ entered = some result := by
  split_ifs at set with out
  · cases set
  · exact ⟨out, set⟩

theorem setYear?_eq_some {value : Int} (set : fields.setYear? value = some other) :
    other = { fields with year := some value } :=
  update_eq_some (guarded_eq_some set).2

theorem setMonth?_eq_some {value : Nat} (set : fields.setMonth? value = some other) :
    other = { fields with month := some value } :=
  update_eq_some (guarded_eq_some set).2

theorem setDay?_eq_some {value : Nat} (set : fields.setDay? value = some other) :
    other = { fields with day := some value } :=
  update_eq_some (guarded_eq_some set).2

theorem setHour?_eq_some {value : Nat} (set : fields.setHour? value = some other) :
    other = { fields with afternoon := some (12 ≤ value), hourOfHalf := some (value % 12) } := by
  obtain ⟨afternoon, entered, set⟩ := Option.bind_eq_some_iff.mp (guarded_eq_some set).2
  rw [enter_eq_some entered] at set
  exact update_eq_some set

theorem setMinute?_eq_some {value : Nat} (set : fields.setMinute? value = some other) :
    value ≤ 59 ∧ other = { fields with minute := some value } :=
  ⟨Nat.not_lt.mp (guarded_eq_some set).1, update_eq_some (guarded_eq_some set).2⟩

theorem setSecond?_eq_some {value : Nat} (set : fields.setSecond? value = some other) :
    value ≤ 60 ∧ other = { fields with second := some value } :=
  ⟨Nat.not_lt.mp (guarded_eq_some set).1, update_eq_some (guarded_eq_some set).2⟩

theorem setNanosecond?_eq_some {value : Nat} (set : fields.setNanosecond? value = some other) :
    value < nanosecondsPerSecond ∧ other = { fields with nanosecond := some value } :=
  ⟨Nat.not_le.mp (guarded_eq_some set).1, update_eq_some (guarded_eq_some set).2⟩

theorem setOffset?_eq_some {value : Int} (set : fields.setOffset? value = some other) :
    other = { fields with offset := some value } :=
  update_eq_some set

/-- What has the same fields of a time of day as fields in their ranges is in range as well. -/
theorem InRange.of_same (inRange : fields.InRange) (hour : other.hourOfHalf = fields.hourOfHalf)
    (minute : other.minute = fields.minute) (second : other.second = fields.second)
    (nanosecond : other.nanosecond = fields.nanosecond) : other.InRange := by
  constructor
  · rw [hour]
    exact inRange.hourOfHalf
  · rw [minute]
    exact inRange.minute
  · rw [second]
    exact inRange.second
  · rw [nanosecond]
    exact inRange.nanosecond

theorem InRange.setHour? (inRange : fields.InRange) {value : Nat}
    (set : fields.setHour? value = some other) : other.InRange := by
  cases setHour?_eq_some set
  refine ⟨?_, inRange.minute, inRange.second, inRange.nanosecond⟩
  rintro hour ⟨⟩
  exact Nat.mod_lt _ (by decide)

theorem InRange.setMinute? (inRange : fields.InRange) {value : Nat}
    (set : fields.setMinute? value = some other) : other.InRange := by
  obtain ⟨fits, rfl⟩ := setMinute?_eq_some set
  refine ⟨inRange.hourOfHalf, ?_, inRange.second, inRange.nanosecond⟩
  rintro minute ⟨⟩
  exact fits

theorem InRange.setSecond? (inRange : fields.InRange) {value : Nat}
    (set : fields.setSecond? value = some other) : other.InRange := by
  obtain ⟨fits, rfl⟩ := setSecond?_eq_some set
  refine ⟨inRange.hourOfHalf, inRange.minute, ?_, inRange.nanosecond⟩
  rintro second ⟨⟩
  exact fits

private theorem InRange.setNanosecond? (inRange : fields.InRange) {value : Nat}
    (set : fields.setNanosecond? value = some other) : other.InRange := by
  obtain ⟨fits, rfl⟩ := setNanosecond?_eq_some set
  refine ⟨inRange.hourOfHalf, inRange.minute, inRange.second, ?_⟩
  rintro nanosecond ⟨⟩
  exact fits

theorem InRange.setOffset? (inRange : fields.InRange) {value : Int}
    (set : fields.setOffset? value = some other) : other.InRange := by
  cases setOffset?_eq_some set
  exact inRange.of_same rfl rfl rfl rfl

/-- Fields stay in their ranges when a number is entered. -/
theorem InRange.setNumber? (inRange : fields.InRange) {part : NumericPart} {value : Nat}
    (set : fields.setNumber? part value = some other) : other.InRange := by
  cases part with
  | hour => exact inRange.setHour? set
  | minute => exact inRange.setMinute? set
  | second => exact inRange.setSecond? set
  | nanosecond => exact inRange.setNanosecond? set
  | hour12 =>
    cases update_eq_some (guarded_eq_some set).2
    refine ⟨?_, inRange.minute, inRange.second, inRange.nanosecond⟩
    rintro hour ⟨⟩
    exact Nat.mod_lt _ (by decide)
  | weekdayFromSunday =>
    rw [Fields.setNumber?] at set
    split_ifs at set
    cases update_eq_some set
    exact inRange.of_same rfl rfl rfl rfl
  | weekdayFromMonday =>
    rw [Fields.setNumber?] at set
    split_ifs at set
    cases update_eq_some set
    exact inRange.of_same rfl rfl rfl rfl
  | year | quarter | month | day | ordinal | weekFromSunday | weekFromMonday | isoWeek =>
    cases update_eq_some (guarded_eq_some set).2
    exact inRange.of_same rfl rfl rfl rfl
  | century | yearOfCentury | isoYear | isoYearOfCentury | timestamp =>
    cases update_eq_some set
    exact inRange.of_same rfl rfl rfl rfl

variable {text rest : List Char}

private theorem InRange.readNumber? (inRange : fields.InRange) {part : NumericPart}
    (read : fields.readNumber? part text = some (other, rest)) : other.InRange := by
  unfold Fields.readNumber? at read
  dsimp only at read
  split at read
  all_goals
    obtain ⟨⟨value, after⟩, -, set⟩ := Option.bind_eq_some_iff.mp read
    obtain ⟨entered, entry, same⟩ := Option.bind_eq_some_iff.mp set
    cases same
  · cases setYear?_eq_some entry
    exact inRange.of_same rfl rfl rfl rfl
  · cases update_eq_some (guarded_eq_some entry).2
    exact inRange.of_same rfl rfl rfl rfl
  · exact inRange.setNumber? entry
  · exact inRange.setNumber? entry

theorem InRange.readFraction? (inRange : fields.InRange) {count? : Option Nat}
    (read : fields.readFraction? count? text = some (other, rest)) : other.InRange := by
  obtain ⟨⟨value, after⟩, -, set⟩ := Option.bind_eq_some_iff.mp read
  obtain ⟨entered, entry, same⟩ := Option.bind_eq_some_iff.mp set
  cases same
  exact inRange.setNanosecond? entry

private theorem InRange.readOffset? (inRange : fields.InRange) {letter missingMinutes : Bool}
    (read : fields.readOffset? letter missingMinutes text = some (other, rest)) : other.InRange := by
  obtain ⟨⟨seconds, after⟩, -, set⟩ := Option.bind_eq_some_iff.mp read
  obtain ⟨entered, entry, same⟩ := Option.bind_eq_some_iff.mp set
  cases same
  exact inRange.setOffset? entry

/-- Fields stay in their ranges when an item is read. -/
theorem InRange.readItem? (inRange : fields.InRange) {item : LayoutItem}
    (read : fields.readItem? item text = some (other, rest)) : other.InRange := by
  cases item with
  | literal c =>
    unfold Fields.readItem? at read
    dsimp only at read
    split at read
    · split_ifs at read
      cases read
      exact inRange
    · cases read
  | blank _ =>
    cases read
    exact inRange
  | number part _ => exact inRange.readNumber? read
  -- Names and the half of the day are entered into fields without a range.
  | monthName full =>
    obtain ⟨⟨place, after⟩, -, set⟩ := Option.bind_eq_some_iff.mp read
    obtain ⟨entered, entry, same⟩ := Option.bind_eq_some_iff.mp set
    cases same
    cases setMonth?_eq_some entry
    exact inRange.of_same rfl rfl rfl rfl
  | weekdayName full =>
    obtain ⟨⟨place, after⟩, -, set⟩ := Option.bind_eq_some_iff.mp read
    obtain ⟨entered, entry, same⟩ := Option.bind_eq_some_iff.mp set
    cases same
    cases update_eq_some entry
    exact inRange.of_same rfl rfl rfl rfl
  | half _ =>
    rw [Fields.readItem?, Fields.readHalf?] at read
    split_ifs at read
    all_goals
      obtain ⟨_, set, same⟩ := Option.map_eq_some_iff.mp read
      cases same
      cases update_eq_some set
      exact inRange.of_same rfl rfl rfl rfl
  | fraction digits? =>
    unfold Fields.readItem? at read
    dsimp only at read
    split at read
    · exact inRange.readFraction? read
    · cases read
      exact inRange
  | bareFraction digits => exact inRange.readFraction? read
  | zoneName =>
    cases read
    exact inRange
  | zoneOffset lenient => exact inRange.readOffset? read
  | joint =>
    unfold Fields.readItem? at read
    dsimp only at read
    split at read <;> cases read <;> exact inRange
  | zone =>
    rw [Fields.readItem?] at read
    split_ifs at read
    · obtain ⟨_, set, same⟩ := Option.map_eq_some_iff.mp read
      cases same
      exact inRange.setOffset? set
    · exact inRange.readOffset? read
  | invalid => cases read

/-- Fields stay in their ranges while a layout is read. -/
theorem InRange.readItems? (inRange : fields.InRange) {layout : Layout}
    (read : fields.readItems? layout text = some (other, rest)) : other.InRange := by
  induction layout generalizing fields text with
  | nil =>
    cases read
    exact inRange
  | cons item items ih =>
    obtain ⟨_, first, read⟩ := Option.bind_eq_some_iff.mp read
    exact ih (inRange.readItem? first) read

theorem inRange_empty : InRange {} := ⟨nofun, nofun, nofun, nofun⟩

/-- A layout fills fields in their ranges. -/
theorem inRange_of_read? {layout : Layout} (read : Fields.read? layout text = some fields) :
    fields.InRange := by
  obtain ⟨_, items, read⟩ := Option.bind_eq_some_iff.mp read
  dsimp only at read
  split_ifs at read
  cases read
  exact inRange_empty.readItems? items

/-- What a timestamp says is in range as well. -/
theorem InRange.fillFrom? (inRange : fields.InRange) {timestamp : Int}
    (filled : fields.fillFrom? timestamp = some other) : other.InRange := by
  obtain ⟨moment, -, filled⟩ := Option.bind_eq_some_iff.mp filled
  have finish : ∀ (moment : DateTime) (start : Fields), start.InRange →
      ((start.setYear? moment.date.year).bind fun fields =>
        (fields.setOrdinal? moment.date.ordinal).bind fun fields =>
          (fields.setHour? moment.time.hour).bind fun fields =>
            fields.setMinute? moment.time.minute) = some other → other.InRange := by
    intro moment start inRange filled
    obtain ⟨dated, year, filled⟩ := Option.bind_eq_some_iff.mp filled
    obtain ⟨counted, ordinal, filled⟩ := Option.bind_eq_some_iff.mp filled
    obtain ⟨timed, hour, filled⟩ := Option.bind_eq_some_iff.mp filled
    have counted : counted.InRange := by
      cases setYear?_eq_some year
      cases update_eq_some (guarded_eq_some ordinal).2
      exact inRange.of_same rfl rfl rfl rfl
    exact (counted.setHour? hour).setMinute? filled
  dsimp only at filled
  split_ifs at filled
  · split at filled
    · exact finish _ _ inRange filled
    · obtain ⟨earlier, -, filled⟩ := Option.bind_eq_some_iff.mp filled
      exact finish _ _ inRange filled
    · cases filled
  · obtain ⟨timed, set, filled⟩ := Option.bind_eq_some_iff.mp filled
    exact finish _ _ (inRange.setSecond? set) filled

end Fields

/-- The date exists and the time of day is one. -/
structure DateTime.Sound (moment : DateTime) : Prop where
  date : moment.date.isValid
  time : moment.time.Sound

theorem Fields.InRange.sound_toMoment? {fields : Fields} (inRange : fields.InRange) {offset : Int}
    {moment : DateTime} (made : fields.toMoment? offset = some moment) : moment.Sound := by
  rw [toMoment?] at made
  split at made
  · next date time date? time? =>
    dsimp only at made
    split_ifs at made
    cases made
    exact ⟨isValid_toDate date?, inRange.sound_toTime time?⟩
  · cases made
  · cases made
  · cases made
  · obtain ⟨filled, fills, made⟩ := Option.bind_eq_some_iff.mp made
    split at made
    · next date time date? time? =>
      cases made
      exact ⟨isValid_toDate date?, (inRange.fillFrom? fills).sound_toTime time?⟩
    · cases made

private theorem toOption_eq_some {ε α : Type} {result : Except ε α} {value : α}
    (read : result.toOption = some value) : result = .ok value := by
  cases result <;> cases read
  rfl

variable {layout : Layout} {text : List Char}

/-- A date that is read exists. -/
theorem Date.isValid_of_read? {date : Date} (read : Date.read? layout text = some date) :
    date.isValid := by
  obtain ⟨fields, -, made⟩ := Option.bind_eq_some_iff.mp read
  exact Fields.isValid_toDate (toOption_eq_some made)

/-- A time of day that is read is one. -/
theorem Time.sound_of_read? {time : Time} (read : Time.read? layout text = some time) : time.Sound := by
  obtain ⟨fields, filled, made⟩ := Option.bind_eq_some_iff.mp read
  exact (Fields.inRange_of_read? filled).sound_toTime (toOption_eq_some made)

/-- A moment that is read is one. -/
theorem DateTime.sound_of_read? {moment : DateTime} (read : DateTime.read? layout text = some moment) :
    moment.Sound := by
  obtain ⟨fields, filled, made⟩ := Option.bind_eq_some_iff.mp read
  exact (Fields.inRange_of_read? filled).sound_toMoment? made

end Intake
