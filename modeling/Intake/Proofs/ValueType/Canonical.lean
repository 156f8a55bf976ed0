import Intake.Proofs.Calendar.Writing
import Intake.Proofs.Format.Address
import Intake.Proofs.Format.Name
import Intake.Proofs.ValueType.Casting

/-! # Canonical values

What a built-in type with its default options casts a value to is of a canonical form: a trimmed text
in lower case, the canonical text of an identifier or an address, a date or a time in the default
format, an exact number. A value of that form is one that the type takes and that it casts to itself,
so casting reaches the form in one step.
-/

namespace Intake

-- Powers are those of natural numbers, whatever algebra is in scope.
attribute [local instance (high)] instPowNat

/-- One of two readings gives the result. -/
theorem option_orElse_eq_some {α : Type} {first : Option α} {second : Unit → Option α} {result : α}
    (read : first.orElse second = some result) : first = some result ∨ second () = some result := by
  cases first with
  | none => exact .inr read
  | some value => exact .inl read

namespace Document

private theorem isPrintable_of_hexDigit? {c : Char} (digit : (hexDigit? c).isSome) :
    Text.IsPrintable c := by
  refine ⟨?_, (toNat_le_of_hexDigit? digit).trans (by decide)⟩
  rw [hexDigit?] at digit
  split_ifs at digit with decimal lower upper
  · exact Nat.le_trans (by decide : 0x21 ≤ '0'.toNat) decimal.1
  · exact Nat.le_trans (by decide : 0x21 ≤ 'a'.toNat) lower.1
  · exact Nat.le_trans (by decide : 0x21 ≤ 'A'.toNat) upper.1
  · cases digit

end Document

namespace Uuid

theorem IsPart.isPrintable {c : Char} (part : IsPart c) : Text.IsPrintable c := by
  rcases part with digit | rfl
  · exact Document.isPrintable_of_hexDigit? digit
  · decide

end Uuid

namespace Address

private theorem IsPart.isPrintable {c : Char} (part : IsPart c) : Text.IsPrintable c := by
  rcases part with digit | rfl | rfl
  · exact Document.isPrintable_of_hexDigit? digit
  · decide
  · decide

theorem isPrintable_of_mem_chars {address : Address} : ∀ c ∈ address.chars, Text.IsPrintable c :=
  fun c member => (isPart_of_mem_chars c member).isPrintable

end Address

namespace ValueType

/-- The value is one that a built-in type with its default options casts values to. -/
inductive IsCanonical : BuiltinType → Document → Prop
  | text (text : String) : IsCanonical .text (.string text)
  | email {text : String} (valid : Email.isValid text) (lowered : Text.lower text = text) :
    IsCanonical .email (.string text)
  | url {text : String} (trimmed : Text.trim text = text)
    (admitted : (Url.scheme? text).any
      (Reading.admits (Options.texts BuiltinType.url.defaultOptions "schemes"))) :
    IsCanonical .url (.string text)
  | hostname {text : String} (valid : Hostname.isValid text) (lowered : Text.lower text = text) :
    IsCanonical .hostname (.string text)
  | uuid {uuid : Uuid} (sound : uuid.Sound) : IsCanonical .uuid (.string uuid.text)
  | ip {address : Address} (sound : address.Sound) : IsCanonical .ip (.string address.text)
  | date {date : Date} (valid : date.isValid) : IsCanonical .date (.string (.ofList date.isoChars))
  | zoned {zoned : ZonedDateTime} (sound : zoned.Sound) :
    IsCanonical .datetime (.string (.ofList zoned.chars))
  | moment {moment : DateTime} (sound : moment.Sound) :
    IsCanonical .datetime (.string (.ofList moment.chars))
  | time {time : Time} (sound : time.Sound) : IsCanonical .time (.string (.ofList time.clockChars))
  | integer {whole : Int} (fits : fitsSigned whole) : IsCanonical .integer (.ofInt whole)
  | float (number : Binary64) : IsCanonical .float (.number (.real number))
  | boolean (flag : Bool) : IsCanonical .boolean (.bool flag)
  | array (items : List Document) : IsCanonical .array (.array items)
  | object (members : Members) : IsCanonical .object (.object members)

variable {type : BuiltinType} {value result : Document}

theorem layout_date : Layout.ofText (Reading.format .date BuiltinType.date.defaultOptions) = Layout.isoDate := by
  decide

theorem layout_moment :
    Layout.ofText (Reading.format .datetime BuiltinType.datetime.defaultOptions) = Layout.plainMoment := by
  decide

theorem layout_time : Layout.ofText (Reading.format .time BuiltinType.time.defaultOptions) = Layout.clock := by
  decide

private theorem ofReading_eq_ok_iff {read? : Document → Option String} {fault : CastFault} :
    TypeCast.ofReading read? fault value = .ok result ↔
      ∃ text, read? value = some text ∧ result = .string text := by
  rw [TypeCast.ofReading]
  cases read? value <;> simp [eq_comm]

private theorem written_eq_ok_iff {name : String} {chars? : Option (List Char)} :
    written name chars? = .ok result ↔ ∃ chars, chars? = some chars ∧ result = .string (.ofList chars) := by
  cases chars? <;> simp [written, eq_comm]

private theorem fitsSigned_of_wholeNumber? {number : Number} {whole : Int}
    (read : TypeCast.wholeNumber? number = some whole) : fitsSigned whole := by
  rcases option_orElse_eq_some read with exact | rounded
  · cases number with
    | integer whole =>
      rw [Number.toSigned?] at exact
      split_ifs at exact with fits
      cases exact
      exact fits
    | real x => cases exact
  · obtain ⟨x, -, known⟩ := Option.bind_eq_some_iff.mp rounded
    exact (Option.filter_eq_some_iff.mp known).2

private theorem isCanonical_of_integer (casts : TypeCast.integer value = .ok result) :
    IsCanonical .integer result := by
  cases value with
  | number number =>
    rw [TypeCast.integer] at casts
    split at casts
    · next whole read =>
      cases casts
      exact .integer (fitsSigned_of_wholeNumber? read)
    · cases casts
  | string text =>
    rw [TypeCast.integer] at casts
    split at casts
    · next whole read =>
      cases casts
      exact .integer (Text.fitsSigned_of_signed? (by rw [Text.signed?, read]; rfl))
    · cases casts
  | bool flag =>
    cases casts
    exact .integer (by cases flag <;> decide)
  | _ => cases casts

private theorem isCanonical_of_castDate
    (casts : castDate BuiltinType.date.defaultOptions value = .ok result) :
    IsCanonical .date result := by
  unfold castDate at casts
  dsimp only at casts
  split at casts
  · next date read =>
    obtain ⟨chars, rendered, rfl⟩ := written_eq_ok_iff.mp casts
    obtain ⟨text, -, read⟩ := Option.bind_eq_some_iff.mp read
    rw [layout_date, Layout.render?_isoDate] at rendered
    cases rendered
    exact .date (Date.isValid_of_read? read)
  · cases casts

private theorem sound_of_moment?_zoned {options : Members} {zoned : ZonedDateTime}
    (read : Reading.moment? options value = some (.zoned zoned)) : zoned.Sound := by
  obtain ⟨text, -, read⟩ := Option.bind_eq_some_iff.mp read
  split at read
  · next known =>
    cases read
    exact ZonedDateTime.sound_of_read? known
  · obtain ⟨moment, -, different⟩ := Option.map_eq_some_iff.mp read
    cases different

private theorem sound_of_moment?_plain {options : Members} {moment : DateTime}
    (read : Reading.moment? options value = some (.plain moment)) : moment.Sound := by
  obtain ⟨text, -, read⟩ := Option.bind_eq_some_iff.mp read
  split at read
  · cases read
  · obtain ⟨moment, known, same⟩ := Option.map_eq_some_iff.mp read
    cases same
    exact DateTime.sound_of_read? known

private theorem isCanonical_of_castMoment
    (casts : castMoment BuiltinType.datetime.defaultOptions value = .ok result) :
    IsCanonical .datetime result := by
  unfold castMoment at casts
  dsimp only at casts
  split at casts
  · next zoned read =>
    obtain ⟨chars, rendered, rfl⟩ := written_eq_ok_iff.mp casts
    cases rendered
    exact .zoned (sound_of_moment?_zoned read)
  · next moment read =>
    obtain ⟨chars, rendered, rfl⟩ := written_eq_ok_iff.mp casts
    rw [layout_moment, Layout.render?_plainMoment] at rendered
    cases rendered
    exact .moment (sound_of_moment?_plain read)
  · cases casts

private theorem isCanonical_of_castTime
    (casts : castTime BuiltinType.time.defaultOptions value = .ok result) :
    IsCanonical .time result := by
  unfold castTime at casts
  dsimp only at casts
  split at casts
  · next time read =>
    obtain ⟨chars, rendered, rfl⟩ := written_eq_ok_iff.mp casts
    obtain ⟨text, -, read⟩ := Option.bind_eq_some_iff.mp read
    rw [layout_time, Layout.render?_clock] at rendered
    cases rendered
    rcases option_orElse_eq_some read with known | known
    · exact .time (Time.sound_of_read? known)
    · exact .time (Time.sound_of_read? known)
  · cases casts

private theorem isCanonical_of_float
    (casts : TypeCast.float BuiltinType.float.defaultOptions value = .ok result) :
    IsCanonical .float result := by
  unfold TypeCast.float at casts
  dsimp only at casts
  split at casts
  · cases casts
  · split at casts <;> cases casts
    exact .float _

/-- A value is cast to a canonical one. -/
theorem isCanonical_of_castBuiltin (casts : castBuiltin type type.defaultOptions value = .ok result) :
    IsCanonical type result := by
  cases type with
  | text =>
    have casts : TypeCast.text _ value = .ok result := except_mapError_eq_ok.mp casts
    cases value <;> cases casts <;> exact .text _
  | email =>
    obtain ⟨text, read, rfl⟩ := ofReading_eq_ok_iff.mp (except_mapError_eq_ok.mp casts)
    obtain ⟨trimmed, known, rfl⟩ := Option.map_eq_some_iff.mp read
    obtain ⟨-, valid⟩ := Option.filter_eq_some_iff.mp known
    exact .email (Email.isValid_lower valid) (Text.lower_lower _)
  | url =>
    obtain ⟨text, read, rfl⟩ := ofReading_eq_ok_iff.mp (except_mapError_eq_ok.mp casts)
    obtain ⟨trimmed, admitted⟩ := Option.filter_eq_some_iff.mp read
    obtain ⟨given, -, rfl⟩ := Option.map_eq_some_iff.mp trimmed
    exact .url (Text.trim_trim given) admitted
  | hostname =>
    obtain ⟨text, read, rfl⟩ := ofReading_eq_ok_iff.mp (except_mapError_eq_ok.mp casts)
    obtain ⟨name, known, rfl⟩ := Option.map_eq_some_iff.mp read
    obtain ⟨-, valid⟩ := Option.filter_eq_some_iff.mp known
    exact .hostname (Hostname.isValid_lower valid) (Text.lower_lower _)
  | uuid =>
    obtain ⟨text, read, rfl⟩ := ofReading_eq_ok_iff.mp (except_mapError_eq_ok.mp casts)
    obtain ⟨uuid, known, rfl⟩ := Option.map_eq_some_iff.mp read
    obtain ⟨read, -⟩ := Option.filter_eq_some_iff.mp known
    obtain ⟨trimmed, -, read⟩ := Option.bind_eq_some_iff.mp read
    exact .uuid (Uuid.ofChars?_eq_some read).1
  | ip =>
    obtain ⟨text, read, rfl⟩ := ofReading_eq_ok_iff.mp (except_mapError_eq_ok.mp casts)
    obtain ⟨address, known, rfl⟩ := Option.map_eq_some_iff.mp read
    obtain ⟨read, -⟩ := Option.filter_eq_some_iff.mp known
    obtain ⟨trimmed, -, read⟩ := Option.bind_eq_some_iff.mp read
    exact .ip (Address.ofChars?_sound read)
  | date => exact isCanonical_of_castDate casts
  | datetime => exact isCanonical_of_castMoment casts
  | time => exact isCanonical_of_castTime casts
  | integer => exact isCanonical_of_integer (except_mapError_eq_ok.mp casts)
  | float => exact isCanonical_of_float (except_mapError_eq_ok.mp casts)
  | boolean =>
    replace casts := except_mapError_eq_ok.mp casts
    rw [TypeCast.boolean] at casts
    split at casts <;> cases casts
    exact .boolean _
  | array =>
    replace casts := except_mapError_eq_ok.mp casts
    cases value <;> cases casts <;> exact .array _
  | object =>
    replace casts := except_mapError_eq_ok.mp casts
    cases value <;> cases casts <;> exact .object _

private theorem trimmed?_ofList {text : List Char} (trimmed : Text.IsTrimmed text) :
    Reading.trimmed? (.string (.ofList text)) = some (.ofList text) := by
  rw [Reading.trimmed?, Document.string?, Option.map_some, Text.trim_ofList trimmed]

private theorem email?_of_isValid {text : String} (valid : Email.isValid text) :
    Reading.email? (.string text) = some text := by
  have trimmed := trimmed?_ofList (Text.isTrimmed_of_isPrintable (Email.isPrintable_of_mem valid))
  rw [String.ofList_toList] at trimmed
  rw [Reading.email?, trimmed, Option.filter_some, if_pos valid]

private theorem url?_of_admitted {options : Members} {text : String} (trimmed : Text.trim text = text)
    (admitted : (Url.scheme? text).any (Reading.admits (Options.texts options "schemes"))) :
    Reading.url? options (.string text) = some text := by
  rw [Reading.url?, Reading.trimmed?, Document.string?, Option.map_some, trimmed, Option.filter_some,
    if_pos admitted]

private theorem hostname?_of_isValid {text : String} (valid : Hostname.isValid text) :
    Reading.hostname? (.string text) = some text := by
  rw [Reading.hostname?, Document.string?, Option.filter_some, if_pos valid]

private theorem uuid?_text {uuid : Uuid} (sound : uuid.Sound) :
    Reading.uuid? BuiltinType.uuid.defaultOptions (.string uuid.text) = some uuid := by
  have trimmed := trimmed?_ofList
    (Text.isTrimmed_of_isPrintable fun c member => ((Uuid.isPart_of_mem_chars sound).2 c member).isPrintable)
  rw [Reading.uuid?, Uuid.text, trimmed, Option.bind_some, Uuid.ofText?, String.toList_ofList,
    Uuid.ofChars?_chars sound]
  rfl

private theorem address?_text {address : Address} (sound : address.Sound) :
    Reading.address? BuiltinType.ip.defaultOptions (.string address.text) = some address := by
  have trimmed := trimmed?_ofList (Text.isTrimmed_of_isPrintable address.isPrintable_of_mem_chars)
  rw [Reading.address?, Address.text, trimmed, Option.bind_some, Address.ofText?, String.toList_ofList,
    Address.ofChars?_chars sound]
  cases address <;> rfl

private theorem date?_isoChars {date : Date} (valid : date.isValid) :
    Reading.date? BuiltinType.date.defaultOptions (.string (.ofList date.isoChars)) = some date := by
  have trimmed := trimmed?_ofList (Text.isTrimmed_of_isPrintable fun c member =>
    (IsMomentPart.of_isSigned (Date.isSigned_of_mem_isoChars valid c member)).isPrintable)
  rw [Reading.date?, trimmed, Option.bind_some, String.toList_ofList, layout_date,
    Date.read?_isoChars valid]

private theorem moment?_zoned {zoned : ZonedDateTime} (sound : zoned.Sound) :
    Reading.moment? BuiltinType.datetime.defaultOptions (.string (.ofList zoned.chars)) =
      some (.zoned zoned) := by
  have trimmed := trimmed?_ofList (Text.isTrimmed_of_isPrintable fun c member =>
    (ZonedDateTime.isMomentPart_of_mem_chars sound c member).isPrintable)
  rw [Reading.moment?, trimmed, Option.bind_some, String.toList_ofList, ZonedDateTime.read?_chars sound]

private theorem moment?_plain {moment : DateTime} (sound : moment.Sound) :
    Reading.moment? BuiltinType.datetime.defaultOptions (.string (.ofList moment.chars)) =
      some (.plain ⟨moment.date, moment.time.whole⟩) := by
  have read : DateTime.read? Layout.plainMoment moment.chars = some ⟨moment.date, moment.time.whole⟩ :=
    DateTime.read?_chars sound
  rw [Reading.moment?, trimmed?_ofList (DateTime.isTrimmed_chars sound), Option.bind_some,
    String.toList_ofList, DateTime.zoned_read?_chars sound, layout_moment, read]
  rfl

private theorem time?_clockChars {time : Time} (sound : time.Sound) :
    Reading.time? BuiltinType.time.defaultOptions (.string (.ofList time.clockChars)) = some time.whole := by
  have trimmed := trimmed?_ofList (Text.isTrimmed_of_isPrintable fun c member =>
    (Time.isMomentPart_of_mem_clockChars sound c member).isPrintable)
  rw [Reading.time?, trimmed, Option.bind_some, String.toList_ofList, layout_time,
    Time.read?_clockChars sound]
  rfl

private theorem wholeNumber?_of_fitsSigned {whole : Int} (fits : fitsSigned whole) :
    TypeCast.wholeNumber? (.integer whole) = some whole := by
  rw [TypeCast.wholeNumber?, Number.toSigned?, if_pos fits]
  rfl

/-- A type takes its canonical values. -/
theorem IsCanonical.validateBuiltin (canonical : IsCanonical type value) :
    validateBuiltin type type.defaultOptions value := by
  cases canonical with
  | text text => rfl
  | email valid lowered =>
    rw [ValueType.validateBuiltin, email?_of_isValid valid]
    rfl
  | url trimmed admitted =>
    rw [ValueType.validateBuiltin, url?_of_admitted trimmed admitted]
    rfl
  | hostname valid lowered =>
    rw [ValueType.validateBuiltin, hostname?_of_isValid valid]
    rfl
  | uuid sound =>
    rw [ValueType.validateBuiltin, uuid?_text sound]
    rfl
  | ip sound =>
    rw [ValueType.validateBuiltin, address?_text sound]
    rfl
  | date valid =>
    rw [ValueType.validateBuiltin, date?_isoChars valid]
    rfl
  | zoned sound =>
    rw [ValueType.validateBuiltin, moment?_zoned sound]
    rfl
  | moment sound =>
    rw [ValueType.validateBuiltin, moment?_plain sound]
    rfl
  | time sound =>
    rw [ValueType.validateBuiltin, time?_clockChars sound]
    rfl
  | integer fits =>
    rw [ValueType.validateBuiltin, Document.ofInt, isInteger, Number.toSigned?, if_pos fits]
    rfl
  | float number => rfl
  | boolean flag => rfl
  | array items => rfl
  | object members => rfl

/-- A type casts its canonical values to themselves. -/
theorem IsCanonical.castBuiltin (canonical : IsCanonical type value) :
    castBuiltin type type.defaultOptions value = .ok value := by
  cases canonical with
  | text text => rfl
  | email valid lowered =>
    rw [ValueType.castBuiltin, except_mapError_eq_ok, TypeCast.email, ofReading_eq_ok_iff]
    refine ⟨_, ?_, rfl⟩
    rw [email?_of_isValid valid, Option.map_some]
    exact congrArg some lowered
  | url trimmed admitted =>
    rw [ValueType.castBuiltin, except_mapError_eq_ok, ofReading_eq_ok_iff]
    exact ⟨_, url?_of_admitted trimmed admitted, rfl⟩
  | hostname valid lowered =>
    rw [ValueType.castBuiltin, except_mapError_eq_ok, ofReading_eq_ok_iff]
    refine ⟨_, ?_, rfl⟩
    rw [hostname?_of_isValid valid, Option.map_some, lowered]
  | uuid sound =>
    rw [ValueType.castBuiltin, except_mapError_eq_ok, ofReading_eq_ok_iff]
    refine ⟨_, ?_, rfl⟩
    rw [uuid?_text sound, Option.map_some]
  | ip sound =>
    rw [ValueType.castBuiltin, except_mapError_eq_ok, ofReading_eq_ok_iff]
    refine ⟨_, ?_, rfl⟩
    rw [address?_text sound, Option.map_some]
  | date valid =>
    simp only [ValueType.castBuiltin, castDate, date?_isoChars valid, layout_date, Layout.render?_isoDate]
    rfl
  | zoned sound =>
    simp only [ValueType.castBuiltin, castMoment, moment?_zoned sound]
    rfl
  | @moment moment sound =>
    have rendered := Layout.render?_plainMoment ⟨moment.date, moment.time.whole⟩
    rw [DateTime.chars_whole] at rendered
    simp only [ValueType.castBuiltin, castMoment, moment?_plain sound, layout_moment, rendered]
    rfl
  | @time time sound =>
    simp only [ValueType.castBuiltin, castTime, time?_clockChars sound, layout_time, Layout.render?_clock,
      Time.clockChars_whole]
    rfl
  | @integer whole fits =>
    rw [ValueType.castBuiltin, except_mapError_eq_ok, Document.ofInt, TypeCast.integer,
      wholeNumber?_of_fitsSigned fits]
    rfl
  | float number => rfl
  | boolean flag => rfl
  | array items => rfl
  | object members => rfl

private theorem options_ofBuiltin (type : BuiltinType) :
    (ofBuiltin type []).options = type.defaultOptions := by
  cases type <;> rfl

theorem cast_ofBuiltin (type : BuiltinType) (value : Document) :
    (ofBuiltin type []).cast value = castBuiltin type type.defaultOptions value := by
  rw [← options_ofBuiltin]
  rfl

theorem validate_ofBuiltin (type : BuiltinType) (value : Document) :
    (ofBuiltin type []).validate value = validateBuiltin type type.defaultOptions value := by
  rw [← options_ofBuiltin]
  rfl

/-- A built-in type with its default options casts to values that it takes and casts to themselves. -/
theorem cast_cast (casts : (ofBuiltin type []).cast value = .ok result) :
    (ofBuiltin type []).validate result ∧ (ofBuiltin type []).cast result = .ok result := by
  rw [cast_ofBuiltin] at casts ⊢
  rw [validate_ofBuiltin]
  have canonical := isCanonical_of_castBuiltin casts
  exact ⟨canonical.validateBuiltin, canonical.castBuiltin⟩

/-- In a leap second with an offset the fraction is kept, in as many digits as it needs. -/
theorem cast_cast_leap :
    let type := ofBuiltin .datetime []
    type.cast (.string " 1969-12-31t23:59:60.1Z") = .ok (.string "1969-12-31T23:59:60.100+00:00") ∧
      type.validate (.string "1969-12-31T23:59:60.100+00:00") ∧
      type.cast (.string "1969-12-31T23:59:60.100+00:00") =
        .ok (.string "1969-12-31T23:59:60.100+00:00") := by
  let zoned : ZonedDateTime := ⟨⟨⟨1969, 12, 31⟩, ⟨23, 59, 59, 1100000000⟩⟩, 0⟩
  have read : Reading.moment? BuiltinType.datetime.defaultOptions (.string " 1969-12-31t23:59:60.1Z") =
      some (.zoned zoned) := by decide +kernel
  have text : String.ofList zoned.chars = "1969-12-31T23:59:60.100+00:00" := by decide +kernel
  have casts : (ofBuiltin .datetime []).cast (.string " 1969-12-31t23:59:60.1Z") =
      .ok (.string "1969-12-31T23:59:60.100+00:00") := by
    rw [cast_ofBuiltin, ← text]
    simp only [castBuiltin, castMoment, read]
    rfl
  exact ⟨casts, cast_cast casts⟩

end ValueType

end Intake
