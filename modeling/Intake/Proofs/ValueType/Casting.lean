import Intake.Proofs.Binary64.Range
import Intake.Proofs.Document.WellFormed
import Intake.ValueType.Casting

/-! # What is taken and yet not cast

A built-in type reads a value in the same way whether it validates or casts it, so a value that it
takes is mostly one that it casts. It is not if the value cannot be written: a date or a time whose
format holds an item that can be read but not written, and a number that leaves the range while it
is rounded to decimal places.
-/

namespace Intake

namespace NumericPart

/-- The part belongs to dates. -/
def isOfDate : NumericPart → Bool
  | .year | .century | .yearOfCentury | .isoYear | .isoYearOfCentury | .quarter | .month | .day
  | .ordinal | .weekFromSunday | .weekFromMonday | .isoWeek | .weekdayFromSunday
  | .weekdayFromMonday => true
  | .hour | .hour12 | .minute | .second | .nanosecond | .timestamp => false

/-- The part belongs to times of day. -/
def isOfTime : NumericPart → Bool
  | .hour | .hour12 | .minute | .second | .nanosecond => true
  | .year | .century | .yearOfCentury | .isoYear | .isoYearOfCentury | .quarter | .month | .day
  | .ordinal | .weekFromSunday | .weekFromMonday | .isoWeek | .weekdayFromSunday
  | .weekdayFromMonday | .timestamp => false

end NumericPart

/-- The item can be written, given that there is a date and that there is a time of day. -/
def LayoutItem.isWritable (date time : Bool) : LayoutItem → Bool
  | .literal _ | .blank _ => true
  | .number .timestamp _ => date && time
  | .number part _ => date && part.isOfDate || time && part.isOfTime
  | .monthName _ | .weekdayName _ => date
  | .half _ | .fraction _ | .bareFraction _ => time
  | .zoneName | .zoneOffset _ | .joint | .zone | .invalid => false

namespace Layout

/-- Every item of the layout can be written. -/
def isWritable (layout : Layout) (date time : Bool) : Bool :=
  layout.all (LayoutItem.isWritable date time)

variable {date? : Option Date} {time? : Option Time}

private theorem isSome_number? (part : NumericPart) (fill : Fill) :
    (number? date? time? part fill).isSome =
      LayoutItem.isWritable date?.isSome time?.isSome (.number part fill) := by
  cases date? <;> cases time? <;> cases part <;> rfl

private theorem isSome_item? (item : LayoutItem) :
    (item? date? time? item).isSome = item.isWritable date?.isSome time?.isSome := by
  cases item with
  | number part fill => exact isSome_number? part fill
  | fraction digits? => cases digits? <;> exact Option.isSome_map
  | monthName full => exact Option.isSome_map
  | weekdayName full => exact Option.isSome_map
  | half lower => exact Option.isSome_map
  | bareFraction digits => exact Option.isSome_map
  | _ => rfl

/-- A layout is written exactly if every item of it can be. -/
theorem isSome_render? (layout : Layout) :
    (layout.render? date? time?).isSome = layout.isWritable date?.isSome time?.isSome := by
  rw [render?, Option.isSome_map]
  induction layout with
  | nil => rfl
  | cons item layout ih =>
    rw [isWritable, List.all_cons, ← isSome_item?, ← isWritable, ← ih, List.mapM_cons]
    cases item? date? time? item <;> cases layout.mapM (item? date? time?) <;> rfl

end Layout

namespace TypeCast

/-- The number that a number or a text stands for. -/
def number? : Document → Option Binary64
  | .number number => number.toBinary64?
  | .string text => Text.number? text
  | _ => none

/-- Scaled up by as many places, the number leaves the range. -/
def Overflows (places : Nat) (number : Binary64) : Prop :=
  ∃ factor ∈ Binary64.ofInt? (10 ^ min places mostPlaces), number.mul? factor = none

private theorem roundedTo?_eq_bind (places : Nat) (number : Binary64) :
    roundedTo? places number = (Binary64.ofInt? (10 ^ min places mostPlaces)).bind fun factor =>
      (number.mul? factor).bind fun scaled => scaled.round?.bind fun rounded => rounded.div? factor := rfl

/-- A power of ten that scales is a number of its own. -/
theorem exists_factor (places : Nat) :
    ∃ factor, Binary64.ofInt? (10 ^ min places mostPlaces) = some factor ∧
      Binary64.unitsPerOne ≤ factor.magnitude := by
  have few : 10 ^ min places mostPlaces ≤ 10 ^ 15 :=
    Nat.pow_le_pow_right (by decide) (Nat.min_le_right _ _)
  have some : 1 ≤ 10 ^ min places mostPlaces := Nat.one_le_pow _ _ (by decide)
  have cast : (10 ^ min places mostPlaces : Int) = (10 ^ min places mostPlaces : Nat) := by norm_num
  rw [cast]
  generalize 10 ^ min places mostPlaces = power at few some ⊢
  obtain ⟨factor, nearest⟩ := Binary64.exists_ofInt? (by omega : (power : Int).natAbs ≤ 2 ^ 64)
  refine ⟨factor, nearest, ?_⟩
  have held := Binary64.units_of_small (by omega) nearest
  have positive : factor.negative = false := by
    rw [(Binary64.ofInt?_eq_some nearest).1, decide_eq_false_iff_not]
    omega
  rw [Binary64.units, positive, if_neg Bool.false_ne_true] at held
  have size : factor.magnitude = power * Binary64.unitsPerOne := by exact_mod_cast held
  rw [size]
  exact Nat.le_mul_of_pos_left _ some

/-- Rounding to decimal places fails only where scaling up leaves the range. -/
theorem roundedTo?_eq_none_iff {places : Nat} {number : Binary64} :
    roundedTo? places number = none ↔ Overflows places number := by
  obtain ⟨factor, nearest, least⟩ := exists_factor places
  rw [roundedTo?_eq_bind, Overflows, nearest, Option.bind_some]
  cases scales : number.mul? factor with
  | none => exact iff_of_true rfl ⟨factor, rfl, scales⟩
  | some scaled =>
    obtain ⟨rounded, rounds⟩ := Option.isSome_iff_exists.mp scaled.round?_isSome
    obtain ⟨result, divides⟩ := Option.isSome_iff_exists.mp (@Binary64.div?_isSome rounded _ least)
    rw [Option.bind_some, rounds, Option.bind_some, divides]
    refine iff_of_false nofun ?_
    rintro ⟨other, same, overflows⟩
    rw [Option.mem_some_iff] at same
    rw [← same, scales] at overflows
    cases overflows

/-- A number is kept as it is or rounded, which may fail. -/
theorem float_eq_elim {options : Members} {value : Document} {number : Binary64}
    (stands : number? value = some number) :
    float options value =
      ((Options.count? options "precision").elim (some number) fun places =>
        roundedTo? places number).elim (.error .notFinite) fun rounded => .ok (.number (.real rounded)) := by
  unfold float
  -- How a number is rounded does not matter here.
  generalize roundedTo? = round
  dsimp only
  split
  · next missing => cases missing.symm.trans stands
  · next read =>
    cases read.symm.trans stands
    cases Options.count? options "precision" with
    | none => rfl
    | some places =>
      rw [Option.elim_some]
      split
      · next fails =>
        rw [show round places number = none from fails]
        rfl
      · next rounds =>
        rw [show round places number = some _ from rounds]
        rfl

end TypeCast

namespace ValueType

/-- Why a value that the type takes is not cast: the format cannot write it, or it leaves the range. -/
def lossOf : BuiltinType → TypeError
  | .float => .castFailed BuiltinType.float.name .notFinite
  | type => .unwritable type.name

/-- The type has no way to write the value. -/
def Loses (options : Members) (value : Document) : BuiltinType → Prop
  | .date => ¬(Layout.ofText (Reading.format .date options)).isWritable true false
  | .datetime =>
    (∃ moment, Reading.moment? options value = some (.plain moment)) ∧
      ¬(Layout.ofText (Reading.format .datetime options)).isWritable true true
  | .time => ¬(Layout.ofText (Reading.format .time options)).isWritable false true
  | .float => ∃ places ∈ Options.count? options "precision", ∃ number ∈ TypeCast.number? value,
      TypeCast.Overflows places number
  | _ => False

variable {options : Members} {value : Document} {error : TypeError}

/-- What a layout writes, or the failure that it cannot. -/
theorem written_render?_eq_error_iff {name : String} {layout : Layout} {date? : Option Date}
    {time? : Option Time} :
    written name (layout.render? date? time?) = .error error ↔
      ¬layout.isWritable date?.isSome time?.isSome ∧ error = .unwritable name := by
  rw [← Layout.isSome_render?]
  cases layout.render? date? time? with
  | none => simp [written, eq_comm]
  | some chars => simp [written]

theorem castDate_eq_error_iff (valid : validateBuiltin .date options value) :
    castDate options value = .error error ↔
      Loses options value .date ∧ error = lossOf .date := by
  obtain ⟨date, read⟩ := Option.isSome_iff_exists.mp valid
  simp only [castDate, read]
  exact written_render?_eq_error_iff

theorem castTime_eq_error_iff (valid : validateBuiltin .time options value) :
    castTime options value = .error error ↔
      Loses options value .time ∧ error = lossOf .time := by
  obtain ⟨time, read⟩ := Option.isSome_iff_exists.mp valid
  simp only [castTime, read]
  exact written_render?_eq_error_iff

/-- A moment with an offset is written in a layout of its own. -/
theorem castMoment_eq_error_iff (valid : validateBuiltin .datetime options value) :
    castMoment options value = .error error ↔
      Loses options value .datetime ∧ error = lossOf .datetime := by
  obtain ⟨moment, read⟩ := Option.isSome_iff_exists.mp valid
  simp only [castMoment, Loses, read]
  cases moment with
  | zoned moment => simp [written]
  | plain moment =>
    simp only [Option.some.injEq, Reading.Moment.plain.injEq, exists_eq', true_and]
    exact written_render?_eq_error_iff

/-- A well-formed number stands for a binary64 number. -/
theorem exists_number? (wellFormed : value.wellFormed) (valid : isNumber value) :
    ∃ number, TypeCast.number? value = some number := by
  cases value with
  | number number =>
    have sound : number.inRange := wellFormed
    cases number with
    | integer whole =>
      obtain ⟨x, nearest⟩ := Binary64.exists_ofInt? (Number.natAbs_le_of_inRange sound)
      exact ⟨x, nearest⟩
    | real x => exact ⟨x, rfl⟩
  | string text => exact Option.isSome_iff_exists.mp valid
  | _ => cases valid

private theorem float_eq_error_iff (wellFormed : value.wellFormed) (valid : isNumber value)
    {fault : CastFault} :
    TypeCast.float options value = .error fault ↔ Loses options value .float ∧ fault = .notFinite := by
  obtain ⟨number, stands⟩ := exists_number? wellFormed valid
  rw [TypeCast.float_eq_elim stands, Loses, stands]
  cases Options.count? options "precision" with
  | none => simp
  | some places =>
    have loses := @TypeCast.roundedTo?_eq_none_iff places number
    rw [Option.elim_some]
    generalize TypeCast.roundedTo? places number = rounded? at loses ⊢
    cases rounded? with
    | none => simp [loses.mp rfl, eq_comm]
    | some rounded =>
      have keeps : ¬TypeCast.Overflows places number := loses.not.mp nofun
      simp [keeps]

theorem castFloat_eq_error_iff (wellFormed : value.wellFormed) (valid : isNumber value) :
    castBuiltin .float options value = .error error ↔
      Loses options value .float ∧ error = lossOf .float := by
  rw [castBuiltin, except_mapError_eq_error]
  constructor
  · rintro ⟨fault, fails, rfl⟩
    obtain ⟨loses, rfl⟩ := (float_eq_error_iff wellFormed valid).mp fails
    exact ⟨loses, rfl⟩
  · rintro ⟨loses, rfl⟩
    exact ⟨.notFinite, (float_eq_error_iff wellFormed valid).mpr ⟨loses, rfl⟩, rfl⟩

private theorem integer_eq_ok (valid : isInteger value) :
    ∃ result, TypeCast.integer value = .ok result := by
  cases value with
  | number number =>
    obtain ⟨whole, fits⟩ := Option.isSome_iff_exists.mp valid
    exact ⟨.ofInt whole, by rw [TypeCast.integer, TypeCast.wholeNumber?, fits]; rfl⟩
  | string text =>
    rw [isInteger, Bool.and_eq_true] at valid
    obtain ⟨whole, read⟩ := Option.isSome_iff_exists.mp valid.2
    rw [Text.signed?] at read
    rw [TypeCast.integer]
    cases parsed : Text.signed (Text.trimChars text.toList) with
    | ok whole => exact ⟨.ofInt whole, rfl⟩
    | error fault =>
      rw [parsed] at read
      cases read
  | _ => cases valid

/-- What is read as a text is cast to it. -/
theorem ofReading_eq_ok {read? : Document → Option String} {fault : CastFault}
    (valid : (read? value).isSome) : ∃ result, TypeCast.ofReading read? fault value = .ok result := by
  obtain ⟨text, read⟩ := Option.isSome_iff_exists.mp valid
  exact ⟨.string text, by rw [TypeCast.ofReading, read]⟩

/-- Except for dates, times and numbers, a type casts every value that it takes. -/
theorem castBuiltin_eq_ok {type : BuiltinType} (valid : validateBuiltin type options value)
    (date : type ≠ .date) (datetime : type ≠ .datetime) (time : type ≠ .time) (float : type ≠ .float) :
    ∃ result, castBuiltin type options value = .ok result := by
  have kept {cast : TypeCast} (casts : ∃ result, cast value = .ok result) :
      ∃ result, (cast value).mapError (TypeError.castFailed type.name) = .ok result := by
    obtain ⟨result, casts⟩ := casts
    exact ⟨result, except_mapError_eq_ok.mpr casts⟩
  cases type with
  | date => exact absurd rfl date
  | datetime => exact absurd rfl datetime
  | time => exact absurd rfl time
  | float => exact absurd rfl float
  | text =>
    obtain ⟨text, read⟩ := Option.isSome_iff_exists.mp valid
    cases value <;> cases read
    exact @kept (TypeCast.text options) ⟨_, rfl⟩
  | email => exact kept (ofReading_eq_ok (Option.isSome_map.trans valid))
  | url => exact kept (ofReading_eq_ok valid)
  | hostname => exact kept (ofReading_eq_ok (Option.isSome_map.trans valid))
  | uuid => exact kept (ofReading_eq_ok (Option.isSome_map.trans valid))
  | ip => exact kept (ofReading_eq_ok (Option.isSome_map.trans valid))
  | integer => exact kept (integer_eq_ok valid)
  | boolean =>
    obtain ⟨flag, read⟩ := Option.isSome_iff_exists.mp valid
    exact kept ⟨.bool flag, by rw [TypeCast.boolean, read]⟩
  | array =>
    obtain ⟨items, read⟩ := Option.isSome_iff_exists.mp valid
    cases value <;> cases read
    exact kept ⟨_, rfl⟩
  | object =>
    obtain ⟨members, read⟩ := Option.isSome_iff_exists.mp valid
    cases value <;> cases read
    exact kept ⟨_, rfl⟩

/-- A value that a built-in type takes is cast unless the type has no way to write it. -/
theorem cast_eq_error_iff {type : BuiltinType} {overrides : Members} (wellFormed : value.wellFormed)
    (valid : (ofBuiltin type overrides).validate value) :
    (ofBuiltin type overrides).cast value = .error error ↔
      Loses (ofBuiltin type overrides).options value type ∧ error = lossOf type := by
  change castBuiltin type (ofBuiltin type overrides).options value = .error error ↔ _
  change validateBuiltin type (ofBuiltin type overrides).options value = true at valid
  generalize (ofBuiltin type overrides).options = options at valid ⊢
  by_cases date : type = .date
  · subst date
    exact castDate_eq_error_iff valid
  by_cases datetime : type = .datetime
  · subst datetime
    exact castMoment_eq_error_iff valid
  by_cases time : type = .time
  · subst time
    exact castTime_eq_error_iff valid
  by_cases float : type = .float
  · subst float
    exact castFloat_eq_error_iff wellFormed valid
  obtain ⟨result, casts⟩ := castBuiltin_eq_ok valid date datetime time float
  have keeps : ¬Loses options value type := by
    cases type <;> first | exact id | contradiction
  rw [casts]
  exact iff_of_false nofun fun loses => keeps loses.1

/-- A date with an hour in its format is read but not written, and the greatest number cannot be
rounded to decimal places. -/
theorem cast_unwritable_date :
    let format : Members := [("format", .string "%Y-%m-%d %H")]
    let precision : Members := [("precision", .ofInt 15)]
    (Document.wellFormed (.string "2024-01-01 10") ∧
      (ofBuiltin .date format).validate (.string "2024-01-01 10") ∧
      (ofBuiltin .date format).cast (.string "2024-01-01 10") = .error (.unwritable "date")) ∧
    Document.wellFormed (.number (.real .greatest)) ∧
      (ofBuiltin .float precision).validate (.number (.real .greatest)) ∧
      (ofBuiltin .float precision).cast (.number (.real .greatest)) =
        .error (.castFailed "float" .notFinite) := by
  intro format precision
  have date : (ofBuiltin .date format).validate (.string "2024-01-01 10") := by decide +kernel
  have float : (ofBuiltin .float precision).validate (.number (.real .greatest)) := by decide
  refine ⟨⟨rfl, date, (cast_eq_error_iff rfl date).mpr ⟨?_, rfl⟩⟩, rfl, float,
    (cast_eq_error_iff rfl float).mpr ⟨⟨15, ?_, .greatest, rfl, ?_⟩, rfl⟩⟩
  · change ¬_
    decide
  · decide
  · obtain ⟨factor, nearest, -⟩ := TypeCast.exists_factor 15
    have overflows : ∀ factor ∈ Binary64.ofInt? (10 ^ min 15 TypeCast.mostPlaces),
        Binary64.greatest.mul? factor = none := by
      decide +kernel
    exact ⟨factor, nearest, overflows factor nearest⟩

end ValueType

end Intake
