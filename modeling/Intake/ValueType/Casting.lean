import Intake.ValueType.Reading

/-! # Casting to a type

A type tells whether it takes a value as its own, and brings a value into its canonical form: a
document of the right shape, with texts trimmed, in lower case or written anew where the type says
so. Casting may take more values than the type has.
-/

namespace Intake

-- Powers are those of natural numbers, whatever algebra is in scope.
attribute [local instance (high)] instPowNat

/-- How a value is cast, which may fail for a reason that the type is to be told with. -/
abbrev TypeCast := Document → Except CastFault Document

namespace TypeCast

/-- To a text: scalars are written out, and null is the empty text. -/
def text (options : Members) : TypeCast := fun value => do
  let text ← match value with
    | .string text => pure text
    | .number number => pure number.text
    | .bool flag => pure (if flag then "true" else "false")
    | .null => pure ""
    | .array _ | .object _ => throw (.notText value.shape)
  return .string (if Options.flag options "trim" false then Text.trim text else text)

/-- To a string that was read from the value. -/
def ofReading (read? : Document → Option String) (fault : CastFault) : TypeCast := fun value =>
  match read? value with
  | some text => .ok (.string text)
  | none => .error fault

/-- To a mail address, in lower case unless the options say otherwise. -/
def email (options : Members) : TypeCast :=
  ofReading
    (fun value => (Reading.email? value).map fun text =>
      if Options.flag options "lowercase" true then Text.lower text else text)
    .notAnEmail

/-- The integer of a number that has one in a signed 64-bit word. -/
def wholeNumber? (number : Number) : Option Int :=
  number.toSigned?.orElse fun _ => number.toBinary64?.bind Binary64.toSigned?

/-- To an integer of a signed 64-bit word. -/
def integer : TypeCast
  | .number number =>
    match wholeNumber? number with
    | some value => .ok (.ofInt value)
    | none => .error (.notWhole number)
  | .string text =>
    match Text.signed (Text.trimChars text.toList) with
    | .ok value => .ok (.ofInt value)
    | .error fault => .error (.badInteger fault)
  | .bool flag => .ok (.ofInt (if flag then 1 else 0))
  | value => .error (.notAnInteger value.shape)

/-- The most decimal places to which a number is rounded. -/
def mostPlaces : Nat := 15

/-- A number rounded to decimal places, by scaling it up, rounding it and scaling it down. -/
def roundedTo? (places : Nat) (number : Binary64) : Option Binary64 := do
  let factor ← Binary64.ofInt? (10 ^ min places mostPlaces)
  let scaled ← number.mul? factor
  (← scaled.round?).div? factor

/-- To a binary64 number, rounded if the options ask for it. -/
def float (options : Members) : TypeCast := fun value => do
  let number? := match value with
    | .number number => number.toBinary64?
    | .string text => Text.number? text
    | _ => none
  match number? with
  | none => throw (.notANumber value.shape)
  | some number =>
    let rounded? := match Options.count? options "precision" with
      | some places => roundedTo? places number
      | none => some number
    match rounded? with
    | none => throw .notFinite
    | some rounded => return .number (.real rounded)

/-- To a truth value. -/
def boolean (options : Members) : TypeCast := fun value =>
  match Reading.truth? options value with
  | some flag => .ok (.bool flag)
  | none => .error (.notABoolean value.shape)

/-- To a list: null is the empty one, and a scalar one of a single item if the options allow. -/
def array (options : Members) : TypeCast
  | .array items => .ok (.array items)
  | .null => .ok (.array [])
  | .object _ => .error (.notAList .object)
  | scalar =>
    if Options.flag options "wrap_scalars" true then .ok (.array [scalar])
    else .error (.notAList scalar.shape)

/-- To an object: null is the empty one. -/
def object : TypeCast
  | .object members => .ok (.object members)
  | .null => .ok (.object [])
  | value => .error (.notAnObject value.shape)

end TypeCast

namespace ValueType

/-- A document whose characters could be written, of a type with the given name. -/
def written (name : String) (chars? : Option (List Char)) : Except TypeError Document :=
  match chars? with
  | some chars => .ok (.string (String.ofList chars))
  | none => .error (.unwritable name)

/-- To a date in the format. -/
def castDate (options : Members) (value : Document) : Except TypeError Document :=
  let format := Reading.format .date options
  match Reading.date? options value with
  | some date => written BuiltinType.date.name ((Layout.ofText format).render? (some date) none)
  | none => .error (.castFailed BuiltinType.date.name (.notInDateFormat format))

/-- To a moment: one with an offset stays one, any other is written in the format. -/
def castMoment (options : Members) (value : Document) : Except TypeError Document :=
  let format := Reading.format .datetime options
  match Reading.moment? options value with
  | some (.zoned moment) => written BuiltinType.datetime.name (some moment.chars)
  | some (.plain moment) =>
    written BuiltinType.datetime.name
      ((Layout.ofText format).render? (some moment.date) (some moment.time))
  | none => .error (.castFailed BuiltinType.datetime.name .notADateTime)

/-- To a time of day in the format. -/
def castTime (options : Members) (value : Document) : Except TypeError Document :=
  let format := Reading.format .time options
  match Reading.time? options value with
  | some time => written BuiltinType.time.name ((Layout.ofText format).render? none (some time))
  | none => .error (.castFailed BuiltinType.time.name .notATime)

/-- Casts a value to a built-in type. -/
def castBuiltin (type : BuiltinType) (options : Members) (value : Document) :
    Except TypeError Document :=
  let by_ (cast : TypeCast) := (cast value).mapError (.castFailed type.name)
  match type with
  | .text => by_ (TypeCast.text options)
  | .email => by_ (TypeCast.email options)
  | .url => by_ (TypeCast.ofReading (Reading.url? options) .notAUrl)
  | .hostname =>
    by_ (TypeCast.ofReading (fun value => (Reading.hostname? value).map Text.lower) .notAHostname)
  | .uuid =>
    by_ (TypeCast.ofReading (fun value => (Reading.uuid? options value).map Uuid.text) .notAUuid)
  | .ip =>
    by_ (TypeCast.ofReading (fun value => (Reading.address? options value).map Address.text)
      .notAnAddress)
  | .date => castDate options value
  | .datetime => castMoment options value
  | .time => castTime options value
  | .integer => by_ TypeCast.integer
  | .float => by_ (TypeCast.float options)
  | .boolean => by_ (TypeCast.boolean options)
  | .array => by_ (TypeCast.array options)
  | .object => by_ TypeCast.object

/-- Brings a value into the canonical form of the type. -/
def cast (type : ValueType) (value : Document) : Except TypeError Document :=
  match type.definition with
  | .builtin builtin => castBuiltin builtin type.options value
  | .pattern name _ pattern _ =>
    if value.string?.any pattern.isFoundIn then .ok value
    else .error (.castFailed name .patternMismatch)

/-- The document is an integer of a signed 64-bit word or a run of digits that denotes one. -/
def isInteger : Document → Bool
  | .number number => number.toSigned?.isSome
  | .string text =>
    let digits := Text.trimChars text.toList
    Text.isDigitRun digits && (Text.signed? digits).isSome
  | _ => false

/-- The document is a number, or a text that denotes one. -/
def isNumber : Document → Bool
  | .number _ => true
  | .string text => (Text.number? text).isSome
  | _ => false

/-- A built-in type takes the value as its own. -/
def validateBuiltin (type : BuiltinType) (options : Members) (value : Document) : Bool :=
  match type with
  | .text => value.string?.isSome
  | .email => (Reading.email? value).isSome
  | .url => (Reading.url? options value).isSome
  | .hostname => (Reading.hostname? value).isSome
  | .uuid => (Reading.uuid? options value).isSome
  | .ip => (Reading.address? options value).isSome
  | .date => (Reading.date? options value).isSome
  | .datetime => (Reading.moment? options value).isSome
  | .time => (Reading.time? options value).isSome
  | .integer => isInteger value
  | .float => isNumber value
  | .boolean => (Reading.truth? options value).isSome
  | .array => value.items?.isSome
  | .object => value.members?.isSome

/-- The type takes the value as its own. -/
def validate (type : ValueType) (value : Document) : Bool :=
  match type.definition with
  | .builtin builtin => validateBuiltin builtin type.options value
  | .pattern _ _ pattern _ => value.string?.any pattern.isFoundIn

end ValueType

end Intake
