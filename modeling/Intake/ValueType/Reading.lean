import Intake.Calendar.ZonedDateTime
import Intake.Format.Address
import Intake.Format.Uuid
import Intake.Text.Lowercase
import Intake.Text.Numeric
import Intake.ValueType.Basic

/-! # Reading values of a type

What a document stands for as a value of a built-in type, with regard to the options of the type.
Texts may have blanks at their ends, except for host names.
-/

namespace Intake.Reading

/-- The text of a document without blanks at its ends. -/
def trimmed? (value : Document) : Option String := value.string?.map Text.trim

/-- A mail address. -/
def email? (value : Document) : Option String := (trimmed? value).filter Email.isValid

/-- The scheme is one of those admitted; no scheme being admitted, all are. -/
def admits (schemes : List String) (scheme : String) : Bool :=
  schemes.isEmpty || schemes.any fun admitted => Text.lowerAscii admitted == Text.lowerAscii scheme

/-- The address of a resource with an admitted scheme. -/
def url? (options : Members) (value : Document) : Option String :=
  (trimmed? value).filter fun text =>
    (Url.scheme? text).any (admits (Options.texts options "schemes"))

/-- A host name. -/
def hostname? (value : Document) : Option String := value.string?.filter Hostname.isValid

/-- An identifier, of a given version if the options ask for one. -/
def uuid? (options : Members) (value : Document) : Option Uuid :=
  ((trimmed? value).bind Uuid.ofText?).filter fun uuid =>
    (Options.count? options "version").all (uuid.version == ·)

/-- The version of addresses that the options ask for admits the address. -/
def admitsAddress (version? : Option String) : Address → Bool
  | .v4 _ => version? != some "6"
  | .v6 _ => version? != some "4"

/-- A network address. -/
def address? (options : Members) (value : Document) : Option Address :=
  ((trimmed? value).bind Address.ofText?).filter
    (admitsAddress (Options.text? options "version"))

/-- The text of the format in which a type of dates and times reads and writes values. -/
def format (type : BuiltinType) (options : Members) : String :=
  (Options.text? options "format").getD type.defaultFormat

/-- A date in the format. -/
def date? (options : Members) (value : Document) : Option Date :=
  (trimmed? value).bind fun text => Date.read? (.ofText (format .date options)) text.toList

/-- A moment as it was written. -/
inductive Moment where
  | zoned (moment : ZonedDateTime)
  | plain (moment : DateTime)
deriving DecidableEq, Repr

/-- A moment with its offset, or else in the format. -/
def moment? (options : Members) (value : Document) : Option Moment :=
  (trimmed? value).bind fun text =>
    match ZonedDateTime.read? text.toList with
    | some moment => some (.zoned moment)
    | none =>
      (DateTime.read? (.ofText (format .datetime options)) text.toList).map Moment.plain

/-- A time of day in the format, or else in hours and minutes. -/
def time? (options : Members) (value : Document) : Option Time :=
  (trimmed? value).bind fun text =>
    (Time.read? (.ofText (format .time options)) text.toList).orElse fun _ =>
      Time.read? Layout.hourMinute text.toList

/-- The truth value of a document: one of its own, or a text that the options list. -/
def truth? (options : Members) : Document → Option Bool
  | .bool value => some value
  | .string text =>
    let word := Text.lower (Text.trim text)
    if (Options.texts options "true_values").contains word then some true
    else if (Options.texts options "false_values").contains word then some false
    else none
  | _ => none

end Intake.Reading
