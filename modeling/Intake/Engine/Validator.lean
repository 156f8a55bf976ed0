import Intake.Document.Reader
import Intake.Document.Writer
import Intake.Engine.Cast
import Intake.Format.Address
import Intake.Format.Base64
import Intake.Format.Email
import Intake.Format.Url
import Intake.Format.Uuid
import Intake.Rule.Record

/-! # Validators

A validator looks at a value and at the argument of its token. It passes the value, complains about
it, or finds that its argument is of no use. An argument is looked at before the value.
-/

namespace Intake

/-- The outcome of a validator: a fault of its token, or perhaps a complaint. -/
abbrev Verdict := Except RuleFault (Option Complaint)

/-- How a value is validated, given the argument of the token. -/
abbrev Validator := Option String → Document → Verdict

namespace Validator

/-- Complains unless the value passes. -/
def complainUnless (passes : Bool) (complaint : Complaint) : Option Complaint :=
  if passes then none else some complaint

/-- A validator without an argument. -/
def plain (passes : Document → Bool) (complaint : Complaint) : Validator :=
  fun _ value => .ok (complainUnless (passes value) complaint)

/-- A validator of strings. -/
def ofString (passes : String → Bool) (complaint : Complaint) : Validator :=
  plain (fun value => value.string?.any passes) complaint

/-- The argument that a rule needs. -/
def argument (rule : String) (argument? : Option String) : Except RuleFault String :=
  match argument? with
  | some argument => .ok argument
  | none => .error (.missingArgument rule)

/-- The count that a rule needs. -/
def countArgument (rule : String) (argument? : Option String) : Except RuleFault Nat := do
  let argument ← argument rule argument?
  match Text.unsigned? (Text.trimChars argument.toList) with
  | some count => return count
  | none => throw (.notACount rule argument)

/-- The number that a rule needs, with its text. -/
def numberArgument (rule : String) (argument? : Option String) :
    Except RuleFault (String × Binary64) := do
  let argument ← argument rule argument?
  match Text.number? argument with
  | some number => return (argument, number)
  | none => throw (.notANumber rule argument)

/-- The text of a scalar value other than null. -/
def scalarText? : Document → Option String
  | .string value => some value
  | .number value => some value.text
  | .bool value => some (Cast.boolText value)
  | _ => none

/-- The number that a number or a string stands for. -/
def number? : Document → Option Binary64
  | .number value => value.toBinary64?
  | .string text => Text.number? text
  | _ => none

/-- The value is there: not null, blank or without parts. -/
def isPresent : Document → Bool
  | .null => false
  | .string text => !Text.isBlankText text
  | .array items => !items.isEmpty
  | .object members => !members.isEmpty
  | .bool _ => true
  | .number _ => true

/-- A limit on the number of characters of a scalar; other values pass. -/
def length (rule : String) (fits : Nat → Nat → Bool) (complaint : Nat → Complaint) : Validator :=
  fun argument? value => do
    let limit ← countArgument rule argument?
    return (scalarText? value).bind fun text => complainUnless (fits text.length limit) (complaint limit)

/-- A limit on the number of items of a list. -/
def itemCount (rule : String) (fits : Nat → Nat → Bool) (complaint : Nat → Complaint) :
    Validator :=
  fun argument? value => do
    let limit ← countArgument rule argument?
    match value.items? with
    | some items => return complainUnless (fits items.length limit) (complaint limit)
    | none => return some .notAnArray

/-- A date or a time in a letter format. -/
def dateFormat : Validator := fun argument? value => do
  let format ← argument "date_format" argument?
  match LetterFormat.ofText format with
  | .error fault => throw (.badDateFormat format fault)
  | .ok letters => return complainUnless (value.string?.any letters.matchesText) (.notInFormat format)

/-- A scalar in whose text a pattern is found. -/
def pattern : Validator := fun argument? value => do
  let source ← argument "regex" argument?
  match Pattern.ofText source with
  | .error error => throw (.badPattern source error)
  | .ok pattern => return complainUnless ((scalarText? value).any pattern.isFoundIn) .notMatching

/-- The members of a list of choices. -/
def choices (list : String) : List String := (Record.read list.toList).map String.ofList

/-- The value is one of the choices: a number by value, any other scalar by its text. -/
def isAmong (choices : List String) (value : Document) : Bool :=
  match value with
  | .number number =>
    number.toBinary64?.any fun number =>
      choices.any fun choice => (Text.number? choice).any number.sameValue
  | value => (scalarText? value).any choices.contains

/-- A scalar that is one of a list. -/
def choice : Validator := fun argument? value => do
  let choices := choices (← argument "in" argument?)
  return complainUnless (isAmong choices value) (.notAmong choices)

/-- The value is an integer, or a string that is a run of digits. -/
def isInteger : Document → Bool
  | .number (.integer _) => true
  | .string text => Text.isDigitRun text.toList
  | _ => false

/-- A bound on a number. -/
def bound (relation : Relation) : Validator := fun argument? value => do
  let (shown, bound) ← numberArgument relation.ruleName argument?
  match number? value with
  | some number => return complainUnless (relation.holds number bound) (.outOfBounds relation shown)
  | none => return some .notANumber

/-- How far from a whole number a quotient may be, `1e-9`. -/
def tolerance : Binary64 := (Binary64.ofDecimal? false 1 (-9)).getD 0

/-- The quotient of two numbers is as good as whole. -/
def isMultiple (number step : Binary64) : Bool :=
  (number.div? step).any fun ratio => ratio.distanceToWhole < tolerance.magnitude

/-- A multiple of a positive number. -/
def multiple : Validator := fun argument? value => do
  let (shown, step) ← numberArgument "multiple_of" argument?
  if step ≤ 0 then throw .stepNotPositive
  match number? value with
  | some number => return complainUnless (isMultiple number step) (.notAMultiple shown)
  | none => return some .notANumber

/-- A list without two items of one text. -/
def unique : Validator := fun _ value =>
  match value.items? with
  | some items => .ok (complainUnless (items.map Document.text).Nodup .duplicateItems)
  | none => .ok (some .notAnArray)

/-- The value is an uploaded file: an object with a name and a size that is not negative. -/
def isFile (value : Document) : Bool :=
  ((value.get? "name").bind Document.string?).isSome
    && (((value.get? "size").bind Document.number?).bind Number.toBinary64?).any fun size =>
      0 ≤ size

/-- The value is an uploaded image: a file whose media type says so. -/
def isImage (value : Document) : Bool :=
  let mediaType? := (value.get? "mime").orElse fun _ => value.get? "type"
  isFile value && (mediaType?.bind Document.string?).any fun mediaType =>
    "image/".toList.isPrefixOf mediaType.toList

/-- All validators by name. -/
def all : List (String × Validator) := [
  ("required", plain isPresent .missing),
  ("min_length", length "min_length" (fun length least => least ≤ length) .tooShort),
  ("max_length", length "max_length" (fun length most => length ≤ most) .tooLong),
  ("email", ofString Email.isValid .notAnEmail),
  ("url", ofString Url.isValid .notAUrl),
  ("date_format", dateFormat),
  ("regex", pattern),
  ("hostname", ofString Hostname.isValid .notAHostname),
  ("ip", ofString (fun text => (Address.ofText? text).isSome) .notAnAddress),
  ("uuid", ofString (fun text => (Uuid.ofText? text).isSome) .notAUuid),
  ("base64", ofString (fun text => Base64.isValid text.toList) .notBase64),
  ("json", ofString (fun text => (Document.ofText? text).isSome) .notADocument),
  ("string", plain (fun value => value.string?.isSome) .notAString),
  ("in", choice),
  ("int", plain isInteger .notAnInteger),
  ("numeric", plain (fun value => (number? value).isSome) .notANumber),
  ("gte", bound .atLeast),
  ("lte", bound .atMost),
  ("gt", bound .above),
  ("lt", bound .below),
  ("multiple_of", multiple),
  ("min_items", itemCount "min_items" (fun count least => least ≤ count) .tooFewItems),
  ("max_items", itemCount "max_items" (fun count most => count ≤ most) .tooManyItems),
  ("unique", unique),
  ("file", plain isFile .notAFile),
  ("image", plain isImage .notAnImage)]

/-- The validator of a name. -/
def find? (name : String) : Option Validator :=
  (all.find? fun entry => entry.1 == name).map (·.2)

end Validator

end Intake
