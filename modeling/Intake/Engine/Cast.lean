import Intake.Document.Basic
import Intake.Engine.Failure
import Intake.Text.Lowercase
import Intake.Text.Numeric

/-! # Casts

A cast brings a value into the form of a kind. Null stays null, and for all kinds but strings so
becomes a blank text, so that an optional input left empty is no fault.
-/

namespace Intake.Cast

/-- How a value is cast. -/
abbrev Rule := Document → Except Complaint Document

/-- The text of a truth value. -/
def boolText (value : Bool) : String := if value then "true" else "false"

/-- The value counts as absent for a kind other than strings. -/
def isBlank : Document → Bool
  | .null => true
  | .string text => Text.isBlankText text
  | _ => false

/-- To a string: numbers and truth values are written out. -/
def string : Rule
  | .null => .ok .null
  | .string value => .ok (.string value)
  | .number value => .ok (.string value.text)
  | .bool value => .ok (.string (boolText value))
  | .array _ => .error .notAString
  | .object _ => .error .notAString

/-- The integer that a text denotes: written as one, or as a decimal of whole value. -/
def textInteger? (text : String) : Option Int :=
  (Text.signed? (Text.trimChars text.toList)).orElse fun _ =>
    (Text.number? text).bind Binary64.toSigned?

/-- The integer that a value that is not blank stands for. -/
def integer? : Document → Option Int
  | .number (.integer value) => some value
  | .number (.real value) => value.toSigned?
  | .string text => textInteger? text
  | .bool value => some (if value then 1 else 0)
  | _ => none

/-- To an integer: numbers of whole value, texts that denote one, and truth values as 0 and 1. -/
def integer : Rule := fun value =>
  if isBlank value then .ok .null
  else
    match integer? value with
    | some result => .ok (.ofInt result)
    | none => .error .notAnInteger

/-- The binary64 number that a value that is not blank stands for. -/
def real? : Document → Option Binary64
  | .number value => value.toBinary64?
  | .string text => Text.number? text
  | .bool value => some (if value then .one else 0)
  | _ => none

/-- To a binary64 number: numbers, texts that denote one, and truth values as 0 and 1. -/
def real : Rule := fun value =>
  if isBlank value then .ok .null
  else
    match real? value with
    | some result => .ok (.number (.real result))
    | none => .error .notANumber

/-- The texts that mean true. -/
def trueWords : List String := ["true", "1", "yes", "on"]

/-- The texts that mean false. -/
def falseWords : List String := ["false", "0", "no", "off"]

/-- The truth value that a text means, blanks around it and the case of its letters aside. -/
def textTruth? (text : String) : Option Bool :=
  let word := Text.lowerAscii (Text.trim text)
  if trueWords.contains word then some true
  else if falseWords.contains word then some false
  else none

/-- The truth value that a value that is not blank stands for. -/
def truth? : Document → Option Bool
  | .bool value => some value
  | .number (.integer value) =>
    if value = 1 then some true else if value = 0 then some false else none
  | .string text => textTruth? text
  | _ => none

/-- To a truth value: the integers 0 and 1, and the usual words. -/
def truth : Rule := fun value =>
  if isBlank value then .ok .null
  else
    match truth? value with
    | some result => .ok (.bool result)
    | none => .error .notATruthValue

/-- All casts by name. -/
def all : List (String × Rule) :=
  [("string", string), ("integer", integer), ("float", real), ("boolean", truth)]

/-- The cast of a name. -/
def find? (name : String) : Option Rule := (all.find? fun entry => entry.1 == name).map (·.2)

end Intake.Cast
