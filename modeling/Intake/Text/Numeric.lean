import Intake.Document.Numeral
import Intake.Text.Blank

/-! # Numbers written as text

Three readings of a text: as an integer of a 64-bit word, digit by digit and stopping at the first
fault; as a decimal number; and as a mere run of digits. Only the decimal reading drops blanks at
the ends.
-/

namespace Intake.Text

-- Powers are those of natural numbers, whatever algebra is in scope.
attribute [local instance (high)] instPowNat

/-- Why a text is not an integer of the word size asked for. -/
inductive IntegerFault where
  | empty
  | notADigit
  | tooLarge
  | tooSmall
deriving DecidableEq, Repr

/-- The explanation of a fault. -/
def IntegerFault.message : IntegerFault → String
  | .empty => "cannot parse integer from empty string"
  | .notADigit => "invalid digit found in string"
  | .tooLarge => "number too large to fit in target type"
  | .tooSmall => "number too small to fit in target type"

/-- Appends decimal digits to a magnitude that may not exceed `limit`. -/
def magnitudeWithin (limit : Nat) (beyond : IntegerFault) :
    Nat → List Char → Except IntegerFault Nat
  | value, [] => .ok value
  | value, c :: rest =>
    if !c.isDigit then .error .notADigit
    else if limit < value * 10 + digitValue c then .error beyond
    else magnitudeWithin limit beyond (value * 10 + digitValue c) rest

/-- Reads a signed 64-bit integer; either sign may be written. -/
def signed (text : List Char) : Except IntegerFault Int :=
  match text with
  | [] => .error .empty
  | ['+'] => .error .notADigit
  | ['-'] => .error .notADigit
  | '+' :: digits => (magnitudeWithin (2 ^ (63 : Nat) - 1) .tooLarge 0 digits).map (↑·)
  | '-' :: digits => (magnitudeWithin (2 ^ (63 : Nat)) .tooSmall 0 digits).map (-↑·)
  | digits => (magnitudeWithin (2 ^ (63 : Nat) - 1) .tooLarge 0 digits).map (↑·)

/-- Reads an unsigned 64-bit integer; a plus sign may be written. -/
def unsigned (text : List Char) : Except IntegerFault Nat :=
  match text with
  | [] => .error .empty
  | ['+'] => .error .notADigit
  | '+' :: digits => magnitudeWithin (2 ^ (64 : Nat) - 1) .tooLarge 0 digits
  | digits => magnitudeWithin (2 ^ (64 : Nat) - 1) .tooLarge 0 digits

/-- The signed 64-bit integer that a text denotes. -/
def signed? (text : List Char) : Option Int := (signed text).toOption

/-- The unsigned 64-bit integer that a text denotes. -/
def unsigned? (text : List Char) : Option Nat := (unsigned text).toOption

/-- One sign at most, and then at least one decimal digit and nothing else. -/
def isDigitRun (text : List Char) : Bool :=
  let digits := match text with
    | '+' :: rest => rest
    | '-' :: rest => rest
    | _ => text
  !digits.isEmpty && digits.all Char.isDigit

/-- Splits an optional sign off the front of the text. -/
def signPart : List Char → Bool × List Char
  | '+' :: rest => (false, rest)
  | '-' :: rest => (true, rest)
  | rest => (false, rest)

/-- The power of ten that makes up the rest of a decimal, zero if nothing is left. -/
def power? : List Char → Option Int
  | [] => some 0
  | 'e' :: rest => exponent? rest
  | 'E' :: rest => exponent? rest
  | _ => none
where
  /-- A sign at most, and at least one digit. -/
  exponent? (text : List Char) : Option Int :=
    let (negative, digits) := signPart text
    if digits.isEmpty || !digits.all Char.isDigit then none
    else some (if negative then -digitsValue digits else digitsValue digits)

/-- Reads a decimal: a sign at most, digits with or without a point among, before or after them,
and a power of ten at most. A value beyond the largest finite one is refused. -/
def decimal? (text : List Char) : Option Binary64 := do
  let (negative, rest) := signPart text
  let (whole, rest) := Numeral.digits rest
  let (fraction, rest) := match rest with
    | '.' :: rest => Numeral.digits rest
    | rest => ([], rest)
  if whole.isEmpty && fraction.isEmpty then none
  let power ← power? rest
  Binary64.ofDecimal? negative (digitsValue (whole ++ fraction)) (power - fraction.length)

/-- Reads a decimal with blanks at its ends. -/
def number? (text : String) : Option Binary64 :=
  decimal? (trimChars text.toList)

end Intake.Text
