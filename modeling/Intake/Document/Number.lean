import Intake.Binary64.Shortest

/-! # Numbers of a document

A number is an integer or a finite binary64 number, and the two kinds stay apart: `1` and `1.0` are
different numbers. Integers lie between `-2 ^ 63` and `2 ^ 64 - 1`.
-/

namespace Intake

-- Powers are those of natural numbers, whatever algebra is in scope.
attribute [local instance (high)] instPowNat

/-- A number of a document. -/
inductive Number where
  | integer (value : Int)
  | real (value : Binary64)
deriving DecidableEq, Repr

/-- The integer is one of a signed 64-bit word. -/
def fitsSigned (value : Int) : Bool := -2 ^ (63 : Nat) ≤ value && value < 2 ^ (63 : Nat)

/-- The integer is one of an unsigned 64-bit word. -/
def fitsUnsigned (value : Int) : Bool := 0 ≤ value && value < 2 ^ (64 : Nat)

namespace Number

/-- Numbers are written positionally between `1e-5` and `1e15` and with a signed exponent beyond. -/
def layout : Binary64.Layout where
  leastPositional := -5
  greatestPositional := 15
  signedExponent := true

/-- The decimal text of an integer. -/
def integerChars (value : Int) : List Char :=
  if value < 0 then '-' :: Nat.toDigits 10 value.natAbs else Nat.toDigits 10 value.natAbs

/-- The text of a number. -/
def chars : Number → List Char
  | .integer value => integerChars value
  | .real value => value.render layout

/-- The text of a number. -/
def text (number : Number) : String := String.ofList number.chars

/-- The nearest binary64 number. -/
def toBinary64? : Number → Option Binary64
  | .integer value => Binary64.ofInt? value
  | .real value => some value

/-- The number as a signed 64-bit integer, which no binary64 number is. -/
def toSigned? : Number → Option Int
  | .integer value => if fitsSigned value then some value else none
  | .real _ => none

/-- The number as an unsigned 64-bit integer, which no binary64 number is. -/
def toUnsigned? : Number → Option Nat
  | .integer value => if fitsUnsigned value then some value.toNat else none
  | .real _ => none

/-- Numbers of one kind are compared by value; numbers of different kinds differ. -/
def same : Number → Number → Bool
  | .integer left, .integer right => left == right
  | .real left, .real right => left.sameValue right
  | _, _ => false

end Number

/-- The integer that a binary64 number denotes, if it has no fractional part and is one of a signed
64-bit word. -/
def Binary64.toSigned? (x : Binary64) : Option Int :=
  x.toInt?.filter fitsSigned

end Intake
