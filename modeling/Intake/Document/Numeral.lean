import Intake.Document.Number

/-! # Number literals

A literal is an optional minus sign, a whole part without leading zeros, and optionally a fraction
and a power of ten. Without the last two it is an integer if it fits in 64 bits; minus zero is not
an integer. Everything else is a binary64 number: the leading digits, as many as fit in an unsigned
64-bit word, are rounded once as a whole number and once more when scaled by the power of ten.
-/

namespace Intake

-- Powers are those of natural numbers, whatever algebra is in scope.
attribute [local instance (high)] instPowNat

/-- The characters of a number literal, split into its parts. -/
structure Numeral where
  negative : Bool
  whole : List Char
  fraction : List Char
  /-- The power of ten as written, none if there is no exponent. -/
  power? : Option Int
deriving Repr

/-- The value of a decimal digit. -/
def digitValue (c : Char) : Nat := c.toNat - '0'.toNat

/-- The value of a run of decimal digits. -/
def digitsValue (digits : List Char) : Nat :=
  digits.foldl (fun value c => value * 10 + digitValue c) 0

namespace Numeral

/-- Appends digits to a whole number while it stays below `2 ^ 64`; returns the number and how many
digits it took. -/
def absorb (value : Nat) : List Char → Nat × Nat
  | [] => (value, 0)
  | digit :: digits =>
    let next := value * 10 + digitValue digit
    if next < 2 ^ (64 : Nat) then
      let (total, taken) := absorb next digits
      (total, taken + 1)
    else (value, 0)

/-- A number times a power of ten, with the power rounded before the product is. -/
def scale? (x : Binary64) (power : Int) : Option Binary64 :=
  let quotient (y : Binary64) (places : Int) : Option Binary64 :=
    (Binary64.ofDecimal? false 1 places).bind y.div?
  if x.rank = 0 then some x
  else if 308 < power then none
  else if 0 ≤ power then (Binary64.ofDecimal? false 1 power).bind x.mul?
  else
    let places := -power
    if places ≤ 308 then quotient x places
    else if places ≤ 616 then (quotient x 308).bind fun y => quotient y (places - 308)
    else some { (0 : Binary64) with negative := x.negative }

/-- The integer that a literal without fraction and power denotes. -/
def integer? (numeral : Numeral) : Option Int :=
  let value := digitsValue numeral.whole
  if !numeral.fraction.isEmpty || numeral.power?.isSome then none
  else if numeral.negative then
    if 0 < value ∧ value ≤ 2 ^ (63 : Nat) then some (-value) else none
  else if value < 2 ^ (64 : Nat) then some value else none

/-- The binary64 number that a literal denotes. -/
def real? (numeral : Numeral) : Option Binary64 :=
  let (leading, wholeTaken) := absorb 0 numeral.whole
  let (significand, fractionTaken) := absorb leading numeral.fraction
  let shift : Int := (numeral.whole.length - wholeTaken : Nat) - (fractionTaken : Int)
  (Binary64.nearest? numeral.negative (significand * Binary64.unitsPerOne) 1).bind fun x =>
    scale? x (shift + numeral.power?.getD 0)

/-- The number that a literal denotes; none if it is out of range. -/
def number? (numeral : Numeral) : Option Number :=
  match numeral.integer? with
  | some value => some (.integer value)
  | none => numeral.real?.map .real

/-- Splits a run of digits off the front of the text. -/
def digits (text : List Char) : List Char × List Char :=
  (text.takeWhile Char.isDigit, text.dropWhile Char.isDigit)

/-- Splits an optional fraction off the front of the text; a point needs digits after it. -/
def fractionPart? : List Char → Option (List Char × List Char)
  | '.' :: rest =>
    let (fraction, rest) := digits rest
    if fraction.isEmpty then none else some (fraction, rest)
  | rest => some ([], rest)

/-- Splits the digits of an exponent off the front of the text. -/
def exponentDigits? (negative : Bool) (text : List Char) : Option (Option Int × List Char) :=
  let (exponent, rest) := digits text
  if exponent.isEmpty then none
  else
    let value : Int := digitsValue exponent
    some (some (if negative then -value else value), rest)

/-- Splits an optional power of ten off the front of the text. -/
def powerPart? : List Char → Option (Option Int × List Char)
  | 'e' :: '-' :: rest => exponentDigits? true rest
  | 'E' :: '-' :: rest => exponentDigits? true rest
  | 'e' :: '+' :: rest => exponentDigits? false rest
  | 'E' :: '+' :: rest => exponentDigits? false rest
  | 'e' :: rest => exponentDigits? false rest
  | 'E' :: rest => exponentDigits? false rest
  | rest => some (none, rest)

/-- Splits a literal off the front of the text. -/
def split? (text : List Char) : Option (Numeral × List Char) := do
  let (negative, rest) := match text with
    | '-' :: rest => (true, rest)
    | rest => (false, rest)
  let (whole, rest) := digits rest
  if whole.isEmpty || (whole.head? == some '0' && whole.length != 1) then none
  let (fraction, rest) ← fractionPart? rest
  let (power?, rest) ← powerPart? rest
  some (⟨negative, whole, fraction, power?⟩, rest)

end Numeral

end Intake
