import Intake.Binary64.Basic

/-! # The fewest decimal digits that identify a number

The values that round to a magnitude form an interval that reaches halfway to its two neighbours;
the ends belong to it exactly when its rank is even. The text of a magnitude is the shortest
decimal in that interval, and of several equally short ones the nearest, an exact tie going to the
even digit. Its layout is a separate decision, a `Layout`.
-/

namespace Intake

-- Powers are those of natural numbers, whatever algebra is in scope.
attribute [local instance (high)] instPowNat

namespace Binary64

/-- A decimal magnitude: `digits * 10 ^ exponent`. -/
structure Decimal where
  digits : Nat
  exponent : Int
deriving DecidableEq, Repr

/-- Twice the lower end of the interval that rounds to a rank, in units. -/
def twiceLowerEnd (rank : Nat) : Nat := magnitudeOfRank (rank - 1) + magnitudeOfRank rank

/-- Twice the upper end of the interval that rounds to a rank, in units. -/
def twiceUpperEnd (rank : Nat) : Nat := magnitudeOfRank rank + magnitudeOfRank (rank + 1)

/-- The decimal lies in the interval that rounds to the rank. -/
def readsBack (rank : Nat) (decimal : Decimal) : Bool :=
  let scaled := 2 * decimal.digits * 10 ^ decimal.exponent.toNat * unitsPerOne
  let scale := 10 ^ (-decimal.exponent).toNat
  let lower := twiceLowerEnd rank * scale
  let upper := twiceUpperEnd rank * scale
  if rank % 2 = 0 then decide (lower ≤ scaled ∧ scaled ≤ upper)
  else decide (lower < scaled ∧ scaled < upper)

/-- The number of decimal digits of a natural number. -/
def digitCount (n : Nat) : Nat := (Nat.toDigits 10 n).length

/-- The least `k` with the magnitude below `10 ^ k`. -/
def decimalPoint (rank : Nat) : Int :=
  let magnitude := magnitudeOfRank rank
  if unitsPerOne ≤ magnitude then digitCount (magnitude / unitsPerOne)
  else 1 - (digitCount ((unitsPerOne - 1) / magnitude) : Int)

/-- The decimal with `count` digits that is the best candidate for the rank, if one reads back. -/
def candidate? (rank count : Nat) : Option Decimal :=
  let exponent := decimalPoint rank - count
  let numerator := magnitudeOfRank rank * 10 ^ (-exponent).toNat
  let denominator := 10 ^ exponent.toNat * unitsPerOne
  let below : Decimal := ⟨numerator / denominator, exponent⟩
  let above : Decimal := ⟨numerator / denominator + 1, exponent⟩
  match readsBack rank below, readsBack rank above with
  | true, true => some ⟨roundHalfEven numerator denominator, exponent⟩
  | true, false => some below
  | false, true => some above
  | false, false => none

/-- Moves the trailing zeros of the digits into the exponent. -/
def Decimal.strip : Nat → Decimal → Decimal
  | 0, decimal => decimal
  | fuel + 1, decimal =>
    if decimal.digits % 10 = 0 ∧ decimal.digits ≠ 0 then
      Decimal.strip fuel ⟨decimal.digits / 10, decimal.exponent + 1⟩
    else decimal

/-- The shortest decimal that reads back as the magnitude of the given rank. Seventeen digits
always suffice; failing that, the exact value is given. -/
def shortest (rank : Nat) : Decimal :=
  match (List.range 17).findSome? fun count => candidate? rank (count + 1) with
  | some decimal => decimal.strip 17
  | none => ⟨magnitudeOfRank rank * 5 ^ (1074 : Nat), -1074⟩

/-- How a decimal is laid out as text. -/
structure Layout where
  /-- The least scientific exponent that is written positionally. -/
  leastPositional : Int
  /-- The greatest scientific exponent that is written positionally. -/
  greatestPositional : Int
  /-- The sign of a positive exponent is written. -/
  signedExponent : Bool

/-- A run of digits with a point after the given number of them, zeros filled in on both sides
and at least one digit kept on each. -/
def positional (digits : List Char) (point : Int) : List Char :=
  if point ≤ 0 then '0' :: '.' :: List.replicate (-point).toNat '0' ++ digits
  else
    let whole := digits.take point.toNat
    let fraction := digits.drop point.toNat
    whole ++ List.replicate (point.toNat - whole.length) '0' ++ '.' ::
      (if fraction.isEmpty then ['0'] else fraction)

/-- A run of digits with a point after the first one, if there are more, and an exponent. -/
def scientific (layout : Layout) (digits : List Char) (exponent : Int) : List Char :=
  let fraction := digits.drop 1
  let sign := if exponent < 0 then ['-'] else if layout.signedExponent then ['+'] else []
  digits.take 1 ++ (if fraction.isEmpty then [] else '.' :: fraction) ++
    'e' :: sign ++ Nat.toDigits 10 exponent.natAbs

/-- The text of a number: its shortest decimal in the given layout. -/
def render (layout : Layout) (x : Binary64) : List Char :=
  let sign := if x.negative then ['-'] else []
  if x.rank = 0 then sign ++ ['0', '.', '0']
  else
    let decimal := shortest x.rank
    let digits := Nat.toDigits 10 decimal.digits
    let point := decimal.exponent + digits.length
    if layout.leastPositional ≤ point - 1 ∧ point - 1 ≤ layout.greatestPositional then
      sign ++ positional digits point
    else sign ++ scientific layout digits (point - 1)

end Binary64

end Intake
