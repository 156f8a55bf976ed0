/-! # Finite binary64 numbers

A finite binary64 number is a sign and the rank of its magnitude among all finite magnitudes. Every
magnitude is a whole number of units of `2 ^ (-1074)`, the smallest positive one, so comparison,
rounding, products and quotients are exact arithmetic on natural numbers followed by one rounding
to the nearest magnitude, ties to the even one. Results beyond the largest finite magnitude are
`none`: there are no infinities and no values that are not numbers.
-/

namespace Intake

-- Powers are those of natural numbers, whatever algebra is in scope.
attribute [local instance (high)] instPowNat

/-- A finite binary64 number: a sign and the rank of its magnitude in ascending order. -/
structure Binary64 where
  negative : Bool
  rank : Nat
  rank_lt : rank < 2047 * 2 ^ (52 : Nat)
deriving DecidableEq, Repr

namespace Binary64

/-- The number of units in one. -/
def unitsPerOne : Nat := 2 ^ (1074 : Nat)

/-- The magnitude of a given rank in units: evenly spaced up to rank `2 ^ 53`, and from there on
the spacing doubles every `2 ^ 52` ranks. -/
def magnitudeOfRank (rank : Nat) : Nat :=
  if rank < 2 ^ (52 : Nat) then rank
  else (2 ^ (52 : Nat) + rank % 2 ^ (52 : Nat)) * 2 ^ (rank / 2 ^ (52 : Nat) - 1)

/-- The magnitude of a number in units. -/
def magnitude (x : Binary64) : Nat :=
  magnitudeOfRank x.rank

/-- The exact value of a number in units. -/
def units (x : Binary64) : Int :=
  if x.negative then -(x.magnitude : Int) else x.magnitude

/-- The whole number nearest to `numerator / denominator`, ties to the even one. -/
def roundHalfEven (numerator denominator : Nat) : Nat :=
  let quotient := numerator / denominator
  let twice := 2 * (numerator % denominator)
  if denominator < twice ∨ twice = denominator ∧ quotient % 2 = 1 then quotient + 1 else quotient

/-- The rank nearest to `numerator / denominator` units, as if ranks went on without end. -/
def nearestRank (numerator denominator : Nat) : Nat :=
  let shift := Nat.log2 (numerator / denominator) - 52
  shift * 2 ^ (52 : Nat) + roundHalfEven numerator (denominator * 2 ^ shift)

/-- The number of the given sign nearest to `numerator / denominator` units. -/
def nearest? (negative : Bool) (numerator denominator : Nat) : Option Binary64 :=
  let rank := nearestRank numerator denominator
  if bound : rank < 2047 * 2 ^ (52 : Nat) then some ⟨negative, rank, bound⟩ else none

instance : Zero Binary64 := ⟨⟨false, 0, by decide⟩⟩

/-- One as a binary64 number. -/
def one : Binary64 := ⟨false, 1023 * 2 ^ (52 : Nat), by decide⟩

/-- The number nearest to an integer. -/
def ofInt? (value : Int) : Option Binary64 :=
  nearest? (value < 0) (value.natAbs * unitsPerOne) 1

/-- The number nearest to `digits * 10 ^ exponent`. Exponents far out of range are decided by the
number of digits alone. -/
def ofDecimal? (negative : Bool) (digits : Nat) (exponent : Int) : Option Binary64 :=
  let top := (Nat.log2 digits : Int) * 30103 / 100000 + exponent
  if digits = 0 ∨ top < -400 then nearest? negative 0 1
  else if 400 < top then none
  else nearest? negative (digits * 10 ^ exponent.toNat * unitsPerOne) (10 ^ (-exponent).toNat)

/-- Numbers are compared by value, so the two zeros are equal. -/
def sameValue (x y : Binary64) : Bool := x.units == y.units

/-- Numbers are ordered by value. -/
instance : LE Binary64 := ⟨fun x y => x.units ≤ y.units⟩

/-- Numbers are ordered by value. -/
instance : LT Binary64 := ⟨fun x y => x.units < y.units⟩

/-- The order of two numbers can be decided. -/
instance (x y : Binary64) : Decidable (x ≤ y) :=
  inferInstanceAs (Decidable (x.units ≤ y.units))

/-- The strict order of two numbers can be decided. -/
instance (x y : Binary64) : Decidable (x < y) :=
  inferInstanceAs (Decidable (x.units < y.units))

/-- The product, rounded. -/
def mul? (x y : Binary64) : Option Binary64 :=
  nearest? (x.negative != y.negative) (x.magnitude * y.magnitude) unitsPerOne

/-- The quotient by a number other than zero, rounded. -/
def div? (x y : Binary64) : Option Binary64 :=
  if y.magnitude = 0 then none
  else nearest? (x.negative != y.negative) (x.magnitude * unitsPerOne) y.magnitude

/-- The number has no fractional part. -/
def isWhole (x : Binary64) : Bool := x.magnitude % unitsPerOne == 0

/-- The integer that a number denotes, if it has no fractional part. -/
def toInt? (x : Binary64) : Option Int :=
  if x.isWhole then some (x.units / unitsPerOne) else none

/-- The magnitude rounded to a whole number, ties away from zero. -/
def wholeMagnitude (x : Binary64) : Nat :=
  (2 * x.magnitude + unitsPerOne) / (2 * unitsPerOne)

/-- The nearest whole number, ties away from zero and the sign kept. -/
def round? (x : Binary64) : Option Binary64 :=
  nearest? x.negative (x.wholeMagnitude * unitsPerOne) 1

/-- The distance to the nearest whole number, in units. -/
def distanceToWhole (x : Binary64) : Nat :=
  ((x.magnitude : Int) - (x.wholeMagnitude * unitsPerOne : Nat)).natAbs

end Binary64

end Intake
