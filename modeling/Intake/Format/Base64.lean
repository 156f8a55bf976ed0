/-! # Base64

Text in the standard alphabet comes in groups of four characters. The last group may end in one or
two padding signs, which are required, and the bits that the padding leaves unused must be zero.
-/

namespace Intake.Base64

-- Powers are those of natural numbers, whatever algebra is in scope.
attribute [local instance (high)] instPowNat

/-- The six bits that a character of the standard alphabet stands for. -/
def sextet? (c : Char) : Option Nat :=
  if 'A' ≤ c ∧ c ≤ 'Z' then some (c.toNat - 'A'.toNat)
  else if 'a' ≤ c ∧ c ≤ 'z' then some (c.toNat - 'a'.toNat + 26)
  else if '0' ≤ c ∧ c ≤ '9' then some (c.toNat - '0'.toNat + 52)
  else if c = '+' then some 62
  else if c = '/' then some 63
  else none

/-- The character stands for six bits of which the last `unused` are zero. -/
def endsInZeros (unused : Nat) (c : Char) : Bool :=
  (sextet? c).any fun bits => bits % 2 ^ unused == 0

/-- The text is well-formed base64. -/
def isValid : List Char → Bool
  | [] => true
  | [a, b, '=', '='] => (sextet? a).isSome && endsInZeros 4 b
  | [a, b, c, '='] => (sextet? a).isSome && (sextet? b).isSome && endsInZeros 2 c
  | a :: b :: c :: d :: rest => [a, b, c, d].all (fun x => (sextet? x).isSome) && isValid rest
  | _ => false

end Intake.Base64
