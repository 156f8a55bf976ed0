import Intake.Pattern.Escape

/-! # Repetition counts of a written pattern

Between braces stands a count, a least count with a comma, or a least and a greatest count. Counts
fit in 32 bits, and blanks may surround them.
-/

namespace Intake.Pattern

-- Powers are those of natural numbers, whatever algebra is in scope.
attribute [local instance (high)] instPowNat

/-- Splits the digits of a count off the front of the text. -/
def countDigits (options : Options) : Nat → List Char → List Char × List Char
  | 0, text => ([], text)
  | fuel + 1, text =>
    match text with
    | [] => ([], [])
    | c :: rest =>
      if c.isDigit then
        let (digits, rest) := countDigits options fuel (options.skip rest)
        (c :: digits, rest)
      else ([], c :: rest)

/-- Drops blanks, and comments after the first of them where the options say so. -/
def dropBlanks (options : Options) : Nat → List Char → List Char
  | 0, text => text
  | fuel + 1, text =>
    match text with
    | c :: rest => if Text.isBlank c then dropBlanks options fuel (options.skip rest) else text
    | [] => []

/-- Splits a count with blanks around it off the front of the text. -/
def count? (options : Options) (text : List Char) : Option (Nat × List Char) :=
  let (digits, rest) := countDigits options (text.length + 1) (text.dropWhile Text.isBlank)
  let value := digitsValue digits
  if digits.isEmpty || 2 ^ (32 : Nat) ≤ value then none
  else some (value, dropBlanks options (rest.length + 1) rest)

/-- Splits the rest of a counted repetition, after its opening brace, off the front of the text. -/
def counts? (options : Options) (text : List Char) : Option (Nat × Option Nat × List Char) := do
  let (least, rest) ← count? options (options.skip text)
  match rest with
  | '\x7d' :: rest => some (least, some least, options.skip rest)
  | ',' :: rest =>
    match options.skip rest with
    | '\x7d' :: rest => some (least, none, options.skip rest)
    | rest => do
      let (most, rest) ← count? options rest
      match rest with
      | '\x7d' :: rest => if least ≤ most then some (least, some most, options.skip rest) else none
      | _ => none
  | _ => none

end Intake.Pattern
