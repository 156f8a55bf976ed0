import Intake.Pattern.Basic

/-! # The size of a pattern as an automaton

A pattern is accepted only if the automaton that it stands for stays within a limit. The automaton
reads the UTF-8 octets of a text; every state takes the same space and every further transition or
branch takes some more. A counted repetition holds as many copies of its body as it counts.
-/

namespace Intake.Pattern

open Unicode

/-- The space of a state. -/
def stateSize : Nat := 32

/-- The space of a transition to one of several states. -/
def transitionSize : Nat := 8

/-- The space of a branch. -/
def branchSize : Nat := 4

/-- The greatest size of a pattern. -/
def sizeLimit : Nat := 10485760

/-- The UTF-8 octets of a code point. -/
def octets (code : Nat) : List Nat :=
  if code < 0x80 then [code]
  else if code < 0x800 then [0xC0 + code / 0x40, 0x80 + code % 0x40]
  else if code < 0x10000 then
    [0xE0 + code / 0x1000, 0x80 + code / 0x40 % 0x40, 0x80 + code % 0x40]
  else
    [0xF0 + code / 0x40000, 0x80 + code / 0x1000 % 0x40, 0x80 + code / 0x40 % 0x40,
      0x80 + code % 0x40]

/-- Where a range has to be cut so that its two ends are encoded in octets of independent ranges:
the last code point of the first part. -/
def cut? (first last : Nat) : Option Nat :=
  let atLength := [0x7F, 0x7FF, 0xD7FF, 0xDFFF, 0xFFFF].find? fun code =>
    first ≤ code && code < last
  atLength <|> [0x40, 0x1000, 0x40000].findSome? fun block =>
    if last < 0x80 || first / block = last / block then none
    else if first % block ≠ 0 then some (first / block * block + (block - 1))
    else if last % block ≠ block - 1 then some (last / block * block - 1)
    else none

/-- The sequences of octet ranges that encode a range of code points, surrogates left out. -/
def octetRanges : Nat → Nat → Nat → List (List (Nat × Nat))
  | 0, _, _ => []
  | fuel + 1, first, last =>
    match cut? first last with
    | some code => octetRanges fuel first code ++ octetRanges fuel (code + 1) last
    | none =>
      if 0xD800 ≤ first ∧ last ≤ 0xDFFF then [] else [(octets first).zip (octets last)]

/-- The number of leading elements that two lists share. -/
def sharedLength : List (Nat × Nat) → List (Nat × Nat) → Nat
  | left :: lefts, right :: rights => if left = right then sharedLength lefts rights + 1 else 0
  | _, _ => 0

/-- The size of the branches of a set, given the sequence before them. -/
def branchesSize (previous : List (Nat × Nat)) : List (List (Nat × Nat)) → Nat
  | [] => 0
  | encoded :: rest =>
    branchSize + stateSize * (encoded.length - sharedLength previous encoded) +
      branchesSize encoded rest

/-- The size of a set of characters. -/
def setSize (set : CodeRanges) : Nat :=
  match set.ranges with
  | [] => stateSize
  | [(first, last)] =>
    if first = last then stateSize * (octets first).length
    else if last < 0x80 then 2 * stateSize + transitionSize
    else 2 * stateSize + branchesSize [] (octetRanges 64 first last)
  | ranges =>
    if set.isAscii then 2 * stateSize + transitionSize * ranges.length
    else 2 * stateSize + branchesSize [] (ranges.flatMap fun (first, last) => octetRanges 64 first last)

/-- The pattern matches no text but the empty one. -/
def isAlwaysEmpty : Pattern → Bool
  | .empty => true
  | .char _ => false
  | .assertion _ => true
  | .sequence first second => first.isAlwaysEmpty && second.isAlwaysEmpty
  | .choice first second => first.isAlwaysEmpty && second.isAlwaysEmpty
  | .repeated _ most? body => most? == some 0 || body.isAlwaysEmpty
  | .group body => body.isAlwaysEmpty

/-- The size of a repetition, from the size of its body. -/
def repetitionSize (body : Nat) : Nat → Option Nat → Nat
  | 0, some 0 => stateSize
  | 1, some 1 => body
  | least, some most =>
    max stateSize (least * body) +
      (if least = most then 0 else stateSize + (most - least) * (stateSize + 2 * branchSize + body))
  | least, none => max 1 least * body + stateSize + 2 * branchSize

/-- The size of a pattern. Repeating what only matches the empty text is the same as matching it
once at most. -/
def size : Pattern → Nat
  | .empty => stateSize
  | .char set => setSize set
  | .assertion _ => stateSize
  | .sequence first second => first.size + second.size
  | .choice first second =>
    first.size + second.size + match second with
      | .choice _ _ => branchSize
      | _ => 2 * stateSize + 2 * branchSize
  | .repeated least most? body =>
    if body.isAlwaysEmpty then
      repetitionSize body.size (min least 1) (some (min (most?.getD 1) 1))
    else repetitionSize body.size least most?
  | .group body => body.size + 2 * stateSize

/-- What every automaton holds besides its pattern: the search for a start, the two ends of the
whole match, and the final state. -/
def fixedSize : Nat := 6 * stateSize + 2 * transitionSize

/-- The pattern stays within the limit. -/
def isWithinLimit (pattern : Pattern) : Bool :=
  fixedSize + pattern.size ≤ sizeLimit

end Intake.Pattern
