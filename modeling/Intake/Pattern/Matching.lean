import Intake.Pattern.Basic

/-! # Finding a pattern in a text

A pattern takes a set of positions at which it may start to the set of positions at which it may
then end. A text of `n` characters has the positions `0` to `n`, and a set of positions is the
number that has the bits of its members set. A pattern is found in a text when it leads from the
set of all positions to a set that is not empty.
-/

namespace Intake

-- Powers are those of natural numbers, whatever algebra is in scope.
attribute [local instance (high)] instPowNat

open Unicode

/-- A set of positions: bit `i` is set when position `i` belongs to it. -/
abbrev Positions := Nat

namespace Positions

/-- The positions below a number for which a condition holds. -/
def below (count : Nat) (holds : Nat → Bool) : Positions :=
  (List.range count).foldl (fun set i => if holds i then set ||| (1 <<< i) else set) 0

/-- Applies a step as often as asked, or until it changes nothing. -/
def iterate (step : Positions → Positions) : Nat → Positions → Positions
  | 0, set => set
  | count + 1, set =>
    let next := step set
    if next = set then set else iterate step count next

end Positions

/-- The word characters that a kind of assertion speaks of. -/
def isWordAt (unicode : Bool) (text : Array Char) (i : Nat) : Bool :=
  (text[i]?).any (Pattern.wordCharacters unicode).contains

namespace Assertion

/-- The character before the position is a word character. -/
def wordBefore (unicode : Bool) (text : Array Char) (i : Nat) : Bool :=
  0 < i && isWordAt unicode text (i - 1)

/-- The position satisfies the condition. -/
def holds (condition : Assertion) (text : Array Char) (i : Nat) : Bool :=
  let previous? := if i = 0 then none else text[i - 1]?
  let next? := text[i]?
  match condition with
  | .textStart => i == 0
  | .textEnd => i == text.size
  | .lineStart false => i == 0 || previous? == some '\n'
  | .lineStart true =>
    i == 0 || previous? == some '\n' || (previous? == some '\r' && next? != some '\n')
  | .lineEnd false => i == text.size || next? == some '\n'
  | .lineEnd true =>
    i == text.size || next? == some '\r' || (next? == some '\n' && previous? != some '\r')
  | .wordBoundary unicode negated =>
    (wordBefore unicode text i != isWordAt unicode text i) != negated
  | .wordStart unicode => !wordBefore unicode text i && isWordAt unicode text i
  | .wordEnd unicode => wordBefore unicode text i && !isWordAt unicode text i
  | .wordStartHalf unicode => !wordBefore unicode text i
  | .wordEndHalf unicode => !isWordAt unicode text i

end Assertion

namespace Pattern

/-- The positions at which the pattern may end when it starts at one of the given positions.

Along a repetition positions never move back, so one round more than the text has characters
reaches every position that can be reached. -/
def ends (text : Array Char) : Pattern → Positions → Positions
  | .empty, starts => starts
  | .char set, starts =>
    Positions.below text.size (fun i => starts.testBit i && (text[i]?).any set.contains) <<< 1
  | .assertion condition, starts =>
    Positions.below (text.size + 1) fun i => starts.testBit i && condition.holds text i
  | .sequence first second, starts => ends text second (ends text first starts)
  | .choice first second, starts => ends text first starts ||| ends text second starts
  | .repeated least most? body, starts =>
    let rounds := text.size + 1
    let required := Positions.iterate (ends text body) (min least rounds) starts
    let optional := match most? with
      | some most => min (most - least) rounds
      | none => rounds
    Positions.iterate (fun set => set ||| ends text body set) optional required
  | .group body, starts => ends text body starts

/-- The pattern is found somewhere in the text. -/
def isFoundIn (pattern : Pattern) (text : String) : Bool :=
  let characters := text.toList.toArray
  pattern.ends characters (2 ^ (characters.size + 1) - 1) != 0

end Pattern

end Intake
