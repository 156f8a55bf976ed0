import Intake.Unicode.Property

/-! # Patterns

A pattern describes texts by single characters, assertions about a position, sequence, choice and
repetition. All options that a written pattern may switch on and off are already resolved: sets of
characters are closed under case where case is ignored, and assertions say which kind of word and
line they mean.
-/

namespace Intake

open Unicode

/-- A condition on a position of a text. -/
inductive Assertion where
  | textStart
  | textEnd
  /-- After a line feed or at the start; with `crlf`, a carriage return ends a line as well. -/
  | lineStart (crlf : Bool)
  /-- Before a line feed or at the end; with `crlf`, a carriage return ends a line as well. -/
  | lineEnd (crlf : Bool)
  | wordBoundary (unicode negated : Bool)
  | wordStart (unicode : Bool)
  | wordEnd (unicode : Bool)
  /-- Not after a word character. -/
  | wordStartHalf (unicode : Bool)
  /-- Not before a word character. -/
  | wordEndHalf (unicode : Bool)
deriving DecidableEq, Repr

/-- A pattern with its options resolved. -/
inductive Pattern where
  | empty
  | char (set : CodeRanges)
  | assertion (condition : Assertion)
  | sequence (first second : Pattern)
  | choice (first second : Pattern)
  /-- The body at least `least` and at most `most?` times in a row, without limit if none. -/
  | repeated (least : Nat) (most? : Option Nat) (body : Pattern)
  /-- A numbered group. -/
  | group (body : Pattern)
deriving Repr

namespace Pattern

/-- Digits, or the ASCII ones only. -/
def digits (unicode : Bool) : CodeRanges :=
  if unicode then unionOf categories ["nd"] else .ofText "30-39"

/-- White space, or the ASCII part of it. -/
def blanks (unicode : Bool) : CodeRanges :=
  .ofText (if unicode then "9-D 20 85 A0 1680 2000-200A 2028-2029 202F 205F 3000" else "9-D 20")

/-- Letters, marks, decimal digits, connectors and joiners. -/
def unicodeWordCharacters : CodeRanges :=
  (unionOf properties ["alphabetic", "joincontrol"]).union
    (unionOf categories ["mn", "mc", "me", "nd", "pc"])

/-- Characters that words are made of, or the ASCII ones only. -/
def wordCharacters (unicode : Bool) : CodeRanges :=
  if unicode then unicodeWordCharacters else .ofText "30-39 41-5A 5F 61-7A"

/-- Patterns one after the other. -/
def sequenceOf : List Pattern → Pattern
  | [] => .empty
  | [pattern] => pattern
  | pattern :: rest => .sequence pattern (sequenceOf rest)

/-- One pattern or another. -/
def choiceOf : List Pattern → Pattern
  | [] => .empty
  | [pattern] => pattern
  | pattern :: rest => .choice pattern (choiceOf rest)

end Pattern

end Intake
