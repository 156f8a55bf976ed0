import Intake.Unicode.Cased
import Intake.Unicode.Lowercase

/-! # Lower case

Every character is mapped to its lower case on its own, with two exceptions: a dotted capital I
becomes a small i with a combining dot, and a capital sigma takes its final form at the end of a
word, that is, after a cased letter and not before one, case-ignorable characters being looked past
on both sides.
-/

namespace Intake.Text

open Unicode

/-- The lower case of a character on its own. -/
def lowerChar (c : Char) : List Char :=
  if c = 'İ' then ['i', '\u0307']
  else
    match lowercaseRuns.find? fun run => run.contains c.toNat with
    | some run => [Char.ofNat (run.apply c.toNat)]
    | none => [c]

/-- The first character that is not looked past is a cased letter. -/
def nextIsCased (text : List Char) : Bool :=
  match text.dropWhile caseIgnorable.contains with
  | [] => false
  | c :: _ => cased.contains c

/-- Lower case of the text after the characters `before`, which are given in reverse. -/
def lowerAfter (before : List Char) : List Char → List Char
  | [] => []
  | 'Σ' :: rest =>
    let sigma := if nextIsCased before && !nextIsCased rest then 'ς' else 'σ'
    sigma :: lowerAfter ('Σ' :: before) rest
  | c :: rest => lowerChar c ++ lowerAfter (c :: before) rest

/-- Lower case of a text. -/
def lower (text : String) : String :=
  String.ofList (lowerAfter [] text.toList)

/-- Lower case of the letters A to Z; nothing else changes. -/
def lowerAscii (text : String) : String :=
  String.ofList (text.toList.map Char.toLower)

end Intake.Text
