import Intake.Document.Reader
import Intake.Document.Writer

/-! # Network addresses

Version 4 addresses are four decimal octets without leading zeros. Version 6 addresses are eight
groups of at most four hexadecimal digits, where one double colon may stand for a run of zero
groups and the last two groups may be written as a version 4 address. The canonical text of a
version 6 address shortens its first longest run of two or more zero groups.
-/

namespace Intake

/-- A network address: four octets or eight 16-bit groups. -/
inductive Address where
  | v4 (octets : List Nat)
  | v6 (groups : List Nat)
deriving DecidableEq, Repr

namespace Address

/-- Splits a number of at most `width` digits off the front of the text. -/
def number? (digitOf : Char → Option Nat) (base width : Nat) (leadingZeros : Bool)
    (text : List Char) : Option (Nat × List Char) :=
  let digits := text.takeWhile fun c => (digitOf c).isSome
  if digits.isEmpty || width < digits.length then none
  else if !leadingZeros && digits.head? == some '0' && 1 < digits.length then none
  else
    let value := digits.foldl (fun value c => value * base + (digitOf c).getD 0) 0
    some (value, text.drop digits.length)

/-- The value of a decimal digit. -/
def decimalDigit? (c : Char) : Option Nat :=
  if c.isDigit then some (digitValue c) else none

/-- Splits an octet off the front of the text. -/
def octet? (text : List Char) : Option (Nat × List Char) :=
  (number? decimalDigit? 10 3 false text).filter fun (value, _) => value < 256

/-- Splits a given character off the front of the text. -/
def given? (c : Char) : List Char → Option (List Char)
  | first :: rest => if first = c then some rest else none
  | [] => none

/-- Splits four octets with points between them off the front of the text. -/
def octets? (text : List Char) : Option (List Nat × List Char) := do
  let (a, text) ← octet? text
  let (b, text) ← (given? '.' text).bind octet?
  let (c, text) ← (given? '.' text).bind octet?
  let (d, text) ← (given? '.' text).bind octet?
  some ([a, b, c, d], text)

/-- The two groups that four octets make up. -/
def pairOctets : List Nat → List Nat
  | high :: low :: rest => (high * 256 + low) :: pairOctets rest
  | _ => []

/-- Splits as many groups off the front of the text as there are, at most `room`, with colons
between them; the first one needs a colon before it unless it is `first`. Says also whether the
last two were written as octets. -/
def groups (text : List Char) (first : Bool) : Nat → List Nat × Bool × List Char
  | 0 => ([], false, text)
  | room + 1 =>
    let start? := if first then some text else given? ':' text
    match if room = 0 then none else start?.bind octets? with
    | some (octets, rest) => (pairOctets octets, true, rest)
    | none =>
      match start?.bind (number? Document.hexDigit? 16 4 true) with
      | none => ([], false, text)
      | some (group, rest) =>
        let (more, asOctets, rest) := groups rest false room
        (group :: more, asOctets, rest)

/-- Splits the groups of a version 6 address off the front of the text. -/
def allGroups? (text : List Char) : Option (List Nat × List Char) := do
  let (head, asOctets, rest) := groups text true 8
  if head.length = 8 then some (head, rest)
  else if asOctets then none
  else
    let rest ← (given? ':' rest).bind (given? ':')
    let (tail, _, rest) := groups rest true (7 - head.length)
    some (head ++ List.replicate (8 - head.length - tail.length) 0 ++ tail, rest)

/-- Reads an address that makes up the whole text. -/
def ofChars? (text : List Char) : Option Address :=
  match octets? text with
  | some (octets, rest) => if rest.isEmpty then some (.v4 octets) else none
  | none =>
    match allGroups? text with
    | some (groups, rest) => if rest.isEmpty then some (.v6 groups) else none
    | none => none

/-- Reads an address that makes up the whole text. -/
def ofText? (text : String) : Option Address := ofChars? text.toList

/-- Texts with a separator between them. -/
def separated (separator : Char) : List (List Char) → List Char
  | [] => []
  | [part] => part
  | part :: parts => part ++ separator :: separated separator parts

/-- Octets in decimal with points between them. -/
def octetChars (octets : List Nat) : List Char :=
  separated '.' (octets.map (Nat.toDigits 10))

/-- Groups in hexadecimal with colons between them. -/
def groupChars (groups : List Nat) : List Char :=
  separated ':' (groups.map (Nat.toDigits 16))

/-- The number of zero groups in front. -/
def leadingZeroGroups (groups : List Nat) : Nat :=
  (groups.takeWhile (· == 0)).length

/-- The start and length of the first longest run of zero groups. -/
def longestZeroRun (groups : List Nat) : Nat × Nat :=
  (List.range groups.length).foldl
    (fun best start =>
      let length := leadingZeroGroups (groups.drop start)
      if best.2 < length then (start, length) else best)
    (0, 0)

/-- The canonical text of an address. -/
def chars : Address → List Char
  | .v4 octets => octetChars octets
  | .v6 [0, 0, 0, 0, 0, 0xFFFF, high, low] =>
    "::ffff:".toList ++ octetChars [high / 256, high % 256, low / 256, low % 256]
  | .v6 groups =>
    let (start, length) := longestZeroRun groups
    if 1 < length then
      groupChars (groups.take start) ++ "::".toList ++ groupChars (groups.drop (start + length))
    else groupChars groups

/-- The canonical text of an address. -/
def text (address : Address) : String := String.ofList address.chars

end Address

end Intake
