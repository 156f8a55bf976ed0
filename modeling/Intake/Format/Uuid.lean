import Intake.Document.Reader
import Intake.Document.Writer

/-! # Universally unique identifiers

An identifier is thirty-two hexadecimal digits. Its text is the digits, plain or grouped by hyphens
as 8-4-4-4-12; the grouped form may also stand in braces or after `urn:uuid:` in any case. The
canonical text is grouped and in lower case.
-/

namespace Intake

/-- A universally unique identifier as its thirty-two hexadecimal digits. -/
structure Uuid where
  digits : List Nat
deriving DecidableEq, Repr

namespace Uuid

/-- Reads thirty-two hexadecimal digits. -/
def plain? (text : List Char) : Option Uuid :=
  if text.length = 32 then (text.mapM Document.hexDigit?).map (⟨·⟩) else none

/-- Where the hyphens of the grouped form stand. -/
def hyphenPlaces : List Nat := [8, 13, 18, 23]

/-- Reads the grouped form. -/
def grouped? (text : List Char) : Option Uuid :=
  let hyphenated := hyphenPlaces.all fun place => text[place]? == some '-'
  if text.length = 36 && hyphenated then
    plain? (text.take 8 ++ (text.drop 9).take 4 ++ (text.drop 14).take 4 ++ (text.drop 19).take 4
      ++ text.drop 24)
  else none

/-- What may stand in front of the grouped form. -/
def nameSpace : List Char := "urn:uuid:".toList

/-- The grouped form without what stands around it. -/
def unwrapped (text : List Char) : List Char :=
  if nameSpace.isPrefixOf (text.map Char.toLower) then text.drop nameSpace.length
  else if text.head? == some '\x7b' && text.getLast? == some '\x7d' then text.tail.dropLast
  else text

/-- Reads an identifier in any of its textual forms. -/
def ofChars? (text : List Char) : Option Uuid :=
  if text.length = 32 then plain? text else grouped? (unwrapped text)

/-- Reads an identifier in any of its textual forms. -/
def ofText? (text : String) : Option Uuid := ofChars? text.toList

/-- The version number: the thirteenth digit. -/
def version (uuid : Uuid) : Nat := (uuid.digits[12]?).getD 0

/-- The grouped text in lower case. -/
def chars (uuid : Uuid) : List Char :=
  let text := uuid.digits.map Nat.digitChar
  text.take 8 ++ '-' :: (text.drop 8).take 4 ++ '-' :: (text.drop 12).take 4 ++
    '-' :: (text.drop 16).take 4 ++ '-' :: text.drop 20

/-- The grouped text in lower case. -/
def text (uuid : Uuid) : String := String.ofList uuid.chars

end Uuid

end Intake
