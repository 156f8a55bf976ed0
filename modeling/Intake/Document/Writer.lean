import Intake.Document.Basic

/-! # The compact text of a document

No blanks stand between the parts. In a string the quote, the backslash and the control characters
below U+0020 are escaped, the common ones by a letter and the rest by four hexadecimal digits, and
nothing else is.
-/

namespace Intake

/-- A number below `16 ^ width` in lower-case hexadecimal digits, zeros filled in. -/
def hexChars (width n : Nat) : List Char :=
  let digits := Nat.toDigits 16 n
  List.replicate (width - digits.length) '0' ++ digits

namespace Document

/-- One character of a string as it is written between quotes. -/
def escapeChar (c : Char) : List Char :=
  if c = '"' then ['\\', '"']
  else if c = '\\' then ['\\', '\\']
  else if c = '\x08' then ['\\', 'b']
  else if c = '\x0c' then ['\\', 'f']
  else if c = '\n' then ['\\', 'n']
  else if c = '\r' then ['\\', 'r']
  else if c = '\t' then ['\\', 't']
  else if c.toNat < 0x20 then '\\' :: 'u' :: hexChars 4 c.toNat
  else [c]

/-- A string between quotes. -/
def quoted (value : String) : List Char :=
  '"' :: value.toList.flatMap escapeChar ++ ['"']

mutual

/-- The compact text of a document. -/
def chars : Document → List Char
  | .null => ['n', 'u', 'l', 'l']
  | .bool true => ['t', 'r', 'u', 'e']
  | .bool false => ['f', 'a', 'l', 's', 'e']
  | .number value => value.chars
  | .string value => quoted value
  | .array items => '[' :: itemChars items ++ [']']
  | .object members => '\x7b' :: memberChars members ++ ['\x7d']

/-- The items of a list, separated by commas. -/
def itemChars : List Document → List Char
  | [] => []
  | [item] => chars item
  | item :: items => chars item ++ ',' :: itemChars items

/-- The members of an object, separated by commas. -/
def memberChars : List (String × Document) → List Char
  | [] => []
  | [(key, value)] => quoted key ++ ':' :: chars value
  | (key, value) :: members => quoted key ++ ':' :: chars value ++ ',' :: memberChars members

end

/-- The compact text of a document. -/
def text (document : Document) : String := String.ofList document.chars

end Document

end Intake
