/-! # Comma-separated records

A list of texts is written as one record: the fields with commas between them. A field that holds
a comma, a quote or a line break is written between quotes, with every quote in it doubled. Reading
skips line breaks and a byte order mark in front of the record and stops at the first line break
behind it.
-/

namespace Intake.Record

/-- The character makes quotes around a field necessary. -/
def isSpecial (c : Char) : Bool := c == ',' || c == '"' || c == '\n' || c == '\r'

/-- The characters of a field with every quote doubled. -/
def doubled : List Char → List Char
  | [] => []
  | '"' :: rest => '"' :: '"' :: doubled rest
  | c :: rest => c :: doubled rest

/-- A field as it is written. -/
def writeField (field : List Char) : List Char :=
  if field.any isSpecial then '"' :: doubled field ++ ['"'] else field

/-- The fields of a record with commas between them. -/
def writeFields (fields : List (List Char)) : List Char :=
  List.intercalate [','] (fields.map writeField)

/-- A record. One empty field is written as a pair of quotes, to tell it from no field at all. -/
def write (fields : List (List Char)) : List Char :=
  if fields = [[]] then ['"', '"'] else writeFields fields

/-- Where in a field reading stands. -/
inductive Place where
  /-- Before the first character of a field. -/
  | start
  /-- In a field without quotes, or behind its closing quote. -/
  | plain
  /-- Between quotes. -/
  | quoted
  /-- Behind a quote within quotes, which closes the field unless another one follows. -/
  | quote
deriving DecidableEq, Repr

/-- The fields of a record, the first of which starts with `field` in reverse. -/
def readFrom : Place → List Char → List Char → List (List Char)
  | _, field, [] => [field.reverse]
  | .quoted, field, c :: rest =>
    if c = '"' then readFrom .quote field rest else readFrom .quoted (c :: field) rest
  | .quote, field, '"' :: rest => readFrom .quoted ('"' :: field) rest
  | .start, field, '"' :: rest => readFrom .quoted field rest
  | _, field, c :: rest =>
    if c = ',' then field.reverse :: readFrom .start [] rest
    else if c = '\n' || c = '\r' then [field.reverse]
    else readFrom .plain (c :: field) rest

/-- The text without a byte order mark in front. -/
def withoutMark : List Char → List Char
  | '\ufeff' :: rest => rest
  | text => text

/-- The fields of the first record of a text, none if there is no record. -/
def read (text : List Char) : List (List Char) :=
  match (withoutMark text).dropWhile fun c => c == '\n' || c == '\r' with
  | [] => []
  | record => readFrom .start [] record

end Intake.Record
