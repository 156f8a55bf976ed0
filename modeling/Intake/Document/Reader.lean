import Intake.Document.Numeral
import Intake.Document.Basic

/-! # Reading a document from text

The text is cut into tokens, and the tokens are read by recursive descent. Lists and objects nest
at most 127 deep. A string escapes a character above U+FFFF as a pair of surrogates, and a
surrogate that stands alone is refused. Nothing but blanks may follow the document.
-/

namespace Intake

namespace Document

/-- The smallest unit of the text of a document. -/
inductive Token where
  | openList
  | closeList
  | openObject
  | closeObject
  | colon
  | comma
  | null
  | bool (value : Bool)
  | number (value : Number)
  | string (value : String)
deriving Repr

/-- The deepest nesting of lists and objects that is read. -/
def nestingLimit : Nat := 127

/-- The value of a hexadecimal digit. -/
def hexDigit? (c : Char) : Option Nat :=
  if '0' ≤ c ∧ c ≤ '9' then some (c.toNat - '0'.toNat)
  else if 'a' ≤ c ∧ c ≤ 'f' then some (c.toNat - 'a'.toNat + 10)
  else if 'A' ≤ c ∧ c ≤ 'F' then some (c.toNat - 'A'.toNat + 10)
  else none

/-- The value of a run of hexadecimal digits. -/
def hexValue? (digits : List Char) : Option Nat :=
  digits.foldlM (fun value c => (hexDigit? c).map (value * 16 + ·)) 0

/-- The character that a letter after a backslash stands for. -/
def unescape? (c : Char) : Option Char :=
  match c with
  | '"' => some '"'
  | '\\' => some '\\'
  | '/' => some '/'
  | 'b' => some '\x08'
  | 'f' => some '\x0c'
  | 'n' => some '\n'
  | 'r' => some '\r'
  | 't' => some '\t'
  | _ => none

/-- The unit is the first half of a surrogate pair. -/
def isLeadingSurrogate (unit : Nat) : Bool := 0xD800 ≤ unit && unit < 0xDC00

/-- The unit is the second half of a surrogate pair. -/
def isTrailingSurrogate (unit : Nat) : Bool := 0xDC00 ≤ unit && unit < 0xE000

/-- The character that a surrogate pair stands for. -/
def joinSurrogates (leading trailing : Nat) : Char :=
  Char.ofNat (0x10000 + (leading - 0xD800) * 0x400 + (trailing - 0xDC00))

/-- Puts a character in front of the string that was split off. -/
def consChar (c : Char) (split? : Option (List Char × List Char)) :
    Option (List Char × List Char) :=
  split?.map fun (body, rest) => (c :: body, rest)

/-- Splits the rest of a string, after its opening quote, off the front of the text. -/
def stringBody? : List Char → Option (List Char × List Char)
  | [] => none
  | '"' :: rest => some ([], rest)
  | '\\' :: 'u' :: a :: b :: c :: d :: rest =>
    match hexValue? [a, b, c, d] with
    | none => none
    | some unit =>
      if isLeadingSurrogate unit then
        match rest with
        | '\\' :: 'u' :: e :: f :: g :: h :: rest =>
          match hexValue? [e, f, g, h] with
          | none => none
          | some next =>
            if isTrailingSurrogate next then consChar (joinSurrogates unit next) (stringBody? rest)
            else none
        | _ => none
      else if isTrailingSurrogate unit then none
      else consChar (Char.ofNat unit) (stringBody? rest)
  | '\\' :: c :: rest =>
    match unescape? c with
    | none => none
    | some c => consChar c (stringBody? rest)
  | c :: rest => if c.toNat < 0x20 || c == '\\' then none else consChar c (stringBody? rest)

/-- A blank between tokens. -/
def isBlank (c : Char) : Bool := c == ' ' || c == '\n' || c == '\t' || c == '\r'

/-- Splits a token off the front of the text. -/
def token? : List Char → Option (Token × List Char)
  | '[' :: rest => some (.openList, rest)
  | ']' :: rest => some (.closeList, rest)
  | '\x7b' :: rest => some (.openObject, rest)
  | '\x7d' :: rest => some (.closeObject, rest)
  | ':' :: rest => some (.colon, rest)
  | ',' :: rest => some (.comma, rest)
  | '"' :: rest => (stringBody? rest).map fun (s, rest) => (.string (String.ofList s), rest)
  | 'n' :: 'u' :: 'l' :: 'l' :: rest => some (.null, rest)
  | 't' :: 'r' :: 'u' :: 'e' :: rest => some (.bool true, rest)
  | 'f' :: 'a' :: 'l' :: 's' :: 'e' :: rest => some (.bool false, rest)
  | rest => do
    let (numeral, rest) ← Numeral.split? rest
    let number ← numeral.number?
    some (.number number, rest)

/-- The tokens of a text; the fuel bounds their number. -/
def tokensWithin : Nat → List Char → Option (List Token)
  | 0, _ => none
  | fuel + 1, text =>
    match text.dropWhile isBlank with
    | [] => some []
    | rest => do
      let (token, rest) ← token? rest
      let tokens ← tokensWithin fuel rest
      some (token :: tokens)

/-- The tokens of a text. -/
def tokens? (text : List Char) : Option (List Token) :=
  tokensWithin (text.length + 1) text

mutual

/-- Reads a document off the front of the tokens, with so many nestings to spare. -/
def value? : Nat → Nat → List Token → Option (Document × List Token)
  | 0, _, _ => none
  | _ + 1, _, [] => none
  | fuel + 1, spare, token :: rest =>
    match token with
    | .null => some (.null, rest)
    | .bool value => some (.bool value, rest)
    | .number value => some (.number value, rest)
    | .string value => some (.string value, rest)
    | .openList =>
      match spare, rest with
      | 0, _ => none
      | _ + 1, .closeList :: rest => some (.array [], rest)
      | spare + 1, rest => (itemsAfter? fuel spare rest).map fun (items, rest) => (.array items, rest)
    | .openObject =>
      match spare, rest with
      | 0, _ => none
      | _ + 1, .closeObject :: rest => some (.object [], rest)
      | spare + 1, rest =>
        (membersAfter? fuel spare rest).map fun (members, rest) => (.object members, rest)
    | _ => none

/-- Reads the items of a list up to its closing bracket. -/
def itemsAfter? : Nat → Nat → List Token → Option (List Document × List Token)
  | 0, _, _ => none
  | fuel + 1, spare, tokens =>
    match value? fuel spare tokens with
    | some (item, .comma :: rest) =>
      (itemsAfter? fuel spare rest).map fun (items, rest) => (item :: items, rest)
    | some (item, .closeList :: rest) => some ([item], rest)
    | _ => none

/-- Reads the members of an object up to its closing brace. -/
def membersAfter? : Nat → Nat → List Token → Option (List (String × Document) × List Token)
  | 0, _, _ => none
  | fuel + 1, spare, .string key :: .colon :: rest =>
    match value? fuel spare rest with
    | some (value, .comma :: rest) =>
      (membersAfter? fuel spare rest).map fun (members, rest) => ((key, value) :: members, rest)
    | some (value, .closeObject :: rest) => some ([(key, value)], rest)
    | _ => none
  | _ + 1, _, _ => none

end

/-- Reads a document that makes up the whole text; keys may come repeatedly. -/
def written? (text : List Char) : Option Document := do
  let tokens ← tokens? text
  match value? (2 * tokens.length + 2) nestingLimit tokens with
  | some (document, []) => some document
  | _ => none

mutual

/-- The document with every key of an object once, at its first place and with its last value. -/
def settled : Document → Document
  | .array items => .array (settledItems items)
  | .object members => .object (Members.ofList (settledMembers members))
  | .null => .null
  | .bool value => .bool value
  | .number value => .number value
  | .string value => .string value

/-- Every item of a list settled. -/
def settledItems : List Document → List Document
  | [] => []
  | item :: items => settled item :: settledItems items

/-- Every value of an object settled. -/
def settledMembers : Members → Members
  | [] => []
  | (key, value) :: members => (key, settled value) :: settledMembers members

end

/-- Reads a document that makes up the whole text. -/
def read? (text : List Char) : Option Document := (written? text).map settled

/-- Reads a document that makes up the whole text. -/
def ofText? (text : String) : Option Document := read? text.toList

end Document

end Intake
