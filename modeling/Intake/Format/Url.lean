import Intake.Text.Blank

/-! # Absolute addresses of resources

An address is a scheme, a colon with two slashes, and a rest without blanks that starts with an
authority of at least one character. A scheme is a letter and then letters, digits and signs.
-/

namespace Intake.Url

/-- The character may stand in a scheme, though not at its start. -/
def isSchemeChar (c : Char) : Bool := c.isAlphanum || c == '+' || c == '.' || c == '-'

/-- The text is a scheme. -/
def isScheme (text : List Char) : Bool :=
  match text with
  | [] => false
  | first :: rest => first.isAlpha && rest.all isSchemeChar

/-- The character ends an authority. -/
def isDelimiter (c : Char) : Bool := c == '/' || c == '?' || c == '#'

/-- The text starts with an authority and holds no blank. -/
def isHierarchy (text : List Char) : Bool :=
  !text.any Text.isBlank && text.head?.any fun c => !isDelimiter c

/-- The scheme of an address, if the text is one. -/
def scheme? (text : String) : Option String :=
  let scheme := text.toList.takeWhile (· != ':')
  match text.toList.dropWhile (· != ':') with
  | ':' :: '/' :: '/' :: rest =>
    if isScheme scheme && isHierarchy rest then some (String.ofList scheme) else none
  | _ => none

/-- The text is an address. -/
def isValid (text : String) : Bool := (scheme? text).isSome

/-- Addresses of resources as a pattern. -/
def source : String :=
  "^(?P<scheme>[A-Za-z][A-Za-z0-9+.-]*)://[^\\s/?#]+(?:[/?#][^\\s]*)?$"

end Intake.Url
