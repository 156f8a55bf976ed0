import Intake.Format.Hostname

/-! # Mail addresses

An address is a local part, an at sign and a domain. The local part is one or more letters, digits
and signs of ASCII; the domain is two or more labels of a host name with points between them.
-/

namespace Intake.Email

/-- The signs that may stand in a local part. -/
def localSigns : List Char := ".!#$%&'*+/=?^_\x60\x7b|\x7d~-".toList

/-- The character may stand in a local part. -/
def isLocalChar (c : Char) : Bool := c.isAlphanum || localSigns.contains c

/-- The text is a local part. -/
def isLocalPart (text : List Char) : Bool := !text.isEmpty && text.all isLocalChar

/-- The text is a domain. -/
def isDomain (text : List Char) : Bool :=
  Hostname.isDotted text && 2 ≤ (Hostname.labels text).length

/-- The text is a mail address. -/
def isValid (text : String) : Bool :=
  isLocalPart (text.toList.takeWhile (· != '@')) &&
    match text.toList.dropWhile (· != '@') with
    | [] => false
    | _ :: domain => isDomain domain

/-- Mail addresses as a pattern. -/
def source : String :=
  "^[A-Za-z0-9" ++ String.ofList localSigns ++ "]+@" ++ Hostname.labelSource ++ "(?:\\."
    ++ Hostname.labelSource ++ ")+$"

end Intake.Email
