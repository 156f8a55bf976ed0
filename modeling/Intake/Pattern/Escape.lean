import Intake.Document.Reader
import Intake.Pattern.Basic
import Intake.Pattern.Property
import Intake.Text.Blank
import Intake.Unicode.Folding

/-! # Escapes of a written pattern

A backslash introduces a literal character, a set of characters or an assertion. Which escapes are
allowed and what they mean depends on the options in force.
-/

namespace Intake.Pattern

open Unicode

/-- The options in force at a place of a written pattern. -/
structure Options where
  caseless : Bool
  multiLine : Bool
  dotAll : Bool
  crlf : Bool
  unicode : Bool
  /-- Blanks and comments are skipped. -/
  spaced : Bool
deriving DecidableEq, Repr

/-- The options at the start of a pattern. -/
def Options.initial : Options := ⟨false, false, false, false, true, false⟩

/-- Drops blanks and comments; a comment runs from a number sign to the end of the line. -/
def dropSpaced (inComment : Bool) : List Char → List Char
  | [] => []
  | c :: rest =>
    if inComment then dropSpaced (c != '\n') rest
    else if Text.isBlank c then dropSpaced false rest
    else if c = '#' then dropSpaced true rest
    else c :: rest

/-- Drops blanks and comments where the options say so. -/
def Options.skip (options : Options) (text : List Char) : List Char :=
  if options.spaced then dropSpaced false text else text

/-- The set, closed under case where case is ignored. -/
def Options.fold (options : Options) (set : CodeRanges) : CodeRanges :=
  if !options.caseless then set
  else if options.unicode then set.caseClosure
  else set.asciiCaseClosure

/-- What an escape or a single character of a written pattern stands for. -/
inductive Atom where
  /-- A character; `octet` if it was written as two hexadecimal digits. -/
  | literal (code : Nat) (octet : Bool)
  | set (set : CodeRanges)
  | assertion (condition : Assertion)

/-- Punctuation that may always be escaped. -/
def isMeta (c : Char) : Bool :=
  "\\.+*?()|[]\x7b\x7d^$#&-~".toList.contains c

/-- The character stands for itself after a backslash. -/
def isEscapable (c : Char) : Bool :=
  isMeta c || (c.toNat < 0x80 && !c.isAlphanum && c != '<' && c != '>')

/-- Splits exactly `count` hexadecimal digits off the front of the text. -/
def hexDigits? (options : Options) (value : Nat) : Nat → List Char → Option (Nat × List Char)
  | 0, text => some (value, text)
  | _ + 1, [] => none
  | count + 1, c :: rest =>
    (Document.hexDigit? c).bind fun digit =>
      hexDigits? options (value * 16 + digit) count (options.skip rest)

/-- Splits the text up to a closing brace off the front, blanks and comments dropped. -/
def untilBrace? (options : Options) : Nat → List Char → Option (List Char × List Char)
  | 0, _ => none
  | fuel + 1, text =>
    match options.skip text with
    | [] => none
    | '\x7d' :: rest => some ([], rest)
    | c :: rest => (untilBrace? options fuel rest).map fun (inside, rest) => (c :: inside, rest)

/-- Splits the text between two braces off the front. -/
def braced? (options : Options) (text : List Char) : Option (List Char × List Char) :=
  untilBrace? options (text.length + 1) text

/-- Splits a character in hexadecimal off the front of the text: in braces, or of a fixed width. -/
def hexEscape? (options : Options) (width : Nat) (text : List Char) : Option (Atom × List Char) :=
  match options.skip text with
  | '\x7b' :: rest => do
    let (digits, rest) ← braced? options rest
    let code ← Document.hexValue? digits
    if digits.isEmpty || !code.isValidChar then none
    some (.literal code false, options.skip rest)
  | rest => do
    let (code, rest) ← hexDigits? options 0 width rest
    if code.isValidChar then some (.literal code (width == 2), rest) else none

/-- Splits a property of characters off the front of the text: in braces, or of one letter. -/
def propertyEscape? (options : Options) (negated : Bool) (text : List Char) :
    Option (Atom × List Char) := do
  let (set, rest) ← match options.skip text with
    | [] => none
    | '\x7b' :: rest => do
      let (name, rest) ← braced? options rest
      some (← bracedProperty? name, rest)
    | '\\' :: _ => none
    | c :: rest => do some (← named? [c], options.skip rest)
  if !options.unicode then none
  let folded := options.fold set
  some (.set (if negated then folded.complement else folded), rest)

/-- A set of characters or its complement, which only Unicode patterns may use. -/
def classEscape? (options : Options) (negated : Bool) (set : CodeRanges) : Option Atom :=
  if !negated then some (.set set)
  else if options.unicode then some (.set set.complement)
  else none

/-- The assertion named between braces after a word boundary. -/
def namedBoundary? (unicode : Bool) (name : String) : Option Assertion :=
  match name with
  | "start" => some (.wordStart unicode)
  | "end" => some (.wordEnd unicode)
  | "start-half" => some (.wordStartHalf unicode)
  | "end-half" => some (.wordEndHalf unicode)
  | _ => none

/-- The character may stand in the name of a word boundary. -/
def isBoundaryNameChar (c : Char) : Bool := c.isAlpha || c == '-'

/-- Splits the name of a word boundary off the front of the text. -/
def boundaryName (options : Options) : Nat → List Char → List Char × List Char
  | 0, text => ([], text)
  | fuel + 1, text =>
    match text with
    | [] => ([], [])
    | c :: rest =>
      if isBoundaryNameChar c then
        let (name, rest) := boundaryName options fuel (options.skip rest)
        (c :: name, rest)
      else ([], c :: rest)

/-- Splits the rest of a word boundary off the front of the text: a name in braces makes it one of
the directed assertions, and braces that cannot hold a name are left to a repetition. -/
def boundaryEscape? (options : Options) (text : List Char) : Option (Atom × List Char) :=
  match text with
  | '\x7b' :: rest =>
    match options.skip rest with
    | [] => none
    | c :: inside =>
      if !isBoundaryNameChar c then
        some (.assertion (.wordBoundary options.unicode false), text)
      else
        match boundaryName options (inside.length + 2) (c :: inside) with
        | (name, '\x7d' :: rest) =>
          (namedBoundary? options.unicode (String.ofList name)).map fun condition =>
            (.assertion condition, rest)
        | _ => none
  | _ => some (.assertion (.wordBoundary options.unicode false), text)

/-- Splits an escape, after its backslash, off the front of the text. -/
def escape? (options : Options) : List Char → Option (Atom × List Char)
  | [] => none
  | 'x' :: rest => hexEscape? options 2 rest
  | 'u' :: rest => hexEscape? options 4 rest
  | 'U' :: rest => hexEscape? options 8 rest
  | 'p' :: rest => propertyEscape? options false rest
  | 'P' :: rest => propertyEscape? options true rest
  | 'd' :: rest => (classEscape? options false (digits options.unicode)).map (·, rest)
  | 'D' :: rest => (classEscape? options true (digits options.unicode)).map (·, rest)
  | 's' :: rest => (classEscape? options false (blanks options.unicode)).map (·, rest)
  | 'S' :: rest => (classEscape? options true (blanks options.unicode)).map (·, rest)
  | 'w' :: rest => (classEscape? options false (wordCharacters options.unicode)).map (·, rest)
  | 'W' :: rest => (classEscape? options true (wordCharacters options.unicode)).map (·, rest)
  | 'a' :: rest => some (.literal 0x07 false, rest)
  | 'f' :: rest => some (.literal 0x0C false, rest)
  | 't' :: rest => some (.literal 0x09 false, rest)
  | 'n' :: rest => some (.literal 0x0A false, rest)
  | 'r' :: rest => some (.literal 0x0D false, rest)
  | 'v' :: rest => some (.literal 0x0B false, rest)
  | 'A' :: rest => some (.assertion .textStart, rest)
  | 'z' :: rest => some (.assertion .textEnd, rest)
  | 'b' :: rest => boundaryEscape? options rest
  | 'B' :: rest => some (.assertion (.wordBoundary options.unicode true), rest)
  | '<' :: rest => some (.assertion (.wordStart options.unicode), rest)
  | '>' :: rest => some (.assertion (.wordEnd options.unicode), rest)
  | c :: rest => if isEscapable c then some (.literal c.toNat false, rest) else none

end Intake.Pattern
