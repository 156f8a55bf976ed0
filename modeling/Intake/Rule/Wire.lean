import Intake.Document.Basic
import Intake.Rule.RuleSet

/-! # Rule sets as documents

A rule set is written as an object with the texts of its tokens, where an empty phase is left out.
It is read from such an object, whatever else that holds, or from a list of the phases in order, of
which the last ones may be missing. No cast may also be written as null.
-/

namespace Intake.RuleSet

/-- The tokens of a phase as a document. -/
def tokenDocuments (tokens : List Token) : List Document :=
  tokens.map fun token => .string token.text

/-- A rule set as a document. -/
def toDocument (rules : RuleSet) : Document :=
  .object <|
    Members.optional "cast" (rules.cast?.map fun token => .string token.text)
      ++ Members.list "sanitize" (tokenDocuments rules.sanitize)
      ++ Members.list "transform" (tokenDocuments rules.transform)
      ++ Members.list "validate" (tokenDocuments rules.validate)

/-- The token that a document stands for. -/
def readToken? (document : Document) : Option Token :=
  document.string?.map Token.ofText

/-- The cast that a document stands for, which may be none. -/
def readCast? : Option Document → Option (Option Token)
  | none | some .null => some none
  | some document => (readToken? document).map some

/-- The tokens that a document stands for, none if it is missing. -/
def readTokens? : Option Document → Option (List Token)
  | none => some []
  | some document => document.items?.bind fun items => items.mapM readToken?

/-- The rule set whose phases stand for the given documents. -/
def ofPhases? (cast sanitize transform validate : Option Document) : Option RuleSet := do
  return {
    cast? := ← readCast? cast
    sanitize := ← readTokens? sanitize
    transform := ← readTokens? transform
    validate := ← readTokens? validate }

/-- The rule set that a document stands for. -/
def ofDocument? : Document → Option RuleSet
  | .object members =>
    let phase (key : String) := Members.find? members key
    ofPhases? (phase "cast") (phase "sanitize") (phase "transform") (phase "validate")
  | .array items =>
    if items.length ≤ 4 then ofPhases? items[0]? items[1]? items[2]? items[3]? else none
  | _ => none

end Intake.RuleSet
