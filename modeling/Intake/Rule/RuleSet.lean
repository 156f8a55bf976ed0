import Intake.Rule.Token

/-! # Rule sets

The rules of a field are carried out in four phases: one cast at most, then tokens that sanitize,
that transform and that validate, each in order.
-/

namespace Intake

/-- The phases in the order in which they are carried out. -/
inductive Phase where
  | cast
  | sanitize
  | transform
  | validate
deriving DecidableEq, Repr

namespace Phase

/-- All phases. -/
def all : List Phase := [.cast, .sanitize, .transform, .validate]

/-- The name of a phase. -/
def text : Phase → String
  | .cast => "cast"
  | .sanitize => "sanitize"
  | .transform => "transform"
  | .validate => "validate"

/-- The phase that a text names. -/
def ofText? (text : String) : Option Phase :=
  all.find? fun phase => phase.text == text

end Phase

/-- The rules of one field. -/
structure RuleSet where
  cast? : Option Token
  sanitize : List Token
  transform : List Token
  validate : List Token
deriving DecidableEq, Repr

namespace RuleSet

/-- No rules. -/
def empty : RuleSet := ⟨none, [], [], []⟩

/-- The tokens of one phase. -/
def tokens (rules : RuleSet) : Phase → List Token
  | .cast => rules.cast?.toList
  | .sanitize => rules.sanitize
  | .transform => rules.transform
  | .validate => rules.validate

/-- Appends a token to a phase; a cast takes the place of the one before. -/
def push (rules : RuleSet) (phase : Phase) (token : Token) : RuleSet :=
  match phase with
  | .cast => { rules with cast? := some token }
  | .sanitize => { rules with sanitize := rules.sanitize ++ [token] }
  | .transform => { rules with transform := rules.transform ++ [token] }
  | .validate => { rules with validate := rules.validate ++ [token] }

/-- Appends a token that the phase does not hold yet. -/
def pushUnique (rules : RuleSet) (phase : Phase) (token : Token) : RuleSet :=
  if (rules.tokens phase).contains token then rules else rules.push phase token

/-- Appends the tokens of further rules, whose cast only counts if there is none yet. -/
def merge (rules further : RuleSet) : RuleSet where
  cast? := rules.cast?.or further.cast?
  sanitize := rules.sanitize ++ further.sanitize
  transform := rules.transform ++ further.transform
  validate := rules.validate ++ further.validate

/-- The names of the tokens that validate. -/
def validatorNames (rules : RuleSet) : List String := rules.validate.map Token.name

/-- A token that validates has the given name. -/
def hasValidator (rules : RuleSet) (name : String) : Bool := rules.validatorNames.contains name

/-- No phase holds a token. -/
def isEmpty (rules : RuleSet) : Bool :=
  rules.cast?.isNone && rules.sanitize.isEmpty && rules.transform.isEmpty && rules.validate.isEmpty

end RuleSet

end Intake
