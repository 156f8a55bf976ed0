import Intake.Engine.Filter
import Intake.Engine.Validator

/-! # The standard rule engine

The phases of a rule set are carried out in order: the cast, the filters that sanitize, those that
transform, and then every validator, so that a value is told all that is wrong with it. Null and
the empty string pass every validator but the one of presence, which keeps fields optional.
-/

namespace Intake.StandardEngine

/-- Casts a value, if there is a cast. -/
def cast (token? : Option Token) (value : Document) : Except Failure Document :=
  match token? with
  | none => .ok value
  | some token =>
    match Cast.find? token.name with
    | none => .error (.ofFault (.unknownRule .cast token.name))
    | some rule => (rule value).mapError .ofComplaint

/-- Applies the filters of a phase one after the other. -/
def filter (phase : Phase) (tokens : List Token) (value : Document) : Except Failure Document :=
  tokens.foldlM
    (fun value token =>
      match Filter.find? token.name with
      | none => .error (.ofFault (.unknownRule phase token.name))
      | some filter => .ok (Filter.apply filter value))
    value

/-- The name of the validator that looks at empty values too. -/
def presenceRule : String := "required"

/-- The value is as good as not given. -/
def isEmptyInput : Document → Bool
  | .null => true
  | .string text => text.isEmpty
  | _ => false

/-- Validates a value by one token. -/
def validateBy (value : Document) (token : Token) : Verdict :=
  match Validator.find? token.name with
  | none => .error (.unknownRule .validate token.name)
  | some validator =>
    if token.name ≠ presenceRule && isEmptyInput value then .ok none
    else validator token.argument? value

/-- All complaints about a value, in the order of the tokens. -/
def complaints (tokens : List Token) (value : Document) : Except RuleFault (List Complaint) :=
  return (← tokens.mapM (validateBy value)).filterMap id

/-- Validates a value by all tokens. -/
def validate (tokens : List Token) (value : Document) : Except Failure Document :=
  match complaints tokens value with
  | .error fault => .error (.ofFault fault)
  | .ok [] => .ok value
  | .ok complaints => .error (.invalid (complaints.map Complaint.message))

/-- Carries out the rules of a field on a value. -/
def process : RuleEngine := fun value rules => do
  let value ← cast rules.cast? value
  let value ← filter .sanitize rules.sanitize value
  let value ← filter .transform rules.transform value
  validate rules.validate value

end Intake.StandardEngine
