import Intake.Schema.Error

/-! # Keywords of a schema

Each keyword has a value of one type. An absent keyword is fine; a value of another type, null
included, is a fault.
-/

namespace Intake.Keyword

/-- The fault of a keyword whose value has the wrong type. -/
def unexpected {α : Type} (key : String) (expected : Expectation) : Except SchemaFault α :=
  .error (.unexpectedValue key expected)

/-- The value of a keyword as far as `read?` accepts it. -/
def optional {α : Type} (read? : Document → Option α) (expected : Expectation)
    (members : Members) (key : String) : Except SchemaFault (Option α) :=
  match members.find? key with
  | none => .ok none
  | some value =>
    match read? value with
    | some result => .ok (some result)
    | none => unexpected key expected

/-- A string. -/
def string (members : Members) (key : String) : Except SchemaFault (Option String) :=
  optional Document.string? .string members key

/-- A number. -/
def number (members : Members) (key : String) : Except SchemaFault (Option Number) :=
  optional Document.number? .number members key

/-- A count: an integer that is not negative. -/
def count (members : Members) (key : String) : Except SchemaFault (Option Nat) :=
  optional (fun value => value.number?.bind Number.toUnsigned?) .nonNegativeInteger members key

/-- A list of documents. -/
def list (members : Members) (key : String) : Except SchemaFault (Option (List Document)) :=
  optional Document.items? .array members key

/-- A flag, which is off unless it is set. -/
def flag (members : Members) (key : String) : Except SchemaFault Bool :=
  return (← optional Document.bool? .boolean members key).getD false

/-- A list of strings that stands under a given keyword. -/
def strings (items : List Document) (key : String) : Except SchemaFault (List String) :=
  items.mapM fun item =>
    match item with
    | .string value => .ok value
    | _ => .error (.entryNotAString key)

end Intake.Keyword
