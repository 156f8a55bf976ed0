import Intake.Text.Splitting

/-! # Scopes

A scope points to a property within nested objects: it is the names on the way, each after
`/properties/`, starting from the root `#`. In a name a tilde is written `~0` and a slash `~1`.
-/

namespace Intake.Scope

/-- What stands before every name but the first. -/
def separator : List Char := "/properties/".toList

/-- What stands before the first name. -/
def head : List Char := "#/properties/".toList

/-- A name as it is written in a scope. -/
def encodeName : List Char → List Char
  | [] => []
  | '~' :: rest => '~' :: '0' :: encodeName rest
  | '/' :: rest => '~' :: '1' :: encodeName rest
  | c :: rest => c :: encodeName rest

/-- The name that a segment of a scope stands for; a tilde before any other character is itself. -/
def decodeName : List Char → List Char
  | [] => []
  | '~' :: '0' :: rest => '~' :: decodeName rest
  | '~' :: '1' :: rest => '/' :: decodeName rest
  | c :: rest => c :: decodeName rest

/-- The names that a scope leads through; none of them may be empty. -/
def path? (scope : String) : Option (List String) := do
  let rest ← head.isPrefixOf? scope.toList
  let names := (Text.splitAt separator rest).map decodeName
  if names.any List.isEmpty then none else some (names.map String.ofList)

/-- The scope of a path of names. -/
def ofPath (names : List String) : String :=
  let segments := names.map fun name => encodeName name.toList
  String.ofList (head ++ List.intercalate separator segments)

/-- The name of the property of the root that a scope points to. -/
def topLevelName? (scope : String) : Option String :=
  match path? scope with
  | some [name] => some name
  | _ => none

end Intake.Scope
