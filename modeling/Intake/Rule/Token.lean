/-! # Rule tokens

A token is an instruction to the rule engine: a name and perhaps an argument. As text the two stand
around the first colon, so an argument may hold colons and a name may not.
-/

namespace Intake

/-- An instruction to the rule engine. -/
structure Token where
  name : String
  argument? : Option String
deriving DecidableEq, Repr

namespace Token

/-- A token without an argument. -/
def plain (name : String) : Token := ⟨name, none⟩

/-- A token with an argument. -/
def withArgument (name argument : String) : Token := ⟨name, some argument⟩

/-- The token that a text stands for. -/
def ofText (text : String) : Token :=
  let name := String.ofList (text.toList.takeWhile (· != ':'))
  match text.toList.dropWhile (· != ':') with
  | [] => ⟨name, none⟩
  | _ :: argument => ⟨name, some (String.ofList argument)⟩

/-- The text of a token. -/
def text (token : Token) : String :=
  match token.argument? with
  | none => token.name
  | some argument => token.name ++ ":" ++ argument

end Token

end Intake
