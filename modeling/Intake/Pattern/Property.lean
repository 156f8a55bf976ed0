import Intake.Unicode.Property
import Intake.Unicode.Script
import Intake.Unicode.ScriptExtensions

/-! # Looking a property of characters up by name

Names are compared without regard to case, blanks, hyphens and underscores, and a leading `is` is
ignored. A name alone may be that of a property, of a general category or of a script; a name with
a value picks a category, a script or the extensions of a script.
-/

namespace Intake.Pattern

open Unicode

/-- The form of a name that is compared. -/
def comparableName (name : List Char) : String :=
  let (hasIs, stem) := match name with
    | i :: s :: rest => if i.toLower = 'i' && s.toLower = 's' then (true, rest) else (false, name)
    | _ => (false, name)
  let kept := stem.filter fun c => c.toNat < 0x80 && c != ' ' && c != '_' && c != '-'
  let folded := kept.map Char.toLower
  if hasIs && folded == ['c'] then "isc" else String.ofList folded

/-- The characters of a general category or a class of categories. -/
def category? (name : String) : Option CodeRanges :=
  match name with
  | "any" => some CodeRanges.empty.complement
  | "ascii" => some ⟨[(0, 0x7F)]⟩
  | "assigned" => some assigned
  | "cn" => some assigned.complement
  | "unassigned" => some assigned.complement
  | "c" => some ((unionOf categories ["cc", "cf", "co"]).union assigned.complement)
  | "other" => some ((unionOf categories ["cc", "cf", "co"]).union assigned.complement)
  | _ =>
    match categoryClasses.find? fun entry => entry.1.contains name with
    | some (_, members) => some (unionOf categories members)
    | none => namedRanges? categories name

/-- The characters that a name alone stands for. Three short names are those of categories and not
of properties. -/
def named? (name : List Char) : Option CodeRanges :=
  let name := comparableName name
  let property? := if ["cf", "sc", "lc"].contains name then none else namedRanges? properties name
  property? <|> category? name <|> namedRanges? scripts name

/-- The characters that a name with a value stands for. -/
def valued? (name value : List Char) : Option CodeRanges :=
  let value := comparableName value
  match comparableName name with
  | "gc" => category? value
  | "generalcategory" => category? value
  | "sc" => namedRanges? scripts value
  | "script" => namedRanges? scripts value
  | "scx" => namedRanges? scriptExtensions value
  | "scriptextensions" => namedRanges? scriptExtensions value
  | _ => none

/-- Splits a text at the first place where a separator stands. -/
def splitAt? (separator : List Char) : List Char → Option (List Char × List Char)
  | [] => none
  | c :: rest =>
    if separator.isPrefixOf (c :: rest) then some ([], (c :: rest).drop separator.length)
    else (splitAt? separator rest).map fun (before, after) => (c :: before, after)

/-- The characters that the text between the braces of a property stands for. -/
def bracedProperty? (text : List Char) : Option CodeRanges :=
  match splitAt? ['!', '='] text with
  | some (name, value) => (valued? name value).map CodeRanges.complement
  | none =>
    match splitAt? [':'] text with
    | some (name, value) => valued? name value
    | none =>
      match splitAt? ['='] text with
      | some (name, value) => valued? name value
      | none => named? text

end Intake.Pattern
