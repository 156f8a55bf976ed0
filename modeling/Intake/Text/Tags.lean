/-! # Tags

A tag is an opening angle bracket and everything up to the next closing one. Tags are dropped from
left to right; a bracket that is never closed is text.
-/

namespace Intake.Text

/-- Drops the tags of a text that starts inside or outside a tag. -/
def withoutTags : Bool → List Char → List Char
  | _, [] => []
  | true, c :: rest => withoutTags (c != '>') rest
  | false, c :: rest =>
    if c = '<' && rest.contains '>' then withoutTags true rest else c :: withoutTags false rest

/-- Drops the tags of a text. -/
def stripTags (text : String) : String :=
  String.ofList (withoutTags false text.toList)

end Intake.Text
