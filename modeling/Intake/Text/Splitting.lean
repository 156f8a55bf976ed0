/-! # Splitting at a separator

A text is cut at every occurrence of a separator, found from left to right without overlap.
-/

namespace Intake.Text

/-- The segments of a text, the first of which starts with `segment` in reverse; the next `skip`
characters belong to a separator. -/
def splitFrom (separator : List Char) : Nat → List Char → List Char → List (List Char)
  | _, segment, [] => [segment.reverse]
  | skip + 1, segment, _ :: rest => splitFrom separator skip segment rest
  | 0, segment, c :: rest =>
    if separator.isPrefixOf (c :: rest) then
      segment.reverse :: splitFrom separator (separator.length - 1) [] rest
    else splitFrom separator 0 (c :: segment) rest

/-- The segments between the separators of a text. -/
def splitAt (separator text : List Char) : List (List Char) :=
  splitFrom separator 0 [] text

end Intake.Text
