/-! # Sets of code points as ranges

A property of characters is given by its ranges of code points in ascending order. The text form
writes them in hexadecimal, separated by blanks or line breaks, a range of several as its two ends
with a hyphen between. Set operations keep the ranges ascending, disjoint and apart.
-/

namespace Intake.Unicode

/-- A set of code points: pairs of the first and the last of each range, both included. -/
structure CodeRanges where
  ranges : List (Nat × Nat)
deriving DecidableEq, Repr

namespace CodeRanges

/-- The greatest code point. -/
def lastCode : Nat := 0x10FFFF

/-- The code point lies in one of the ranges. -/
def containsCode (set : CodeRanges) (code : Nat) : Bool :=
  set.ranges.any fun (first, last) => first ≤ code && code ≤ last

/-- The character lies in one of the ranges. -/
def contains (set : CodeRanges) (c : Char) : Bool :=
  set.containsCode c.toNat

/-- Reading state: the ends of the range in progress. -/
structure Cursor where
  first? : Option Nat
  code? : Option Nat
  done : List (Nat × Nat)

/-- The value of an upper-case hexadecimal digit. -/
def hexValue (c : Char) : Nat :=
  if c.isDigit then c.toNat - '0'.toNat else c.toNat - 'A'.toNat + 10

/-- Ends the range in progress, if there is one. -/
def Cursor.finish (cursor : Cursor) : Cursor :=
  match cursor.code? with
  | none => cursor
  | some code => ⟨none, none, (cursor.first?.getD code, code) :: cursor.done⟩

/-- Reads one character of the text form. -/
def Cursor.step (cursor : Cursor) (c : Char) : Cursor :=
  if c = ' ' || c = '\n' then cursor.finish
  else if c = '-' then ⟨cursor.code?, none, cursor.done⟩
  else ⟨cursor.first?, some (cursor.code?.getD 0 * 16 + hexValue c), cursor.done⟩

/-- The set that a text form denotes. -/
def ofText (text : String) : CodeRanges :=
  ⟨(text.toList.foldl Cursor.step ⟨none, none, []⟩).finish.done.reverse⟩

/-- The set of one code point. -/
def single (code : Nat) : CodeRanges := ⟨[(code, code)]⟩

/-- The set of no code point. -/
def empty : CodeRanges := ⟨[]⟩

/-- Puts a range in front of ranges that start no earlier, joining those it meets or touches. -/
def join (first last : Nat) : List (Nat × Nat) → List (Nat × Nat)
  | [] => [(first, last)]
  | (nextFirst, nextLast) :: rest =>
    if nextFirst ≤ last + 1 then join first (max last nextLast) rest
    else (first, last) :: join nextFirst nextLast rest

/-- The ranges in ascending order, those that meet or touch joined. -/
def normalize (set : CodeRanges) : CodeRanges :=
  match set.ranges.mergeSort fun left right => left.1 ≤ right.1 with
  | [] => empty
  | (first, last) :: rest => ⟨join first last rest⟩

/-- The code points that lie in one of two sets. -/
def union (left right : CodeRanges) : CodeRanges :=
  normalize ⟨left.ranges ++ right.ranges⟩

/-- The gaps between ascending ranges from a code point on. -/
def gaps (start : Nat) : List (Nat × Nat) → List (Nat × Nat)
  | [] => if start ≤ lastCode then [(start, lastCode)] else []
  | (first, last) :: rest =>
    if start < first then (start, first - 1) :: gaps (last + 1) rest else gaps (last + 1) rest

/-- The code points outside a set. -/
def complement (set : CodeRanges) : CodeRanges :=
  ⟨gaps 0 set.normalize.ranges⟩

/-- The code points that lie in both sets. -/
def intersection (left right : CodeRanges) : CodeRanges :=
  complement (union (complement left) (complement right))

/-- The code points of the first set that do not lie in the second. -/
def difference (left right : CodeRanges) : CodeRanges :=
  intersection left (complement right)

/-- The code points that lie in exactly one of two sets. -/
def symmetricDifference (left right : CodeRanges) : CodeRanges :=
  union (difference left right) (difference right left)

/-- Every code point of the set is one of ASCII. -/
def isAscii (set : CodeRanges) : Bool :=
  set.ranges.all fun (_, last) => last < 0x80

end CodeRanges

end Intake.Unicode
