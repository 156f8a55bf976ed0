import Intake.Pattern.Escape

/-! # Bracketed sets of a written pattern

Between brackets stand single characters, ranges, escapes, named ASCII sets and further bracketed
sets; two ampersands, hyphens or tildes combine what stands before them with what stands after
them, from left to right. Where case is ignored every bracketed set is closed under case before it
is negated, and so are the two sides of a combination.
-/

namespace Intake.Pattern

open Unicode

/-- A set of characters with the depth of the nesting that it was written with. -/
structure NestedSet where
  set : CodeRanges
  depth : Nat

/-- How two sets are combined. -/
inductive SetOperator where
  | intersection
  | difference
  | symmetricDifference

/-- The combination of two sets. -/
def SetOperator.apply : SetOperator → CodeRanges → CodeRanges → CodeRanges
  | .intersection => CodeRanges.intersection
  | .difference => CodeRanges.difference
  | .symmetricDifference => CodeRanges.symmetricDifference

/-- The ASCII set with the given name. -/
def asciiSet? (name : String) : Option CodeRanges :=
  match name with
  | "alnum" => some (.ofText "30-39 41-5A 61-7A")
  | "alpha" => some (.ofText "41-5A 61-7A")
  | "ascii" => some (.ofText "0-7F")
  | "blank" => some (.ofText "9 20")
  | "cntrl" => some (.ofText "0-1F 7F")
  | "digit" => some (.ofText "30-39")
  | "graph" => some (.ofText "21-7E")
  | "lower" => some (.ofText "61-7A")
  | "print" => some (.ofText "20-7E")
  | "punct" => some (.ofText "21-2F 3A-40 5B-60 7B-7E")
  | "space" => some (.ofText "9-D 20")
  | "upper" => some (.ofText "41-5A")
  | "word" => some (.ofText "30-39 41-5A 5F 61-7A")
  | "xdigit" => some (.ofText "30-39 41-46 61-66")
  | _ => none

/-- The finished set: closed under case where case is ignored, then negated. Only Unicode patterns
may negate. -/
def Options.finish? (options : Options) (negated : Bool) (set : CodeRanges) : Option CodeRanges :=
  let folded := options.fold set
  if !negated then some folded
  else if options.unicode then some folded.complement
  else none

/-- The union of the items of a set. -/
def unionItems (items : List NestedSet) : NestedSet :=
  match items with
  | [] => ⟨.empty, 0⟩
  | [item] => item
  | _ =>
    ⟨CodeRanges.normalize ⟨items.flatMap fun item => item.set.ranges⟩,
      1 + items.foldl (fun depth item => max depth item.depth) 0⟩

/-- The items so far, combined with what stands before them. -/
def combine (options : Options) (left? : Option (SetOperator × NestedSet))
    (items : List NestedSet) : NestedSet :=
  let right := unionItems items
  match left? with
  | none => right
  | some (operator, left) =>
    ⟨operator.apply (options.fold left.set) (options.fold right.set),
      1 + max left.depth right.depth⟩

/-- A named ASCII set after its opening bracket, which counts as one only if it is complete.
The result says whether the name denotes a set at all. -/
def asciiItem? : List Char → Option (Bool × CodeRanges × List Char)
  | ':' :: rest =>
    let (negated, rest) := match rest with
      | '^' :: rest => (true, rest)
      | _ => (false, rest)
    let name := rest.takeWhile (· != ':')
    match rest.drop name.length with
    | ':' :: ']' :: rest => (asciiSet? (String.ofList name)).map (negated, ·, rest)
    | _ => none
  | _ => none

/-- The code of a literal as a member of a set. Without Unicode it must be ASCII. -/
def Options.literalInSet? (options : Options) (code : Nat) : Option Nat :=
  if options.unicode || code < 0x80 then some code else none

/-- Splits one character or escape off the front of the inside of a set. -/
def setAtom? (options : Options) : List Char → Option (Atom × List Char)
  | [] => none
  | '\\' :: rest => escape? options rest
  | c :: rest => some (.literal c.toNat false, rest)

/-- What follows a hyphen, blanks and comments skipped. -/
def afterHyphen? (options : Options) (rest : List Char) : Option Char :=
  if !options.spaced then rest.head?
  else
    match rest.dropWhile Text.isBlank with
    | '#' :: rest => (rest.dropWhile Text.isBlank).head?
    | rest => rest.head?

/-- Splits a character, a range or an escape off the front of the inside of a set. A hyphen makes
a range unless a closing bracket or another hyphen follows it. -/
def setRange? (options : Options) (text : List Char) : Option (CodeRanges × List Char) := do
  let (first, rest) ← setAtom? options text
  let single? : Option CodeRanges := match first with
    | .literal code _ => (options.literalInSet? code).map .single
    | .set set => some set
    | .assertion _ => none
  match options.skip rest with
  | [] => none
  | '-' :: rest =>
    let next? := afterHyphen? options rest
    if next? == some ']' || next? == some '-' then
      some (← single?, '-' :: rest)
    else
      match options.skip rest with
      | [] => none
      | rest => do
        let (last, rest) ← setAtom? options rest
        match first, last with
        | .literal first _, .literal last _ =>
          let first ← options.literalInSet? first
          let last ← options.literalInSet? last
          if first ≤ last then some (⟨[(first, last)]⟩, rest) else none
        | _, _ => none
  | rest => some (← single?, rest)

/-- Splits leading hyphens, which stand for themselves, off the front of the inside of a set. -/
def leadingHyphens (options : Options) : Nat → List Char → List NestedSet × List Char
  | 0, text => ([], text)
  | fuel + 1, text =>
    match text with
    | '-' :: rest =>
      let (items, rest) := leadingHyphens options fuel (options.skip rest)
      (⟨.single '-'.toNat, 0⟩ :: items, rest)
    | _ => ([], text)

/-- What stands at the start of a set: whether it is negated, and the items that stand for
themselves only there, hyphens or else one closing bracket. -/
def opening (options : Options) (text : List Char) : Bool × List NestedSet × List Char :=
  let text := options.skip text
  let (negated, text) := match text with
    | '^' :: rest => (true, options.skip rest)
    | _ => (false, text)
  let (items, text) := leadingHyphens options (text.length + 1) text
  match items, text with
  | [], ']' :: rest => (negated, [⟨.single ']'.toNat, 0⟩], options.skip rest)
  | _, _ => (negated, items, text)

/-- Splits the rest of a bracketed set off the front of the text, given what stands before the last
operator and the items after it; the result is not yet closed under case or negated. -/
def setBody? (options : Options) :
    Nat → Option (SetOperator × NestedSet) → List NestedSet → List Char →
      Option (NestedSet × List Char)
  | 0, _, _, _ => none
  | fuel + 1, left?, items, text =>
    match options.skip text with
    | [] => none
    | ']' :: rest => some (combine options left? items, rest)
    | '&' :: '&' :: rest =>
      setBody? options fuel (some (.intersection, combine options left? items)) [] rest
    | '-' :: '-' :: rest =>
      setBody? options fuel (some (.difference, combine options left? items)) [] rest
    | '~' :: '~' :: rest =>
      setBody? options fuel (some (.symmetricDifference, combine options left? items)) [] rest
    | '[' :: rest =>
      match asciiItem? rest with
      | some (negated, set, rest) => do
        let set ← options.finish? negated set
        setBody? options fuel left? (items ++ [⟨set, 0⟩]) rest
      | none => do
        let (negated, start, rest) := opening options rest
        let (inner, rest) ← setBody? options fuel none start rest
        let set ← options.finish? negated inner.set
        setBody? options fuel left? (items ++ [⟨set, 1 + inner.depth⟩]) rest
    | text => do
      let (set, rest) ← setRange? options text
      setBody? options fuel left? (items ++ [⟨set, 0⟩]) rest

/-- Splits a bracketed set, after its opening bracket, off the front of the text. -/
def bracket? (options : Options) (text : List Char) : Option (NestedSet × List Char) := do
  let (negated, start, rest) := opening options text
  let (inner, rest) ← setBody? options (rest.length + 1) none start rest
  let set ← options.finish? negated inner.set
  some (⟨set, 1 + inner.depth⟩, rest)

end Intake.Pattern
