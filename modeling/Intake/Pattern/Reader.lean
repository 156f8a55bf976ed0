import Intake.Pattern.Bracket
import Intake.Pattern.Repetition

/-! # Reading a written pattern

A written pattern is read from left to right. Groups are kept on a stack of what they interrupt,
and the options that a group switches on or off end with the group. References back to a group and
looking around a position are not part of the language. Nesting goes at most 250 deep.
-/

namespace Intake.Pattern

open Unicode

/-- The deepest nesting of a written pattern. -/
def nestingLimit : Nat := 250

/-- A pattern with the depth of the nesting that it was written with. -/
structure NestedPattern where
  pattern : Pattern
  depth : Nat

/-- One item of a sequence: a pattern, or a switch of options, which cannot be repeated. -/
inductive Item where
  | pattern (nested : NestedPattern)
  | switch

/-- What an open group interrupts. -/
structure Frame where
  /-- The items before the group, the last one first. -/
  items : List Item
  /-- The finished alternatives before them, the last one first. -/
  alternatives : List NestedPattern
  options : Options
  /-- The group is numbered. -/
  numbered : Bool

/-- The state of reading between two items. -/
structure ReadState where
  text : List Char
  options : Options
  items : List Item
  alternatives : List NestedPattern
  frames : List Frame
  /-- The names of the groups so far. -/
  names : List (List Char)

/-- The pattern of an item; a switch of options matches the empty text. -/
def Item.nested : Item → NestedPattern
  | .pattern nested => nested
  | .switch => ⟨.empty, 0⟩

/-- The sequence of the items, given the last one first. -/
def sequenceItems (items : List Item) : NestedPattern :=
  match items with
  | [item] => item.nested
  | _ =>
    let parts := items.reverse.map Item.nested
    ⟨sequenceOf (parts.map (·.pattern)),
      if parts.isEmpty then 0 else 1 + parts.foldl (fun depth part => max depth part.depth) 0⟩

/-- The choice between the alternatives, given the last one first. -/
def choiceItems (alternatives : List NestedPattern) : NestedPattern :=
  match alternatives with
  | [alternative] => alternative
  | _ =>
    let parts := alternatives.reverse
    ⟨choiceOf (parts.map (·.pattern)), 1 + parts.foldl (fun depth part => max depth part.depth) 0⟩

namespace ReadState

/-- What stands inside the innermost open group so far. -/
def inside (state : ReadState) : NestedPattern :=
  choiceItems (sequenceItems state.items :: state.alternatives)

/-- Adds an item to the sequence. -/
def push (state : ReadState) (pattern : Pattern) (depth : Nat) (text : List Char) : ReadState :=
  { state with items := .pattern ⟨pattern, depth⟩ :: state.items, text }

/-- Repeats the last item. -/
def repeatLast? (state : ReadState) (least : Nat) (most? : Option Nat) (text : List Char) :
    Option ReadState :=
  match state.items with
  | .pattern nested :: items =>
    let item := .pattern ⟨.repeated least most? nested.pattern, nested.depth + 1⟩
    some { state with items := item :: items, text }
  | _ => none

/-- Opens a group. -/
def openGroup (state : ReadState) (options : Options) (numbered : Bool) (text : List Char) :
    ReadState :=
  { state with
    text, options, items := [], alternatives := []
    frames := ⟨state.items, state.alternatives, state.options, numbered⟩ :: state.frames }

/-- Closes the innermost open group. -/
def closeGroup? (state : ReadState) (text : List Char) : Option ReadState :=
  match state.frames with
  | [] => none
  | frame :: frames =>
    let inside := state.inside
    let pattern := if frame.numbered then .group inside.pattern else inside.pattern
    some { state with
      text, options := frame.options, alternatives := frame.alternatives, frames
      items := .pattern ⟨pattern, inside.depth + 1⟩ :: frame.items }

end ReadState

/-- A literal character outside of brackets. An octet beyond ASCII needs Unicode. -/
def literal? (options : Options) (code : Nat) (octet : Bool) : Option Pattern :=
  if !options.unicode && octet && 0x80 ≤ code then none
  else some (.char (options.fold (.single code)))

/-- The pattern of an escape or a single character outside of brackets. -/
def atomPattern? (options : Options) : Atom → Option Pattern
  | .literal code octet => literal? options code octet
  | .set set => some (.char set)
  | .assertion condition => some (.assertion condition)

/-- Any character, without the ends of lines unless the options say so. Only Unicode patterns may
use it. -/
def anyChar? (options : Options) : Option Pattern :=
  let lineEnds := if options.dotAll then "" else if options.crlf then "A D" else "A"
  if !options.unicode then none
  else if options.dotAll then some (.char CodeRanges.empty.complement)
  else some (.char (CodeRanges.ofText lineEnds).complement)

/-- The first character of a group's name. -/
def isNameStart (c : Char) : Bool :=
  c = '_' || ((namedRanges? properties "alphabetic").any fun set => set.contains c)

/-- A later character of a group's name. -/
def isNameChar (c : Char) : Bool :=
  isNameStart c || c == '.' || c == '[' || c == ']' || (unionOf categories ["nd", "nl", "no"]).contains c

/-- Splits the name of a group and the angle bracket after it off the front of the text. -/
def groupName? (text : List Char) : Option (List Char × List Char) :=
  let name := text.takeWhile (· != '>')
  match name, text.drop name.length with
  | first :: others, '>' :: rest =>
    if isNameStart first && others.all isNameChar then some (name, rest) else none
  | _, _ => none

/-- The letter of an option. -/
def isOptionLetter (c : Char) : Bool := "imsUuRx".toList.contains c

/-- Switches the option of a letter on or off. Whether repetitions are greedy makes no difference
to whether a pattern is found. -/
def Options.switch (options : Options) (letter : Char) (on : Bool) : Options :=
  match letter with
  | 'i' => { options with caseless := on }
  | 'm' => { options with multiLine := on }
  | 's' => { options with dotAll := on }
  | 'u' => { options with unicode := on }
  | 'R' => { options with crlf := on }
  | 'x' => { options with spaced := on }
  | _ => options

/-- Applies a run of option letters; those after a hyphen are switched off. -/
def Options.switchAll (options : Options) (letters : List Char) : Options :=
  let on := letters.takeWhile (· != '-')
  let off := (letters.drop on.length).drop 1
  let switched := on.foldl (fun options letter => options.switch letter true) options
  off.foldl (fun options letter => options.switch letter false) switched

/-- The run of option letters is well formed: each letter and the hyphen stand at most once, and
the hyphen is not the last. -/
def areOptionLetters (letters : List Char) : Bool :=
  letters.all (fun c => c == '-' || isOptionLetter c) && letters.eraseDups.length == letters.length
    && letters.getLast? != some '-'

/-- Reads what follows a question mark after an opening parenthesis, which is no name. -/
def optionGroup? (state : ReadState) (text : List Char) : Option ReadState :=
  let letters := text.takeWhile fun c => c != ':' && c != ')'
  let options := state.options.switchAll letters
  if !areOptionLetters letters then none
  else
    match text.drop letters.length with
    | ':' :: rest => some (state.openGroup options false rest)
    | ')' :: rest =>
      if letters.isEmpty then none
      else some { state with text := rest, options, items := .switch :: state.items }
    | _ => none

/-- Reads a named group. -/
def namedGroup? (state : ReadState) (text : List Char) : Option ReadState := do
  let (name, rest) ← groupName? text
  if state.names.contains name then none
  some { state.openGroup state.options true rest with names := name :: state.names }

/-- Reads what follows an opening parenthesis. -/
def group? (state : ReadState) (text : List Char) : Option ReadState :=
  match state.options.skip text with
  | '?' :: '=' :: _ => none
  | '?' :: '!' :: _ => none
  | '?' :: '<' :: '=' :: _ => none
  | '?' :: '<' :: '!' :: _ => none
  | '?' :: 'P' :: '<' :: rest => namedGroup? state rest
  | '?' :: '<' :: rest => namedGroup? state rest
  | '?' :: rest => optionGroup? state rest
  | rest => some (state.openGroup state.options true rest)

/-- Drops the mark of a repetition that prefers fewer rounds. -/
def dropLazy : List Char → List Char
  | '?' :: rest => rest
  | rest => rest

/-- Reads one item, with `c` its first character. -/
def readItem? (state : ReadState) (c : Char) (rest : List Char) : Option ReadState :=
  let options := state.options
  match c with
  | '(' => group? state rest
  | ')' => state.closeGroup? rest
  | '|' =>
    some { state with
      text := rest, items := [], alternatives := sequenceItems state.items :: state.alternatives }
  | '[' => (bracket? options rest).map fun (nested, rest) =>
    state.push (.char nested.set) nested.depth rest
  | '?' => state.repeatLast? 0 (some 1) (dropLazy rest)
  | '*' => state.repeatLast? 0 none (dropLazy rest)
  | '+' => state.repeatLast? 1 none (dropLazy rest)
  | '\x7b' => do
    let (least, most?, rest) ← counts? options rest
    state.repeatLast? least most? (dropLazy rest)
  | '\\' => do
    let (atom, rest) ← escape? options rest
    some (state.push (← atomPattern? options atom) 0 rest)
  | '.' => (anyChar? options).map fun pattern => state.push pattern 0 rest
  | '^' =>
    let condition := if options.multiLine then .lineStart options.crlf else .textStart
    some (state.push (.assertion condition) 0 rest)
  | '$' =>
    let condition := if options.multiLine then .lineEnd options.crlf else .textEnd
    some (state.push (.assertion condition) 0 rest)
  | c => (literal? options c.toNat false).map fun pattern => state.push pattern 0 rest

/-- Reads items until the text is used up; the fuel bounds their number. -/
def readItems? : Nat → ReadState → Option ReadState
  | 0, _ => none
  | fuel + 1, state =>
    match state.options.skip state.text with
    | [] => some state
    | c :: rest => (readItem? state c rest).bind (readItems? fuel)

/-- Reads a pattern that makes up the whole text. -/
def read? (text : List Char) : Option Pattern := do
  let state ← readItems? (text.length + 1) ⟨text, .initial, [], [], [], []⟩
  let whole := state.inside
  if state.frames.isEmpty && whole.depth ≤ nestingLimit then some whole.pattern else none

end Intake.Pattern
