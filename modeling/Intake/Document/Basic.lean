import Intake.Document.Number

/-! # Documents

A document is null, a truth value, a number, a string, a list of documents or an object. The
members of an object keep the order in which their keys first came; two documents are the same
when they agree up to the order of members.
-/

namespace Intake

/-- A structured value. -/
inductive Document where
  | null
  | bool (value : Bool)
  | number (value : Number)
  | string (value : String)
  | array (items : List Document)
  | object (members : List (String × Document))
deriving Inhabited, Repr

/-- The members of an object in the order of their keys. -/
abbrev Members := List (String × Document)

namespace Members

/-- The value of the first member with the given key. -/
def find? (members : Members) (key : String) : Option Document :=
  (List.find? (fun member => member.1 == key) members).map (·.2)

/-- Some member has the given key. -/
def contains (members : Members) (key : String) : Bool :=
  members.any fun member => member.1 == key

/-- Writes a value: a present key keeps its place, a new one goes to the end. -/
def insert : Members → String → Document → Members
  | [], key, value => [(key, value)]
  | (name, old) :: rest, key, value =>
    if name = key then (name, value) :: rest else (name, old) :: insert rest key value

/-- Writes the members of a second list one after the other. -/
def insertAll (members additions : Members) : Members :=
  additions.foldl (fun written member => written.insert member.1 member.2) members

/-- Every key once, at its first place and with its last value. -/
def ofList (members : Members) : Members :=
  insertAll [] members

/-- The members without those of the given keys. -/
def without (members : Members) (keys : List String) : Members :=
  members.filter fun member => !keys.contains member.1

/-- The keys in order. -/
def keys (members : Members) : List String :=
  members.map (·.1)

/-- A member that is written if it has a value. -/
def optional (key : String) (value : Option Document) : Members :=
  (value.map fun document => (key, document)).toList

/-- A member that is written, as true, if the flag is set. -/
def flag (key : String) (value : Bool) : Members :=
  if value then [(key, .bool true)] else []

/-- A member with a list, written if the list has items. -/
def list (key : String) (items : List Document) : Members :=
  if items.isEmpty then [] else [(key, .array items)]

/-- A member with an object, written if the object has members. -/
def nested (key : String) (members : Members) : Members :=
  if members.isEmpty then [] else [(key, .object members)]

end Members

namespace Document

mutual

/-- Two documents are the same up to the order of members. -/
def same : Document → Document → Bool
  | .null, .null => true
  | .bool left, .bool right => left == right
  | .number left, .number right => left.same right
  | .string left, .string right => left == right
  | .array left, .array right => sameItems left right
  | .object left, .object right => left.length == right.length && membersWithin left right
  | _, _ => false

/-- Two lists hold the same documents in the same order. -/
def sameItems : List Document → List Document → Bool
  | [], [] => true
  | left :: lefts, right :: rights => same left right && sameItems lefts rights
  | _, _ => false

/-- Every member of the first object is the same in the second. -/
def membersWithin : List (String × Document) → List (String × Document) → Bool
  | [], _ => true
  | (key, left) :: lefts, rights =>
    (match Members.find? rights key with
      | some right => same left right
      | none => false) && membersWithin lefts rights

end

/-- The members of an object. -/
def members? : Document → Option Members
  | .object members => some members
  | _ => none

/-- The items of a list. -/
def items? : Document → Option (List Document)
  | .array items => some items
  | _ => none

/-- The characters of a string. -/
def string? : Document → Option String
  | .string value => some value
  | _ => none

/-- A truth value. -/
def bool? : Document → Option Bool
  | .bool value => some value
  | _ => none

/-- A number. -/
def number? : Document → Option Number
  | .number value => some value
  | _ => none

/-- The value of a member of an object. -/
def get? (document : Document) (key : String) : Option Document :=
  document.members?.bind fun members => members.find? key

/-- The document is null. -/
def isNull : Document → Bool
  | .null => true
  | _ => false

/-- An integer as a document. -/
def ofInt (value : Int) : Document := .number (.integer value)

/-- A natural number as a document. -/
def ofNat (value : Nat) : Document := ofInt value

/-- A list of strings as a document. -/
def ofStrings (values : List String) : Document := .array (values.map .string)

end Document

end Intake
