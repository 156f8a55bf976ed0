/-! # Dictionaries

A dictionary lists its entries in ascending order of their keys, each key once. Keys are compared
character by character, by code point.
-/

namespace Intake

/-- Entries in ascending order of their keys. -/
abbrev Dictionary (α : Type) := List (String × α)

namespace Dictionary

variable {α : Type}

/-- Writes the value of a key in place of the one it had. -/
def insert : Dictionary α → String → α → Dictionary α
  | [], key, value => [(key, value)]
  | (name, old) :: rest, key, value =>
    if key < name then (key, value) :: (name, old) :: rest
    else if key = name then (key, value) :: rest
    else (name, old) :: insert rest key value

/-- The entries written one after the other. -/
def ofList (entries : List (String × α)) : Dictionary α :=
  entries.foldl (fun written entry => written.insert entry.1 entry.2) []

/-- The value of a key. -/
def find? (dictionary : Dictionary α) (key : String) : Option α :=
  (List.find? (fun entry => entry.1 == key) dictionary).map (·.2)

/-- The keys in ascending order. -/
def keys (dictionary : Dictionary α) : List String :=
  dictionary.map (·.1)

end Dictionary

end Intake
