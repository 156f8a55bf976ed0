import Intake.Document.Basic

/-! # Options of value types

The options of a type are its defaults with what the caller overrides. An option whose value is of
the wrong shape counts as absent.
-/

namespace Intake.Options

/-- The defaults, if they are an object, with the overrides written over them. -/
def merge (defaults : Document) (overrides : Members) : Members :=
  Members.insertAll (defaults.members?.getD []) overrides

/-- A flag. -/
def flag (options : Members) (key : String) (fallback : Bool) : Bool :=
  ((options.find? key).bind Document.bool?).getD fallback

/-- A text. -/
def text? (options : Members) (key : String) : Option String :=
  (options.find? key).bind Document.string?

/-- A count. -/
def count? (options : Members) (key : String) : Option Nat :=
  ((options.find? key).bind Document.number?).bind Number.toUnsigned?

/-- The texts in a list. -/
def texts (options : Members) (key : String) : List String :=
  (((options.find? key).bind Document.items?).getD []).filterMap Document.string?

end Intake.Options
