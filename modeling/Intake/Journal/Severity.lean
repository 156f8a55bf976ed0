/-! # Severities

How much an event matters, from tracing up to a fault that ends the work.
-/

namespace Intake

/-- How much an event matters. -/
inductive Severity where
  | trace
  | info
  | warn
  | error
  | fatal
deriving DecidableEq, Repr

namespace Severity

/-- All severities in ascending order. -/
def all : List Severity := [.trace, .info, .warn, .error, .fatal]

/-- The place of a severity among all. -/
def rank : Severity → Nat
  | .trace => 0
  | .info => 1
  | .warn => 2
  | .error => 3
  | .fatal => 4

/-- Severities are ordered by rank. -/
instance : LE Severity := ⟨fun low high => low.rank ≤ high.rank⟩

/-- The order of two severities can be decided. -/
instance (low high : Severity) : Decidable (low ≤ high) :=
  inferInstanceAs (Decidable (low.rank ≤ high.rank))

/-- The name of a severity in a journal. -/
def text : Severity → String
  | .trace => "TRACE"
  | .info => "INFO"
  | .warn => "WARN"
  | .error => "ERROR"
  | .fatal => "FATAL"

/-- The name of a severity in a configuration. -/
def settingName : Severity → String
  | .trace => "trace"
  | .info => "info"
  | .warn => "warn"
  | .error => "error"
  | .fatal => "fatal"

/-- The severity that a configuration names. -/
def ofSettingName? (name : String) : Option Severity :=
  all.find? fun severity => severity.settingName == name

end Severity

end Intake
