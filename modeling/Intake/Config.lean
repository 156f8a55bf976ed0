import Intake.Document.Reader
import Intake.Journal.Severity
import Intake.Pattern.Compile
import Intake.Schema.Loading

/-! # Configuration

Bounds on the schemas that are loaded, the pattern of telephone numbers and the least severity of
the journal. A configuration is read from a document: an object, whose missing members take their
defaults, or a list of the values in their order of declaration.
-/

namespace Intake

/-- The settings of schema loading and form processing. -/
structure Config where
  maxDepth : Nat
  maxNodes : Nat
  phonePattern : String
  minimumSeverity : Severity
deriving DecidableEq, Repr

/-- Why a configuration is refused. -/
inductive ConfigError where
  /-- The text is no document of a configuration. -/
  | unreadable
  | zeroDepth
  | zeroNodeBudget
  | badPhonePattern (error : PatternError)
deriving DecidableEq, Repr

/-- The explanation of an error. -/
def ConfigError.message : ConfigError → String
  | .unreadable => "Malformed configuration"
  | .zeroDepth => "max_schema_depth must be at least 1"
  | .zeroNodeBudget => "max_schema_nodes must be at least 1"
  | .badPhonePattern error => s!"Invalid phone pattern: {error.message}"

namespace Config

/-- The settings that hold unless others are given. -/
def default : Config where
  maxDepth := 32
  maxNodes := defaultMaxNodes
  phonePattern := "^\\+?[0-9][0-9 ().-]\x7b5,19\x7d$"
  minimumSeverity := .warn

/-- The default settings with everything noted. -/
def verbose : Config := { default with minimumSeverity := .trace }

/-- The default settings with only the gravest events noted. -/
def quiet : Config := { default with minimumSeverity := .fatal }

/-- The settings make sense: neither bound is zero and the pattern is one. -/
def validate (config : Config) : Except ConfigError Unit :=
  if config.maxDepth = 0 then .error .zeroDepth
  else if config.maxNodes = 0 then .error .zeroNodeBudget
  else
    match Pattern.ofText config.phonePattern with
    | .error error => .error (.badPhonePattern error)
    | .ok _ => .ok ()

/-- The keys of the settings in their order of declaration. -/
def keys : List String :=
  ["max_schema_depth", "max_schema_nodes", "phone_pattern", "log_level"]

/-- A severity as a configuration writes it: its name, or an object with the name as its only key
and nothing as its value. -/
def severity? : Document → Option Severity
  | .string name => Severity.ofSettingName? name
  | .object [(name, .null)] => Severity.ofSettingName? name
  | _ => none

/-- Sets one of the settings. -/
def set? (config : Config) (key : String) (value : Document) : Option Config :=
  match key with
  | "max_schema_depth" =>
    (value.number?.bind Number.toUnsigned?).map fun depth => { config with maxDepth := depth }
  | "max_schema_nodes" =>
    (value.number?.bind Number.toUnsigned?).map fun nodes => { config with maxNodes := nodes }
  | "phone_pattern" => value.string?.map fun pattern => { config with phonePattern := pattern }
  | "log_level" => (severity? value).map fun severity => { config with minimumSeverity := severity }
  | _ => none

/-- The settings of a document over the default ones; no setting may be given twice. -/
def ofDocument? (document : Document) : Option Config :=
  let setAll (entries : List (String × Document)) : Option Config :=
    entries.foldlM (fun config entry => config.set? entry.1 entry.2) default
  match document with
  | .object members => if (Members.keys members).Nodup then setAll members else none
  | .array values => if values.length ≤ keys.length then setAll (keys.zip values) else none
  | _ => none

/-- The settings that a text gives, if they make sense. -/
def ofText (text : String) : Except ConfigError Config := do
  match (Document.written? text.toList).bind ofDocument? with
  | none => throw .unreadable
  | some config =>
    config.validate
    return config

end Config

end Intake
