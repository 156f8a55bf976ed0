import Intake.Rule.RuleSet
import Intake.Schema.Property

/-! # Tables of rules

What the kind, the format and the media type of a schema and the widget of a control each
contribute to the rules of a field.
-/

namespace Intake.Table

/-- The value of a key in a table. -/
def find? {α β : Type} [BEq α] (table : List (α × β)) (key : α) : Option β :=
  (table.find? fun entry => entry.1 == key).map (·.2)

/-- The casts of scalar kinds; values of other kinds are not cast. -/
def casts : List (KindName × String) :=
  [(.string, "string"), (.integer, "integer"), (.number, "float"), (.boolean, "boolean")]

/-- The validators of numeric kinds. -/
def numericValidators : List (KindName × String) := [(.integer, "int"), (.number, "numeric")]

/-- What a format asks for: a fixed token, or the configured pattern of telephone numbers. -/
inductive FormatRule where
  | token (token : Token)
  | phone
deriving DecidableEq, Repr

/-- The rules of known formats. -/
def formatRules : List (String × FormatRule) := [
  ("email", .token (.plain "email")),
  ("uri", .token (.plain "url")),
  ("url", .token (.plain "url")),
  ("date", .token (.withArgument "date_format" "Y-m-d")),
  ("date-time", .token (.withArgument "date_format" "Y-m-d H:i:s")),
  ("time", .token (.withArgument "date_format" "H:i:s")),
  ("tel", .phone),
  ("hostname", .token (.plain "hostname")),
  ("ipv4", .token (.plain "ip")),
  ("ipv6", .token (.plain "ip")),
  ("uuid", .token (.plain "uuid")),
  ("base64", .token (.plain "base64")),
  ("json", .token (.plain "json"))]

/-- The validators of known media types. -/
def mediaTypeValidators : List (String × String) :=
  [("application/json", "json"), ("text/json", "json")]

/-- The tokens that widgets contribute. -/
def widgetTokens : List (String × Phase × String) := [
  ("editor", .transform, "strip_tags"),
  ("file", .validate, "file"),
  ("image", .validate, "image")]

/-- The cast of a kind. -/
def cast? (kind : KindName) : Option String := find? casts kind

/-- The validator of a numeric kind. -/
def numericValidator? (kind : KindName) : Option String := find? numericValidators kind

/-- The rule of a format; an unknown one asks for a string. -/
def formatRule (format : String) : FormatRule :=
  (find? formatRules format).getD (.token (.plain "string"))

/-- The validator of a media type; an unknown one asks for a string. -/
def mediaTypeValidator (mediaType : String) : String :=
  (find? mediaTypeValidators mediaType).getD "string"

/-- The tokens that a widget contributes, each with its phase. -/
def tokensOfWidget (widget : String) : List (Phase × String) :=
  (widgetTokens.filter fun entry => entry.1 == widget).map (·.2)

end Intake.Table
