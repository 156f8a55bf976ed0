import Intake.Format.Email
import Intake.Format.Url
import Intake.ValueType.Error
import Intake.ValueType.Options

/-! # Value types

A value type is one of fourteen built-in ones or is given by a pattern, and has options. It tells
whether it may be guessed from a text, and describes its values by a schema.
-/

namespace Intake

/-- The built-in types. -/
inductive BuiltinType where
  | text
  | email
  | url
  | hostname
  | uuid
  | ip
  | date
  | datetime
  | time
  | integer
  | float
  | boolean
  | array
  | object
deriving DecidableEq, Repr

namespace BuiltinType

/-- All built-in types in the order in which a registry tries them. -/
def all : List BuiltinType :=
  [.text, .uuid, .email, .url, .datetime, .date, .time, .ip, .hostname, .integer, .float, .boolean,
    .array, .object]

/-- The name of a type. -/
def name : BuiltinType → String
  | .text => "text"
  | .email => "email"
  | .url => "url"
  | .hostname => "hostname"
  | .uuid => "uuid"
  | .ip => "ip"
  | .date => "date"
  | .datetime => "datetime"
  | .time => "time"
  | .integer => "integer"
  | .float => "float"
  | .boolean => "boolean"
  | .array => "array"
  | .object => "object"

/-- The type of a name. -/
def ofName? (name : String) : Option BuiltinType :=
  all.find? fun builtin => builtin.name == name

/-- The type may be guessed from a text. -/
def isGuessable : BuiltinType → Bool
  | .text | .hostname | .array | .object => false
  | _ => true

/-- The type has options. -/
def hasOptions : BuiltinType → Bool
  | .hostname | .integer | .object => false
  | _ => true

/-- The format in which a type of dates and times reads and writes values by default. -/
def defaultFormat : BuiltinType → String
  | .date => "%Y-%m-%d"
  | .datetime => "%Y-%m-%d %H:%M:%S"
  | .time => "%H:%M:%S"
  | _ => ""

/-- The options of a type by default. -/
def defaultOptions : BuiltinType → Members
  | .text => [("trim", .bool false)]
  | .email => [("lowercase", .bool true)]
  | .url => [("schemes", .ofStrings ["http", "https", "ftp"])]
  | .uuid => [("version", .null)]
  | .ip => [("version", .string "any")]
  | .date => [("format", .string (defaultFormat .date))]
  | .datetime => [("format", .string (defaultFormat .datetime))]
  | .time => [("format", .string (defaultFormat .time))]
  | .float => [("precision", .null)]
  | .boolean =>
    [("true_values", .ofStrings ["true", "yes", "on"]),
      ("false_values", .ofStrings ["false", "no", "off"])]
  | .array => [("wrap_scalars", .bool true)]
  | .hostname | .integer | .object => []

/-- The pattern behind a type. -/
def source? : BuiltinType → Option String
  | .email => some Email.source
  | .url => some Url.source
  | .hostname => some Hostname.source
  | _ => none

end BuiltinType

/-- What a value type is: built in, or the texts in which a pattern is found. -/
inductive TypeDefinition where
  | builtin (type : BuiltinType)
  | pattern (name source : String) (pattern : Pattern) (guessable : Bool)

/-- A value type. -/
structure ValueType where
  definition : TypeDefinition
  options : Members

namespace ValueType

/-- A built-in type with some options overridden, if it has options at all. -/
def ofBuiltin (type : BuiltinType) (overrides : Members) : ValueType :=
  ⟨.builtin type,
    Options.merge (.object type.defaultOptions) (if type.hasOptions then overrides else [])⟩

/-- A type given by the text of a pattern. -/
def ofPattern (name source : String) (guessable : Bool) (options : Members) :
    Except TypeError ValueType :=
  match Pattern.ofText source with
  | .error error => .error (.invalidPattern name error)
  | .ok pattern =>
    .ok ⟨.pattern name source pattern guessable, Options.merge (.object []) options⟩

/-- The name of a type. -/
def name (type : ValueType) : String :=
  match type.definition with
  | .builtin builtin => builtin.name
  | .pattern name _ _ _ => name

/-- The built-in type that the type is an instance of. -/
def builtin? (type : ValueType) : Option BuiltinType :=
  match type.definition with
  | .builtin builtin => some builtin
  | .pattern .. => none

/-- The type may be guessed from a text. -/
def isGuessable (type : ValueType) : Bool :=
  match type.definition with
  | .builtin builtin => builtin.isGuessable
  | .pattern _ _ _ guessable => guessable

/-- The text of the pattern behind the type. -/
def source? (type : ValueType) : Option String :=
  match type.definition with
  | .builtin builtin => builtin.source?
  | .pattern _ source _ _ => some source

/-- The schema of strings of a format. -/
def stringFragment (format : String) : Members :=
  [("type", .string "string"), ("format", .string format)]

/-- The schema of the addresses that the options admit. -/
def addressFragment (options : Members) : Members :=
  match Options.text? options "version" with
  | some "4" => stringFragment "ipv4"
  | some "6" => stringFragment "ipv6"
  | _ =>
    [("type", .string "string"),
      ("anyOf", .array [.object [("format", .string "ipv4")], .object [("format", .string "ipv6")]])]

/-- The schema that describes the values of the type. -/
def fragment (type : ValueType) : Members :=
  match type.definition with
  | .pattern _ source _ _ => [("type", .string "string"), ("pattern", .string source)]
  | .builtin .text => [("type", .string "string")]
  | .builtin .email => stringFragment "email"
  | .builtin .url => stringFragment "uri"
  | .builtin .hostname => stringFragment "hostname"
  | .builtin .uuid => stringFragment "uuid"
  | .builtin .ip => addressFragment type.options
  | .builtin .date => stringFragment "date"
  | .builtin .datetime => stringFragment "date-time"
  | .builtin .time => stringFragment "time"
  | .builtin .integer => [("type", .string "integer")]
  | .builtin .float => [("type", .string "number")]
  | .builtin .boolean => [("type", .string "boolean")]
  | .builtin .array => [("type", .string "array")]
  | .builtin .object => [("type", .string "object")]

end ValueType

end Intake
