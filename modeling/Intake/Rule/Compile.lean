import Intake.Document.Writer
import Intake.Form.Basic
import Intake.Rule.Record
import Intake.Rule.Table
import Intake.Text.Lowercase

/-! # Rules of a schema

The rules of a field follow from its schema, from the widget of its control and from the names
that the form lists as required. The limits of the schema become arguments of validators; values to
choose from are written in lower case as one record.
-/

namespace Intake

/-- The text of a value to choose from, in lower case. -/
def choiceText : Document → String
  | .string value => Text.lower value
  | document => Text.lower document.text

/-- The values to choose from as one record; an empty text if there are none. -/
def choiceRecord (choices : List Document) : String :=
  if choices.isEmpty then ""
  else String.ofList (Record.write (choices.map fun choice => (choiceText choice).toList))

/-- A token with an argument, if there is an argument. -/
def limitToken (name : String) (argument? : Option String) : List Token :=
  (argument?.map (Token.withArgument name)).toList

namespace Property

/-- The validator of the values to choose from. -/
def choiceTokens (property : Property) : List Token :=
  limitToken "in" (property.annotations.choices.map choiceRecord)

/-- The validator of a format. -/
def formatTokens (phonePattern : String) (format? : Option String) : List Token :=
  (format?.map fun format =>
    match Table.formatRule format with
    | .token token => token
    | .phone => .withArgument "regex" phonePattern).toList

/-- The validators of a string. -/
def stringTokens (property : Property) (phonePattern : String) (limits : StringLimits) :
    List Token :=
  limitToken "min_length" (limits.minLength.map Nat.repr)
    ++ limitToken "max_length" (limits.maxLength.map Nat.repr)
    ++ formatTokens phonePattern limits.format
    ++ limitToken "regex" limits.pattern
    ++ property.choiceTokens
    ++ (limits.mediaType.map fun media => Token.plain (Table.mediaTypeValidator media)).toList

/-- The validators of a number of a given kind. -/
def numberTokens (kind : KindName) (limits : NumberLimits) : List Token :=
  ((Table.numericValidator? kind).map Token.plain).toList
    ++ limitToken "gte" (limits.minimum.map Number.text)
    ++ limitToken "lte" (limits.maximum.map Number.text)
    ++ limitToken "gt" (limits.exclusiveMinimum.map Number.text)
    ++ limitToken "lt" (limits.exclusiveMaximum.map Number.text)
    ++ limitToken "multiple_of" (limits.multipleOf.map Number.text)

/-- The validators of a list. -/
def listTokens (limits : ListLimits) : List Token :=
  limitToken "min_items" (limits.minItems.map Nat.repr)
    ++ limitToken "max_items" (limits.maxItems.map Nat.repr)
    ++ (if limits.uniqueItems then [.plain "unique"] else [])

/-- The validators that follow from the kind of a schema. -/
def kindTokens (property : Property) (phonePattern : String) : List Token :=
  match property.kind with
  | .string limits => property.stringTokens phonePattern limits
  | .integer limits => numberTokens .integer limits ++ property.choiceTokens
  | .number limits => numberTokens .number limits ++ property.choiceTokens
  | .boolean => property.choiceTokens
  | .array limits _ _ => listTokens limits
  | .object .. | .null => []

/-- The rules that follow from a schema alone. -/
def rules (property : Property) (phonePattern : String) : RuleSet where
  cast? := (Table.cast? property.kind.name).map .plain
  sanitize := if property.kind.name = .string then [.plain "trim"] else []
  transform :=
    if property.kind.format? = some "email" || property.annotations.choices.isSome then
      [.plain "lowercase"]
    else []
  validate :=
    (if property.required then [.plain "required"] else []) ++ property.kindTokens phonePattern

end Property

/-- The rules that a widget contributes. -/
def widgetRules (widget : String) : RuleSet :=
  (Table.tokensOfWidget widget).foldl
    (fun rules entry => rules.push entry.1 (.plain entry.2)) .empty

/-- The rules of a field: those of its schema, and then what its widget contributes. -/
def Field.rules (field : Field) (phonePattern : String) : RuleSet :=
  let rules := field.property.rules phonePattern
  match field.widget? with
  | none => rules
  | some widget => rules.merge (widgetRules widget)

/-- Makes a field required once for every place where the form lists its name. -/
def RuleSet.requireListed (rules : RuleSet) (name : String) (listed : List String) : RuleSet :=
  { rules with
    validate := rules.validate ++ List.replicate (listed.count name) (.plain "required") }

/-- The rules of all fields of a form. -/
def Form.rules (form : Form) (phonePattern : String) : Dictionary RuleSet :=
  .ofList <| form.fields.map fun field =>
    (field.name,
      (field.rules phonePattern).requireListed field.name form.schema.requiredNames)

end Intake
