import Intake.Binary64.Basic
import Intake.Binary64.Shortest
import Intake.Calendar.Date
import Intake.Calendar.Fields
import Intake.Calendar.Layout
import Intake.Calendar.LetterFormat
import Intake.Calendar.Parsing
import Intake.Calendar.Rendering
import Intake.Calendar.Time
import Intake.Calendar.ZonedDateTime
import Intake.Config
import Intake.Dictionary
import Intake.Document.Basic
import Intake.Document.Number
import Intake.Document.Numeral
import Intake.Document.Reader
import Intake.Document.Writer
import Intake.Engine.Cast
import Intake.Engine.Failure
import Intake.Engine.Filter
import Intake.Engine.Standard
import Intake.Engine.Validator
import Intake.Form.Basic
import Intake.Form.Element
import Intake.Form.Error
import Intake.Form.LayoutReading
import Intake.Form.Scope
import Intake.Format.Address
import Intake.Format.Base64
import Intake.Format.Email
import Intake.Format.Hostname
import Intake.Format.Url
import Intake.Format.Uuid
import Intake.Journal.Basic
import Intake.Journal.Event
import Intake.Journal.Severity
import Intake.Pattern.Basic
import Intake.Pattern.Bracket
import Intake.Pattern.Compile
import Intake.Pattern.Escape
import Intake.Pattern.Matching
import Intake.Pattern.Property
import Intake.Pattern.Reader
import Intake.Pattern.Repetition
import Intake.Pattern.Size
import Intake.Proofs.Binary64.Integers
import Intake.Proofs.Binary64.Quotients
import Intake.Proofs.Binary64.Range
import Intake.Proofs.Binary64.Rounding
import Intake.Proofs.Binary64.Shortest
import Intake.Proofs.Binary64.SignedWords
import Intake.Proofs.Calendar.Items
import Intake.Proofs.Calendar.LetterFormats
import Intake.Proofs.Calendar.RoundTrip
import Intake.Proofs.Calendar.Soundness
import Intake.Proofs.Calendar.Taking
import Intake.Proofs.Calendar.Writing
import Intake.Proofs.Calendar.Zoned
import Intake.Proofs.Dictionary
import Intake.Proofs.Document.Identity
import Intake.Proofs.Document.Members
import Intake.Proofs.Document.Nesting
import Intake.Proofs.Document.NumberText
import Intake.Proofs.Document.Reading
import Intake.Proofs.Document.WellFormed
import Intake.Proofs.Document.Writing
import Intake.Proofs.Engine.Bounds
import Intake.Proofs.Engine.ChoiceLists
import Intake.Proofs.Engine.Choices
import Intake.Proofs.Engine.Conjunction
import Intake.Proofs.Engine.DigitRuns
import Intake.Proofs.Engine.Duplicates
import Intake.Proofs.Engine.Executable
import Intake.Proofs.Engine.Faults
import Intake.Proofs.Engine.Meaning
import Intake.Proofs.Engine.Multiples
import Intake.Proofs.Engine.Preparation
import Intake.Proofs.Engine.Strictness
import Intake.Proofs.Except
import Intake.Proofs.Form.Consistency
import Intake.Proofs.Form.Fields
import Intake.Proofs.Form.Layout
import Intake.Proofs.Form.Positions
import Intake.Proofs.Form.Reordering
import Intake.Proofs.Form.RoundTrip
import Intake.Proofs.Form.Rules
import Intake.Proofs.Form.Scopes
import Intake.Proofs.Format.Address
import Intake.Proofs.Format.Grammar
import Intake.Proofs.Format.Name
import Intake.Proofs.Format.Uuid
import Intake.Proofs.Journal.Lines
import Intake.Proofs.Pattern.Compile
import Intake.Proofs.Pattern.Language
import Intake.Proofs.Pattern.Spans
import Intake.Proofs.Related
import Intake.Proofs.Rule.Record
import Intake.Proofs.Rule.Wire
import Intake.Proofs.Schema.Agreement
import Intake.Proofs.Schema.BareReferences
import Intake.Proofs.Schema.Expansion
import Intake.Proofs.Schema.FreeExpansion
import Intake.Proofs.Schema.Inlining
import Intake.Proofs.Schema.Keyword
import Intake.Proofs.Schema.Limits
import Intake.Proofs.Schema.Loading
import Intake.Proofs.Schema.Locality
import Intake.Proofs.Schema.Meaning
import Intake.Proofs.Schema.Overflow
import Intake.Proofs.Schema.Reading
import Intake.Proofs.Schema.References
import Intake.Proofs.Schema.Relation
import Intake.Proofs.Schema.Reordering
import Intake.Proofs.Schema.Respelling
import Intake.Proofs.Schema.RoundTrip
import Intake.Proofs.Schema.Run
import Intake.Proofs.Schema.Session
import Intake.Proofs.Schema.Tree
import Intake.Proofs.Schema.Variant
import Intake.Proofs.Schema.Written
import Intake.Proofs.Submission.Accounting
import Intake.Proofs.Submission.Again
import Intake.Proofs.Submission.Faults
import Intake.Proofs.Submission.Isolation
import Intake.Proofs.Submission.Kinds
import Intake.Proofs.Submission.Notes
import Intake.Proofs.Submission.Presence
import Intake.Proofs.Text.LetterCase
import Intake.Proofs.Text.Lowercase
import Intake.Proofs.Text.Numeric
import Intake.Proofs.Text.Printable
import Intake.Proofs.Text.Splitting
import Intake.Proofs.Text.Tags
import Intake.Proofs.Text.Trimming
import Intake.Proofs.ValueType.Canonical
import Intake.Proofs.ValueType.Casting
import Intake.Proofs.ValueType.Compiled
import Intake.Proofs.ValueType.Fragment
import Intake.Proofs.ValueType.Guessing
import Intake.Proofs.ValueType.Registering
import Intake.Proofs.ValueType.Spellings
import Intake.Rule.Compile
import Intake.Rule.Record
import Intake.Rule.RuleSet
import Intake.Rule.Table
import Intake.Rule.Token
import Intake.Rule.Wire
import Intake.Schema.Equality
import Intake.Schema.Error
import Intake.Schema.FormSchema
import Intake.Schema.Keyword
import Intake.Schema.Loading
import Intake.Schema.Property
import Intake.Schema.Session
import Intake.Schema.Writing
import Intake.Submission.Processing
import Intake.Submission.Result
import Intake.Text.Blank
import Intake.Text.Lowercase
import Intake.Text.Numeric
import Intake.Text.Splitting
import Intake.Text.Tags
import Intake.Unicode.Cased
import Intake.Unicode.Category
import Intake.Unicode.CodeRanges
import Intake.Unicode.Folding
import Intake.Unicode.Lowercase
import Intake.Unicode.Property
import Intake.Unicode.Script
import Intake.Unicode.ScriptExtensions
import Intake.ValueType.Basic
import Intake.ValueType.Casting
import Intake.ValueType.Error
import Intake.ValueType.Options
import Intake.ValueType.Reading
import Intake.ValueType.Registry
