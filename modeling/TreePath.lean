import TreePath.Atomic.Cast
import TreePath.Atomic.Comparison
import TreePath.Atomic.Datatype
import TreePath.Atomic.Lexical
import TreePath.Atomic.Numeric
import TreePath.Atomic.Order
import TreePath.Atomic.Value
import TreePath.Binary.Base64
import TreePath.Calendar.Date
import TreePath.Calendar.DateText
import TreePath.Calendar.Duration
import TreePath.Calendar.Zone
import TreePath.Constraint.Attachment
import TreePath.Constraint.Basic
import TreePath.Constraint.Composition
import TreePath.Constraint.KeyField
import TreePath.Constraint.Observation
import TreePath.Constraint.Template
import TreePath.Constraint.Validation
import TreePath.Error
import TreePath.Eval
import TreePath.Expr
import TreePath.Function.Basic
import TreePath.Function.Call
import TreePath.Function.Registry
import TreePath.Function.SequenceType
import TreePath.Library.Argument
import TreePath.Library.Nodes
import TreePath.Library.Registry
import TreePath.Library.Sequences
import TreePath.Library.Strings
import TreePath.Name
import TreePath.NamedList
import TreePath.Net.Address
import TreePath.Net.Mailbox
import TreePath.Net.Uri
import TreePath.Number.Decimal
import TreePath.Number.DecimalText
import TreePath.Proofs.Atomic.Casting
import TreePath.Proofs.Atomic.Comparing
import TreePath.Proofs.Atomic.LexicalRoundTrip
import TreePath.Proofs.Atomic.Numeric
import TreePath.Proofs.Atomic.NumericForms
import TreePath.Proofs.Atomic.Preorder
import TreePath.Proofs.Atomic.WellFormed
import TreePath.Proofs.Atomic.Widening
import TreePath.Proofs.Binary.Base64RoundTrip
import TreePath.Proofs.Calendar.DateRoundTrip
import TreePath.Proofs.Calendar.DurationRoundTrip
import TreePath.Proofs.Calendar.Instant
import TreePath.Proofs.Calendar.ZoneRoundTrip
import TreePath.Proofs.Constraint.Aborting
import TreePath.Proofs.Constraint.Agreement
import TreePath.Proofs.Constraint.Attaching
import TreePath.Proofs.Constraint.Coherence
import TreePath.Proofs.Constraint.Composition
import TreePath.Proofs.Constraint.Coverage
import TreePath.Proofs.Constraint.CrossReferences
import TreePath.Proofs.Constraint.Duplicates
import TreePath.Proofs.Constraint.Keys
import TreePath.Proofs.Constraint.Levels
import TreePath.Proofs.Constraint.Report
import TreePath.Proofs.Constraint.Rounds
import TreePath.Proofs.Constraint.Skipping
import TreePath.Proofs.Constraint.Targeting
import TreePath.Proofs.Constraint.Violations
import TreePath.Proofs.Expr.Agreement
import TreePath.Proofs.Expr.Composition
import TreePath.Proofs.Expr.GeneralComparison
import TreePath.Proofs.Expr.Location
import TreePath.Proofs.Expr.Navigation
import TreePath.Proofs.Expr.Paths
import TreePath.Proofs.Expr.Union
import TreePath.Proofs.Function.Conversion
import TreePath.Proofs.Function.Outcome
import TreePath.Proofs.Function.Registration
import TreePath.Proofs.Function.Registry
import TreePath.Proofs.Function.Safe
import TreePath.Proofs.Library.Handlers
import TreePath.Proofs.Library.Soundness
import TreePath.Proofs.Net.AddressRoundTrip
import TreePath.Proofs.Number.DecimalRoundTrip
import TreePath.Proofs.Session.Agreement
import TreePath.Proofs.Session.Bookkeeping
import TreePath.Proofs.Session.Keys
import TreePath.Proofs.Session.Recording
import TreePath.Proofs.Session.Repetition
import TreePath.Proofs.Session.Replay
import TreePath.Proofs.Session.Staying
import TreePath.Proofs.Session.Supply
import TreePath.Proofs.Session.Transparency
import TreePath.Proofs.Session.TypedCalls
import TreePath.Proofs.Text.Digits
import TreePath.Proofs.Tree.Arrangement
import TreePath.Proofs.Tree.Cover
import TreePath.Proofs.Tree.DocumentOrder
import TreePath.Proofs.Tree.KeyOrder
import TreePath.Proofs.Tree.Location
import TreePath.Proofs.Tree.Lookup
import TreePath.Proofs.Tree.Mirror
import TreePath.Proofs.Tree.Moves
import TreePath.Proofs.Tree.Place
import TreePath.Proofs.Tree.SeveralTrees
import TreePath.Proofs.Tree.SortedSet
import TreePath.Regex.Compile
import TreePath.Regex.Edge
import TreePath.Regex.Flags
import TreePath.Regex.Notation
import TreePath.Regex.Parser
import TreePath.Regex.Program
import TreePath.Regex.Regular.Bracket
import TreePath.Regex.Regular.Parser
import TreePath.Regex.Regular.Program
import TreePath.Regex.Regular.Size
import TreePath.Regex.Regular.Syntax
import TreePath.Regex.Search
import TreePath.Regex.Syntax
import TreePath.Schema.Definition
import TreePath.Sequence
import TreePath.Text.CharSet
import TreePath.Text.Scan
import TreePath.Text.Unicode.Ages
import TreePath.Text.Unicode.Breaks
import TreePath.Text.Unicode.CaseTables
import TreePath.Text.Unicode.Character
import TreePath.Text.Unicode.Emoji
import TreePath.Text.Unicode.Identifiers
import TreePath.Text.Unicode.Letters
import TreePath.Text.Unicode.Markers
import TreePath.Text.Unicode.Marks
import TreePath.Text.Unicode.Properties
import TreePath.Text.Unicode.Property
import TreePath.Text.Unicode.Punctuators
import TreePath.Text.Unicode.Run
import TreePath.Text.Unicode.ScriptExtensions
import TreePath.Text.Unicode.Scripts
import TreePath.Text.Unicode.Selection
import TreePath.Text.Unicode.Symbols
import TreePath.Tree.Basic
import TreePath.Tree.Binding
import TreePath.Tree.Node
import TreePath.Proofs.Calendar.DurationForms
import TreePath.Proofs.Calendar.DurationReading
import TreePath.Proofs.Calendar.ZoneSplitting
import TreePath.Proofs.Atomic.Division
import TreePath.Proofs.Atomic.Rounding
import TreePath.Proofs.Number.DecimalReading
import TreePath.Proofs.Constraint.Placeholders
import TreePath.Proofs.Constraint.TemplateEncoding
import TreePath.Proofs.Constraint.ValuePatterns
import TreePath.Proofs.Regex.Parsing
import TreePath.Proofs.Regex.Inside
import TreePath.Proofs.Regex.Levels
import TreePath.Proofs.Regex.Nesting
import TreePath.Proofs.Regex.Anchoring
import TreePath.Proofs.Regex.Brackets
import TreePath.Proofs.Regex.Pieces
import TreePath.Proofs.Regex.Rereading
import TreePath.Proofs.Function.Projection
import TreePath.Proofs.Expr.Substitution
import TreePath.Proofs.Library.Calls
import TreePath.Proofs.Library.Substring
import TreePath.Proofs.Regex.Exploring
import TreePath.Proofs.Regex.Stretches
import TreePath.Proofs.Regex.Matches
import TreePath.Proofs.Regex.WholeTexts
import TreePath.Proofs.Library.Tokenizing
import TreePath.Proofs.Expr.Quantification
import TreePath.Proofs.Atomic.Alike
import TreePath.Proofs.Library.Distinct
import TreePath.Proofs.Library.Extremes
import TreePath.Proofs.Constraint.Accounting
import TreePath.Proofs.Tree.StringValue
import TreePath.Proofs.Net.MailboxForms
import TreePath.Proofs.Atomic.Faultless
