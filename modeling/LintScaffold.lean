import LintScaffold.Association
import LintScaffold.Calendar
import LintScaffold.Case.File
import LintScaffold.Case.Load
import LintScaffold.Case.TestCase
import LintScaffold.Command.Arguments
import LintScaffold.Command.Kinds
import LintScaffold.Command.Line
import LintScaffold.Command.New
import LintScaffold.Command.Step
import LintScaffold.Config.Load
import LintScaffold.Config.Settings
import LintScaffold.Datum
import LintScaffold.Datum.Order
import LintScaffold.Datum.Sorting
import LintScaffold.Json
import LintScaffold.Json.Fault
import LintScaffold.Json.Numeral
import LintScaffold.Json.Quoted
import LintScaffold.Literal.Json
import LintScaffold.Literal.Rust
import LintScaffold.Log
import LintScaffold.Main
import LintScaffold.Number.Arithmetic
import LintScaffold.Number.Binary64
import LintScaffold.Number.Complex
import LintScaffold.Number.Limit
import LintScaffold.Number.Reading
import LintScaffold.Number.Shortest
import LintScaffold.Path.FilePath
import LintScaffold.Path.FileTree
import LintScaffold.Path.Inquiry
import LintScaffold.Proofs.Association
import LintScaffold.Proofs.Attempt
import LintScaffold.Proofs.Case.Alike
import LintScaffold.Proofs.Case.Blame
import LintScaffold.Proofs.Case.Loaded
import LintScaffold.Proofs.Case.Schema
import LintScaffold.Proofs.Command.Arguments
import LintScaffold.Proofs.Command.Assembled
import LintScaffold.Proofs.Command.Conclusion
import LintScaffold.Proofs.Command.ConfigFault
import LintScaffold.Proofs.Command.Decision
import LintScaffold.Proofs.Command.Destination
import LintScaffold.Proofs.Command.Frame
import LintScaffold.Proofs.Command.Inputs
import LintScaffold.Proofs.Command.Listing
import LintScaffold.Proofs.Command.LoadedCases
import LintScaffold.Proofs.Command.Oblivious
import LintScaffold.Proofs.Command.Printed
import LintScaffold.Proofs.Command.Repeated
import LintScaffold.Proofs.Command.Report
import LintScaffold.Proofs.Command.Separate
import LintScaffold.Proofs.Command.Session
import LintScaffold.Proofs.Command.SettingKinds
import LintScaffold.Proofs.Command.Spelling
import LintScaffold.Proofs.Command.TemplateFault
import LintScaffold.Proofs.Config.Document
import LintScaffold.Proofs.Config.RulePath
import LintScaffold.Proofs.Datum.Alike
import LintScaffold.Proofs.Datum.Loaded
import LintScaffold.Proofs.Datum.Ordered
import LintScaffold.Proofs.Datum.Sorting
import LintScaffold.Proofs.Json.Constant
import LintScaffold.Proofs.Json.Excess
import LintScaffold.Proofs.Json.LineEnds
import LintScaffold.Proofs.Json.Loaded
import LintScaffold.Proofs.Json.Strings
import LintScaffold.Proofs.Number.Digits
import LintScaffold.Proofs.Number.Nearest
import LintScaffold.Proofs.Number.Numeral
import LintScaffold.Proofs.Number.Rounding
import LintScaffold.Proofs.Number.Shortest
import LintScaffold.Proofs.Outcome
import LintScaffold.Proofs.Path.Again
import LintScaffold.Proofs.Path.Apart
import LintScaffold.Proofs.Path.Appearance
import LintScaffold.Proofs.Path.Fresh
import LintScaffold.Proofs.Path.Growth
import LintScaffold.Proofs.Rule.Accepted
import LintScaffold.Proofs.Rule.AsciiWords
import LintScaffold.Proofs.Rule.Best
import LintScaffold.Proofs.Rule.Closest
import LintScaffold.Proofs.Rule.CommonLength
import LintScaffold.Proofs.Rule.Factors
import LintScaffold.Proofs.Rule.KindRead
import LintScaffold.Proofs.Rule.ModuleName
import LintScaffold.Proofs.Rule.Name
import LintScaffold.Proofs.Rule.Respelled
import LintScaffold.Proofs.Rule.Score
import LintScaffold.Proofs.Rule.Words
import LintScaffold.Proofs.Rust.Case
import LintScaffold.Proofs.Rust.CaseWords
import LintScaffold.Proofs.Rust.Fence
import LintScaffold.Proofs.Rust.Lexer
import LintScaffold.Proofs.Rust.Literal
import LintScaffold.Proofs.Rust.Reader
import LintScaffold.Proofs.Rust.Value
import LintScaffold.Proofs.Skeleton.Import
import LintScaffold.Proofs.Skeleton.Reading
import LintScaffold.Proofs.Skeleton.Render
import LintScaffold.Proofs.Skeleton.Source
import LintScaffold.Proofs.Template.Checked
import LintScaffold.Proofs.Template.Compiled
import LintScaffold.Proofs.Template.Folded
import LintScaffold.Proofs.Template.Harmless
import LintScaffold.Proofs.Template.Inline
import LintScaffold.Proofs.Template.Parts
import LintScaffold.Proofs.Template.PartsPlan
import LintScaffold.Proofs.Template.Placeholders
import LintScaffold.Proofs.Template.Plain
import LintScaffold.Proofs.Template.Planned
import LintScaffold.Proofs.Template.Surveyed
import LintScaffold.Proofs.Template.Tame
import LintScaffold.Proofs.Template.Writes
import LintScaffold.Proofs.Text.Case
import LintScaffold.Proofs.Text.ControlSequence
import LintScaffold.Proofs.Text.Fold
import LintScaffold.Proofs.Text.Pieces
import LintScaffold.Proofs.Text.Utf8
import LintScaffold.Proofs.Toml.Loaded
import LintScaffold.Renderer
import LintScaffold.Rule.Kind
import LintScaffold.Rule.Name
import LintScaffold.Rule.Similarity
import LintScaffold.Rule.Words
import LintScaffold.Skeleton
import LintScaffold.Task
import LintScaffold.Template
import LintScaffold.Template.Access
import LintScaffold.Template.Call
import LintScaffold.Template.Comparing
import LintScaffold.Template.Constant
import LintScaffold.Template.Escape
import LintScaffold.Template.Eval
import LintScaffold.Template.Fault
import LintScaffold.Template.Filter
import LintScaffold.Template.Format
import LintScaffold.Template.Grammar
import LintScaffold.Template.Lexer
import LintScaffold.Template.Listing
import LintScaffold.Template.Memory
import LintScaffold.Template.Occurrence
import LintScaffold.Template.Operator
import LintScaffold.Template.Plan
import LintScaffold.Template.Planning
import LintScaffold.Template.Reader
import LintScaffold.Template.Scanner
import LintScaffold.Template.Scope
import LintScaffold.Template.Statement
import LintScaffold.Template.Survey
import LintScaffold.Template.Syntax
import LintScaffold.Template.Token
import LintScaffold.Template.Value
import LintScaffold.Text.Basic
import LintScaffold.Text.Blank
import LintScaffold.Text.Case
import LintScaffold.Text.Case.Table
import LintScaffold.Text.CharName
import LintScaffold.Text.CharName.Alias
import LintScaffold.Text.CharName.Eighth
import LintScaffold.Text.CharName.Eleventh
import LintScaffold.Text.CharName.Fifth
import LintScaffold.Text.CharName.First
import LintScaffold.Text.CharName.Fourth
import LintScaffold.Text.CharName.Ninth
import LintScaffold.Text.CharName.Second
import LintScaffold.Text.CharName.Seventh
import LintScaffold.Text.CharName.Sixth
import LintScaffold.Text.CharName.Tenth
import LintScaffold.Text.CharName.Third
import LintScaffold.Text.CharName.Twelfth
import LintScaffold.Text.CharTable
import LintScaffold.Text.Compatible
import LintScaffold.Text.Compatible.Table
import LintScaffold.Text.ControlSequence
import LintScaffold.Text.Digit
import LintScaffold.Text.Encoding
import LintScaffold.Text.Encoding.Fault
import LintScaffold.Text.Encoding.SingleByte
import LintScaffold.Text.Encoding.Utf16
import LintScaffold.Text.Encoding.Utf8
import LintScaffold.Text.Identifier
import LintScaffold.Text.Lines
import LintScaffold.Text.NameMark
import LintScaffold.Text.Printable
import LintScaffold.Text.Quoted
import LintScaffold.Text.Replace
import LintScaffold.Text.WordChar
import LintScaffold.Toml
import LintScaffold.Toml.Fault
import LintScaffold.Toml.Moment
import LintScaffold.Toml.Nesting
import LintScaffold.Toml.Numeral
import LintScaffold.Toml.Quoted
import LintScaffold.Toml.Value
import LintScaffold.Proofs.Path.Resolved
