import RecordSchema.Builtin.Basic
import RecordSchema.Builtin.Lookup
import RecordSchema.Builtin.Names
import RecordSchema.Builtin.Other
import RecordSchema.Builtin.Plain
import RecordSchema.Calendar
import RecordSchema.ClassName
import RecordSchema.CommandLine.Choice
import RecordSchema.CommandLine.Execution
import RecordSchema.CommandLine.Failure
import RecordSchema.CommandLine.Help
import RecordSchema.CommandLine.Parameter
import RecordSchema.CommandLine.Reading
import RecordSchema.CommandLine.Run
import RecordSchema.CommandLine.Summary
import RecordSchema.CommandLine.Task
import RecordSchema.CommandLine.Usage
import RecordSchema.CommandLine.Verbosity
import RecordSchema.Decimal.Binary64
import RecordSchema.Decimal.Places
import RecordSchema.Decimal.Shortest
import RecordSchema.Decimal.Text
import RecordSchema.ErrorClass
import RecordSchema.Expression.Arithmetic
import RecordSchema.Expression.Basic
import RecordSchema.Expression.Fault
import RecordSchema.Expression.Literal
import RecordSchema.Expression.Numeral
import RecordSchema.Expression.Parser
import RecordSchema.Expression.Relation
import RecordSchema.Expression.Token
import RecordSchema.FieldTable
import RecordSchema.FileTree
import RecordSchema.JsonValue
import RecordSchema.Library.Bundled
import RecordSchema.Library.Enumeration
import RecordSchema.Library.Lookup
import RecordSchema.Library.Module
import RecordSchema.Library.Object
import RecordSchema.Log.Directive
import RecordSchema.Log.Interpolation
import RecordSchema.Log.Layout
import RecordSchema.Log.Level
import RecordSchema.Log.Record
import RecordSchema.Log.Setup
import RecordSchema.Main
import RecordSchema.Name.Words
import RecordSchema.Named
import RecordSchema.Notice
import RecordSchema.Path
import RecordSchema.Proofs.Agreement
import RecordSchema.Proofs.CommandLine.Arguments
import RecordSchema.Proofs.CommandLine.Colour
import RecordSchema.Proofs.CommandLine.Delivery
import RecordSchema.Proofs.CommandLine.ExitCode
import RecordSchema.Proofs.CommandLine.Formats
import RecordSchema.Proofs.CommandLine.Forms
import RecordSchema.Proofs.CommandLine.LevelSetting
import RecordSchema.Proofs.CommandLine.Messages
import RecordSchema.Proofs.CommandLine.Notices
import RecordSchema.Proofs.CommandLine.Stages
import RecordSchema.Proofs.CommandLine.Summary
import RecordSchema.Proofs.CommandLine.Table
import RecordSchema.Proofs.CommandLine.Tally
import RecordSchema.Proofs.CommandLine.Verbosity
import RecordSchema.Proofs.FieldTable.Columns
import RecordSchema.Proofs.FieldTable.Reading
import RecordSchema.Proofs.FileTree
import RecordSchema.Proofs.JsonValue.Reader
import RecordSchema.Proofs.JsonValue.RoundTrip
import RecordSchema.Proofs.Library.Lookup
import RecordSchema.Proofs.Log.Level
import RecordSchema.Proofs.Log.Line
import RecordSchema.Proofs.Name.CamelCase
import RecordSchema.Proofs.Name.Letters
import RecordSchema.Proofs.Name.Runs
import RecordSchema.Proofs.Name.SnakeCase
import RecordSchema.Proofs.Name.UpperCase
import RecordSchema.Proofs.Named
import RecordSchema.Proofs.Notice.Count
import RecordSchema.Proofs.Notice.History
import RecordSchema.Proofs.Record.Comparison
import RecordSchema.Proofs.Record.FieldTable
import RecordSchema.Proofs.Record.Replacement
import RecordSchema.Proofs.Record.Walk
import RecordSchema.Proofs.Schema.Block
import RecordSchema.Proofs.Schema.Comparison
import RecordSchema.Proofs.Schema.Decoding
import RecordSchema.Proofs.Schema.DefaultInstance
import RecordSchema.Proofs.Schema.Failures
import RecordSchema.Proofs.Schema.FieldNames
import RecordSchema.Proofs.Schema.Fields
import RecordSchema.Proofs.Schema.Meaning
import RecordSchema.Proofs.Schema.Optionality
import RecordSchema.Proofs.Schema.Overflow
import RecordSchema.Proofs.Schema.Rejection
import RecordSchema.Proofs.Schema.Values
import RecordSchema.Proofs.Schema.Warnings
import RecordSchema.Proofs.Settings.Accounting
import RecordSchema.Proofs.Settings.Drafts
import RecordSchema.Proofs.Settings.Failures
import RecordSchema.Proofs.Settings.Layers
import RecordSchema.Proofs.Settings.Overrides
import RecordSchema.Proofs.Settings.Precedence
import RecordSchema.Proofs.Settings.Reload
import RecordSchema.Proofs.Settings.Remarks
import RecordSchema.Proofs.Settings.Warnings
import RecordSchema.Proofs.Terminal.Cutting
import RecordSchema.Proofs.Terminal.Painting
import RecordSchema.Proofs.Terminal.Plain
import RecordSchema.Proofs.Terminal.Writers
import RecordSchema.Proofs.Text.Cut
import RecordSchema.Proofs.Text.Strip
import RecordSchema.Proofs.Toml.Line
import RecordSchema.Proofs.Toml.QuotedText
import RecordSchema.Proofs.Toml.RoundTrip
import RecordSchema.Proofs.Traversal
import RecordSchema.Proofs.TypeExpr.Grammar
import RecordSchema.Proofs.TypeExpr.Optional
import RecordSchema.Reading.Attribute
import RecordSchema.Reading.Call
import RecordSchema.Reading.Evaluation
import RecordSchema.Reading.Meaning
import RecordSchema.Reading.Subscript
import RecordSchema.Record.Attribute
import RecordSchema.Record.Bundled
import RecordSchema.Record.Class
import RecordSchema.Record.Declaration
import RecordSchema.Record.Definition
import RecordSchema.Record.Descriptor
import RecordSchema.Record.Instance
import RecordSchema.Record.Module
import RecordSchema.Schema.Block
import RecordSchema.Schema.Build
import RecordSchema.Schema.Error
import RecordSchema.Schema.Mapping
import RecordSchema.Settings.Draft
import RecordSchema.Settings.Error
import RecordSchema.Settings.Key
import RecordSchema.Settings.Load
import RecordSchema.Settings.Table
import RecordSchema.Terminal.Console
import RecordSchema.Terminal.Emphasis
import RecordSchema.Terminal.Paint
import RecordSchema.Terminal.Plain
import RecordSchema.Text.Blank
import RecordSchema.Text.Case
import RecordSchema.Text.Compatible
import RecordSchema.Text.Cut
import RecordSchema.Text.Digit
import RecordSchema.Text.Filling
import RecordSchema.Text.Identifier
import RecordSchema.Text.Printable
import RecordSchema.Text.Quoted
import RecordSchema.Text.Range
import RecordSchema.Text.Similarity
import RecordSchema.Text.Utf8
import RecordSchema.Toml.Body
import RecordSchema.Toml.Document
import RecordSchema.Toml.Key
import RecordSchema.Toml.Lexeme
import RecordSchema.Toml.Literal
import RecordSchema.Toml.Moment
import RecordSchema.Toml.Number
import RecordSchema.Toml.Text
import RecordSchema.Toml.Writer
import RecordSchema.TypeExpr.Basic
import RecordSchema.TypeExpr.Display
import RecordSchema.TypeExpr.Form
import RecordSchema.TypeExpr.Kind
import RecordSchema.TypeExpr.Names
import RecordSchema.Value
import RecordSchema.Value.Bits
