import FlagBinding.Binding.Content
import FlagBinding.Binding.Run
import FlagBinding.Binding.Wrap
import FlagBinding.Cell
import FlagBinding.Cell.JsonMap
import FlagBinding.Cell.Repeated
import FlagBinding.Cell.Single
import FlagBinding.Cell.StringMap
import FlagBinding.Check.Fault
import FlagBinding.Check.Field
import FlagBinding.Check.Message
import FlagBinding.Check.Nesting
import FlagBinding.Compilation
import FlagBinding.Descriptor.Basic
import FlagBinding.Descriptor.Names
import FlagBinding.Descriptor.Read
import FlagBinding.Dict
import FlagBinding.Element.Bytes
import FlagBinding.Element.Codec
import FlagBinding.Element.Enumeration
import FlagBinding.Element.Error
import FlagBinding.Element.Format
import FlagBinding.Element.Moment
import FlagBinding.Element.Scalar
import FlagBinding.Emit.Code
import FlagBinding.Emit.Plan
import FlagBinding.Journal
import FlagBinding.Json.Number
import FlagBinding.Json.Read
import FlagBinding.Json.Tree
import FlagBinding.Json.Value
import FlagBinding.Linked.Basic
import FlagBinding.Linked.Pool
import FlagBinding.Linked.Resolve
import FlagBinding.Linked.Schema
import FlagBinding.Main
import FlagBinding.NamingScheme
import FlagBinding.Number.Decimal
import FlagBinding.Number.FloatText
import FlagBinding.Number.Floating
import FlagBinding.Number.Power
import FlagBinding.Number.Shortest
import FlagBinding.Options.Flags
import FlagBinding.Options.Record
import FlagBinding.Options.Shape
import FlagBinding.Options.Standard
import FlagBinding.Plugin.Request
import FlagBinding.Plugin.Run
import FlagBinding.Proofs.Binding.Clashes
import FlagBinding.Proofs.Binding.Course
import FlagBinding.Proofs.Binding.Records
import FlagBinding.Proofs.Binding.Spelling
import FlagBinding.Proofs.Binding.Success
import FlagBinding.Proofs.Binding.Tree
import FlagBinding.Proofs.Cells.JsonMaps
import FlagBinding.Proofs.Cells.ListRuns
import FlagBinding.Proofs.Cells.Lists
import FlagBinding.Proofs.Cells.MapRuns
import FlagBinding.Proofs.Cells.Maps
import FlagBinding.Proofs.Checks.Accepted
import FlagBinding.Proofs.Checks.Cycles
import FlagBinding.Proofs.Checks.Kinds
import FlagBinding.Proofs.Checks.Search
import FlagBinding.Proofs.Checks.Steps
import FlagBinding.Proofs.Checks.Validity
import FlagBinding.Proofs.CommandLine.Effect
import FlagBinding.Proofs.CommandLine.Order
import FlagBinding.Proofs.CommandLine.Spellings
import FlagBinding.Proofs.CommandLine.Terminator
import FlagBinding.Proofs.CommandLine.Tokens
import FlagBinding.Proofs.Csv.Brackets
import FlagBinding.Proofs.Csv.Bytes
import FlagBinding.Proofs.Csv.ReadWrite
import FlagBinding.Proofs.Csv.Spellings
import FlagBinding.Proofs.Csv.Unquoted
import FlagBinding.Proofs.Defaults.Execution
import FlagBinding.Proofs.Defaults.Literals
import FlagBinding.Proofs.Defaults.Outcome
import FlagBinding.Proofs.Defaults.Records
import FlagBinding.Proofs.Durations.Canonical
import FlagBinding.Proofs.Durations.Components
import FlagBinding.Proofs.Durations.Exactness
import FlagBinding.Proofs.Durations.Texts
import FlagBinding.Proofs.Durations.Width
import FlagBinding.Proofs.Elements.Bytes
import FlagBinding.Proofs.Elements.Enumerations
import FlagBinding.Proofs.Elements.Formats
import FlagBinding.Proofs.Elements.Integers
import FlagBinding.Proofs.Emission.Blocks
import FlagBinding.Proofs.Emission.Cells
import FlagBinding.Proofs.Emission.Identifiers
import FlagBinding.Proofs.Emission.Numerals
import FlagBinding.Proofs.Emission.Outputs
import FlagBinding.Proofs.Emission.Typing
import FlagBinding.Proofs.Emission.WellTyped
import FlagBinding.Proofs.Json.Texts
import FlagBinding.Proofs.Linked.Presence
import FlagBinding.Proofs.Linked.Tour
import FlagBinding.Proofs.Literals.Code
import FlagBinding.Proofs.Literals.Emitted
import FlagBinding.Proofs.Literals.Layout
import FlagBinding.Proofs.Literals.Legal
import FlagBinding.Proofs.Literals.Lexer
import FlagBinding.Proofs.Literals.Plain
import FlagBinding.Proofs.Literals.Quoted
import FlagBinding.Proofs.Naming.Defaults
import FlagBinding.Proofs.Naming.Dotted
import FlagBinding.Proofs.Naming.Steps
import FlagBinding.Proofs.Naming.Words
import FlagBinding.Proofs.Numbers.ReadBack
import FlagBinding.Proofs.Numbers.Rounding
import FlagBinding.Proofs.Numbers.Shortest
import FlagBinding.Proofs.Options.Declared
import FlagBinding.Proofs.Options.Described
import FlagBinding.Proofs.Options.Records
import FlagBinding.Proofs.Options.Stated
import FlagBinding.Proofs.Registry.Calls
import FlagBinding.Proofs.Registry.Keys
import FlagBinding.Proofs.Settings.Parameter
import FlagBinding.Proofs.Settings.Pieces
import FlagBinding.Proofs.Text.Utf8
import FlagBinding.Proofs.Timestamps.Calendar
import FlagBinding.Proofs.Timestamps.Layouts
import FlagBinding.Proofs.Timestamps.LeapSeconds
import FlagBinding.Proofs.Timestamps.Written
import FlagBinding.Registry.Basic
import FlagBinding.Registry.CommandLine
import FlagBinding.Registry.Error
import FlagBinding.Registry.Help
import FlagBinding.Registry.Key
import FlagBinding.Sample
import FlagBinding.Schema.Basic
import FlagBinding.Schema.Document
import FlagBinding.Schema.Options
import FlagBinding.Schema.ScalarKind
import FlagBinding.Settings
import FlagBinding.Target.Code
import FlagBinding.Target.Layout
import FlagBinding.Target.Legal
import FlagBinding.Target.Literal
import FlagBinding.Target.Name
import FlagBinding.Text.Base64
import FlagBinding.Text.Case
import FlagBinding.Text.CodeRun
import FlagBinding.Text.Csv
import FlagBinding.Text.Hex
import FlagBinding.Text.Quoted
import FlagBinding.Text.Table.Case
import FlagBinding.Text.Table.Identifier
import FlagBinding.Text.Table.Letter
import FlagBinding.Text.Table.Printable
import FlagBinding.Text.Trim
import FlagBinding.Text.Utf8
import FlagBinding.Time.Calendar
import FlagBinding.Time.Duration
import FlagBinding.Time.Layout
import FlagBinding.Time.Pattern
import FlagBinding.Time.Resolve
import FlagBinding.Time.Rfc3339
import FlagBinding.Time.Scan
import FlagBinding.Typeset
import FlagBinding.Wire.Entry
import FlagBinding.Wire.Known
import FlagBinding.Wire.Varint
