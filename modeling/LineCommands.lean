import LineCommands.Action
import LineCommands.Binary64.Notation
import LineCommands.Binary64.Places
import LineCommands.Binary64.Rounding
import LineCommands.Binary64.Shortest
import LineCommands.Binary64.SignedDyadic
import LineCommands.Binding
import LineCommands.CommandLine.Console
import LineCommands.CommandLine.Options
import LineCommands.CommandLine.Program
import LineCommands.CommandLine.Shell
import LineCommands.CommandLine.Usage
import LineCommands.Config.Discovery
import LineCommands.Config.Environment
import LineCommands.Config.FileTree
import LineCommands.Config.Merge
import LineCommands.Config.Settings
import LineCommands.Convert
import LineCommands.Dispatch
import LineCommands.Expression.Arithmetic
import LineCommands.Expression.Basic
import LineCommands.Expression.Error
import LineCommands.Expression.Evaluate
import LineCommands.Expression.Operation
import LineCommands.Expression.Parser
import LineCommands.Expression.Size
import LineCommands.Expression.Token
import LineCommands.Fault
import LineCommands.Fields
import LineCommands.Json.Reader
import LineCommands.Json.Writer
import LineCommands.Log
import LineCommands.Main
import LineCommands.Memo
import LineCommands.Output.Emoji
import LineCommands.Output.EmojiNames
import LineCommands.Output.Format
import LineCommands.Output.Markup
import LineCommands.Output.Page
import LineCommands.Output.PageError
import LineCommands.Output.Style
import LineCommands.Output.Table
import LineCommands.Output.Wrap
import LineCommands.Primitive
import LineCommands.Proofs.Binary64.Nearest
import LineCommands.Proofs.Binary64.Overflow
import LineCommands.Proofs.Binding.Blame
import LineCommands.Proofs.Binding.Cut
import LineCommands.Proofs.Binding.Failure
import LineCommands.Proofs.Binding.Scoping
import LineCommands.Proofs.Binding.Surplus
import LineCommands.Proofs.Binding.Typing
import LineCommands.Proofs.Binding.Written
import LineCommands.Proofs.CommandLine.Arguments
import LineCommands.Proofs.CommandLine.Priority
import LineCommands.Proofs.CommandLine.Program
import LineCommands.Proofs.CommandLine.Shell
import LineCommands.Proofs.Config.Flags
import LineCommands.Proofs.Config.Priority
import LineCommands.Proofs.Conversion.Floats
import LineCommands.Proofs.Conversion.Integers
import LineCommands.Proofs.Conversion.Typing
import LineCommands.Proofs.Conversion.Writing
import LineCommands.Proofs.Dispatch.Course
import LineCommands.Proofs.Dispatch.Escape
import LineCommands.Proofs.Dispatch.Replay
import LineCommands.Proofs.Dispatch.Verdict
import LineCommands.Proofs.Expression.Completeness
import LineCommands.Proofs.Expression.Grammar
import LineCommands.Proofs.Expression.Literal
import LineCommands.Proofs.Expression.Locality
import LineCommands.Proofs.Expression.Lookup
import LineCommands.Proofs.Expression.Names
import LineCommands.Proofs.Expression.NumberText
import LineCommands.Proofs.Expression.Printing
import LineCommands.Proofs.Expression.Spelling
import LineCommands.Proofs.Expression.Tokens
import LineCommands.Proofs.Expression.WholeNumbers
import LineCommands.Proofs.Fields
import LineCommands.Proofs.Outcome
import LineCommands.Proofs.Output.Pages
import LineCommands.Proofs.Session.Recall
import LineCommands.Proofs.Session.Statelessness
import LineCommands.Proofs.Succession
import LineCommands.Proofs.Template.Rendering
import LineCommands.Proofs.Template.Scan
import LineCommands.Proofs.Template.Validity
import LineCommands.Proofs.Text.Runs
import LineCommands.Proofs.Text.Trim
import LineCommands.Recall
import LineCommands.Registry
import LineCommands.Result
import LineCommands.Session
import LineCommands.Sum
import LineCommands.Template.Compile
import LineCommands.Template.Definition
import LineCommands.Template.Entry
import LineCommands.Text.Blank
import LineCommands.Text.Casing
import LineCommands.Text.CodeRange
import LineCommands.Text.Digit
import LineCommands.Text.LowerCase
import LineCommands.Text.Numeral
import LineCommands.Text.Printable
import LineCommands.Text.Quoted
import LineCommands.Text.Width
import LineCommands.Text.WordChar
import LineCommands.Toml.Document
import LineCommands.Toml.Moment
import LineCommands.Toml.Reader
import LineCommands.Toml.Text
import LineCommands.Value.Basic
import LineCommands.Value.Directive
import LineCommands.Value.Filling
import LineCommands.Value.Text
import LineCommands.Proofs.Expression.Longest
import LineCommands.Proofs.Expression.Tokenization
import LineCommands.Proofs.Expression.Viability
import LineCommands.Proofs.Session.Registrations
import LineCommands.Proofs.Dispatch.Splitting
import LineCommands.Proofs.Binding.Counting
import LineCommands.Proofs.Dispatch.Compilations
import LineCommands.Proofs.Session.Warnings
import LineCommands.Proofs.CommandLine.Log
import LineCommands.Proofs.Config.Layers
import LineCommands.Proofs.Config.NamesOnce
import LineCommands.Proofs.Config.Leaves
import LineCommands.Proofs.Config.OneLeaf
import LineCommands.Proofs.Config.InOrder
import LineCommands.Proofs.Config.Variables
import LineCommands.Proofs.Config.Parts
import LineCommands.Proofs.Config.Layering
import LineCommands.Proofs.Config.Nearest
import LineCommands.Proofs.Expression.References
import LineCommands.Proofs.Expression.Walk
import LineCommands.Proofs.Totals
