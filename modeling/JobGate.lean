import JobGate.Binary64.Basic
import JobGate.Binary64.Reader
import JobGate.Binary64.Shortest
import JobGate.CommandLine.Arguments
import JobGate.CommandLine.Binding
import JobGate.CommandLine.Output
import JobGate.CommandLine.Report
import JobGate.CommandLine.Run
import JobGate.CommandLine.Usage
import JobGate.Condition.Error
import JobGate.Condition.Instantiation
import JobGate.Condition.Validation
import JobGate.Dictionary
import JobGate.Files.Cache
import JobGate.Files.FilePath
import JobGate.Files.FileTree
import JobGate.Files.Loading
import JobGate.Files.Workspace
import JobGate.Label
import JobGate.Main
import JobGate.Numeral
import JobGate.Operator
import JobGate.Proofs.CommandLine.Agreement
import JobGate.Proofs.CommandLine.Arguments
import JobGate.Proofs.CommandLine.Bindings
import JobGate.Proofs.CommandLine.Instantiation
import JobGate.Proofs.Condition.Agreement
import JobGate.Proofs.Condition.Checks
import JobGate.Proofs.Condition.Conjunction
import JobGate.Proofs.Condition.Dependency
import JobGate.Proofs.Condition.FirstFault
import JobGate.Proofs.Condition.Locality
import JobGate.Proofs.Condition.Outcome
import JobGate.Proofs.Condition.PathText
import JobGate.Proofs.Condition.Reads
import JobGate.Proofs.Condition.Reports
import JobGate.Proofs.Condition.Selector
import JobGate.Proofs.Condition.Violation
import JobGate.Proofs.Dictionary
import JobGate.Proofs.Files.Loading
import JobGate.Proofs.Files.Memory
import JobGate.Proofs.Files.Refusal
import JobGate.Proofs.Files.Resolved
import JobGate.Proofs.Files.Transparency
import JobGate.Proofs.Label.Expression
import JobGate.Proofs.Label.Grammar
import JobGate.Proofs.Numeral.Agreement
import JobGate.Proofs.Numeral.Canonical
import JobGate.Proofs.Numeral.Denotation
import JobGate.Proofs.Numeral.Reading
import JobGate.Proofs.Requirement.Acceptance
import JobGate.Proofs.Requirement.Built
import JobGate.Proofs.Requirement.Evaluation
import JobGate.Proofs.Requirement.Meaning
import JobGate.Proofs.Requirement.NormalForm
import JobGate.Proofs.Requirement.Problems
import JobGate.Proofs.Requirement.Refusal
import JobGate.Proofs.Requirement.Selector
import JobGate.Proofs.Schema.Form
import JobGate.Proofs.Schema.Location
import JobGate.Proofs.Schema.Parts
import JobGate.Proofs.Schema.Respelling
import JobGate.Proofs.Schema.RoundTrip
import JobGate.Proofs.Schema.Valid
import JobGate.Proofs.Session
import JobGate.Proofs.Text.Runs
import JobGate.Proofs.Traversal
import JobGate.Proofs.Value.Writable
import JobGate.Proofs.Variant.Agreement
import JobGate.Proofs.Variant.Grammar
import JobGate.Proofs.Variant.Resolution
import JobGate.Proofs.Variant.Scan
import JobGate.Proofs.Variant.Spelling
import JobGate.Proofs.Workflow.Blocks
import JobGate.Proofs.Workflow.ErrorPaths
import JobGate.Proofs.Workflow.Order
import JobGate.Proofs.Workflow.Removal
import JobGate.Requirement.Basic
import JobGate.Requirement.Evaluation
import JobGate.Requirement.Problem
import JobGate.Schema.Authored
import JobGate.Schema.Checked
import JobGate.Schema.Reader
import JobGate.Schema.Workflow
import JobGate.Session
import JobGate.Settings.Basic
import JobGate.Settings.EnvFile
import JobGate.Settings.LogLevel
import JobGate.Settings.Reference
import JobGate.Text.Blank
import JobGate.Text.Casing
import JobGate.Text.Cut
import JobGate.Text.Decoded
import JobGate.Text.Lower
import JobGate.Text.Pieces
import JobGate.Text.Printable
import JobGate.Text.Quoted
import JobGate.Text.Similarity
import JobGate.Text.Upper
import JobGate.Value.Basic
import JobGate.Value.Calendar
import JobGate.Value.Written
import JobGate.Variant.Basic
import JobGate.Variant.Substitution
import JobGate.Variant.Token
import JobGate.Workflow.Basic
import JobGate.Workflow.Edit
import JobGate.Yaml.Block
import JobGate.Yaml.Cursor
import JobGate.Yaml.Document
import JobGate.Yaml.Fault
import JobGate.Yaml.Lexer
import JobGate.Yaml.Merge
import JobGate.Yaml.Node
import JobGate.Yaml.Number
import JobGate.Yaml.Plain
import JobGate.Yaml.Property
import JobGate.Yaml.Quoted
import JobGate.Yaml.Scalar
import JobGate.Yaml.Shape
import JobGate.Yaml.Timestamp
import JobGate.Yaml.Token
