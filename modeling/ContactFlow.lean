import ContactFlow.Batch
import ContactFlow.Builder.Action
import ContactFlow.Builder.Append
import ContactFlow.Builder.Branching
import ContactFlow.Builder.Join
import ContactFlow.Builder.Workspace
import ContactFlow.Catalog
import ContactFlow.CommandLine.Report
import ContactFlow.CommandLine.Request
import ContactFlow.CommandLine.Run
import ContactFlow.Compile
import ContactFlow.Decimal.Binary64
import ContactFlow.Decimal.Numeral
import ContactFlow.Decimal.Shortest
import ContactFlow.Decimal.Spelling
import ContactFlow.Definition.Build
import ContactFlow.Definition.Fault
import ContactFlow.Definition.Field
import ContactFlow.Definition.File
import ContactFlow.Definition.Input
import ContactFlow.Definition.Listing
import ContactFlow.Definition.Load
import ContactFlow.Definition.Merge
import ContactFlow.Definition.Part
import ContactFlow.Definition.Step
import ContactFlow.Definition.Steps
import ContactFlow.Digest.Sha256
import ContactFlow.Document
import ContactFlow.Entry
import ContactFlow.Expansion.InPlace
import ContactFlow.Expansion.Retry
import ContactFlow.Expansion.Stage
import ContactFlow.Files
import ContactFlow.Graph
import ContactFlow.Ident
import ContactFlow.Journal
import ContactFlow.Kind
import ContactFlow.Level
import ContactFlow.Listing
import ContactFlow.Logging
import ContactFlow.Main
import ContactFlow.Ordered
import ContactFlow.Output
import ContactFlow.Reference
import ContactFlow.Registry
import ContactFlow.Scalar
import ContactFlow.Script.Argument
import ContactFlow.Script.Call
import ContactFlow.Script.Handmade
import ContactFlow.Script.Run
import ContactFlow.Script.State
import ContactFlow.Script.Step
import ContactFlow.Script.StepError
import ContactFlow.Settings
import ContactFlow.Spec
import ContactFlow.Text.Blank
import ContactFlow.Text.Case
import ContactFlow.Text.CharacterName
import ContactFlow.Text.CharacterName.Table
import ContactFlow.Text.Digit
import ContactFlow.Text.Emoji
import ContactFlow.Text.Emoji.Table
import ContactFlow.Text.Handler
import ContactFlow.Text.Handler.Escape
import ContactFlow.Text.Handler.Expression
import ContactFlow.Text.Handler.Fault
import ContactFlow.Text.Handler.Filled
import ContactFlow.Text.Handler.Grammar
import ContactFlow.Text.Handler.Grammar.Argument
import ContactFlow.Text.Handler.Grammar.Bracket
import ContactFlow.Text.Handler.Grammar.Choice
import ContactFlow.Text.Handler.Grammar.Item
import ContactFlow.Text.Handler.Grammar.Operand
import ContactFlow.Text.Handler.Grammar.Parameter
import ContactFlow.Text.Handler.Number
import ContactFlow.Text.Handler.Reader
import ContactFlow.Text.Handler.Reading
import ContactFlow.Text.Handler.Token
import ContactFlow.Text.Letter
import ContactFlow.Text.Markup
import ContactFlow.Text.Name
import ContactFlow.Text.Printable
import ContactFlow.Text.Quoted
import ContactFlow.Text.Style
import ContactFlow.Trace
import ContactFlow.Usage
import ContactFlow.Validation.Check
import ContactFlow.Validation.Finding
import ContactFlow.Validation.Pipeline
import ContactFlow.Validation.Validator
import ContactFlow.Value
import ContactFlow.Value.Display
import ContactFlow.Value.Json
import ContactFlow.Value.Json.Parser
import ContactFlow.Value.KeyOrder
import ContactFlow.Value.Member
import ContactFlow.Value.Plain
import ContactFlow.Value.Shape
import ContactFlow.Yaml.Content
import ContactFlow.Yaml.Cursor
import ContactFlow.Yaml.Failure
import ContactFlow.Yaml.Flatten
import ContactFlow.Yaml.Meaning
import ContactFlow.Yaml.Node
import ContactFlow.Yaml.Scalar.Binary
import ContactFlow.Yaml.Scalar.Block
import ContactFlow.Yaml.Scalar.Plain
import ContactFlow.Yaml.Scalar.Quoted
import ContactFlow.Yaml.Stamp
import ContactFlow.Yaml.Token
import ContactFlow.Proofs.Attempts
import ContactFlow.Proofs.RetryBudget
import ContactFlow.Proofs.TwoStages
import ContactFlow.Proofs.Laid
import ContactFlow.Proofs.DeadEnds
import ContactFlow.Proofs.Defined
import ContactFlow.Proofs.Sturdy
import ContactFlow.Proofs.JoinPoints
import ContactFlow.Proofs.Meaning
import ContactFlow.Proofs.Targets
import ContactFlow.Proofs.Conservative
import ContactFlow.Proofs.Orphans
import ContactFlow.Proofs.Hygiene
import ContactFlow.Proofs.Misuse
import ContactFlow.Proofs.Resolution
import ContactFlow.Proofs.Verdicts
import ContactFlow.Proofs.Walked
import ContactFlow.Proofs.Checks
import ContactFlow.Proofs.Pipelines
import ContactFlow.Proofs.Lowering
import ContactFlow.Proofs.Headings
import ContactFlow.Proofs.Allocation
import ContactFlow.Proofs.Counting
import ContactFlow.Proofs.Comparing
import ContactFlow.Proofs.Relaxing
import ContactFlow.Proofs.Registrations
import ContactFlow.Proofs.Placeholders
import ContactFlow.Proofs.Closed
import ContactFlow.Proofs.Fingerprints
import ContactFlow.Proofs.Shares
import ContactFlow.Proofs.Entries
import ContactFlow.Proofs.InputBranches
