import GraphContracts.Catalog.Entry
import GraphContracts.Catalog.Table
import GraphContracts.CommandLine.Help
import GraphContracts.CommandLine.Listing
import GraphContracts.CommandLine.Parse
import GraphContracts.CommandLine.Run
import GraphContracts.CommandLine.Similar
import GraphContracts.CommandLine.Usage
import GraphContracts.Config.Environment
import GraphContracts.Config.Load
import GraphContracts.Config.Model
import GraphContracts.Config.Overlay
import GraphContracts.Contract.Binding
import GraphContracts.Contract.Chain
import GraphContracts.Contract.Groups
import GraphContracts.Contract.Integrity
import GraphContracts.Contract.Literal
import GraphContracts.Contract.Reference
import GraphContracts.Contract.Report
import GraphContracts.Datum.Basic
import GraphContracts.Datum.Calendar
import GraphContracts.Datum.Literal
import GraphContracts.Datum.Shown
import GraphContracts.Documents
import GraphContracts.Event
import GraphContracts.Expect
import GraphContracts.Failure
import GraphContracts.Files
import GraphContracts.Graph.Document
import GraphContracts.Graph.Kind
import GraphContracts.Graph.Literal
import GraphContracts.Graph.Node
import GraphContracts.Graph.Query
import GraphContracts.Graph.Store
import GraphContracts.Index.Buckets
import GraphContracts.Index.Entry
import GraphContracts.Index.Literal
import GraphContracts.Index.Query
import GraphContracts.Index.Roles
import GraphContracts.Index.Store
import GraphContracts.Json.Reader
import GraphContracts.Json.Writer
import GraphContracts.Log.Journal
import GraphContracts.Log.Line
import GraphContracts.Log.Program
import GraphContracts.Main
import GraphContracts.Number.Binary64
import GraphContracts.Number.Shortest
import GraphContracts.Number.Spelled
import GraphContracts.Proofs.Binding
import GraphContracts.Proofs.Binding.Verdict
import GraphContracts.Proofs.Catalog
import GraphContracts.Proofs.Catalog.Loading
import GraphContracts.Proofs.Chain.Agreement
import GraphContracts.Proofs.Chain.Backward
import GraphContracts.Proofs.Chain.Closed
import GraphContracts.Proofs.Chain.Failure
import GraphContracts.Proofs.Chain.Forward
import GraphContracts.Proofs.Chain.Hops
import GraphContracts.Proofs.Chain.Rounds
import GraphContracts.Proofs.Chain.Start
import GraphContracts.Proofs.Chain.Steps
import GraphContracts.Proofs.Chain.Verify
import GraphContracts.Proofs.CommandLine
import GraphContracts.Proofs.Config.Environment
import GraphContracts.Proofs.Config.Overlay
import GraphContracts.Proofs.Config.Precedence
import GraphContracts.Proofs.Config.Taken
import GraphContracts.Proofs.Description
import GraphContracts.Proofs.Documents
import GraphContracts.Proofs.FirstSeen
import GraphContracts.Proofs.Glob
import GraphContracts.Proofs.Groups
import GraphContracts.Proofs.Index.Answers
import GraphContracts.Proofs.Index.Filter
import GraphContracts.Proofs.Index.Views
import GraphContracts.Proofs.Integrity.Asked
import GraphContracts.Proofs.Integrity.Count
import GraphContracts.Proofs.Integrity.Findings
import GraphContracts.Proofs.Integrity.Offence
import GraphContracts.Proofs.Integrity.Report
import GraphContracts.Proofs.Integrity.Views
import GraphContracts.Proofs.Json.LongInteger
import GraphContracts.Proofs.Log.Nesting
import GraphContracts.Proofs.Lookup
import GraphContracts.Proofs.Narrowing
import GraphContracts.Proofs.Outcome
import GraphContracts.Proofs.Query
import GraphContracts.Proofs.Query.Conjunction
import GraphContracts.Proofs.Query.Filter
import GraphContracts.Proofs.Query.Receivers
import GraphContracts.Proofs.Reading.Alike
import GraphContracts.Proofs.Reading.Calls
import GraphContracts.Proofs.Reading.Document
import GraphContracts.Proofs.Reading.Flat
import GraphContracts.Proofs.Reading.Graph
import GraphContracts.Proofs.Reading.Index
import GraphContracts.Proofs.Reading.Json
import GraphContracts.Proofs.Reading.Ranges
import GraphContracts.Proofs.Reading.Settled
import GraphContracts.Proofs.Reading.Spelling
import GraphContracts.Proofs.Reading.Stored
import GraphContracts.Proofs.Reference.Consistent
import GraphContracts.Proofs.Reference.Declarations
import GraphContracts.Proofs.Reference.Doubled
import GraphContracts.Proofs.Reference.Verdict
import GraphContracts.Proofs.Registers
import GraphContracts.Proofs.Reordered
import GraphContracts.Proofs.Roles
import GraphContracts.Proofs.Roles.Filters
import GraphContracts.Proofs.Scope
import GraphContracts.Proofs.Sorted
import GraphContracts.Proofs.Symbol
import GraphContracts.Proofs.Symbol.RoundTrip
import GraphContracts.Proofs.Symbol.Segment
import GraphContracts.Proofs.Symbol.Word
import GraphContracts.Proofs.Symbol.Written
import GraphContracts.Proofs.Text.Utf8
import GraphContracts.Proofs.Yaml.Distinct
import GraphContracts.Proofs.Yaml.Written
import GraphContracts.Schema.Checked
import GraphContracts.Schema.Issue
import GraphContracts.Schema.Record
import GraphContracts.Schema.Scalar
import GraphContracts.Script.Argument
import GraphContracts.Script.Catalog
import GraphContracts.Script.Contract
import GraphContracts.Script.Journal
import GraphContracts.Script.Object
import GraphContracts.Script.Perform
import GraphContracts.Script.Query
import GraphContracts.Script.Record
import GraphContracts.Script.Render
import GraphContracts.Script.Run
import GraphContracts.Script.Store
import GraphContracts.Session
import GraphContracts.Suite
import GraphContracts.Symbol.Name
import GraphContracts.Symbol.Scope
import GraphContracts.Terminal.Emoji
import GraphContracts.Terminal.Markup
import GraphContracts.Terminal.Page
import GraphContracts.Terminal.ShortCode
import GraphContracts.Terminal.Style
import GraphContracts.Terminal.Table
import GraphContracts.Terminal.Wrap
import GraphContracts.Text.Base64
import GraphContracts.Text.Blank
import GraphContracts.Text.CellWidth
import GraphContracts.Text.Chars
import GraphContracts.Text.Digit
import GraphContracts.Text.Glob
import GraphContracts.Text.LetterCase
import GraphContracts.Text.Printable
import GraphContracts.Text.Quoted
import GraphContracts.Text.Ranges
import GraphContracts.Text.Regex
import GraphContracts.Text.Utf8
import GraphContracts.Yaml.Block
import GraphContracts.Yaml.Cursor
import GraphContracts.Yaml.Kind
import GraphContracts.Yaml.Node
import GraphContracts.Yaml.Scalar
import GraphContracts.Yaml.Scanner
import GraphContracts.Yaml.Styled
import GraphContracts.Yaml.Value
