import CatalogSearch.Calendar
import CatalogSearch.Clause.Basic
import CatalogSearch.Clause.Operator
import CatalogSearch.CommandLine.Action
import CatalogSearch.CommandLine.Invocation
import CatalogSearch.CommandLine.Options
import CatalogSearch.CommandLine.Program
import CatalogSearch.CommandLine.Search
import CatalogSearch.CommandLine.Session
import CatalogSearch.CommandLine.Usage
import CatalogSearch.Console.Color
import CatalogSearch.Console.ControlSequence
import CatalogSearch.Console.Drawing
import CatalogSearch.Console.Emoji
import CatalogSearch.Console.EmojiTable
import CatalogSearch.Console.Literal
import CatalogSearch.Console.Markup
import CatalogSearch.Console.Output
import CatalogSearch.Console.Style
import CatalogSearch.Console.Terminal
import CatalogSearch.Criteria.Basic
import CatalogSearch.Criteria.Tree
import CatalogSearch.Document
import CatalogSearch.Engine.Basic
import CatalogSearch.Engine.Dialogue
import CatalogSearch.Engine.Log
import CatalogSearch.Engine.Request
import CatalogSearch.Error
import CatalogSearch.Facet.Escape
import CatalogSearch.Facet.Filter
import CatalogSearch.Facet.Range
import CatalogSearch.Facet.Request
import CatalogSearch.Files.Account
import CatalogSearch.Files.Path
import CatalogSearch.Files.Tree
import CatalogSearch.Http.Client
import CatalogSearch.Http.Segment
import CatalogSearch.Http.Title
import CatalogSearch.Json.Printer
import CatalogSearch.Json.Reader
import CatalogSearch.Main
import CatalogSearch.Number.Decimal
import CatalogSearch.Number.Double
import CatalogSearch.OrderedMap
import CatalogSearch.Query.Basic
import CatalogSearch.Query.Context
import CatalogSearch.Query.Recency
import CatalogSearch.Response
import CatalogSearch.Settings.Basic
import CatalogSearch.Settings.Example
import CatalogSearch.Settings.Parse
import CatalogSearch.Settings.Store
import CatalogSearch.Text.Blank
import CatalogSearch.Text.Cased
import CatalogSearch.Text.Digit
import CatalogSearch.Text.Integer
import CatalogSearch.Text.Lowercase
import CatalogSearch.Text.Printable
import CatalogSearch.Text.Quoted
import CatalogSearch.Text.Split
import CatalogSearch.Text.Word
import CatalogSearch.Toml.Printer
import CatalogSearch.Toml.Reader
import CatalogSearch.Value.Access
import CatalogSearch.Value.Basic
import CatalogSearch.Value.Fault
import CatalogSearch.Value.Text
import CatalogSearch.Proofs.Criteria.Reading
import CatalogSearch.Proofs.Criteria.Retuning
import CatalogSearch.Proofs.Criteria.Distinction
import CatalogSearch.Proofs.Matching
import CatalogSearch.Proofs.Criteria.Meaning
import CatalogSearch.Proofs.Facet.Filter
import CatalogSearch.Proofs.Query.Meaning
import CatalogSearch.Proofs.Engine.Dialogue
import CatalogSearch.Proofs.Engine.Search
import CatalogSearch.Proofs.Engine.Pool
import CatalogSearch.Proofs.Response
import CatalogSearch.Proofs.Engine.Gathering
import CatalogSearch.Proofs.Engine.Attribution
import CatalogSearch.Proofs.Engine.Agreement
import CatalogSearch.Proofs.Number
import CatalogSearch.Proofs.Facet.Bucket
import CatalogSearch.Proofs.Facet.Token
import CatalogSearch.Proofs.Criteria.Fault
import CatalogSearch.Proofs.Facet.Selectable
import CatalogSearch.Proofs.Engine.Siblings
import CatalogSearch.Proofs.Engine.Sending
import CatalogSearch.Proofs.Query.Construction
import CatalogSearch.Proofs.Query.Shape
import CatalogSearch.Proofs.Document
import CatalogSearch.Proofs.Files
import CatalogSearch.Proofs.Toml
import CatalogSearch.Proofs.Settings.Document
import CatalogSearch.Proofs.Settings.Storage
import CatalogSearch.Proofs.Facet.RoundTrip
import CatalogSearch.Proofs.Document.Identity
import CatalogSearch.Proofs.Facet.OpenBound
import CatalogSearch.Proofs.Document.Separation
import CatalogSearch.Proofs.Settings.Keys
import CatalogSearch.Proofs.Settings.Refusal
import CatalogSearch.Proofs.Console.Markup
import CatalogSearch.Proofs.Reply
import CatalogSearch.Proofs.Settings.Usability
import CatalogSearch.Proofs.CommandLine.Session
import CatalogSearch.Proofs.Engine.Decoding
import CatalogSearch.Proofs.Engine.Endings
import CatalogSearch.Proofs.CommandLine.Search
import CatalogSearch.Proofs.CommandLine.Failure
import CatalogSearch.Proofs.CommandLine.Rehearsal
import CatalogSearch.Proofs.CommandLine.Preview
import CatalogSearch.Proofs.Engine.Inactive
import CatalogSearch.Proofs.Facet.Shown
import CatalogSearch.Proofs.Facet.Escape
import CatalogSearch.Proofs.Facet.Renaming
import CatalogSearch.Proofs.Calendar
import CatalogSearch.Proofs.Calendar.Text
import CatalogSearch.Proofs.Query.Recency
import CatalogSearch.Proofs.Calendar.Composition
import CatalogSearch.Proofs.Settings.Reading
import CatalogSearch.Proofs.Settings.Sanity
import CatalogSearch.Proofs.Clause.Stripping
import CatalogSearch.Proofs.Facet.Aggregation
import CatalogSearch.Proofs.CommandLine.Facets
import CatalogSearch.Proofs.Facet.NumericBound
import CatalogSearch.Proofs.Facet.Unambiguous
import CatalogSearch.Proofs.Http.Address
import CatalogSearch.Proofs.Http.Title
import CatalogSearch.Proofs.Json
import CatalogSearch.Proofs.Json.Acceptance
import CatalogSearch.Proofs.Http.Explanation
import CatalogSearch.Proofs.CommandLine.Flags
