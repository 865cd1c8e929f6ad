import ProposalLint.Document.Node
import ProposalLint.Json.Parser
import ProposalLint.Text.Whitespace
import ProposalLint.Text.Quoted
import ProposalLint.Text.Case
import ProposalLint.Text.Word
import ProposalLint.Text.Punctuation
import ProposalLint.Markdown.Tree
import ProposalLint.Decimal.Binary64
import ProposalLint.Decimal.Shortest
import ProposalLint.Decimal.Literal
import ProposalLint.Yaml.Document
import ProposalLint.Engine.Annotation
import ProposalLint.Url.Web
import ProposalLint.Preamble.Schema
import ProposalLint.Engine.Pool
import ProposalLint.Config.Basic
import ProposalLint.Engine.Run
import ProposalLint.Rules.Script
import ProposalLint.Config.Reading
import ProposalLint.Rules.Catalogue
import ProposalLint.Engine.Batch
import ProposalLint.Output.Format
import ProposalLint.Discovery.Documents
import ProposalLint.Main
import ProposalLint.Proofs.Document.Walk
import ProposalLint.Proofs.Document.Place
import ProposalLint.Proofs.Engine.Interleaving
import ProposalLint.Proofs.Engine.Action
import ProposalLint.Proofs.Engine.Pool
import ProposalLint.Proofs.Engine.Run
import ProposalLint.Proofs.Engine.Outcome
import ProposalLint.Proofs.Engine.Messages
import ProposalLint.Proofs.Engine.Verdict
import ProposalLint.Proofs.Engine.Harmless
import ProposalLint.Proofs.Markdown.Placed
import ProposalLint.Proofs.Rules.Catalogue
import ProposalLint.Proofs.Markdown.Forest
import ProposalLint.Proofs.Markdown.Nesting
import ProposalLint.Proofs.Markdown.VisibleText
import ProposalLint.Proofs.Engine.Alone
import ProposalLint.Proofs.Engine.Contribution
import ProposalLint.Proofs.Engine.Separate
import ProposalLint.Proofs.Rules.Lone
import ProposalLint.Proofs.Url.Fragment
import ProposalLint.Proofs.Rules.LinkCheck
import ProposalLint.Proofs.Rules.Links
import ProposalLint.Proofs.Rules.Separate
import ProposalLint.Proofs.Rules.FrontMatter
import ProposalLint.Proofs.Json.RoundTrip
import ProposalLint.Proofs.Output.Record
import ProposalLint.Proofs.Rules.Selection
import ProposalLint.Proofs.Engine.Moment
import ProposalLint.Proofs.Engine.Session
import ProposalLint.Proofs.Rules.Isolation
import ProposalLint.Proofs.Preamble.Repeated
import ProposalLint.Proofs.Rules.Options
import ProposalLint.Proofs.Engine.Tells
import ProposalLint.Proofs.Rules.OneLine
import ProposalLint.Proofs.Output.Compact
import ProposalLint.Proofs.Yaml.PlainText
import ProposalLint.Proofs.Yaml.PlainLine
import ProposalLint.Proofs.Yaml.PlainMapping
import ProposalLint.Proofs.Rules.HeaderOrder
import ProposalLint.Proofs.Discovery.Order
import ProposalLint.Proofs.Discovery.Union
import ProposalLint.Proofs.Discovery.Spelling
import ProposalLint.Proofs.Calendar.Digits
import ProposalLint.Proofs.Preamble.Authors
import ProposalLint.Proofs.Preamble.Dates
import ProposalLint.Proofs.Rules.Permits
import ProposalLint.Proofs.Engine.Silence
import ProposalLint.Proofs.Rules.Misplaced
import ProposalLint.Proofs.Yaml.Bounds
import ProposalLint.Proofs.Rules.FileName
import ProposalLint.Proofs.Rules.History
import ProposalLint.Proofs.Markdown.Paragraphs
import ProposalLint.Proofs.Markdown.Shape
import ProposalLint.Proofs.Output.Highlight
import ProposalLint.Proofs.Markdown.Chunks
import ProposalLint.Proofs.Markdown.ListItems
import ProposalLint.Proofs.Markdown.TrimmedSpan
import ProposalLint.Proofs.Markdown.Definitions
import ProposalLint.Proofs.Markdown.Ranges
import ProposalLint.Document.Traversal
import ProposalLint.Proofs.Lookup
import ProposalLint.Document.Built
import ProposalLint.Proofs.Document.Traversal
import ProposalLint.Proofs.Document.Built
import ProposalLint.Proofs.Engine.Annotation
