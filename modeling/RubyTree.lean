import RubyTree.ChildPath
import RubyTree.Command.Arguments
import RubyTree.Command.Basic
import RubyTree.Command.Perform
import RubyTree.Command.Report
import RubyTree.Command.Usage
import RubyTree.Decimal.Nearest
import RubyTree.Decimal.Shortest
import RubyTree.Decimal.Spelling
import RubyTree.Decimal.Style
import RubyTree.Document.Builder
import RubyTree.Document.Fault
import RubyTree.Document.Load
import RubyTree.Field.Basic
import RubyTree.Field.Entries
import RubyTree.Field.Listing
import RubyTree.Field.Origin
import RubyTree.Field.Refusal
import RubyTree.Field.Size
import RubyTree.Files
import RubyTree.Json.Basic
import RubyTree.Json.Fault
import RubyTree.Json.Printer
import RubyTree.Json.Reader
import RubyTree.Literal
import RubyTree.Log.Directive
import RubyTree.Log.Event
import RubyTree.Log.Filter
import RubyTree.Log.Line
import RubyTree.Main
import RubyTree.Node.Basic
import RubyTree.Node.Forest
import RubyTree.Node.Sexp
import RubyTree.NodeType
import RubyTree.Outline
import RubyTree.Pattern.Basic
import RubyTree.Pattern.Escape
import RubyTree.Pattern.Machine
import RubyTree.Pattern.Reader
import RubyTree.Pattern.SetReader
import RubyTree.Proofs.Document.Encoding
import RubyTree.Proofs.Document.Grammar
import RubyTree.Proofs.Document.Independence
import RubyTree.Proofs.Document.Respelling
import RubyTree.Proofs.Document.Run
import RubyTree.Proofs.Field.Support
import RubyTree.Proofs.Node.Construction
import RubyTree.Proofs.Node.Descent
import RubyTree.Proofs.Node.Plain
import RubyTree.Proofs.Outcome
import RubyTree.Proofs.Outline.Provenance
import RubyTree.Proofs.Tags
import RubyTree.Proofs.Text.Cut
import RubyTree.Query.Basic
import RubyTree.Query.File
import RubyTree.Query.Load
import RubyTree.Query.Select
import RubyTree.Schema
import RubyTree.Schema.Suggestion
import RubyTree.Source
import RubyTree.Store
import RubyTree.Text.Alphanumeric
import RubyTree.Text.Blank
import RubyTree.Text.Cut
import RubyTree.Text.EditDistance
import RubyTree.Text.Extender
import RubyTree.Text.Hex
import RubyTree.Text.Letter
import RubyTree.Text.Numeral
import RubyTree.Text.Quoted
import RubyTree.Text.Style
import RubyTree.Text.Terminal
import RubyTree.Text.Unprintable
import RubyTree.Toml.Basic
import RubyTree.Toml.Reader
import RubyTree.Toml.Scalar
import RubyTree.Toml.Text
import RubyTree.Proofs.Document.Growth
import RubyTree.Proofs.Store.Reachable
import RubyTree.Proofs.Store.Linked
import RubyTree.Proofs.Store.History
import RubyTree.Proofs.Store.Parents
import RubyTree.Proofs.Document.FirstFault
import RubyTree.Proofs.Document.Sources
import RubyTree.Proofs.Json.KeyOrder
import RubyTree.Proofs.Outline.Rendering
import RubyTree.Proofs.Query.Select
import RubyTree.Proofs.ChildPath
import RubyTree.Proofs.Command.Queries
import RubyTree.Proofs.Document.Descent
import RubyTree.Proofs.Field.Packing
import RubyTree.Proofs.Field.Segments
import RubyTree.Proofs.Field.Keys
import RubyTree.Proofs.Literal
import RubyTree.Proofs.Query.Fallback
import RubyTree.Proofs.Field.Congruence
import RubyTree.Proofs.Outline.Congruence
import RubyTree.Proofs.Node.Sexp
import RubyTree.Proofs.ChildPath.Spelling
import RubyTree.Proofs.Query.Validation
import RubyTree.Proofs.Schema.Suggestion
import RubyTree.Proofs.Text.EditDistance
import RubyTree.Proofs.Document.Slices
import RubyTree.Proofs.Outline.Coverage
import RubyTree.Proofs.Outline.Order
import RubyTree.Proofs.Field.KeyKinds
import RubyTree.Proofs.Field.SingleSlot
import RubyTree.Proofs.Document.Balance
