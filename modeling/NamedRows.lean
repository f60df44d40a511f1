import NamedRows.Cell
import NamedRows.Column
import NamedRows.Config
import NamedRows.Config.Document
import NamedRows.Decimal.Binary
import NamedRows.Decimal.Literal
import NamedRows.Decimal.Rendering
import NamedRows.Decimal.Shortest
import NamedRows.Error
import NamedRows.Expr.Arithmetic
import NamedRows.Expr.Basic
import NamedRows.Expr.Eval
import NamedRows.Expr.Grammar
import NamedRows.Expr.Reader
import NamedRows.Expr.Token
import NamedRows.Expr.Value
import NamedRows.Externals
import NamedRows.Externals.Standard
import NamedRows.Json.Basic
import NamedRows.Json.Reader
import NamedRows.Json.Text
import NamedRows.Log.Event
import NamedRows.Log.Line
import NamedRows.Name.Address
import NamedRows.Name.Directory
import NamedRows.Name.Pattern
import NamedRows.Pattern.Break
import NamedRows.Pattern.CharSet
import NamedRows.Pattern.Escape
import NamedRows.Pattern.Grammar
import NamedRows.Pattern.GroupName
import NamedRows.Pattern.Plan
import NamedRows.Pattern.Property
import NamedRows.Pattern.Reader
import NamedRows.Pattern.Regex
import NamedRows.Pattern.Size
import NamedRows.Proofs.Column.Take
import NamedRows.Proofs.Expr.Depth
import NamedRows.Proofs.Expr.Grammar
import NamedRows.Proofs.Expr.Phrases
import NamedRows.Proofs.Expr.Reader
import NamedRows.Proofs.Expr.Sampled
import NamedRows.Proofs.Expr.Tokens
import NamedRows.Proofs.Name.Address
import NamedRows.Proofs.Name.Directory
import NamedRows.Proofs.Outcome
import NamedRows.Proofs.Row.Agree
import NamedRows.Proofs.Row.Exact
import NamedRows.Proofs.Row.Guarded
import NamedRows.Proofs.Row.InRange
import NamedRows.Proofs.Row.Lenient
import NamedRows.Proofs.Row.Masks
import NamedRows.Proofs.Row.Narrowed
import NamedRows.Proofs.Row.Overrun
import NamedRows.Proofs.Row.Progression
import NamedRows.Proofs.Row.Slice
import NamedRows.Proofs.Row.Stages
import NamedRows.Proofs.Session.Alike
import NamedRows.Proofs.Session.Buffers
import NamedRows.Proofs.Session.Hushed
import NamedRows.Proofs.Session.Purity
import NamedRows.Proofs.Session.Renamed
import NamedRows.Proofs.Session.Sound
import NamedRows.Proofs.Session.Views
import NamedRows.Proofs.Table.Atomic
import NamedRows.Proofs.Table.Cells
import NamedRows.Proofs.Table.Chain
import NamedRows.Proofs.Table.Columns
import NamedRows.Proofs.Table.Conjunction
import NamedRows.Proofs.Table.Exact
import NamedRows.Proofs.Table.Forget
import NamedRows.Proofs.Table.Guarded
import NamedRows.Proofs.Table.Masks
import NamedRows.Proofs.Table.Hushed
import NamedRows.Proofs.Table.Named
import NamedRows.Proofs.Table.Ranges
import NamedRows.Proofs.Table.Select
import NamedRows.Proofs.Table.Versions
import NamedRows.Proofs.Table.WellFormed
import NamedRows.Row.Guarded
import NamedRows.Row.Resolve
import NamedRows.Row.Selection
import NamedRows.Row.Selector
import NamedRows.Row.Slice
import NamedRows.Session.Action
import NamedRows.Session.Basic
import NamedRows.Session.Request
import NamedRows.Session.Run
import NamedRows.Session.Store
import NamedRows.Table.Basic
import NamedRows.Table.Guarded
import NamedRows.Table.Lemmas
import NamedRows.Table.Operation
import NamedRows.Table.Reachable
import NamedRows.Table.Read
import NamedRows.Table.Run
import NamedRows.Table.Write
import NamedRows.Text.Blank
import NamedRows.Text.Hex
import NamedRows.Text.Numeral
import NamedRows.Text.Quoted
import NamedRows.Text.Span
import NamedRows.Unicode.Age
import NamedRows.Unicode.CaseFold
import NamedRows.Unicode.Category
import NamedRows.Unicode.Encoding
import NamedRows.Unicode.Hidden
import NamedRows.Unicode.Property
import NamedRows.Unicode.RangeTable
import NamedRows.Unicode.Script
import NamedRows.Proofs.Name.Occurrences
import NamedRows.Expr.Rendering
import NamedRows.Proofs.Expr.Spelling
import NamedRows.Proofs.Table.Hits
import NamedRows.Proofs.Expr.Rendering
import NamedRows.Proofs.Cell.Order
import NamedRows.Proofs.Row.ValueRanges
import NamedRows.Proofs.Table.RangeConditions
import NamedRows.Proofs.Table.ValueRanges
import NamedRows.Proofs.Name.Grammar
import NamedRows.Proofs.Expr.Columns
import NamedRows.Proofs.Expr.Kinds
import NamedRows.Json.Grammar
import NamedRows.Proofs.Table.Positions
import NamedRows.Proofs.Expr.Height
import NamedRows.Proofs.Json.Escaping
import NamedRows.Proofs.Json.Reader
import NamedRows.Proofs.Log.Line
import NamedRows.Table.Draw
import NamedRows.Proofs.Table.Reordering
import NamedRows.Proofs.Session.Reordering
import NamedRows.Expr.Bytes
import NamedRows.Proofs.Text.Span
import NamedRows.Proofs.Expr.Bytes
import NamedRows.Proofs.Expr.Spans
import NamedRows.Proofs.Cell.Rounding
import NamedRows.Proofs.Cell.Transitivity
