import DocStore.Number.Double
import DocStore.Number.Binary64
import DocStore.Number.Shortest
import DocStore.Number
import DocStore.Number.Literal
import DocStore.Text.CharClass
import DocStore.Text.Numeral
import DocStore.Text.Extender
import DocStore.Text.Unprintable
import DocStore.Text.Visible
import DocStore.Lists
import DocStore.Json
import DocStore.Json.Order
import DocStore.Json.Containment
import DocStore.Json.Text
import DocStore.Json.Reader
import DocStore.Error
import DocStore.FieldPath
import DocStore.Comparison
import DocStore.Selector
import DocStore.Selector.Reader
import DocStore.Predicate
import DocStore.Direction
import DocStore.Sql.Expr
import DocStore.Sql.Filter
import DocStore.Document
import DocStore.Json.Record
import DocStore.Query.Mango
import DocStore.Query.Spec
import DocStore.Sql.Statement
import DocStore.Query.Compiled
import DocStore.Schema
import DocStore.Change
import DocStore.Feed
import DocStore.Write
import DocStore.Write.Plan
import DocStore.Settings
import DocStore.Backend
import DocStore.Backend.Memory
import DocStore.Backend.Postgres
import DocStore.StoreError
import DocStore.Instance
import DocStore.Session
import DocStore.Proofs.Induction
import DocStore.Proofs.Lowering
import DocStore.Proofs.Keyed
import DocStore.Proofs.StableSort
import DocStore.Proofs.Sql.Lexeme
import DocStore.Proofs.Sql.Spelling
import DocStore.Proofs.Sql.Reader
import DocStore.Proofs.Sql.Grouped
import DocStore.Proofs.Sql.FilterText
import DocStore.Proofs.Sql.Truth
import DocStore.Proofs.Sql.FilterTruth
import DocStore.Proofs.Sql.Quoting
import DocStore.Proofs.Sql.Outline
import DocStore.Proofs.Sql.QuotedText
import DocStore.Proofs.Sql.Command
import DocStore.Proofs.Backend.Memory
import DocStore.Proofs.Write.Plan
import DocStore.Proofs.Write.Classification
import DocStore.Proofs.Write.Settlement
import DocStore.Proofs.Write.Stored
import DocStore.Proofs.Write.Course
import DocStore.Proofs.Write.Batch
import DocStore.Proofs.Write.Winner
import DocStore.Proofs.Write.Events
import DocStore.Proofs.Backend.Alteration
import DocStore.Proofs.Session.Effect
import DocStore.Proofs.Write.Replay
import DocStore.Proofs.Write.Division
import DocStore.Proofs.Json.SortKey
import DocStore.Proofs.Json.Reordered
import DocStore.Proofs.Text.Bytes
import DocStore.Proofs.Query.Order
import DocStore.Proofs.FieldPath
import DocStore.Proofs.Selector.Reading
import DocStore.Proofs.Selector.KeyOrder
import DocStore.Proofs.Number.Rounding
import DocStore.Proofs.Text.Numeral
import DocStore.Proofs.Selector.Grammar
import DocStore.Proofs.Selector.Operands
import DocStore.Proofs.Json.Alike
import DocStore.Proofs.Selector.Comparisons
import DocStore.Proofs.Backend.Postgres
import DocStore.Proofs.Backend.Guards
import DocStore.Proofs.Write.Statements
import DocStore.Proofs.Backend.Sequence
import DocStore.Proofs.Backend.Rearranged
import DocStore.Proofs.Session.Story
import DocStore.Proofs.Query.Pages
import DocStore.Proofs.Query.Selection
import DocStore.Proofs.Session.Faults
import DocStore.Proofs.Backend.Agreement
import DocStore.Proofs.Schema
import DocStore.Proofs.Session.Isolation
import DocStore.Proofs.Query.Shortcut
import DocStore.Proofs.Query.Skipping
import DocStore.Proofs.Feed.Broadcast
import DocStore.Proofs.Feed.Mailbox
import DocStore.Proofs.Feed.Positions
import DocStore.Proofs.Feed.Ring
import DocStore.Proofs.Feed.Delivery
import DocStore.Proofs.Write.Checkpoint
import DocStore.Proofs.Session.Closing
import DocStore.Proofs.Session.ReadOnly
import DocStore.Proofs.Schema.CompositeId
import DocStore.Proofs.Json.Containment
import DocStore.Proofs.Json.Text
import DocStore.Proofs.FieldPath.Lookup
import DocStore.Proofs.Change.Newest
import DocStore.Proofs.Query.SortList
import DocStore.Proofs.Json.Record
import DocStore.Proofs.Records
