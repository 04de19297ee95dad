import Rowbind.Binding.Argument
import Rowbind.Binding.Named
import Rowbind.Binding.Positional
import Rowbind.Binding.Query
import Rowbind.Database.Basic
import Rowbind.Database.Handle
import Rowbind.Destination
import Rowbind.Dialect
import Rowbind.Driver.Interface
import Rowbind.Driver.Playback
import Rowbind.Error
import Rowbind.MySql.Column
import Rowbind.MySql.Pool
import Rowbind.MySql.Server
import Rowbind.Number.Binary
import Rowbind.Number.Shortest
import Rowbind.Options
import Rowbind.Options.Document
import Rowbind.Proofs.Binding.Batch
import Rowbind.Proofs.Binding.Dialects
import Rowbind.Proofs.Binding.Placeholders
import Rowbind.Proofs.Binding.Resolution
import Rowbind.Proofs.Database.Client
import Rowbind.Proofs.Database.Erasure
import Rowbind.Proofs.Database.Interchange
import Rowbind.Proofs.Database.Ledger
import Rowbind.Proofs.Database.OpenRows
import Rowbind.Proofs.Database.Overheard
import Rowbind.Proofs.Database.Transparency
import Rowbind.Proofs.Database.Uncached
import Rowbind.Proofs.Database.Unwatched
import Rowbind.Proofs.Database.Watched
import Rowbind.Proofs.HiddenFields
import Rowbind.Proofs.Number.Widening
import Rowbind.Proofs.Outcome
import Rowbind.Proofs.Record.Conformance
import Rowbind.Proofs.Record.Derivation
import Rowbind.Proofs.Record.Hidden
import Rowbind.Proofs.Record.Precedence
import Rowbind.Proofs.Record.Storing
import Rowbind.Proofs.Scanner.AfterClose
import Rowbind.Proofs.Scanner.ByHand
import Rowbind.Proofs.Scanner.Calls
import Rowbind.Proofs.Scanner.Closing
import Rowbind.Proofs.Scanner.CurrentRow
import Rowbind.Proofs.Scanner.Exclusion
import Rowbind.Proofs.Scanner.History
import Rowbind.Proofs.Scanner.ReadingBack
import Rowbind.Proofs.Scanner.SingleRow
import Rowbind.Proofs.Scanner.Source
import Rowbind.Proofs.Scanner.Steps
import Rowbind.Proofs.Simulation
import Rowbind.Proofs.StatementCache.Closing
import Rowbind.Proofs.StatementCache.Completed
import Rowbind.Proofs.StatementCache.Ideal
import Rowbind.Proofs.StatementCache.Idle
import Rowbind.Proofs.StatementCache.Image
import Rowbind.Proofs.StatementCache.Labels
import Rowbind.Proofs.StatementCache.Recency
import Rowbind.Proofs.StatementCache.Scripted
import Rowbind.Proofs.StatementCache.Upkeep
import Rowbind.Proofs.StatementCache.Uses
import Rowbind.Proofs.Template.Grammar
import Rowbind.Proofs.Template.Reading
import Rowbind.Proofs.Template.ReadingBack
import Rowbind.Proofs.Template.RepeatedGroup
import Rowbind.Proofs.Template.Wording
import Rowbind.Record.Cell
import Rowbind.Record.Declaration
import Rowbind.Record.FieldMap
import Rowbind.Record.FieldMapCache
import Rowbind.Record.Schema
import Rowbind.Rows.Faulty
import Rowbind.Rows.Source
import Rowbind.Scalar
import Rowbind.Scanner.Basic
import Rowbind.Scanner.Plan
import Rowbind.Shown
import Rowbind.StatementCache.Basic
import Rowbind.StatementCache.Script
import Rowbind.StatementCache.Session
import Rowbind.Step
import Rowbind.Template.Convention
import Rowbind.Template.Rendering
import Rowbind.Template.Token
import Rowbind.Template.ValuesGroup
import Rowbind.Text.Alphabetic
import Rowbind.Text.Blank
import Rowbind.Text.Case
import Rowbind.Text.CaseIgnorable
import Rowbind.Text.CodeRun
import Rowbind.Text.Lowercase
import Rowbind.Text.Numeric
import Rowbind.Text.Quoted
import Rowbind.Text.SnakeCase
import Rowbind.Text.WordCharacter
import Rowbind.Time.Calendar
import Rowbind.Time.Instant
import Rowbind.Toml.Document
import Rowbind.Toml.Quoted
import Rowbind.Toml.Table
import Rowbind.Toml.Value
import Rowbind.Toml.Word
import Rowbind.Value
import Rowbind.Value.Conversion
import Rowbind.Value.Equality
import Rowbind.Proofs.Template.Division
import Rowbind.Proofs.Template.Folding
import Rowbind.Proofs.Template.Colons
import Rowbind.Proofs.Template.Rebinding
import Rowbind.Proofs.Template.Layout
import Rowbind.Proofs.Template.Renumbering
import Rowbind.Proofs.Binding.Alignment
import Rowbind.Proofs.Binding.Single
import Rowbind.Proofs.Binding.Layout
import Rowbind.Proofs.Record.FieldPaths
import Rowbind.Proofs.Record.Stores
import Rowbind.Proofs.Scanner.ColumnOrder
import Rowbind.Proofs.Scanner.Conforming
import Rowbind.Proofs.Scanner.Delivery
import Rowbind.Proofs.Scanner.Planning
import Rowbind.Proofs.Scanner.SharedFields
import Rowbind.Proofs.Scanner.StoredRow
import Rowbind.Proofs.Scanner.Success
import Rowbind.Proofs.Record.Locality
import Rowbind.Proofs.Binding.Flattening
import Rowbind.Proofs.Scanner.Narrowing
import Rowbind.Proofs.Binding.RecordAsMap
import Rowbind.Proofs.Scalar.InPlace
import Rowbind.Proofs.Binding.Bindable
import Rowbind.Proofs.Record.SharedMaps
import Rowbind.Proofs.MySql.Transaction
import Rowbind.Proofs.Text.SnakeCase
import Rowbind.Proofs.Template.Balance
import Rowbind.Proofs.Binding.InRange
import Rowbind.Proofs.Template.Positions
import Rowbind.Proofs.MySql.LevelsLeft
