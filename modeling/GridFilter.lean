import GridFilter.Association
import GridFilter.Calendar.Date
import GridFilter.Calendar.Reading
import GridFilter.Codec.Basic
import GridFilter.Codec.Column
import GridFilter.Codec.Condition
import GridFilter.Codec.Config
import GridFilter.Codec.Control
import GridFilter.Codec.Expression
import GridFilter.Codec.Metadata
import GridFilter.Codec.Validation
import GridFilter.Column
import GridFilter.Command.Account
import GridFilter.Command.Environment
import GridFilter.Command.Invocation
import GridFilter.Command.Run
import GridFilter.Condition.Basic
import GridFilter.Condition.Editing
import GridFilter.Condition.Loading
import GridFilter.Config.Basic
import GridFilter.Config.Load
import GridFilter.ControlValue
import GridFilter.Criterion
import GridFilter.Digest
import GridFilter.Expression
import GridFilter.Feed
import GridFilter.Files.Path
import GridFilter.Files.Tree
import GridFilter.Grid.Basic
import GridFilter.Grid.ColumnFilter
import GridFilter.Json.Basic
import GridFilter.Json.Print
import GridFilter.Json.Scan
import GridFilter.Json.Source
import GridFilter.Main
import GridFilter.Menu
import GridFilter.Metadata.Basic
import GridFilter.Metadata.Cache
import GridFilter.Metadata.Connection
import GridFilter.Metadata.Request
import GridFilter.Metadata.Service
import GridFilter.Metadata.Store
import GridFilter.Metadata.WebClient
import GridFilter.Number.Basic
import GridFilter.Number.Literal
import GridFilter.Number.Shortest
import GridFilter.Operator
import GridFilter.RecordId
import GridFilter.Session
import GridFilter.Settings
import GridFilter.Text.Affix
import GridFilter.Text.Alphanumeric
import GridFilter.Text.Blank
import GridFilter.Text.Numeral
import GridFilter.Validation
import GridFilter.ValueShape.Basic
import GridFilter.ValueShape.Conversion
import GridFilter.WireValue
import GridFilter.Proofs.Column.Claims
import GridFilter.Proofs.Criterion.Canonical
import GridFilter.Proofs.Grid.Hydration
import GridFilter.Proofs.Grid.Reemission
import GridFilter.Proofs.Condition.Activity
import GridFilter.Proofs.Condition.SingleFlight
import GridFilter.Proofs.Grid.Outline
import GridFilter.Proofs.Session.Accounting
import GridFilter.Proofs.Session.Rehydration
import GridFilter.Proofs.Session.Tracking
import GridFilter.Proofs.Condition.Cosmetic
import GridFilter.Proofs.Condition.Coverage
import GridFilter.Proofs.Session.Ownership
import GridFilter.Proofs.Condition.Deltas
import GridFilter.Proofs.Condition.Recall
import GridFilter.Proofs.Metadata.Cache
import GridFilter.Proofs.Metadata.Web
import GridFilter.Proofs.Session.Subscribers
import GridFilter.Proofs.Session.Opening
import GridFilter.Proofs.Session.Orphans
import GridFilter.Proofs.Metadata.Answers
import GridFilter.Proofs.Codec.RoundTrip
import GridFilter.Proofs.Metadata.Searches
import GridFilter.Proofs.Condition.Unresolvable
import GridFilter.Proofs.Condition.Loaded
import GridFilter.Proofs.Condition.Bounds
import GridFilter.Proofs.Condition.Cleared
import GridFilter.Proofs.Condition.Rejected
import GridFilter.Proofs.ValueShape.Content
import GridFilter.Proofs.Condition.Spelling
import GridFilter.Proofs.Grid.Distinct
import GridFilter.Proofs.Grid.Stable
import GridFilter.Proofs.Metadata.Writes
import GridFilter.Proofs.Config.Layers
import GridFilter.Proofs.ValueShape.Choices
import GridFilter.Proofs.Files.Path
import GridFilter.Proofs.Criterion.Slots
import GridFilter.Proofs.Condition.Shown
