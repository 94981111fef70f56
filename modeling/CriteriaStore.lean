import CriteriaStore.Config.Configuration
import CriteriaStore.Config.Decoding
import CriteriaStore.Config.Duration
import CriteriaStore.Config.DurationText
import CriteriaStore.Config.Environment
import CriteriaStore.Config.EnvironmentValue
import CriteriaStore.Config.Failure
import CriteriaStore.Config.Layering
import CriteriaStore.Config.Setting
import CriteriaStore.Config.Sources
import CriteriaStore.Criteria.Decoding
import CriteriaStore.Criteria.Encoding
import CriteriaStore.Criteria.Error
import CriteriaStore.Criteria.FieldSet
import CriteriaStore.Criteria.Filter
import CriteriaStore.Criteria.Operator
import CriteriaStore.Criteria.Page
import CriteriaStore.Criteria.SortOrder
import CriteriaStore.Decimal.Exact
import CriteriaStore.Decimal.Extended
import CriteriaStore.Decimal.Layout
import CriteriaStore.Decimal.Reading
import CriteriaStore.Decimal.Shortest
import CriteriaStore.Dsn.Connecting
import CriteriaStore.Dsn.Engine
import CriteriaStore.Dsn.Error
import CriteriaStore.Dsn.Escape
import CriteriaStore.Dsn.FileName
import CriteriaStore.Dsn.Sqlite
import CriteriaStore.Json.Reader
import CriteriaStore.Json.Value
import CriteriaStore.Json.Writer
import CriteriaStore.Mapping.Flattening
import CriteriaStore.Mapping.Mapping
import CriteriaStore.Mapping.PropertyMap
import CriteriaStore.OrderedMap
import CriteriaStore.Proofs.Config.Durations
import CriteriaStore.Proofs.Config.RoundTrip
import CriteriaStore.Proofs.Criteria.Binding
import CriteriaStore.Proofs.Criteria.Finding
import CriteriaStore.Proofs.Criteria.Grouping
import CriteriaStore.Proofs.Criteria.Meaning
import CriteriaStore.Proofs.Criteria.Naming
import CriteriaStore.Proofs.Criteria.Outline
import CriteriaStore.Proofs.Criteria.PageArithmetic
import CriteriaStore.Proofs.Criteria.Paging
import CriteriaStore.Proofs.Criteria.Rejecting
import CriteriaStore.Proofs.Criteria.RoundTrip
import CriteriaStore.Proofs.Criteria.RowReading
import CriteriaStore.Proofs.Criteria.Sorting
import CriteriaStore.Proofs.Decimal.Canonical
import CriteriaStore.Proofs.Decimal.IntegerText
import CriteriaStore.Proofs.Mapping.Flattening
import CriteriaStore.Proofs.Mapping.Paths
import CriteriaStore.Proofs.Repository.Addressing
import CriteriaStore.Proofs.Repository.Assigning
import CriteriaStore.Proofs.Repository.Batch
import CriteriaStore.Proofs.Repository.Blame
import CriteriaStore.Proofs.Repository.Checking
import CriteriaStore.Proofs.Repository.Classifying
import CriteriaStore.Proofs.Repository.Colliding
import CriteriaStore.Proofs.Repository.Counting
import CriteriaStore.Proofs.Repository.Erasing
import CriteriaStore.Proofs.Repository.Hydrating
import CriteriaStore.Proofs.Repository.Identifying
import CriteriaStore.Proofs.Repository.Lookup
import CriteriaStore.Proofs.Repository.Narrowing
import CriteriaStore.Proofs.Repository.Paging
import CriteriaStore.Proofs.Repository.Program
import CriteriaStore.Proofs.Repository.Projecting
import CriteriaStore.Proofs.Repository.Resolving
import CriteriaStore.Proofs.Repository.Running
import CriteriaStore.Proofs.Repository.Sample
import CriteriaStore.Proofs.Repository.Selecting
import CriteriaStore.Proofs.Repository.Serving
import CriteriaStore.Proofs.Repository.Storing
import CriteriaStore.Proofs.Repository.Undoing
import CriteriaStore.Proofs.Repository.Updating
import CriteriaStore.Proofs.Repository.Upserting
import CriteriaStore.Proofs.Repository.Validating
import CriteriaStore.Proofs.Session.Nesting
import CriteriaStore.Proofs.Session.Soundness
import CriteriaStore.Proofs.Session.Transactional
import CriteriaStore.Proofs.Session.Work
import CriteriaStore.Proofs.Sql.Placeholders
import CriteriaStore.Proofs.Sql.Valuation
import CriteriaStore.Proofs.Storage.Changing
import CriteriaStore.Proofs.Storage.Identity
import CriteriaStore.Proofs.Storage.Keyed
import CriteriaStore.Proofs.Storage.Narrowing
import CriteriaStore.Proofs.Storage.Numbering
import CriteriaStore.Proofs.Storage.Pattern
import CriteriaStore.Proofs.Storage.Reading
import CriteriaStore.Proofs.Storage.Replacing
import CriteriaStore.Proofs.Storage.Soundness
import CriteriaStore.Proofs.Storage.Transacting
import CriteriaStore.Proofs.Storage.Writing
import CriteriaStore.Repository.Action
import CriteriaStore.Repository.Entities
import CriteriaStore.Repository.Error
import CriteriaStore.Repository.Event
import CriteriaStore.Repository.Paging
import CriteriaStore.Repository.Reading
import CriteriaStore.Repository.Request
import CriteriaStore.Repository.Writing
import CriteriaStore.Row
import CriteriaStore.Scalar
import CriteriaStore.Session.Script
import CriteriaStore.Session.Session
import CriteriaStore.Session.TransactionError
import CriteriaStore.Sql.Compiling
import CriteriaStore.Sql.Dialect
import CriteriaStore.Sql.Statement
import CriteriaStore.Storage.Catalog
import CriteriaStore.Storage.Cell
import CriteriaStore.Storage.Column
import CriteriaStore.Storage.Connection
import CriteriaStore.Storage.Database
import CriteriaStore.Storage.Error
import CriteriaStore.Storage.Evaluation
import CriteriaStore.Storage.Pattern
import CriteriaStore.Storage.Query
import CriteriaStore.Storage.Sample
import CriteriaStore.Storage.Schema
import CriteriaStore.Storage.Table
import CriteriaStore.Storage.Truth
import CriteriaStore.Text.Blank
import CriteriaStore.Text.Escape
import CriteriaStore.Text.Quoted
import CriteriaStore.Text.Utf8
import CriteriaStore.Text.Visible
import CriteriaStore.Yaml.Error
import CriteriaStore.Yaml.Failure
import CriteriaStore.Yaml.Mark
import CriteriaStore.Yaml.Node
import CriteriaStore.Yaml.Node.Building
import CriteriaStore.Yaml.Node.Settings
import CriteriaStore.Yaml.Plain
import CriteriaStore.Yaml.Token
import CriteriaStore.Yaml.Token.Block
import CriteriaStore.Yaml.Token.Folding
import CriteriaStore.Yaml.Token.Plain
import CriteriaStore.Yaml.Token.Quoted
import CriteriaStore.Yaml.Token.Scan
import CriteriaStore.Yaml.Token.Tag
