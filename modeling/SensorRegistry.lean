import SensorRegistry.Address
import SensorRegistry.Api.Endpoint
import SensorRegistry.Api.Fault
import SensorRegistry.Api.Route
import SensorRegistry.Api.Service
import SensorRegistry.Config
import SensorRegistry.Fields
import SensorRegistry.Filter.Group
import SensorRegistry.Filter.Operation
import SensorRegistry.Filter.Order
import SensorRegistry.Filter.Problem
import SensorRegistry.Filter.Whitelist
import SensorRegistry.Http.Header
import SensorRegistry.Http.MediaType
import SensorRegistry.Http.Message
import SensorRegistry.Http.Target
import SensorRegistry.Json
import SensorRegistry.Json.Number
import SensorRegistry.Json.Reader
import SensorRegistry.Metric
import SensorRegistry.Number.Binary
import SensorRegistry.Number.Decimal
import SensorRegistry.Number.Integer
import SensorRegistry.Number.Rounding
import SensorRegistry.Page
import SensorRegistry.Page.Link
import SensorRegistry.Page.Options
import SensorRegistry.Proofs.Api.Blame
import SensorRegistry.Proofs.Api.Draft
import SensorRegistry.Proofs.Config.DatabaseUrl
import SensorRegistry.Proofs.Config.Environment
import SensorRegistry.Proofs.Config.Variable
import SensorRegistry.Proofs.Fields
import SensorRegistry.Proofs.Filter.Acceptance
import SensorRegistry.Proofs.Filter.RoundTrip
import SensorRegistry.Proofs.Filter.Verdict
import SensorRegistry.Proofs.Number.Integer
import SensorRegistry.Proofs.Page.Clamp
import SensorRegistry.Proofs.Page.Limit
import SensorRegistry.Proofs.Page.LinkHeader
import SensorRegistry.Proofs.Page.Range
import SensorRegistry.Proofs.Page.Walk
import SensorRegistry.Proofs.Parameter
import SensorRegistry.Proofs.QueryString
import SensorRegistry.Proofs.Scope.Run
import SensorRegistry.Proofs.Scope.Spelling
import SensorRegistry.Proofs.Sql.Balance
import SensorRegistry.Proofs.Sql.Clause
import SensorRegistry.Proofs.Sql.Condition
import SensorRegistry.Proofs.Sql.Conjunct
import SensorRegistry.Proofs.Sql.Conjunction
import SensorRegistry.Proofs.Sql.Expression
import SensorRegistry.Proofs.Sql.Like
import SensorRegistry.Proofs.Sql.Literal
import SensorRegistry.Proofs.Sql.Meaning
import SensorRegistry.Proofs.Sql.Order
import SensorRegistry.Proofs.Sql.Placeholder
import SensorRegistry.Proofs.Sql.Position
import SensorRegistry.Proofs.Sql.Search
import SensorRegistry.Proofs.Sql.Site
import SensorRegistry.Proofs.Sql.Slice
import SensorRegistry.Proofs.Sql.Span
import SensorRegistry.Proofs.Sql.Splice
import SensorRegistry.Proofs.Sql.Table
import SensorRegistry.Proofs.Sql.Token
import SensorRegistry.Proofs.Sql.Typing
import SensorRegistry.Proofs.Sql.Words
import SensorRegistry.Proofs.Statement.Apply
import SensorRegistry.Proofs.Statement.Balance
import SensorRegistry.Proofs.Statement.Binding
import SensorRegistry.Proofs.Statement.Idle
import SensorRegistry.Proofs.Statement.Literal
import SensorRegistry.Proofs.Statement.Mapped
import SensorRegistry.Proofs.Statement.Numbering
import SensorRegistry.Proofs.Statement.Outcome
import SensorRegistry.Proofs.Statement.Paging
import SensorRegistry.Proofs.Statement.Run
import SensorRegistry.Proofs.Statement.Select
import SensorRegistry.Proofs.Store.Listing
import SensorRegistry.Proofs.Store.Run
import SensorRegistry.Proofs.Text.Blank
import SensorRegistry.Proofs.Text.Boundary
import SensorRegistry.Proofs.Text.Order
import SensorRegistry.Proofs.Text.Parted
import SensorRegistry.Proofs.Text.Percent
import SensorRegistry.Proofs.Text.Squeeze
import SensorRegistry.Proofs.Text.Utf8
import SensorRegistry.Proofs.Uuid
import SensorRegistry.QueryString
import SensorRegistry.Scope
import SensorRegistry.Sensor
import SensorRegistry.Sql.Param
import SensorRegistry.Sql.Placeholder
import SensorRegistry.Sql.Scan
import SensorRegistry.Sql.Splice
import SensorRegistry.Sql.Statement
import SensorRegistry.Sql.Where
import SensorRegistry.Store.Exchange
import SensorRegistry.Store.Fault
import SensorRegistry.Store.Listing
import SensorRegistry.Store.Pool
import SensorRegistry.Store.Tables
import SensorRegistry.Text
import SensorRegistry.Text.Blank
import SensorRegistry.Text.LetterCase
import SensorRegistry.Text.LetterCaseTable
import SensorRegistry.Text.Percent
import SensorRegistry.Text.Utf8
import SensorRegistry.Uuid
