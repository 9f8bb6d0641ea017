import VirtualTables.Adapter.Basic
import VirtualTables.Adapter.Error
import VirtualTables.Adapter.Session
import VirtualTables.Binary.Basic
import VirtualTables.Binary.Power
import VirtualTables.Binary.Root
import VirtualTables.Binary.Rounding
import VirtualTables.Constraint
import VirtualTables.Context
import VirtualTables.Context.Description
import VirtualTables.DataType
import VirtualTables.Database.Basic
import VirtualTables.Database.Config
import VirtualTables.Database.Fetch
import VirtualTables.Database.Query
import VirtualTables.Database.Resolution
import VirtualTables.Database.Scan
import VirtualTables.Database.Session
import VirtualTables.Database.Statement
import VirtualTables.Database.Terms
import VirtualTables.Decimal.Layout
import VirtualTables.Decimal.Numeral
import VirtualTables.Decimal.Reader
import VirtualTables.Decimal.Shortest
import VirtualTables.Diagnostic.Basic
import VirtualTables.Diagnostic.Internal
import VirtualTables.Diagnostic.Json
import VirtualTables.Diagnostic.Rendering
import VirtualTables.Engine.Affinity
import VirtualTables.Engine.Arithmetic
import VirtualTables.Engine.Creation
import VirtualTables.Engine.Names
import VirtualTables.Engine.Number
import VirtualTables.Engine.Order
import VirtualTables.Engine.OwnFunction
import VirtualTables.Engine.Pattern
import VirtualTables.Engine.Text
import VirtualTables.Engine.Value
import VirtualTables.Field
import VirtualTables.Function.Basic
import VirtualTables.Function.Error
import VirtualTables.Function.Summary
import VirtualTables.Json.Basic
import VirtualTables.Json.Number
import VirtualTables.Json.Parser
import VirtualTables.Json.Printer
import VirtualTables.Json.Record
import VirtualTables.Json.Token
import VirtualTables.Listener
import VirtualTables.Plan.Backlog
import VirtualTables.Plan.Log
import VirtualTables.Plan.Pushdown
import VirtualTables.Row
import VirtualTables.Sample.Broken
import VirtualTables.Sample.Catalog
import VirtualTables.Sample.Databases
import VirtualTables.Sample.Functions
import VirtualTables.Sample.Listing
import VirtualTables.Sample.Mixed
import VirtualTables.Sample.Paths
import VirtualTables.Sample.Place
import VirtualTables.Sample.Processes
import VirtualTables.Sample.Scripted
import VirtualTables.Sample.Signatures
import VirtualTables.Sample.Users
import VirtualTables.Statement.Comparison
import VirtualTables.Statement.Condition
import VirtualTables.Statement.Evaluation
import VirtualTables.Statement.Expression
import VirtualTables.Statement.ExpressionReader
import VirtualTables.Statement.Keyword
import VirtualTables.Statement.Literal
import VirtualTables.Statement.Query
import VirtualTables.Statement.Reader
import VirtualTables.Statement.Refusal
import VirtualTables.Statement.Selection
import VirtualTables.Statement.Token
import VirtualTables.Statement.TokenReader
import VirtualTables.Table.Declaration
import VirtualTables.Table.Definition
import VirtualTables.Table.Error
import VirtualTables.Table.Source
import VirtualTables.Table.Summary
import VirtualTables.Table.Validation
import VirtualTables.Text.Blank
import VirtualTables.Text.Extending
import VirtualTables.Text.Hex
import VirtualTables.Text.Invisible
import VirtualTables.Text.Quoted
import VirtualTables.Text.Runs
import VirtualTables.Text.Utf8
import VirtualTables.Value.Basic
import VirtualTables.Value.Coercion
import VirtualTables.Value.Description
import VirtualTables.Value.Json
import VirtualTables.Value.Text
import VirtualTables.Proofs.Table.WellFormed
import VirtualTables.Proofs.Adapter.Observation
import VirtualTables.Proofs.Plan.Backlog
import VirtualTables.Proofs.Plan.Pushdown
import VirtualTables.Proofs.Adapter.Planning
import VirtualTables.Proofs.Adapter.Preparation
import VirtualTables.Proofs.Adapter.Retention
import VirtualTables.Proofs.Row
import VirtualTables.Proofs.Table.FixedRows
import VirtualTables.Proofs.Adapter.Loop
import VirtualTables.Proofs.Table.Forgetful
import VirtualTables.Proofs.Adapter.Isolation
import VirtualTables.Proofs.Plan.Requested
import VirtualTables.Proofs.Plan.Alias
import VirtualTables.Proofs.Adapter.Ending
import VirtualTables.Proofs.Text.Utf8
import VirtualTables.Proofs.Value.Coercion
import VirtualTables.Proofs.Function.Arguments
import VirtualTables.Proofs.Value.Representation
import VirtualTables.Proofs.Distinct
import VirtualTables.Proofs.InternTable
import VirtualTables.Proofs.Interning
import VirtualTables.Proofs.Roster
import VirtualTables.Proofs.Adapter.Values
import VirtualTables.Proofs.Database.Registration
import VirtualTables.Proofs.Database.Notices
import VirtualTables.Proofs.Database.Delivery
import VirtualTables.Proofs.Plan.Log
import VirtualTables.Proofs.Database.Planning
import VirtualTables.Proofs.Database.Refusals
import VirtualTables.Proofs.Plan.Acceptance
import VirtualTables.Proofs.Plan.Rearrangement
import VirtualTables.Proofs.Database.ResultColumns
import VirtualTables.Proofs.Json.Token
import VirtualTables.Proofs.Json.RoundTrip
import VirtualTables.Proofs.Json.Record
import VirtualTables.Proofs.Table.Summary
import VirtualTables.Proofs.Adapter.Reading
import VirtualTables.Proofs.Plan.Minting
import VirtualTables.Proofs.Table.Faults
import VirtualTables.Proofs.Adapter.Atomicity
import VirtualTables.Proofs.Value.Integers
import VirtualTables.Proofs.Function.Calls
import VirtualTables.Proofs.Adapter.Refiltering
import VirtualTables.Proofs.Adapter.ContextUses
import VirtualTables.Proofs.Adapter.Accounting
import VirtualTables.Proofs.Text.WellFormed
import VirtualTables.Proofs.Value.Bytes
import VirtualTables.Proofs.Value.Spelling
import VirtualTables.Proofs.Value.Views
import VirtualTables.Proofs.Table.Declaration
import VirtualTables.Proofs.Table.Legibility
import VirtualTables.Proofs.Table.ColumnNames
import VirtualTables.Proofs.Json.Compact
import VirtualTables.Proofs.Value.Json
import VirtualTables.Proofs.Ownership
import VirtualTables.Proofs.Sample.Scan
import VirtualTables.Proofs.Sample.Selection
import VirtualTables.Proofs.Sample.Paths
import VirtualTables.Proofs.Engine.Pattern
import VirtualTables.Proofs.Sample.Patterns
import VirtualTables.Proofs.Diagnostic.Rendering
import VirtualTables.Proofs.Row.History
