import SchemaMigration.Binary64
import SchemaMigration.CommandLine.Help
import SchemaMigration.CommandLine.Options
import SchemaMigration.CommandLine.Parsing
import SchemaMigration.CommandLine.Running
import SchemaMigration.Config
import SchemaMigration.Config.Document
import SchemaMigration.Config.File
import SchemaMigration.Connection
import SchemaMigration.Dialogue
import SchemaMigration.Discovery
import SchemaMigration.Files
import SchemaMigration.Identifier
import SchemaMigration.Ledger
import SchemaMigration.Ledger.Bootstrap
import SchemaMigration.Ledger.Record
import SchemaMigration.Log
import SchemaMigration.Log.Filter
import SchemaMigration.Main
import SchemaMigration.Migration
import SchemaMigration.Migration.Error
import SchemaMigration.Naming
import SchemaMigration.Power
import SchemaMigration.Proofs.Agreement
import SchemaMigration.Proofs.Closing
import SchemaMigration.Proofs.CommandLine.Configuration
import SchemaMigration.Proofs.CommandLine.Status
import SchemaMigration.Proofs.Config.Keys
import SchemaMigration.Proofs.Config.Layering
import SchemaMigration.Proofs.Config.Resolution
import SchemaMigration.Proofs.Config.Validity
import SchemaMigration.Proofs.Coupling
import SchemaMigration.Proofs.Deadline
import SchemaMigration.Proofs.Discovery
import SchemaMigration.Proofs.Discovery.Exactness
import SchemaMigration.Proofs.Discovery.Growth
import SchemaMigration.Proofs.Discovery.Warnings
import SchemaMigration.Proofs.Identifier
import SchemaMigration.Proofs.Interleaving
import SchemaMigration.Proofs.Lateness
import SchemaMigration.Proofs.Ledger.Bootstrap
import SchemaMigration.Proofs.Ledger.Records
import SchemaMigration.Proofs.Ledger.ReplicationLiteral
import SchemaMigration.Proofs.Ledger.RoundTrip
import SchemaMigration.Proofs.Ledger.RowOrder
import SchemaMigration.Proofs.Ledger.Stored
import SchemaMigration.Proofs.Ledger.Texts
import SchemaMigration.Proofs.Migration.Agenda
import SchemaMigration.Proofs.Migration.AtMostOnce
import SchemaMigration.Proofs.Migration.Attribution
import SchemaMigration.Proofs.Migration.Blame
import SchemaMigration.Proofs.Migration.Course
import SchemaMigration.Proofs.Migration.CurrentVersion
import SchemaMigration.Proofs.Migration.Delta
import SchemaMigration.Proofs.Migration.History
import SchemaMigration.Proofs.Migration.Idempotence
import SchemaMigration.Proofs.Migration.Increments
import SchemaMigration.Proofs.Migration.Inspection
import SchemaMigration.Proofs.Migration.Lateness
import SchemaMigration.Proofs.Migration.Plan
import SchemaMigration.Proofs.Migration.Prediction
import SchemaMigration.Proofs.Migration.Recording
import SchemaMigration.Proofs.Migration.Recovery
import SchemaMigration.Proofs.Migration.Renewal
import SchemaMigration.Proofs.Migration.Reordering
import SchemaMigration.Proofs.Migration.Resumption
import SchemaMigration.Proofs.Migration.Run
import SchemaMigration.Proofs.Migration.Separation
import SchemaMigration.Proofs.Migration.Toggling
import SchemaMigration.Proofs.Migration.Verification
import SchemaMigration.Proofs.Migration.Versions
import SchemaMigration.Proofs.Migration.Watching
import SchemaMigration.Proofs.Naming
import SchemaMigration.Proofs.Naming.Grammar
import SchemaMigration.Proofs.Naming.Rendering
import SchemaMigration.Proofs.Script
import SchemaMigration.Proofs.Sql.Catalogue
import SchemaMigration.Proofs.Sql.Reading
import SchemaMigration.Proofs.Step
import SchemaMigration.Proofs.Store.Keeping
import SchemaMigration.Proofs.Store.Locality
import SchemaMigration.Proofs.Store.Memory
import SchemaMigration.Proofs.Store.Request
import SchemaMigration.Proofs.Store.Sheet
import SchemaMigration.Proofs.Store.Tables
import SchemaMigration.Proofs.Text.ByteOrder
import SchemaMigration.Proofs.Text.Columns
import SchemaMigration.Proofs.Text.Numeral
import SchemaMigration.Proofs.Text.Pieces
import SchemaMigration.Proofs.Trace
import SchemaMigration.Proofs.Yaml.Blank
import SchemaMigration.Replication
import SchemaMigration.Report
import SchemaMigration.Script
import SchemaMigration.Session
import SchemaMigration.Session.Scripted
import SchemaMigration.Sha256
import SchemaMigration.Sql.Arithmetic
import SchemaMigration.Sql.Calendar
import SchemaMigration.Sql.Casting
import SchemaMigration.Sql.Database
import SchemaMigration.Sql.Datum
import SchemaMigration.Sql.Engine
import SchemaMigration.Sql.Expression
import SchemaMigration.Sql.Fault
import SchemaMigration.Sql.Parsing
import SchemaMigration.Sql.Plan
import SchemaMigration.Sql.Storage
import SchemaMigration.Sql.Term
import SchemaMigration.Sql.Token
import SchemaMigration.Statement
import SchemaMigration.Store
import SchemaMigration.Text.Blank
import SchemaMigration.Text.Columns
import SchemaMigration.Text.Fields
import SchemaMigration.Text.Hidden
import SchemaMigration.Text.Json
import SchemaMigration.Text.Numeral
import SchemaMigration.Text.Pieces
import SchemaMigration.Text.Quoted
import SchemaMigration.Yaml.Cursor
import SchemaMigration.Yaml.Layout
import SchemaMigration.Yaml.Node
import SchemaMigration.Yaml.Property
import SchemaMigration.Yaml.Scalar
import SchemaMigration.Yaml.Token
import SchemaMigration.Yaml.Value
