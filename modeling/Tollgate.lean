import Tollgate.Address.Basic
import Tollgate.Address.Network
import Tollgate.Address.Reading
import Tollgate.Admin.Api
import Tollgate.Admission.Client
import Tollgate.Admission.Passage
import Tollgate.Admission.Script
import Tollgate.Config.Schema
import Tollgate.Config.Text
import Tollgate.Config.Validation
import Tollgate.Control.Alarm
import Tollgate.Control.Counter
import Tollgate.Control.Cycle
import Tollgate.Control.Plane
import Tollgate.Control.View
import Tollgate.Control.Watched
import Tollgate.Decimal.Shortest
import Tollgate.Document.Fields
import Tollgate.Document.Node
import Tollgate.Document.Problem
import Tollgate.Document.Reader
import Tollgate.Document.Text
import Tollgate.Files.Tree
import Tollgate.Files.Watch
import Tollgate.Http.Message
import Tollgate.Http.Router
import Tollgate.Http.Uri
import Tollgate.Json.Number
import Tollgate.Json.Token
import Tollgate.Json.Tree
import Tollgate.Json.Value
import Tollgate.Policy.Batch
import Tollgate.Policy.BlockList
import Tollgate.Policy.Error
import Tollgate.Policy.Gate
import Tollgate.Policy.Interceptor
import Tollgate.Policy.Mock
import Tollgate.Policy.RequestLimits
import Tollgate.Policy.Row
import Tollgate.Policy.Settings
import Tollgate.Policy.Table
import Tollgate.Proofs.Accounting
import Tollgate.Proofs.AlarmHistory
import Tollgate.Proofs.Batches
import Tollgate.Proofs.Blocking
import Tollgate.Proofs.Bursts
import Tollgate.Proofs.Calendar
import Tollgate.Proofs.Calls
import Tollgate.Proofs.Ceiling
import Tollgate.Proofs.Contention
import Tollgate.Proofs.Cycles
import Tollgate.Proofs.Decisions
import Tollgate.Proofs.Display
import Tollgate.Proofs.Exchanged
import Tollgate.Proofs.Forwarding
import Tollgate.Proofs.FreshBuckets
import Tollgate.Proofs.GateRules
import Tollgate.Proofs.Gates
import Tollgate.Proofs.Governed
import Tollgate.Proofs.Grammar
import Tollgate.Proofs.InFlight
import Tollgate.Proofs.Instants
import Tollgate.Proofs.Isolation
import Tollgate.Proofs.Joining
import Tollgate.Proofs.KeptLimiters
import Tollgate.Proofs.Keys
import Tollgate.Proofs.LastGood
import Tollgate.Proofs.Limits
import Tollgate.Proofs.Mocks
import Tollgate.Proofs.Mounting
import Tollgate.Proofs.Moves
import Tollgate.Proofs.Newest
import Tollgate.Proofs.NominalRates
import Tollgate.Proofs.Operators
import Tollgate.Proofs.Partition
import Tollgate.Proofs.Permits
import Tollgate.Proofs.Publish
import Tollgate.Proofs.Readers
import Tollgate.Proofs.Reapplied
import Tollgate.Proofs.Rejected
import Tollgate.Proofs.Reports
import Tollgate.Proofs.Requests
import Tollgate.Proofs.Reservations
import Tollgate.Proofs.Routing
import Tollgate.Proofs.RowTexts
import Tollgate.Proofs.Scan
import Tollgate.Proofs.Scripts
import Tollgate.Proofs.Shapes
import Tollgate.Proofs.Signals
import Tollgate.Proofs.SigningKeys
import Tollgate.Proofs.Spellings
import Tollgate.Proofs.Stores
import Tollgate.Proofs.Tables
import Tollgate.Proofs.Texts
import Tollgate.Proofs.TokenLevel
import Tollgate.Proofs.TornFiles
import Tollgate.Proofs.Traffic
import Tollgate.Proofs.Trees
import Tollgate.Proofs.Validation
import Tollgate.Proofs.Waiting
import Tollgate.Proofs.Words
import Tollgate.Proofs.Writing
import Tollgate.Rate.Bucket
import Tollgate.Rate.Limiter
import Tollgate.Route.Key
import Tollgate.Route.Pattern
import Tollgate.Service.Actions
import Tollgate.Service.Flight
import Tollgate.Service.Network
import Tollgate.Service.Schedule
import Tollgate.Service.State
import Tollgate.Shutdown
import Tollgate.Store.Error
import Tollgate.Store.File
import Tollgate.Store.Memory
import Tollgate.Store.Source
import Tollgate.Text.Ascii
import Tollgate.Text.Blank
import Tollgate.Text.Hidden
import Tollgate.Text.Pieces
import Tollgate.Text.Quoted
import Tollgate.Time.Date
import Tollgate.Time.Instant
import Tollgate.Time.Reading
import Tollgate.Time.Span
import Tollgate.Toml.File
import Tollgate.Toml.Scalar
import Tollgate.Toml.Table
