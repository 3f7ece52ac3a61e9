import AgentSync.Action
import AgentSync.Binary64
import AgentSync.Binary64.Text
import AgentSync.Bundle
import AgentSync.Bundle.Wire
import AgentSync.Defaults
import AgentSync.Defaults.Listing
import AgentSync.Dict
import AgentSync.Domain.Label
import AgentSync.Domain.Mapping
import AgentSync.Domain.Name
import AgentSync.Domain.Punycode
import AgentSync.Domain.Replacement
import AgentSync.Error
import AgentSync.Event
import AgentSync.Event.Wire
import AgentSync.Http.Client
import AgentSync.Http.Form
import AgentSync.Http.Host
import AgentSync.Http.Message
import AgentSync.Http.Percent
import AgentSync.Http.Url
import AgentSync.Hub.Migrations
import AgentSync.Hub.Server
import AgentSync.Hub.Store
import AgentSync.Job
import AgentSync.Job.Wire
import AgentSync.Json.Basic
import AgentSync.Json.Decode
import AgentSync.Json.Literal
import AgentSync.Json.Reader
import AgentSync.Json.Source
import AgentSync.Json.Writer
import AgentSync.Labels
import AgentSync.Memory.Pages
import AgentSync.Memory.Script
import AgentSync.Memory.Shelf
import AgentSync.Memory.Sides
import AgentSync.Memory.Supply
import AgentSync.Metrics
import AgentSync.Page
import AgentSync.Queue.Consumer
import AgentSync.Queue.Drain
import AgentSync.Queue.Listener
import AgentSync.Queue.Workers
import AgentSync.Retry
import AgentSync.Ring
import AgentSync.Ring.History
import AgentSync.Scope
import AgentSync.Settings.Hub
import AgentSync.Settings.Listing
import AgentSync.Settings.Pool
import AgentSync.Settings.Queue
import AgentSync.Settings.Variables
import AgentSync.Store.Command
import AgentSync.Store.Database
import AgentSync.Store.Events
import AgentSync.Store.Rows
import AgentSync.Store.Source
import AgentSync.Sync.Degradation
import AgentSync.Sync.Push
import AgentSync.Sync.PushQueue
import AgentSync.Sync.Reconciler
import AgentSync.Table
import AgentSync.Table.Named
import AgentSync.Text.Base64
import AgentSync.Text.Bidi
import AgentSync.Text.Blank
import AgentSync.Text.CombiningClass
import AgentSync.Text.Composition
import AgentSync.Text.Hex
import AgentSync.Text.Integer
import AgentSync.Text.Joining
import AgentSync.Text.Mark
import AgentSync.Text.Ranges
import AgentSync.Text.Split
import AgentSync.Text.Utf8
import AgentSync.Time.Calendar
import AgentSync.Time.Duration
import AgentSync.Time.Instant
import AgentSync.Time.Rfc3339
import AgentSync.Uuid
import AgentSync.Word
import AgentSync.World
import AgentSync.Proofs.Action
import AgentSync.Proofs.Beside
import AgentSync.Proofs.Degradation.Accepted
import AgentSync.Proofs.Degradation.Records
import AgentSync.Proofs.Degradation.Residual
import AgentSync.Proofs.Degradation.Chain
import AgentSync.Proofs.World
import AgentSync.Memory.Replica
import AgentSync.Proofs.Dict
import AgentSync.Proofs.Sweep.Page
import AgentSync.Proofs.Push
import AgentSync.Proofs.Sweep.Step
import AgentSync.Proofs.Sweep.Course
import AgentSync.Proofs.Sweep.Effect
import AgentSync.Proofs.Sweep.Converge
import AgentSync.Proofs.Sweep.Drift
import AgentSync.Proofs.Json.Number
import AgentSync.Proofs.Json.Text
import AgentSync.Proofs.Json.RoundTrip
import AgentSync.Proofs.Json.Decode
import AgentSync.Proofs.Bundle.Wire
import AgentSync.Memory.Link
import AgentSync.Proofs.Http.Report
import AgentSync.Proofs.Hub.Store
import AgentSync.Proofs.Hub.Server
import AgentSync.Proofs.Http.Client
import AgentSync.Proofs.Link
import AgentSync.Proofs.Acknowledgement
import AgentSync.Proofs.Table
import AgentSync.Proofs.PushQueue.Groups
import AgentSync.Proofs.PushQueue.Effect
import AgentSync.Proofs.PushQueue.Order
import AgentSync.Memory.Log
import AgentSync.Proofs.Queue.Log
import AgentSync.Proofs.Queue.Delivery
import AgentSync.Proofs.Queue.Stored
import AgentSync.Proofs.Queue.Batch
import AgentSync.Proofs.Queue.Conserve
import AgentSync.Proofs.Hub.Success
import AgentSync.Proofs.Degradation.Shelf
import AgentSync.Proofs.Degradation.Converge
import AgentSync.Proofs.Sweep.Cover
import AgentSync.Proofs.Sweep.Recent
import AgentSync.Memory.Watch
import AgentSync.Proofs.Logs
import AgentSync.Proofs.Watch
import AgentSync.Proofs.Sweep.Windows
import AgentSync.Proofs.PushQueue.Calls
import AgentSync.Proofs.PushQueue.Report
import AgentSync.Proofs.PushQueue.Precedence
import AgentSync.Proofs.Queue.Protocol
import AgentSync.Proofs.Hub.Deletion
import AgentSync.Proofs.Retry.Life
import AgentSync.Memory.Writers
import AgentSync.Proofs.Writers.Account
import AgentSync.Proofs.Http.Percent
import AgentSync.Proofs.Http.Form
import AgentSync.Proofs.Http.Url
import AgentSync.Proofs.Text.Integer
import AgentSync.Proofs.Hub.Naming
import AgentSync.Proofs.Hub.Influence
import AgentSync.Proofs.Ring.History
import AgentSync.Proofs.Json.Plain
import AgentSync.Proofs.Bundle.RoundTrip
import AgentSync.Proofs.Degradation.Calls
import AgentSync.Proofs.Hub.Course
import AgentSync.Proofs.Hub.Order
import AgentSync.Proofs.Store.Transaction
import AgentSync.Proofs.Unpushed.Batch
import AgentSync.Proofs.Unpushed.Drain
import AgentSync.Proofs.Unpushed.Store
import AgentSync.Proofs.Text.Order
import AgentSync.Proofs.Sweep.Outcome
import AgentSync.Proofs.Sweep.Report
import AgentSync.Proofs.Sweep.Tables
import AgentSync.Proofs.Ring.Eviction
import AgentSync.Proofs.PushQueue.KeyRows
import AgentSync.Proofs.Hub.Notes
import AgentSync.Proofs.Hub.Columns
import AgentSync.Proofs.Hub.Overwrites
import AgentSync.Proofs.Queue.Listener
import AgentSync.Proofs.Queue.Claim
import AgentSync.Memory.Calls
import AgentSync.Proofs.Queue.Drain
import AgentSync.Proofs.Text.Blank
import AgentSync.Proofs.Labels
