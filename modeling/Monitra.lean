import Monitra.Library.Runs
import Monitra.Library.Table
import Monitra.Library.HashMap
import Monitra.Library.Channel
import Monitra.Library.Bounded
import Monitra.Library.Periodic
import Monitra.Library.Sorting
import Monitra.Library.Word
import Monitra.Library.Json
import Monitra.Library.Serde
import Monitra.Library.Str
import Monitra.Library.Sql
import Monitra.Library.Program
import Monitra.Models
import Monitra.Flap
import Monitra.Storage.Codec
import Monitra.Storage.Store
import Monitra.Storage.Ops
import Monitra.Storage.Abstract
import Monitra.Storage.Migrations
import Monitra.Storage.Opening
import Monitra.Provider.Config
import Monitra.Provider.Policy
import Monitra.Backend.Service
import Monitra.Backend.Regions
import Monitra.Backend.Http
import Monitra.Backend.History
import Monitra.Backend.Auth
import Monitra.Backend.Ingest
import Monitra.Backend.Ws
import Monitra.Engine.Scheduler
import Monitra.Engine.Writer
import Monitra.Engine.Watchdog
import Monitra.Engine.System
import Monitra.Engine.Sweep
import Monitra.Engine.Pruner
import Monitra.Engine.Probing
import Monitra.Engine.Outside
import Monitra.Engine.Shutdown
import Monitra.Engine.Writing
import Monitra.Engine.Alerts
import Monitra.Boot
import Monitra.Collector.Kubernetes
import Monitra.Lemmas.Store
import Monitra.Lemmas.Scheduler
import Monitra.Lemmas.Steps
import Monitra.Lemmas.Migrations
import Monitra.Lemmas.Hiding
import Monitra.Lemmas.Outside
import Monitra.Lemmas.Alerts
import Monitra.Theorems.Pause
import Monitra.Theorems.Batch
import Monitra.Theorems.Down
import Monitra.Theorems.Evidence
import Monitra.Theorems.Resume
import Monitra.Theorems.Collectors
import Monitra.Theorems.Identity
import Monitra.Theorems.Isolation
import Monitra.Theorems.Alerts
import Monitra.Theorems.Ingest
import Monitra.Theorems.Credentials
import Monitra.Theorems.Tasks
import Monitra.Theorems.Deadlines
import Monitra.Theorems.Recording
import Monitra.Theorems.Backlog
import Monitra.Theorems.Failures
import Monitra.Theorems.Retention
import Monitra.Theorems.Damping
import Monitra.Theorems.Counters
import Monitra.Theorems.Shutdown
import Monitra.Theorems.Transient
import Monitra.Theorems.Delivery
import Monitra.Theorems.Overtaking
import Monitra.Theorems.Conservation
import Monitra.Agent.Config
import Monitra.Agent.Run
import Monitra.Agent.Live
import Monitra.Agent.Cycle
import Monitra.Theorems.Liveness
import Monitra.Theorems.Pipeline
import Monitra.Theorems.Opens
import Monitra.Theorems.Refinement
import Monitra.Theorems.Corrupt
import Monitra.Theorems.Resync
import Monitra.Theorems.Sweep
import Monitra.Theorems.Cadence
import Monitra.Theorems.Queues
import Monitra.Theorems.Lossless
import Monitra.Theorems.Pruning
import Monitra.Theorems.Partition
import Monitra.Theorems.Stable
import Monitra.Theorems.Health
import Monitra.Theorems.Update
import Monitra.Theorems.Agents
import Monitra.Tui.App
import Monitra.Tui.Data
import Monitra.Theorems.Selection
import Monitra.Theorems.Feed
import Monitra.Agent.Process
import Monitra.Theorems.Process
import Monitra.Provider.Cache
import Monitra.Theorems.Cache
import Monitra.Theorems.Precedence
import Monitra.Wire
import Monitra.Theorems.Wire
import Monitra.Theorems.Stream
import Monitra.Backend.Monitors
import Monitra.Backend.Agents
import Monitra.Backend.Router
import Monitra.Lemmas.Router
import Monitra.Theorems.Strangers
import Monitra.Theorems.Ledger
import Monitra.Theorems.Requests
import Monitra.Theorems.Quarantine
import Monitra.Provider.File
import Monitra.Cli
import Monitra.Lemmas.Cli
import Monitra.Theorems.Settings
import Monitra.Theorems.Tokens
import Monitra.Theorems.Configured
import Monitra.Backend.Answers
import Monitra.Tui.Client
import Monitra.Theorems.Dashboard
import Monitra.Theorems.Handshake
import Monitra.Web.Tab
import Monitra.Lemmas.Tab
import Monitra.Theorems.Browser
import Monitra.Theorems.Subprotocol
import Monitra.Theorems.Secrecy
import Monitra.Theorems.Passes
