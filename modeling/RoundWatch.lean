import RoundWatch.Foundation.Text
import RoundWatch.Foundation.Base64
import RoundWatch.Foundation.Base32
import RoundWatch.Foundation.Json
import RoundWatch.Foundation.Checks
import RoundWatch.Foundation.Url
import RoundWatch.Foundation.Headers
import RoundWatch.Foundation.Paging
import RoundWatch.Foundation.Runs
import RoundWatch.Foundation.Table
import RoundWatch.Store.Basic
import RoundWatch.Store.Operations
import RoundWatch.Store.Change
import RoundWatch.Store.Lifecycle
import RoundWatch.Store.Evidence
import RoundWatch.Store.Verdict
import RoundWatch.Store.Capacity
import RoundWatch.Store.Attribution
import RoundWatch.Store.Refunds
import RoundWatch.Store.Idempotency
import RoundWatch.App.Requests
import RoundWatch.App.Recovery
import RoundWatch.Indexer.Parse
import RoundWatch.Indexer.Query
import RoundWatch.Indexer.Client
import RoundWatch.Indexer.Grammar
import RoundWatch.Indexer.Coverage
import RoundWatch.Indexer.Keys
import RoundWatch.Indexer.Chain
import RoundWatch.Workers.PageCache
import RoundWatch.Workers.System
import RoundWatch.Workers.Poller
import RoundWatch.Workers.Reconciler
import RoundWatch.Workers.Run
import RoundWatch.Workers.Agreement
import RoundWatch.Workers.Freshness
import RoundWatch.Workers.Elsewhere
import RoundWatch.Workers.Apart
import RoundWatch.Workers.Traffic
import RoundWatch.Workers.Trail
import RoundWatch.Workers.Provenance
import RoundWatch.Workers.PollerSound
import RoundWatch.Workers.PollerTraffic
import RoundWatch.Workers.Failures
import RoundWatch.Workers.ReconcilerSound
import RoundWatch.Workers.Sharing
import RoundWatch.Workers.Matches
import RoundWatch.Workers.Continuations
import RoundWatch.Workers.PollerContinuations
import RoundWatch.Workers.SearchContinuations
import RoundWatch.Workers.Transcript
import RoundWatch.Workers.Resumption
import RoundWatch.Workers.Expiry
import RoundWatch.Workers.Absence
import RoundWatch.Workers.Meter
import RoundWatch.Workers.Charging
import RoundWatch.Workers.PollerBudget
import RoundWatch.Workers.ReconcilerBudget
import RoundWatch.Workers.Budget
import RoundWatch.Readiness.HealthProbe
import RoundWatch.Readiness.WorkerHealth
import RoundWatch.Readiness.Evidence
import RoundWatch.Readiness.Service
import RoundWatch.Readiness.Admission
import RoundWatch.Lifetimes.Drain
import RoundWatch.Lifetimes.Dispatcher
import RoundWatch.Lifetimes.Load
import RoundWatch.Lifetimes.Application
import RoundWatch.Lifetimes.Poller
import RoundWatch.Lifetimes.Reconciler
import RoundWatch.Lifetimes.Drains
import RoundWatch.Lifetimes.Coordinator
import RoundWatch.Lifetimes.Shutdown
import RoundWatch.App.SignedGate
import RoundWatch.App.Facilitator
import RoundWatch.App.Finality
import RoundWatch.App.Mcp
import RoundWatch.Client.Recovery
import RoundWatch.OpenIndex.Verdict
import RoundWatch.Observatory.Transport
import RoundWatch.Indexer.TransactionIds
import RoundWatch.Workers.PageCacheRuns
import RoundWatch.Workers.Books
import RoundWatch.Foundation.JsonPointer
import RoundWatch.Catalog.Locators
import RoundWatch.Metrics.Fences
import RoundWatch.Metrics.Sampler
import RoundWatch.Foundation.Sessions
import RoundWatch.Foundation.Utf8
import RoundWatch.Foundation.Leases
import RoundWatch.App.Acceptance
import RoundWatch.App.RequestBody
import RoundWatch.App.Create
import RoundWatch.App.CreateLeases
import RoundWatch.App.Purchases
import RoundWatch.App.CreateAnswers
import RoundWatch.App.CreateRecords
import RoundWatch.Client.Runner
import RoundWatch.Client.Payments
import RoundWatch.Client.Purchase
import RoundWatch.Foundation.Statements
import RoundWatch.Foundation.Columns
import RoundWatch.Foundation.IsoTexts
import RoundWatch.Store.Columns
import RoundWatch.Store.Migration
import RoundWatch.Store.Reopening
import RoundWatch.Store.Stored
import RoundWatch.Lifetimes.Startup
import RoundWatch.Foundation.JsonLayout
import RoundWatch.App.McpTools
import RoundWatch.App.McpServer
import RoundWatch.App.McpAnswers
import RoundWatch.App.McpContents
import RoundWatch.App.PaidPaths
