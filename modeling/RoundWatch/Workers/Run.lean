import RoundWatch.Workers.Reconciler

/-!
# Runs of the process

Everything that can happen between two stretches of code, in any order and any number of
times: calls of the application outside its workers, sweeps that start or go on, hooks
that start or go on, operational pauses, shutdown, and the restart of the process on the
same database.

* `StoreOp.external` — the operations the application calls outside its workers;
* `Event`, `System.step`, `System.run`.
-/

namespace RoundWatch

open JsText

/-- Operations that are called outside the workers and their hooks.  The others have no
caller but the poller, the reconciler and the after-settle hook; `reopen` is the restart. -/
def StoreOp.external : StoreOp → Bool
  | .prepareWatch .. => true
  | .recordSettlementCandidate .. => true
  | .activateWatch .. => true
  | .markSettlementUnknown .. => true
  | .recordPollingFailure .. => true
  | .clearPollingFailure .. => true
  | .recordReconciliationFailure .. => true
  | .recordRefundEvidence .. => true
  | .markSettlementInvalid .. => false
  | .claimWorkUnit .. => false
  | .markMatched .. => false
  | .advanceScanRound .. => false
  | .setClosingRound .. => false
  | .markExpired .. => false
  | .reopen .. => false

/-- What can happen next. -/
inductive Event where
  /-- The application calls the store. -/
  | call (op : {op : StoreOp // op.external})
  /-- `runOnce`, from a tick or directly. -/
  | poll (clock : Clock)
  /-- A sweep of the poller goes on. -/
  | resumePoll (sweep : ℕ) (answer : Answer) (clock : Clock)
  /-- `start` or `stop` of the poller, where it begins a new generation. -/
  | turnPoller
  | stopPolling
  /-- `reconcileOnce`, from the timer or directly. -/
  | reconcile (clock : Clock)
  /-- The sweep of the reconciler goes on. -/
  | resumeReconcile (answer : Answer) (clock : Clock)
  | turnReconciler
  | stopReconciling
  /-- A payment settles. -/
  | settle (watchId : JsString) (evidence : SettlementEvidence)
  | resumeHook (hook : ℕ) (answer : Answer) (clock : Clock)
  /-- The process dies and another one opens the database. -/
  | restart (config : StoreConfig)

namespace System

/-- The process after a restart: the database and nothing else. -/
@[simps] def restart (σ : System) (config : StoreConfig) : System :=
  { σ with
    store := σ.store.apply (.reopen config)
    poller := .fresh σ.poller.objects σ.poller.nextObject σ.poller.nextSweep
    reconciler := .fresh
    hooks := fun _ => none }

/-- `start` and `stop` of the poller. -/
@[simps! store reconciler hooks nextHook turns log] def turnPoller (σ : System) : System :=
  { σ with poller := { σ.poller with generation := σ.poller.generation + 1 } }

/-- The first `stopScheduling` of the poller. -/
@[simps! store reconciler hooks nextHook turns log] def stopPolling (σ : System) : System :=
  { σ with poller := { σ.poller with
      generation := σ.poller.generation + 1, schedulingStopped := true } }

/-- `start` and `stop` of the reconciler. -/
@[simps! store poller hooks nextHook turns log] def turnReconciler (σ : System) : System :=
  { σ with reconciler := { σ.reconciler with generation := σ.reconciler.generation + 1 } }

/-- The first `stopScheduling` of the reconciler. -/
@[simps! store poller hooks nextHook turns log] def stopReconciling (σ : System) : System :=
  { σ with reconciler := { σ.reconciler with
      generation := σ.reconciler.generation + 1, shutdownStarted := true } }

/-- One stretch of code. -/
def step (cfg : WorkerConfig) (σ : System) : Event → System
  | .call op => σ.perform op.1
  | .poll clock => σ.runOnce cfg clock
  | .resumePoll i answer clock => σ.resumePoll cfg i answer clock
  | .turnPoller => σ.turnPoller
  | .stopPolling => if σ.poller.schedulingStopped then σ else σ.stopPolling
  | .reconcile clock => σ.reconcileOnce cfg clock
  | .resumeReconcile answer clock => σ.resumeReconcile cfg answer clock
  | .turnReconciler => σ.turnReconciler
  | .stopReconciling => if σ.reconciler.shutdownStarted then σ else σ.stopReconciling
  | .settle watchId evidence => σ.afterSettle watchId evidence
  | .resumeHook k answer clock => σ.resumeHook k answer clock
  | .restart config => σ.restart config

/-- A run of the process. -/
abbrev run (cfg : WorkerConfig) (σ : System) (es : List Event) : System :=
  Runs.run (step cfg) σ es

end System

/-! ## Sample values -/

def sampleWorker : WorkerConfig where
  scanQueryVariant := .C
  roundWindow := 100
  historicalPageCacheEntries := 16
  historicalPageCacheByteBudget := 8388608
  network := sampleIntent.network
  baseBackoffMilliseconds := 1000
  maxBackoffMilliseconds := 60000
  jitter := fun _ _ base => base
  roundWindow_pos := by decide

/-- Every clock reads the same. -/
def Clock.at (now : ℤ) : Clock := ⟨now, now, now, now, now⟩

/-- The sample watch is prepared, and activated at round 10. -/
def activeOpening : List Event :=
  [.call ⟨.prepareWatch 0 (js "w") sampleSpec (some sampleIntent), rfl⟩,
    .call ⟨.activateWatch 1 (js "w") sampleEvidence 10, rfl⟩]

/-- The body of a health answer. -/
def tipBody (round : ℤ) : Json := .obj [(js "round", .num round)]

/-- The body of a block answer. -/
def blockBody (round timestamp : ℤ) : Json :=
  .obj [(js "round", .num round), (js "timestamp", .num timestamp)]

/-- The body of a last page that shows nothing. -/
def blankBody (current : ℤ) : Json :=
  .obj [(js "transactions", .arr []), (js "current-round", .num current)]

end RoundWatch
