import RoundWatch.Readiness.HealthProbe
import RoundWatch.Readiness.WorkerHealth

/-!
# Paid admission

The process as far as the decision to sell a watch goes: the shared probe, what both
workers publish about themselves, and the paid requests in flight, from one `await` to
the next.  A stretch of code reads each clock and each resource once.

* `HealthWorker`, `startWorker`, `stopWorker`, `tickWorker`, … — the publication of health
  that `RoundWatchPoller` and `SettlementReconciler` share;
* `readLocalReadiness`, `currentSnapshot`, `validateCurrent` — the readiness check;
* `beginRefresh`, `endRefresh`, `resumeHandler` — a request, up to `store.prepareWatch`;
* `Service.step` — what can happen next, and `log`, what happened (latest first).
-/

namespace RoundWatch

/-! ## The state -/

/-- What a stretch of code reads. -/
structure Reading where
  /-- `performance.now()`. -/
  monotonic : ℚ
  /-- `Date.now()`. -/
  wall : ℤ
  /-- `store.readinessCheck()`. -/
  storage : Bool
  /-- `hasDatabaseDiskHeadroom`. -/
  diskHeadroom : Bool

structure ReadinessConfig where
  probe : ProbeConfig
  pollIntervalMilliseconds : ℕ
  reconciliationIntervalMilliseconds : ℕ
  maximumEvidenceAgeMilliseconds : ℕ

/-- The interval of a worker. -/
def ReadinessConfig.intervalMilliseconds (cfg : ReadinessConfig) : WorkerKind → ℕ
  | .polling => cfg.pollIntervalMilliseconds
  | .reconciliation => cfg.reconciliationIntervalMilliseconds

/-- A wrapper of a sweep that waits, with the generation it began in. -/
inductive TickPhase where
  | sweeping (generation : ℕ)
  | probing (generation : ℕ) (outcome : WorkerCycleOutcome) (maximumAge : ℕ) (ticket : ProbeTicket)

/-- A worker, as far as its health goes. -/
structure HealthWorker where
  generation : ℕ
  started : Bool
  schedulingStopped : Bool
  lastObservedProbeRevision : ℕ
  health : WorkerHealthTracker
  tick : Option TickPhase

structure WorkerGenerations where
  poller : ℕ
  reconciler : ℕ
  deriving DecidableEq, Repr

structure ReadinessChecks where
  storage : Bool
  poller : Bool
  reconciler : Bool
  backgroundWorkers : Bool
  diskHeadroom : Bool
  capabilityEvidenceFresh : Option Bool
  deriving DecidableEq, Repr

/-- `PaidReadinessSnapshot`. -/
structure PaidReadinessSnapshot where
  ready : Bool
  checks : ReadinessChecks
  workerGenerations : Option WorkerGenerations

/-- Where a request checks its readiness: before its body is read, or in the handler. -/
inductive AdmissionStage where
  | preChallenge
  | prePrepare
  deriving DecidableEq, Repr

inductive RequestPhase where
  /-- In `runIfDue`, with the generations of its refresh. -/
  | probing (generations : WorkerGenerations) (ticket : ProbeTicket)
  /-- The refresh has returned. -/
  | refreshed (snapshot : PaidReadinessSnapshot)

structure PaidRequest where
  stage : AdmissionStage
  phase : RequestPhase

/-- One thing that happened. -/
inductive Occurrence where
  /-- A probe was started. -/
  | probeStarted (revision : ℕ) (now : ℚ)
  /-- The source answered a probe. -/
  | probeReported (revision : ℕ) (evidence : IndexerCapabilityEvidence)
  /-- `invalidateForProviderFailure` was called. -/
  | providerFailed
  /-- A request began its refresh. -/
  | refreshBegan (request : ℕ) (generations : WorkerGenerations)
  /-- The handler called `store.prepareWatch`, in a stretch with this reading, with the
  probe and the workers as they were. -/
  | prepared (request : ℕ) (reading : Reading) (probe : IndexerHealthProbe)
      (workers : WorkerKind → HealthWorker)
  /-- A request was answered 503, with the checks of the answer if there are any. -/
  | refused (request : ℕ) (checks : Option ReadinessChecks)

structure Service where
  probe : IndexerHealthProbe
  workers : WorkerKind → HealthWorker
  requests : ℕ → Option PaidRequest
  nextRequest : ℕ
  log : List Occurrence

namespace HealthWorker

def fresh : HealthWorker := ⟨0, false, false, 0, .fresh, none⟩

/-- `healthSnapshot`. -/
def healthSnapshot (cfg : ReadinessConfig) (kind : WorkerKind) (worker : HealthWorker) (wall : ℤ) :
    Option WorkerHealthSnapshot :=
  worker.health.snapshot
    (max (cfg.intervalMilliseconds kind * 3) cfg.probe.readinessFreshnessMilliseconds) wall

end HealthWorker

/-- The generations of the workers. -/
def generationsOf (workers : WorkerKind → HealthWorker) : WorkerGenerations :=
  ⟨(workers .polling).generation, (workers .reconciliation).generation⟩

namespace Service

/-- A process that has constructed its parts. -/
def boot : Service where
  probe := .fresh
  workers := fun _ => .fresh
  requests := fun _ => none
  nextRequest := 0
  log := []

@[simps] def observe (σ : Service) (o : Occurrence) : Service := { σ with log := o :: σ.log }

@[simps] def setProbe (σ : Service) (probe : IndexerHealthProbe) : Service :=
  { σ with probe := probe }

@[simps] def setWorker (σ : Service) (kind : WorkerKind) (worker : HealthWorker) : Service :=
  { σ with workers := Function.update σ.workers kind worker }

@[simps] def setRequest (σ : Service) (k : ℕ) (request : Option PaidRequest) : Service :=
  { σ with requests := Function.update σ.requests k request }

/-- A request takes its number, and its refresh begins. -/
@[simps] def openRequest (σ : Service) : Service :=
  { σ with
    nextRequest := σ.nextRequest + 1
    log := .refreshBegan σ.nextRequest (generationsOf σ.workers) :: σ.log }

/-! ## The probe -/

/-- `runIfDue`. -/
def runIfDue (cfg : ReadinessConfig) (σ : Service) (maximumEvidenceAgeMs : ℕ) (now : ℚ) :
    Service × ProbeTicket :=
  match σ.probe.due cfg.probe maximumEvidenceAgeMs now with
  | some ticket => (σ, ticket)
  | none =>
      ((σ.setProbe (σ.probe.start maximumEvidenceAgeMs now)).observe
        (.probeStarted (σ.probe.revision + 1) now), .pending (σ.probe.revision + 1))

/-- The source answers the probe. -/
def answerProbe (cfg : ReadinessConfig) (σ : Service) (answer : ProbeAnswer) (now : ℚ) : Service :=
  match σ.probe.pending with
  | none => σ
  | some probe =>
      if probe.outcome.isSome then σ
      else
        let σ' := σ.setProbe (σ.probe.answer cfg.probe probe answer now)
        match answer.evidence? with
        | some evidence => σ'.observe (.probeReported probe.revision evidence)
        | none => σ'

/-- The promise of the probe settles. -/
def finishProbe (σ : Service) : Service :=
  match σ.probe.pending with
  | none => σ
  | some probe =>
      match probe.outcome with
      | none => σ
      | some outcome => σ.setProbe (σ.probe.finish probe.revision outcome)

/-- `invalidateForProviderFailure`. -/
def invalidate (σ : Service) : Service :=
  (σ.setProbe σ.probe.invalidateForProviderFailure).observe .providerFailed

/-! ## The workers -/

/-- `stop`. -/
def stopWorker (σ : Service) (kind : WorkerKind) : Service :=
  let worker := σ.workers kind
  σ.setWorker kind
    { worker with
      started := false
      generation := worker.generation + 1
      health := worker.health.markStopped }

/-- `stopScheduling`. -/
def stopScheduling (σ : Service) (kind : WorkerKind) : Service :=
  let worker := σ.workers kind
  if worker.schedulingStopped then σ
  else (σ.setWorker kind { worker with schedulingStopped := true }).stopWorker kind

/-- `tick` of the poller and the timer's function of the reconciler. -/
def tickWorker (σ : Service) (kind : WorkerKind) (wall : ℤ) : Service :=
  let worker := σ.workers kind
  if worker.schedulingStopped || !worker.started || worker.tick.isSome then σ
  else
    σ.setWorker kind
      { worker with
        health := worker.health.markCycleStarted wall
        tick := some (.sweeping worker.generation) }

/-- `start`. -/
def startWorker (σ : Service) (kind : WorkerKind) (wall : ℤ) : Service :=
  let worker := σ.workers kind
  if worker.schedulingStopped || worker.started then σ
  else
    (σ.setWorker kind
      { worker with
        started := true
        generation := worker.generation + 1
        lastObservedProbeRevision := σ.probe.revision
        health := worker.health.markStarted }).tickWorker kind wall

/-- The wrapper ends: its `finally`. -/
def endTick (σ : Service) (kind : WorkerKind) : Service :=
  σ.setWorker kind { σ.workers kind with tick := none }

/-- The wrapper catches an error. -/
def failTick (σ : Service) (kind : WorkerKind) (generation : ℕ) (wall : ℤ) : Service :=
  if generation = (σ.workers kind).generation then
    let σ := σ.invalidate
    let worker := σ.workers kind
    (σ.setWorker kind { worker with health := worker.health.markCycleFailed wall }).endTick kind
  else σ.endTick kind

/-- `markCycleCompleted` at the end of the wrapper. -/
def completeTick (σ : Service) (kind : WorkerKind) (generation : ℕ) (outcome : WorkerCycleOutcome)
    (wall : ℤ) : Service :=
  let worker := σ.workers kind
  match worker.health.markCycleCompleted outcome wall with
  | some health => (σ.setWorker kind { worker with health := health }).endTick kind
  | none => σ.failTick kind generation wall

/-- The callback a sweep of the wrapper reports progress with. -/
def reportProgress (σ : Service) (kind : WorkerKind) (generation : ℕ) (wall : ℤ) : Service :=
  let worker := σ.workers kind
  if generation = worker.generation then
    σ.setWorker kind { worker with health := worker.health.markCycleProgress wall }
  else σ

/-- A sweep of some generation recognises a failure of the provider. -/
def publishFailure (σ : Service) (kind : WorkerKind) (generation : ℕ) (wall : ℤ) : Service :=
  if generation = (σ.workers kind).generation then
    let σ := σ.invalidate
    let worker := σ.workers kind
    σ.setWorker kind
      { worker with
        lastObservedProbeRevision := σ.probe.revision
        health := worker.health.markProviderFailure wall }
  else σ

/-- The sweep found no failure of the provider, so its wrapper asks for a probe. -/
def wantsProbe (kind : WorkerKind) (outcome : WorkerCycleOutcome) : Bool :=
  match kind with
  | .polling => outcome.failed == outcome.isolatedFailures
  | .reconciliation => outcome.failed == 0

/-- The sweep of a wrapper returns. -/
def sweepReturns (cfg : ReadinessConfig) (σ : Service) (kind : WorkerKind)
    (outcome : WorkerCycleOutcome) (reading : Reading) : Service :=
  match (σ.workers kind).tick with
  | some (.sweeping generation) =>
      if generation ≠ (σ.workers kind).generation then σ.endTick kind
      else if wantsProbe kind outcome then
        let maximumAge :=
          if outcome.attempted = 0 then cfg.probe.idleIntervalMs else cfg.probe.minimumIntervalMs
        let started := σ.runIfDue cfg maximumAge reading.monotonic
        started.1.setWorker kind
          { started.1.workers kind with
            tick := some (.probing generation outcome maximumAge started.2) }
      else σ.completeTick kind generation outcome reading.wall
  | _ => σ

/-- The sweep of a wrapper throws. -/
def sweepThrows (σ : Service) (kind : WorkerKind) (shutdown : Bool) (wall : ℤ) : Service :=
  match (σ.workers kind).tick with
  | some (.sweeping generation) =>
      if shutdown then σ.endTick kind else σ.failTick kind generation wall
  | _ => σ

/-- What a probe says about the capability of a worker. -/
def capability (kind : WorkerKind) (evidence : IndexerCapabilityEvidence) : Bool :=
  match kind with
  | .polling => evidence.polling
  | .reconciliation => evidence.reconciliation

/-- A sample counts when it is new and current, and fresh unless it is negative. -/
def countsFor (cfg : ReadinessConfig) (σ : Service) (kind : WorkerKind)
    (sample : IndexerProbeSample) (maximumAge : ℕ) (now : ℚ) : Except ProbeError Bool :=
  if (σ.workers kind).lastObservedProbeRevision < sample.revision ∧
      σ.probe.isSampleCurrent sample then
    if capability kind sample.evidence then
      σ.probe.isSampleFreshForAdmission cfg.probe sample maximumAge now
    else .ok true
  else .ok false

/-- The wrapper has its sample. -/
def resumeTick (cfg : ReadinessConfig) (σ : Service) (kind : WorkerKind) (reading : Reading) :
    Service :=
  match (σ.workers kind).tick with
  | some (.probing generation outcome maximumAge ticket) =>
      match σ.probe.settlement ticket with
      | none => σ
      | some (.error .shutdown) => σ.endTick kind
      | some (.error .evidenceAge) => σ.failTick kind generation reading.wall
      | some (.ok sample) =>
          if generation ≠ (σ.workers kind).generation then σ.endTick kind
          else
            match σ.countsFor cfg kind sample maximumAge reading.monotonic with
            | .error _ => σ.failTick kind generation reading.wall
            | .ok false => σ.completeTick kind generation outcome reading.wall
            | .ok true =>
                let worker := σ.workers kind
                (σ.setWorker kind
                  { worker with
                    lastObservedProbeRevision := sample.revision
                    health := worker.health.markProbeResult (capability kind sample.evidence)
                      reading.wall }).completeTick kind generation outcome reading.wall
  | _ => σ

/-! ## The readiness check -/

/-- `LocalReadiness`, with the generations of the workers. -/
structure LocalReadiness where
  storage : Bool
  diskHeadroom : Bool
  poller : WorkerHealthSnapshot
  reconciler : WorkerHealthSnapshot
  generations : WorkerGenerations

def LocalReadiness.workersOperational (readiness : LocalReadiness) : Bool :=
  readiness.poller.operational && readiness.reconciler.operational

/-- Storage, disk and workers are there. -/
def LocalReadiness.ready (readiness : LocalReadiness) : Bool :=
  readiness.storage && readiness.diskHeadroom && readiness.workersOperational

/-- `readLocalReadiness`; a snapshot that throws ends it. -/
def readLocalReadiness (cfg : ReadinessConfig) (σ : Service) (reading : Reading) :
    Option LocalReadiness :=
  match (σ.workers .polling).healthSnapshot cfg .polling reading.wall,
    (σ.workers .reconciliation).healthSnapshot cfg .reconciliation reading.wall with
  | some poller, some reconciler =>
      some ⟨reading.storage, reading.diskHeadroom, poller, reconciler, generationsOf σ.workers⟩
  | _, _ => none

/-- `localFailureSnapshot`. -/
def localFailureSnapshot (readiness : LocalReadiness) : PaidReadinessSnapshot where
  ready := false
  checks :=
    { storage := readiness.storage
      poller := readiness.poller.operational
      reconciler := readiness.reconciler.operational
      backgroundWorkers := readiness.workersOperational
      diskHeadroom := readiness.diskHeadroom
      capabilityEvidenceFresh := none }
  workerGenerations := none

/-- The current sample, if it is fresh. -/
def freshSample (cfg : ReadinessConfig) (σ : Service) (now : ℚ) :
    Except ProbeError (Option IndexerProbeSample) :=
  match σ.probe.latest with
  | none => .ok none
  | some sample =>
      (σ.probe.isSampleFreshForAdmission cfg.probe sample cfg.maximumEvidenceAgeMilliseconds
        now).map fun fresh => if fresh then some sample else none

/-- `currentSnapshot`, with `none` where it throws. -/
def currentSnapshot (cfg : ReadinessConfig) (σ : Service) (generations : Option WorkerGenerations)
    (reading : Reading) : Option PaidReadinessSnapshot :=
  match σ.readLocalReadiness cfg reading with
  | none => none
  | some after =>
      if !after.ready || generations != some after.generations then
        some (localFailureSnapshot after)
      else
        match σ.freshSample cfg reading.monotonic with
        | .error _ => none
        | .ok sample =>
            let pollerReady := sample.any (·.evidence.polling)
            let reconcilerReady := sample.any (·.evidence.reconciliation)
            some
              { ready := after.ready && (pollerReady && reconcilerReady)
                checks :=
                  { storage := after.storage
                    poller := pollerReady
                    reconciler := reconcilerReady
                    backgroundWorkers := pollerReady && reconcilerReady
                    diskHeadroom := after.diskHeadroom
                    capabilityEvidenceFresh := some sample.isSome }
                workerGenerations := some after.generations }

/-- `validateCurrent`. -/
def validateCurrent (cfg : ReadinessConfig) (σ : Service) (refreshed : PaidReadinessSnapshot)
    (reading : Reading) : Option PaidReadinessSnapshot :=
  if refreshed.ready then σ.currentSnapshot cfg refreshed.workerGenerations reading
  else (σ.readLocalReadiness cfg reading).map localFailureSnapshot

/-! ## A request -/

/-- The request is answered 503. -/
def refuse (σ : Service) (k : ℕ) (checks : Option ReadinessChecks) : Service :=
  (σ.observe (.refused k checks)).setRequest k none

/-- A request begins its refresh. -/
def beginRefresh (cfg : ReadinessConfig) (σ : Service) (stage : AdmissionStage)
    (reading : Reading) : Service :=
  let k := σ.nextRequest
  let σ := σ.openRequest
  match σ.readLocalReadiness cfg reading with
  | none => σ.refuse k none
  | some before =>
      if !before.ready then
        σ.setRequest k (some ⟨stage, .refreshed (localFailureSnapshot before)⟩)
      else
        let started := σ.runIfDue cfg cfg.maximumEvidenceAgeMilliseconds reading.monotonic
        started.1.setRequest k (some ⟨stage, .probing before.generations started.2⟩)

/-- The refresh of a request goes on behind its probe. -/
def endRefresh (cfg : ReadinessConfig) (σ : Service) (k : ℕ) (reading : Reading) : Service :=
  match σ.requests k with
  | some ⟨stage, .probing generations ticket⟩ =>
      match σ.probe.settlement ticket with
      | none => σ
      | some (.error _) => σ.refuse k none
      | some (.ok _) =>
          match σ.currentSnapshot cfg (some generations) reading with
          | none => σ.refuse k none
          | some snapshot => σ.setRequest k (some ⟨stage, .refreshed snapshot⟩)
  | _ => σ

/-- The request goes on behind its refresh.  In the handler no `await` separates
`validateCurrent` from `store.prepareWatch`. -/
def resumeHandler (cfg : ReadinessConfig) (σ : Service) (k : ℕ) (reading : Reading) : Service :=
  match σ.requests k with
  | some ⟨stage, .refreshed snapshot⟩ =>
      match stage with
      | .preChallenge =>
          if snapshot.ready then σ.setRequest k none else σ.refuse k (some snapshot.checks)
      | .prePrepare =>
          match if snapshot.ready then σ.validateCurrent cfg snapshot reading else some snapshot with
          | none => σ.refuse k none
          | some snapshot =>
              if snapshot.ready then
                (σ.observe (.prepared k reading σ.probe σ.workers)).setRequest k none
              else σ.refuse k (some snapshot.checks)
  | _ => σ

end Service

/-! ## What can happen -/

inductive ServiceEvent where
  /-- A request comes to one of its readiness checks. -/
  | beginRefresh (stage : AdmissionStage) (reading : Reading)
  | endRefresh (request : ℕ) (reading : Reading)
  | resumeHandler (request : ℕ) (reading : Reading)
  /-- The source of the probe answers. -/
  | answerProbe (answer : ProbeAnswer) (now : ℚ)
  | finishProbe
  /-- `stopScheduling` of the probe. -/
  | stopProbing
  | start (kind : WorkerKind) (wall : ℤ)
  | stop (kind : WorkerKind)
  | stopScheduling (kind : WorkerKind)
  /-- The timer of a worker fires. -/
  | tick (kind : WorkerKind) (wall : ℤ)
  /-- A sweep of a generation reports progress or publishes a failure. -/
  | progress (kind : WorkerKind) (generation : ℕ) (wall : ℤ)
  | fail (kind : WorkerKind) (generation : ℕ) (wall : ℤ)
  | sweepReturns (kind : WorkerKind) (outcome : WorkerCycleOutcome) (reading : Reading)
  | sweepThrows (kind : WorkerKind) (shutdown : Bool) (wall : ℤ)
  | resumeTick (kind : WorkerKind) (reading : Reading)

namespace Service

/-- One stretch of code. -/
def step (cfg : ReadinessConfig) (σ : Service) : ServiceEvent → Service
  | .beginRefresh stage reading => σ.beginRefresh cfg stage reading
  | .endRefresh k reading => σ.endRefresh cfg k reading
  | .resumeHandler k reading => σ.resumeHandler cfg k reading
  | .answerProbe answer now => σ.answerProbe cfg answer now
  | .finishProbe => σ.finishProbe
  | .stopProbing => σ.setProbe σ.probe.stopScheduling
  | .start kind wall => σ.startWorker kind wall
  | .stop kind => σ.stopWorker kind
  | .stopScheduling kind => σ.stopScheduling kind
  | .tick kind wall => σ.tickWorker kind wall
  | .progress kind generation wall => σ.reportProgress kind generation wall
  | .fail kind generation wall => σ.publishFailure kind generation wall
  | .sweepReturns kind outcome reading => σ.sweepReturns cfg kind outcome reading
  | .sweepThrows kind shutdown wall => σ.sweepThrows kind shutdown wall
  | .resumeTick kind reading => σ.resumeTick cfg kind reading

/-- A run of the process. -/
abbrev run (cfg : ReadinessConfig) (σ : Service) (es : List ServiceEvent) : Service :=
  Runs.run (step cfg) σ es

end Service

end RoundWatch
