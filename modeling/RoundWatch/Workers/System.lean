import RoundWatch.Store.Evidence
import RoundWatch.Workers.PageCache
import Mathlib.Logic.Function.Basic

/-!
# The process: store, workers and what is in flight

The state a running server keeps next to its database, with every sweep and hook that
waits at an `await`.  JavaScript runs one stretch of code at a time, from one `await` to
the next, so a state of the process is the state between two stretches.

* `Poller`, `Reconciler`, `SettlementHook` — the two workers and the after-settle hooks
  in flight, each with the point its code waits at;
* `System` — all of it, with two ghost fields no code reads: `log`, what was claimed,
  requested and answered so far (latest first), and `turns`, the number of work units
  claimed so far;
* `System.perform`, `System.observe`, … — the only ways the workers change a `System`.
-/

namespace RoundWatch

open JsText

/-! ## Configuration and clock -/

/-- What the workers are constructed with.  `jitter` is the product of a delay and the
floating-point factor `deterministicJitterFactor` derives from a watch id and a failure
number. -/
structure WorkerConfig where
  scanQueryVariant : ScanQueryVariant
  roundWindow : ℕ
  historicalPageCacheEntries : ℕ
  historicalPageCacheByteBudget : ℕ
  network : JsString
  baseBackoffMilliseconds : ℕ
  maxBackoffMilliseconds : ℕ
  jitter : JsString → ℕ → ℕ → ℤ
  roundWindow_pos : 0 < roundWindow

/-- The clock readings of one stretch of code, one for each place that reads it. -/
structure Clock where
  /-- `listPollingCandidates` and `listSettlementReconciliationCandidates`. -/
  list : ℤ
  /-- `claimWorkUnit`. -/
  claim : ℤ
  /-- The poller, before it compares with `expiresAt`. -/
  closing : ℤ
  /-- A worker, before it computes a retry time. -/
  retry : ℤ
  /-- `recordPollingFailure` and `activateWatch`. -/
  record : ℤ

/-- A time value no date has. -/
def invalidTime : ℤ := maxTimeValue + 1

/-- `new Date(this.now().getTime() + delay)`. -/
def laterDate (now delay : ℤ) : ℤ := if validDate now then now + delay else invalidTime

/-! ## What happened so far -/

inductive WorkerKind where
  | polling
  | reconciliation
  deriving DecidableEq, Repr

/-- One thing that happened. -/
inductive Observation where
  /-- `claimWorkUnit` returned `claimed`; the turn that starts gets the number. -/
  | claimed (turn : ℕ) (kind : WorkerKind) (id : SqlText)
  /-- `claimWorkUnit` returned `exhausted`. -/
  | exhausted (id : SqlText)
  /-- A background turn sent a request. -/
  | requested (turn : ℕ) (id : SqlText)
  /-- `IndexerRequestTurnBudget.run` threw in a turn. -/
  | overspent (turn : ℕ)
  /-- A scan for a watch with these terms was answered with a body. -/
  | scanned (watch : WatchTerms) (query : ScanQuery) (body : Json)
  /-- A block request was answered with a body. -/
  | checkpointed (round : ℤ) (body : Json)
  /-- A lookup was answered with a body, or with a 404. -/
  | lookedUp (transaction : JsString) (found : Option Json)
  /-- A transaction search was answered with a body. -/
  | searched (transaction : JsString) (token : Option JsString) (body : Json)

/-! ## Turns -/

/-- A row the poller can scan: its cursor and its deadline are there. -/
structure ScanWatch where
  row : WatchRow
  scanAfterRound : ℤ
  expiresAt : ℤ
  scan_eq : row.scanAfterRound = some scanAfterRound
  expires_eq : row.expiresAt = some expiresAt

/-- The row, if it can be scanned. -/
def ScanWatch.of? (row : WatchRow) : Option ScanWatch :=
  match hscan : row.scanAfterRound, hexpires : row.expiresAt with
  | some scanAfterRound, some expiresAt => some ⟨row, scanAfterRound, expiresAt, hscan, hexpires⟩
  | _, _ => none

theorem ScanWatch.of?_row {row : WatchRow} {w : ScanWatch} (h : ScanWatch.of? row = some w) :
    w.row = row := by
  unfold ScanWatch.of? at h
  split at h
  · cases h
    rfl
  · cases h

inductive TurnKind where
  | progressed
  | providerEvidenceOnly
  | noOp
  deriving DecidableEq, Repr

/-- `CustomerTurnOutcome`. -/
structure CustomerTurnOutcome where
  kind : TurnKind
  providerEvidence : Bool
  deriving DecidableEq

def CustomerTurnOutcome.nothing : CustomerTurnOutcome := ⟨.noOp, false⟩

/-- `WorkerCycleOutcome`. -/
structure WorkerCycleOutcome where
  attempted : ℕ
  succeeded : ℕ
  failed : ℕ
  providerEvidenceOnly : ℕ
  noOp : ℕ
  providerEvidence : ℕ
  isolatedFailures : ℕ
  deriving DecidableEq

def WorkerCycleOutcome.zero : WorkerCycleOutcome := ⟨0, 0, 0, 0, 0, 0, 0⟩

/-- One more turn that returned. -/
def WorkerCycleOutcome.count (o : WorkerCycleOutcome) (turn : CustomerTurnOutcome) :
    WorkerCycleOutcome :=
  { o with
    succeeded := o.succeeded + if turn.kind = .progressed then 1 else 0
    providerEvidenceOnly :=
      o.providerEvidenceOnly + if turn.kind = .providerEvidenceOnly then 1 else 0
    noOp := o.noOp + if turn.kind = .noOp then 1 else 0
    providerEvidence := o.providerEvidence + if turn.providerEvidence then 1 else 0 }

/-! ## The poller -/

/-- A `ScanSession` object.  `watchId` is the watch it was made for; no code reads it. -/
structure ScanSession where
  watchId : SqlText
  minRound : ℤ
  maxRound : ℤ
  nextToken : Option JsString
  seenTokens : List JsString

/-- Where a polling turn waits.  A value that is already there when it is awaited stands
in the last argument. -/
inductive PollPoint where
  | checkpointTip
  | checkpointBlock (tip : ℤ)
  | sweepTip (held : Option (Except TurnError ℤ))
  /-- The page a query asks for, for the session object with that number. -/
  | page (session : ℕ) (query : ScanQuery) (held : Option (Except TurnError TransactionPage × Bool))

/-- A polling turn that waits. -/
structure PollTurn where
  /-- The number of the turn; no code reads it. -/
  number : ℕ
  /-- The watch as the sweep listed it. -/
  initial : WatchRow
  /-- The watch as the turn sees it. -/
  watch : ScanWatch
  /-- The requests the turn's budget has counted. -/
  used : ℕ
  point : PollPoint

inductive SweepPhase where
  /-- In a turn. -/
  | serving (turn : PollTurn)
  /-- The turn of a watch has ended. -/
  | served (watch : WatchRow) (result : Except TurnError CustomerTurnOutcome)
  /-- The loop is over. -/
  | swept

/-- One call of `runPollingSweep`. -/
structure Sweep where
  generation : ℕ
  sharedTip : Option (Except TurnError ℤ)
  sharedPages : List (ScanQuery × Except TurnError TransactionPage)
  waiting : List WatchRow
  outcome : WorkerCycleOutcome
  phase : SweepPhase

structure Poller where
  generation : ℕ
  schedulingStopped : Bool
  nextWatchIndex : ℕ
  /-- The session objects made so far, by number. -/
  objects : ℕ → ScanSession
  nextObject : ℕ
  /-- The `sessions` map: the object a watch continues with. -/
  sessions : SqlText → Option ℕ
  cache : HistoricalPageCache
  /-- The sweeps in flight, by number. -/
  sweeps : ℕ → Option Sweep
  nextSweep : ℕ

/-! ## The reconciler and the hooks -/

/-- `AbsenceProofSession`. -/
structure AbsenceProofSession where
  expectedTransaction : SqlText
  nextToken : Option JsString
  seenTokens : List JsString
  coverage : Option ℤ

/-- The terms a reconciliation turn goes by, all of them there. -/
structure ImmutableTerms where
  transaction : SqlText
  network : SqlText
  payer : SqlText
  receiver : SqlText
  assetId : ℤ
  atomicAmount : SqlText
  firstValid : ℤ
  lastValid : ℤ
  deriving DecidableEq

/-- `hasImmutableTerms`, with the terms. -/
def WatchRow.immutableTerms? (r : WatchRow) : Option ImmutableTerms :=
  if r.evidenceVersion = 1 then
    match r.expectedServiceTransaction, r.expectedServiceNetwork, r.expectedServicePayer,
      r.serviceReceiver, r.serviceAssetId, r.serviceAtomicAmount, r.serviceFirstValid,
      r.serviceLastValid with
    | some transaction, some network, some payer, some receiver, some assetId,
      some atomicAmount, some firstValid, some lastValid =>
        if Json.isSafeInteger assetId && Json.isSafeInteger firstValid &&
            Json.isSafeInteger lastValid then
          some ⟨transaction, network, payer, receiver, assetId, atomicAmount, firstValid, lastValid⟩
        else none
    | _, _, _, _, _, _, _, _ => none
  else none

/-- A row has terms exactly when each of them is on record. -/
theorem WatchRow.immutableTerms?_eq_some {r : WatchRow} {terms : ImmutableTerms} :
    r.immutableTerms? = some terms ↔
      r.evidenceVersion = 1 ∧ r.expectedServiceTransaction = some terms.transaction ∧
      r.expectedServiceNetwork = some terms.network ∧
      r.expectedServicePayer = some terms.payer ∧ r.serviceReceiver = some terms.receiver ∧
      r.serviceAssetId = some terms.assetId ∧
      r.serviceAtomicAmount = some terms.atomicAmount ∧
      r.serviceFirstValid = some terms.firstValid ∧ r.serviceLastValid = some terms.lastValid ∧
      Json.isSafeInteger terms.assetId = true ∧ Json.isSafeInteger terms.firstValid = true ∧
      Json.isSafeInteger terms.lastValid = true := by
  constructor
  · intro h
    unfold immutableTerms? at h
    split at h
    · split at h
      · split at h
        · rename_i hsafe
          simp only [Bool.and_eq_true] at hsafe
          cases h
          simp_all
        · cases h
      · cases h
    · cases h
  · rintro ⟨hversion, h₁, h₂, h₃, h₄, h₅, h₆, h₇, h₈, h₉, h₁₀, h₁₁⟩
    simp [immutableTerms?, hversion, h₁, h₂, h₃, h₄, h₅, h₆, h₇, h₈, h₉, h₁₀, h₁₁]

inductive ReconcilePoint where
  | lookup
  | tip
  | search (session : AbsenceProofSession)

/-- A reconciliation turn that waits. -/
structure ReconcileTurn where
  /-- The number of the turn; no code reads it. -/
  number : ℕ
  watch : WatchRow
  terms : ImmutableTerms
  used : ℕ
  point : ReconcilePoint

inductive ReconcilePhase where
  | serving (turn : ReconcileTurn)
  | served (watch : WatchRow) (result : Except TurnError CustomerTurnOutcome)

/-- What the loop of `reconcileSweep` keeps. -/
structure ReconcileLoop where
  generation : ℕ
  waiting : List WatchRow
  outcome : WorkerCycleOutcome

/-- A call of `reconcileSweep` that runs. -/
structure ReconcileSweep extends ReconcileLoop where
  phase : ReconcilePhase

structure Reconciler where
  generation : ℕ
  shutdownStarted : Bool
  sessions : SqlText → Option AbsenceProofSession
  /-- The sweep in flight; while there is one, `running` is set. -/
  sweep : Option ReconcileSweep

/-- An after-settle hook that waits for its lookup. -/
structure SettlementHook where
  watchId : JsString
  evidence : SettlementEvidence

/-! ## The system -/

structure System where
  store : Store
  poller : Poller
  reconciler : Reconciler
  hooks : ℕ → Option SettlementHook
  nextHook : ℕ
  turns : ℕ
  log : List Observation

/-- A poller that has just been constructed, with the numbers used before. -/
def Poller.fresh (objects : ℕ → ScanSession) (nextObject nextSweep : ℕ) : Poller where
  generation := 0
  schedulingStopped := false
  nextWatchIndex := 0
  objects := objects
  nextObject := nextObject
  sessions := fun _ => none
  cache := .empty
  sweeps := fun _ => none
  nextSweep := nextSweep

/-- A reconciler that has just been constructed. -/
def Reconciler.fresh : Reconciler := ⟨0, false, fun _ => none, none⟩

/-- No session object. -/
def ScanSession.blank : ScanSession := ⟨emptyText, 0, 0, none, []⟩

namespace System

/-- A process that has just opened a database. -/
def boot (store : Store) : System where
  store := store
  poller := .fresh (fun _ => .blank) 0 0
  reconciler := .fresh
  hooks := fun _ => none
  nextHook := 0
  turns := 0
  log := []

/-- A store operation. -/
@[simps] def perform (σ : System) (op : StoreOp) : System := { σ with store := σ.store.apply op }

/-- Something happens. -/
@[simps] def observe (σ : System) (o : Observation) : System := { σ with log := o :: σ.log }

/-- A work unit was claimed: the turn gets the next number. -/
@[simps] def beginTurn (σ : System) (kind : WorkerKind) (id : SqlText) : System :=
  { σ with turns := σ.turns + 1, log := .claimed σ.turns kind id :: σ.log }

/-- `claimWorkUnit` of a worker. -/
def claimUnit (σ : System) (kind : WorkerKind) (now : ℤ) (id : SqlText) (claim : WorkClaim) :
    System :=
  match (σ.store.claimWorkUnit now id.val claim).2 with
  | .ok .claimed => (σ.perform (.claimWorkUnit now id.val claim)).beginTurn kind id
  | .ok .exhausted => (σ.perform (.claimWorkUnit now id.val claim)).observe (.exhausted id)
  | _ => σ.perform (.claimWorkUnit now id.val claim)

theorem store_claimUnit (σ : System) (kind : WorkerKind) (now : ℤ) (id : SqlText)
    (claim : WorkClaim) :
    (σ.claimUnit kind now id claim).store = (σ.store.claimWorkUnit now id.val claim).1 := by
  unfold claimUnit
  split <;> rfl

@[simp] theorem poller_claimUnit (σ : System) (kind : WorkerKind) (now : ℤ) (id : SqlText)
    (claim : WorkClaim) : (σ.claimUnit kind now id claim).poller = σ.poller := by
  unfold claimUnit
  split <;> rfl

@[simp] theorem reconciler_claimUnit (σ : System) (kind : WorkerKind) (now : ℤ) (id : SqlText)
    (claim : WorkClaim) : (σ.claimUnit kind now id claim).reconciler = σ.reconciler := by
  unfold claimUnit
  split <;> rfl

/-- A sweep of the poller comes to another point. -/
@[simps! store reconciler hooks nextHook turns log] def setSweep (σ : System) (i : ℕ)
    (sweep : Sweep) : System :=
  { σ with poller := { σ.poller with sweeps := Function.update σ.poller.sweeps i (some sweep) } }

/-- A sweep of the poller returns. -/
@[simps! store reconciler hooks nextHook turns log] def endSweep (σ : System) (i : ℕ) : System :=
  { σ with poller := { σ.poller with sweeps := Function.update σ.poller.sweeps i none } }

/-- `sessions.delete`. -/
@[simps! store reconciler hooks nextHook turns log] def forgetSession (σ : System)
    (id : SqlText) : System :=
  { σ with poller := { σ.poller with sessions := Function.update σ.poller.sessions id none } }

/-- A new session object, under its watch. -/
@[simps! store reconciler hooks nextHook turns log] def openSession (σ : System)
    (session : ScanSession) : System :=
  { σ with poller := { σ.poller with
      objects := Function.update σ.poller.objects σ.poller.nextObject session
      nextObject := σ.poller.nextObject + 1
      sessions := Function.update σ.poller.sessions session.watchId (some σ.poller.nextObject) } }

/-- A session object goes on with another token. -/
@[simps! store reconciler hooks nextHook turns log] def continueSession (σ : System) (ref : ℕ)
    (token : JsString) : System :=
  { σ with poller := { σ.poller with
      objects := Function.update σ.poller.objects ref
        { σ.poller.objects ref with
          nextToken := some token, seenTokens := token :: (σ.poller.objects ref).seenTokens } } }

/-- Another state of the page cache. -/
@[simps! store reconciler hooks nextHook turns log] def setCache (σ : System)
    (cache : HistoricalPageCache) : System :=
  { σ with poller := { σ.poller with cache := cache } }

/-- The reconciler comes to another point. -/
@[simps! store poller hooks nextHook turns log] def setReconcileSweep (σ : System)
    (sweep : Option ReconcileSweep) : System :=
  { σ with reconciler := { σ.reconciler with sweep := sweep } }

/-- Another session of the reconciler under a watch. -/
@[simps! store poller hooks nextHook turns log] def setAbsenceSession (σ : System) (id : SqlText)
    (session : Option AbsenceProofSession) : System :=
  { σ with reconciler := { σ.reconciler with
      sessions := Function.update σ.reconciler.sessions id session } }

end System

end RoundWatch
