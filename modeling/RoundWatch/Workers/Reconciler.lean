import RoundWatch.Workers.Poller

/-!
# The reconciler and the after-settle hook

`SettlementReconciler`, stretch by stretch like the poller, and the hook that runs when a
payment has settled.

* `reconcileWatch`, `requestLookup`, `requestSearch` — a turn up to an `await`;
* `afterLookup`, `afterTip`, `afterSearch`, `applyConfirmed` — what follows an answer;
* `settleReconcile`, `nextReconcileTurn`, `reconcileOnce`, `resumeReconcile` — the loop;
* `afterSettle`, `resumeHook` — `onAfterSettle`.
-/

namespace RoundWatch

open JsText

/-- `isSessionCompatible`. -/
def isAbsenceSessionCompatible (session : AbsenceProofSession) (watch : Option WatchRow) : Bool :=
  watch.any fun w =>
    w.unsettled && w.expectedServiceTransaction == some session.expectedTransaction

/-- The transfer is the service payment the terms speak of. -/
def confirmsTerms (network : JsString) (transfer : IndexedAssetTransfer) (terms : ImmutableTerms) :
    Bool :=
  transfer.transaction == terms.transaction.val && terms.network.val == network &&
    transfer.sender == terms.payer.val && transfer.receiver == terms.receiver.val &&
    transfer.assetId == terms.assetId && transfer.atomicAmount == terms.atomicAmount.val &&
    terms.firstValid ≤ transfer.round && transfer.round ≤ terms.lastValid

/-- The transfer is the settlement the hook was called for, and the payment the row
expects. -/
def confirmsSettlement (evidence : SettlementEvidence) (transfer : IndexedAssetTransfer)
    (watch : WatchRow) : Bool :=
  transfer.transaction == evidence.transaction &&
    watch.expectedServicePayer.map SqlText.val == some transfer.sender &&
    watch.serviceReceiver.map SqlText.val == some transfer.receiver &&
    watch.serviceAssetId == some transfer.assetId &&
    watch.serviceAtomicAmount.map SqlText.val == some transfer.atomicAmount &&
    watch.serviceFirstValid.getD Json.maxSafeInteger ≤ transfer.round &&
    transfer.round ≤ watch.serviceLastValid.getD (-1)

/-- The smallest round a session's pages were current at. -/
def AbsenceProofSession.covered (session : AbsenceProofSession) (currentRound : ℤ) : ℤ :=
  session.coverage.elim currentRound (min · currentRound)

/-- What a canonical-id check of a request throws. -/
def requestedIdError : TurnError :=
  .protocol "requested transaction ID is not a canonical Algorand transaction ID"

namespace System

/-- `pruneAbsenceProofSessions`. -/
@[simps! store poller hooks nextHook turns log] def pruneAbsenceProofSessions (σ : System) :
    System :=
  { σ with reconciler := { σ.reconciler with
      sessions := fun id => (σ.reconciler.sessions id).filter fun session =>
        isAbsenceSessionCompatible session (σ.store.getWatch id.val) } }

/-- Drops the session of a watch unless it fits the row. -/
def retainAbsenceSession (σ : System) (id : SqlText) (watch : Option WatchRow) : System :=
  match σ.reconciler.sessions id with
  | some session =>
      if isAbsenceSessionCompatible session watch then σ else σ.setAbsenceSession id none
  | none => σ

/-- The session that is kept is the one there was, and it fits the row. -/
theorem sessions_retainAbsenceSession {σ : System} {id : SqlText} {watch : Option WatchRow}
    {session : AbsenceProofSession} :
    (σ.retainAbsenceSession id watch).reconciler.sessions id = some session ↔
      σ.reconciler.sessions id = some session ∧
        isAbsenceSessionCompatible session watch = true := by
  cases hold : σ.reconciler.sessions id with
  | none => simp [retainAbsenceSession, hold]
  | some old =>
      cases hfit : isAbsenceSessionCompatible old watch with
      | true =>
          simp only [retainAbsenceSession, hold, hfit, if_true, Option.some.injEq]
          exact ⟨fun h => ⟨h, h ▸ hfit⟩, And.left⟩
      | false =>
          simp only [retainAbsenceSession, hold, hfit, Bool.false_eq_true, if_false,
            Option.some.injEq]
          constructor
          · simp [setAbsenceSession]
          · rintro ⟨rfl, hcompatible⟩
            rw [hfit] at hcompatible
            cases hcompatible

@[simp] theorem store_retainAbsenceSession (σ : System) (id : SqlText) (watch : Option WatchRow) :
    (σ.retainAbsenceSession id watch).store = σ.store := by
  unfold retainAbsenceSession
  split
  · split <;> rfl
  · rfl

@[simp] theorem log_retainAbsenceSession (σ : System) (id : SqlText) (watch : Option WatchRow) :
    (σ.retainAbsenceSession id watch).log = σ.log := by
  unfold retainAbsenceSession
  split
  · split <;> rfl
  · rfl

/-! ## A turn, up to an `await` -/

/-- The turn of a watch ends. -/
def reconciled (σ : System) (loop : ReconcileLoop) (watch : WatchRow)
    (result : Except TurnError CustomerTurnOutcome) : System :=
  σ.setReconcileSweep (some { loop with phase := .served watch result })

/-- The retry time of `defer`. -/
def deferTime (cfg : WorkerConfig) (clock : Clock) (watch : WatchRow) : ℤ :=
  laterDate clock.retry (min (cfg.maxBackoffMilliseconds : ℤ)
    (cfg.baseBackoffMilliseconds * 2 ^ min watch.reconciliationAttempts 20))

/-- `defer`, with what it throws. -/
def deferWatch (cfg : WorkerConfig) (σ : System) (watch : WatchRow) (clock : Clock) :
    System × Except TurnError Unit :=
  (σ.perform (.recordReconciliationFailure watch.id.val (deferTime cfg clock watch)),
    (σ.store.recordReconciliationFailure watch.id.val (deferTime cfg clock watch)).2.mapError
      .ofStore)

/-- The turn ends with a deferral. -/
def deferred (cfg : WorkerConfig) (σ : System) (loop : ReconcileLoop) (watch : WatchRow)
    (clock : Clock) (outcome : CustomerTurnOutcome) : System :=
  (σ.deferWatch cfg watch clock).1.reconciled loop watch
    ((σ.deferWatch cfg watch clock).2.map fun _ => outcome)

/-- `assertSchedulingOpen`, `requestBudget.run`, the check of the requested id where the
request has one, and the request. -/
def requestReconcile (σ : System) (loop : ReconcileLoop) (turn : ReconcileTurn)
    (canonical : Bool) : System :=
  if σ.reconciler.shutdownStarted then σ.reconciled loop turn.watch (.error .shutdown)
  else
    match spend maxReconciliationRequests "settlement reconciliation turn" turn.used with
    | .error e => (σ.observe (.overspent turn.number)).reconciled loop turn.watch (.error e)
    | .ok used =>
        if canonical then
          (σ.observe (.requested turn.number turn.watch.id)).setReconcileSweep
            (some { loop with phase := .serving { turn with used := used } })
        else σ.reconciled loop turn.watch (.error requestedIdError)

def requestLookup (σ : System) (loop : ReconcileLoop) (turn : ReconcileTurn) : System :=
  σ.requestReconcile loop { turn with point := .lookup }
    (isCanonicalTransactionId turn.terms.transaction.val)

def requestSearch (σ : System) (loop : ReconcileLoop) (turn : ReconcileTurn)
    (session : AbsenceProofSession) : System :=
  σ.requestReconcile loop { turn with point := .search session }
    (isCanonicalTransactionId turn.terms.transaction.val)

/-- `reconcileWatch` behind a successful claim. -/
def reconcileClaimed (cfg : WorkerConfig) (σ : System) (loop : ReconcileLoop) (number : ℕ)
    (watch : WatchRow) (clock : Clock) : System :=
  match watch.immutableTerms? with
  | none => σ.deferred cfg loop watch clock .nothing
  | some terms =>
      let turn : ReconcileTurn :=
        { number := number, watch := watch, terms := terms, used := 0, point := .lookup }
      let σ := σ.retainAbsenceSession watch.id (some watch)
      match σ.reconciler.sessions watch.id with
      | some session => σ.requestSearch loop turn session
      | none => σ.requestLookup loop turn

/-- `reconcileWatch`, up to its first `await`. -/
def reconcileWatch (cfg : WorkerConfig) (σ : System) (loop : ReconcileLoop) (watch : WatchRow)
    (clock : Clock) : System :=
  match watch.expectedServiceTransaction.filter (·.val ≠ []) with
  | none => σ.reconciled loop watch (.ok .nothing)
  | some transaction =>
      let claim := WorkClaim.reconciliation transaction.val watch.reconciliationAttempts
      let number := σ.turns
      let result := (σ.store.claimWorkUnit clock.claim watch.id.val claim).2
      let σ := σ.claimUnit .reconciliation clock.claim watch.id claim
      match result with
      | .error e => σ.reconciled loop watch (.error (.ofStore e))
      | .ok .exhausted => (σ.setAbsenceSession watch.id none).reconciled loop watch (.ok .nothing)
      | .ok .inactive =>
          (σ.retainAbsenceSession watch.id (σ.store.getWatch watch.id.val)).reconciled loop watch
            (.ok .nothing)
      | .ok .claimed => σ.reconcileClaimed cfg loop number watch clock

/-! ## Behind an answer -/

/-- Notes a lookup that was answered with a body or a 404. -/
def observeLookup (σ : System) (transaction : JsString) (answer : Answer) : System :=
  match answer with
  | .body body => σ.observe (.lookedUp transaction (some body))
  | .status 404 _ _ => σ.observe (.lookedUp transaction none)
  | _ => σ

/-- `applyConfirmed`, with the end of the turn. -/
def applyConfirmed (cfg : WorkerConfig) (σ : System) (loop : ReconcileLoop) (turn : ReconcileTurn)
    (transfer : IndexedAssetTransfer) (clock : Clock) : System :=
  let σ := σ.setAbsenceSession turn.watch.id none
  if confirmsTerms cfg.network transfer turn.terms then
    let evidence : SettlementEvidence :=
      { transaction := transfer.transaction, network := cfg.network,
        payer := some transfer.sender }
    (σ.perform (.activateWatch clock.record turn.watch.id.val evidence transfer.round)).reconciled
      loop turn.watch
      (((σ.store.activateWatch clock.record turn.watch.id.val evidence
        (some transfer.round)).2.mapError .ofStore).map fun _ => ⟨.progressed, true⟩)
  else
    (σ.perform (.markSettlementInvalid turn.watch.id.val)).reconciled loop turn.watch
      (.ok ⟨.progressed, true⟩)

/-- The lookup is answered. -/
def afterLookup (cfg : WorkerConfig) (σ : System) (loop : ReconcileLoop) (turn : ReconcileTurn)
    (answer : Answer) (clock : Clock) : System :=
  let σ := σ.observeLookup turn.terms.transaction.val answer
  match lookupAssetTransfer turn.terms.transaction.val .reconciliation answer with
  | .error e => σ.reconciled loop turn.watch (.error e)
  | .ok (some transfer) => σ.applyConfirmed cfg loop turn transfer clock
  | .ok none => σ.requestReconcile loop { turn with point := .tip } true

/-- The tip is known. -/
def afterTip (cfg : WorkerConfig) (σ : System) (loop : ReconcileLoop) (turn : ReconcileTurn)
    (answer : Answer) (clock : Clock) : System :=
  match getCurrentRound .reconciliation answer with
  | .error e => σ.reconciled loop turn.watch (.error e)
  | .ok currentRound =>
      if currentRound ≤ turn.terms.lastValid then
        σ.deferred cfg loop turn.watch clock ⟨.providerEvidenceOnly, true⟩
      else
        let session : AbsenceProofSession :=
          { expectedTransaction := turn.terms.transaction, nextToken := none, seenTokens := [],
            coverage := none }
        (σ.setAbsenceSession turn.watch.id (some session)).requestSearch loop turn session

/-- A page of the absence proof is there. -/
def afterSearch (cfg : WorkerConfig) (σ : System) (loop : ReconcileLoop) (turn : ReconcileTurn)
    (session : AbsenceProofSession) (answer : Answer) (clock : Clock) : System :=
  let σ := σ.observeBody answer (.searched turn.terms.transaction.val session.nextToken)
  match searchTransactionPage turn.terms.transaction.val answer with
  | .error e => σ.reconciled loop turn.watch (.error e)
  | .ok page =>
      let coverage := session.covered page.currentRound
      match page.transactions.find? fun t => t.transaction == turn.terms.transaction.val with
      | some found => σ.applyConfirmed cfg loop turn found clock
      | none =>
          match page.nextToken with
          | some token =>
              if some token = session.nextToken ∨ token ∈ session.seenTokens then
                (σ.setAbsenceSession turn.watch.id
                  (some { session with coverage := some coverage })).reconciled loop turn.watch
                    (.error (.protocol "Indexer absence-proof pagination repeated or stalled"))
              else
                (σ.setAbsenceSession turn.watch.id
                  (some { session with
                    coverage := some coverage
                    nextToken := some token
                    seenTokens := token :: session.seenTokens })).deferred cfg loop turn.watch clock
                      ⟨.providerEvidenceOnly, true⟩
          | none =>
              let σ := σ.setAbsenceSession turn.watch.id none
              if coverage ≤ turn.terms.lastValid then
                σ.reconciled loop turn.watch
                  (.error (.protocol "Indexer absence proof lacks post-LastValid coverage"))
              else
                (σ.perform (.markSettlementInvalid turn.watch.id.val)).reconciled loop turn.watch
                  (.ok ⟨.progressed, true⟩)

/-! ## The loop -/

/-- The sweep returns or throws: the `finally` of `reconcileSweep`. -/
def finishReconcile (σ : System) (loop : ReconcileLoop) : System :=
  let σ := σ.setReconcileSweep none
  if loop.generation = σ.reconciler.generation then σ.pruneAbsenceProofSessions else σ

/-- The loop goes on with the next watch, or ends. -/
def nextReconcileTurn (cfg : WorkerConfig) (σ : System) (loop : ReconcileLoop) (clock : Clock) :
    System :=
  match loop.waiting with
  | [] => σ.finishReconcile loop
  | watch :: rest =>
      -- `assertSchedulingOpen` throws out of the loop
      if σ.reconciler.shutdownStarted then σ.finishReconcile loop
      else
        σ.reconcileWatch cfg
          { loop with
            waiting := rest
            outcome := { loop.outcome with attempted := loop.outcome.attempted + 1 } } watch clock

/-- What the loop does with a turn that has ended; a `defer` that throws ends the sweep. -/
def settleReconcile (cfg : WorkerConfig) (σ : System) (loop : ReconcileLoop) (watch : WatchRow)
    (result : Except TurnError CustomerTurnOutcome) (clock : Clock) : System :=
  match result with
  | .ok turn => σ.nextReconcileTurn cfg { loop with outcome := loop.outcome.count turn } clock
  | .error .shutdown => σ.finishReconcile loop
  | .error _ =>
      let σ := σ.setAbsenceSession watch.id none
      match (σ.deferWatch cfg watch clock).2 with
      | .error _ => (σ.deferWatch cfg watch clock).1.finishReconcile loop
      | .ok () =>
          (σ.deferWatch cfg watch clock).1.nextReconcileTurn cfg
            { loop with outcome := { loop.outcome with failed := loop.outcome.failed + 1 } } clock

/-- `reconcileOnce`, up to its first `await`; while a sweep runs another one does nothing. -/
def reconcileOnce (cfg : WorkerConfig) (σ : System) (clock : Clock) : System :=
  if σ.reconciler.shutdownStarted then σ
  else if σ.reconciler.sweep.isSome then σ
  else
    let loop : ReconcileLoop :=
      { generation := σ.reconciler.generation, waiting := [], outcome := .zero }
    let σ := σ.pruneAbsenceProofSessions
    match σ.store.listSettlementReconciliationCandidates clock.list with
    | .error _ => σ.finishReconcile loop
    | .ok watches => σ.nextReconcileTurn cfg { loop with waiting := watches } clock

/-- The sweep goes on; `answer` is what its request was answered with, if it sent one. -/
def resumeReconcile (cfg : WorkerConfig) (σ : System) (answer : Answer) (clock : Clock) : System :=
  match σ.reconciler.sweep with
  | none => σ
  | some sweep =>
      match sweep.phase with
      | .serving turn =>
          match turn.point with
          | .lookup => σ.afterLookup cfg sweep.toReconcileLoop turn answer clock
          | .tip => σ.afterTip cfg sweep.toReconcileLoop turn answer clock
          | .search session => σ.afterSearch cfg sweep.toReconcileLoop turn session answer clock
      | .served watch result => σ.settleReconcile cfg sweep.toReconcileLoop watch result clock

/-! ## The after-settle hook -/

/-- A hook starts to wait. -/
@[simps! store poller reconciler turns log] def openHook (σ : System) (hook : SettlementHook) :
    System :=
  { σ with hooks := Function.update σ.hooks σ.nextHook (some hook), nextHook := σ.nextHook + 1 }

/-- A hook is done. -/
@[simps! store poller reconciler turns log] def endHook (σ : System) (k : ℕ) : System :=
  { σ with hooks := Function.update σ.hooks k none }

/-- `onAfterSettle` up to its lookup; a store error or an id that is not canonical ends it. -/
def afterSettle (σ : System) (watchId : JsString) (evidence : SettlementEvidence) : System :=
  let recorded := (σ.store.recordSettlementCandidate watchId evidence).2
  let σ := σ.perform (.recordSettlementCandidate watchId evidence)
  match recorded with
  | .error _ => σ
  | .ok _ =>
      if isCanonicalTransactionId evidence.transaction then
        σ.openHook { watchId := watchId, evidence := evidence }
      else σ

/-- `onAfterSettle` behind its lookup. -/
def resumeHook (σ : System) (k : ℕ) (answer : Answer) (clock : Clock) : System :=
  match σ.hooks k with
  | none => σ
  | some hook =>
      let σ := (σ.endHook k).observeLookup hook.evidence.transaction answer
      match lookupAssetTransfer hook.evidence.transaction .activation answer with
      | .error _ => σ
      | .ok none => σ
      | .ok (some transfer) =>
          match σ.store.getWatch hook.watchId with
          | none => σ
          | some watch =>
              if confirmsSettlement hook.evidence transfer watch then
                σ.perform (.activateWatch clock.record hook.watchId hook.evidence transfer.round)
              else σ.perform (.markSettlementInvalid hook.watchId)

end System

end RoundWatch
