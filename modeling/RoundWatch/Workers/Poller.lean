import RoundWatch.Workers.System

/-!
# The poller

`RoundWatchPoller`, stretch by stretch: each function runs from one `await` to the next
and leaves the sweep at the point it waits at.

* `requestPage`, `scan`, `serviceWatch` — a turn up to its first `await`;
* `closeAtTip`, `closeAtBlock`, `scanTo`, `consumePage` — what follows an answer;
* `settleTurn`, `nextTurn`, `runOnce` — the loop over the candidates;
* `resumePoll` — the stretch that follows when sweep `i` goes on.
-/

namespace RoundWatch

open JsText

/-! ## Turn budgets -/

/-- `MAX_INDEXER_REQUESTS_PER_ACTIVE_WORK_TURN`. -/
def maxActiveRequests : ℕ := 4

/-- `MAX_INDEXER_REQUESTS_PER_RECONCILIATION_WORK_TURN`. -/
def maxReconciliationRequests : ℕ := 3

/-- What `IndexerRequestTurnBudget.run` throws. -/
def turnBudgetError (limit : ℕ) (label : String) : TurnError :=
  .protocol ("RoundWatch " ++ label ++ " exceeded the " ++ toString limit ++
    "-Indexer-request work-turn invariant")

/-- The count `IndexerRequestTurnBudget.run` keeps. -/
def spend (limit : ℕ) (label : String) (used : ℕ) : Except TurnError ℕ :=
  if limit ≤ used then .error (turnBudgetError limit label) else .ok (used + 1)

/-- A store error as a turn throws it. -/
def TurnError.ofStore : StoreError → TurnError
  | .missingRow => .network
  | e => .protocol e.message

/-! ## Failures -/

/-- `ClassifiedPollingFailure`. -/
structure ClassifiedPollingFailure where
  code : String
  status : Option ℤ
  disposition : PollingFailureDisposition
  retryAfterMilliseconds : Option ℤ

/-- `isWatchScopedPermanentIndexerFailure`. -/
def isWatchScopedPermanentIndexerFailure (purpose : IndexerRequestPurpose)
    (code : IndexerHttpErrorCode) : Bool :=
  purpose == .scanPage && code == .zeroAddressSenderUnsupported

/-- `classifyPollingFailure`. -/
def classifyPollingFailure : TurnError → ClassifiedPollingFailure
  | .http status purpose code disposition retryAfter =>
      { code := code.name
        status := some status
        disposition :=
          if disposition = .permanent ∧ isWatchScopedPermanentIndexerFailure purpose code = false
          then .unknown else disposition
        retryAfterMilliseconds := retryAfter }
  | .timeout => ⟨"indexer_timeout", none, .transient, none⟩
  | .network => ⟨"indexer_network_failure", none, .transient, none⟩
  | .protocol _ => ⟨"indexer_protocol_failure", none, .unknown, none⟩
  | .shutdown => ⟨"indexer_protocol_failure", none, .unknown, none⟩

/-- `pollingRetryDelayMilliseconds`. -/
def pollingRetryDelayMilliseconds (cfg : WorkerConfig) (watchId : JsString) (failureNumber : ℕ)
    (retryAfterMilliseconds : Option ℤ) : ℤ :=
  let exponent := min (failureNumber - 1) 12
  let base := min (5000 * 2 ^ exponent) 300000
  let boundedBackoff := min 300000 (max 5000 (cfg.jitter watchId failureNumber base))
  let boundedRetryAfter := retryAfterMilliseconds.elim 0 fun ms => min (max 0 ms) 3600000
  max boundedBackoff boundedRetryAfter

/-- What `persistPollingFailure` hands to the store. -/
def persistedFailure (cfg : WorkerConfig) (clock : Clock) (watch : WatchRow)
    (failure : ClassifiedPollingFailure) : PollingFailure :=
  { code := js failure.code
    status := failure.status
    disposition := failure.disposition
    retryAt :=
      if failure.disposition = .permanent then none
      else some (laterDate clock.retry (pollingRetryDelayMilliseconds cfg watch.id.val
        (max 1 (watch.pollingFailureCount + 1)) failure.retryAfterMilliseconds)) }

/-! ## Sessions -/

/-- `isScanSessionCompatible`. -/
def isScanSessionCompatible (watch : Option WatchRow) (session : ScanSession) : Bool :=
  watch.any fun w =>
    w.state == .active && w.evidenceVersion == 1 &&
      w.scanAfterRound.any (session.minRound == · + 1) && w.expiresAt.isSome &&
      w.closingRound.all (session.maxRound ≤ ·)

namespace System

/-- `pruneScanSessions`. -/
@[simps! store reconciler hooks nextHook turns log] def pruneScanSessions (σ : System) : System :=
  { σ with poller := { σ.poller with
      sessions := fun id => (σ.poller.sessions id).filter fun ref =>
        isScanSessionCompatible (σ.store.getWatch id.val) (σ.poller.objects ref) } }

/-- Drops the session of a watch unless it fits the row. -/
def retainSession (σ : System) (id : SqlText) (watch : Option WatchRow) : System :=
  match σ.poller.sessions id with
  | some ref =>
      if isScanSessionCompatible watch (σ.poller.objects ref) then σ else σ.forgetSession id
  | none => σ

/-- The session that is kept is the one there was, and it fits the row. -/
theorem sessions_retainSession {σ : System} {id : SqlText} {watch : Option WatchRow} {ref : ℕ} :
    (σ.retainSession id watch).poller.sessions id = some ref ↔
      σ.poller.sessions id = some ref ∧
        isScanSessionCompatible watch (σ.poller.objects ref) = true := by
  cases hold : σ.poller.sessions id with
  | none => simp [retainSession, hold]
  | some old =>
      cases hfit : isScanSessionCompatible watch (σ.poller.objects old) with
      | true =>
          simp only [retainSession, hold, hfit, if_true, Option.some.injEq]
          exact ⟨fun h => ⟨h, h ▸ hfit⟩, And.left⟩
      | false =>
          simp only [retainSession, hold, hfit, Bool.false_eq_true, if_false, Option.some.injEq]
          constructor
          · simp [forgetSession]
          · rintro ⟨rfl, hcompatible⟩
            rw [hfit] at hcompatible
            cases hcompatible

@[simp] theorem log_retainSession (σ : System) (id : SqlText) (watch : Option WatchRow) :
    (σ.retainSession id watch).log = σ.log := by
  unfold retainSession
  split
  · split <;> rfl
  · rfl

@[simp] theorem sweeps_retainSession (σ : System) (id : SqlText) (watch : Option WatchRow) :
    (σ.retainSession id watch).poller.sweeps = σ.poller.sweeps := by
  unfold retainSession
  split
  · split <;> rfl
  · rfl

/-! ## A turn, up to an `await` -/

/-- The turn of a watch ends. -/
def served (σ : System) (i : ℕ) (sweep : Sweep) (watch : WatchRow)
    (result : Except TurnError CustomerTurnOutcome) : System :=
  σ.setSweep i { sweep with phase := .served watch result }

/-- The turn waits. -/
def awaitAt (σ : System) (i : ℕ) (sweep : Sweep) (turn : PollTurn) : System :=
  σ.setSweep i { sweep with phase := .serving turn }

/-- `assertAcquisitionOpen`, then a request. -/
def sendRequest (σ : System) (i : ℕ) (sweep : Sweep) (turn : PollTurn) : System :=
  if σ.poller.schedulingStopped then σ.served i sweep turn.initial (.error .shutdown)
  else (σ.observe (.requested turn.number turn.initial.id)).awaitAt i sweep turn

/-- `requestBudget.run`. -/
def withRequest (σ : System) (i : ℕ) (sweep : Sweep) (turn : PollTurn)
    (operation : PollTurn → System) : System :=
  match spend maxActiveRequests "active polling turn" turn.used with
  | .error e => (σ.observe (.overspent turn.number)).served i sweep turn.initial (.error e)
  | .ok used => operation { turn with used := used }

/-- `getSweepPage` for the next page of a session object. -/
def requestPage (cfg : WorkerConfig) (σ : System) (i : ℕ) (sweep : Sweep) (turn : PollTurn)
    (ref : ℕ) : System :=
  σ.withRequest i sweep turn fun turn =>
    let session := σ.poller.objects ref
    match buildWatchSearchUrl cfg.scanQueryVariant turn.watch.row.terms session.minRound
        session.maxRound session.nextToken with
    | .error e => σ.served i sweep turn.initial (.error (.protocol e))
    | .ok query =>
        match (σ.poller.cache.get query).2 with
        | some page =>
            (σ.setCache (σ.poller.cache.get query).1).awaitAt i sweep
              { turn with point := .page ref query (some (.ok page, false)) }
        | none =>
            match sweep.sharedPages.find? fun shared => shared.1 == query with
            | some shared =>
                σ.awaitAt i sweep { turn with point := .page ref query (some (shared.2, true)) }
            | none => σ.sendRequest i sweep { turn with point := .page ref query none }

/-- `getSweepTip`. -/
def requestTip (σ : System) (i : ℕ) (sweep : Sweep) (turn : PollTurn) : System :=
  σ.withRequest i sweep turn fun turn =>
    match sweep.sharedTip with
    | some tip => σ.awaitAt i sweep { turn with point := .sweepTip (some tip) }
    | none => σ.sendRequest i sweep { turn with point := .sweepTip none }

/-- `serviceWatch` behind the closing checkpoint: a watch that is scanned through its
closing round expires, any other goes on with its session or opens one. -/
def scan (cfg : WorkerConfig) (σ : System) (i : ℕ) (sweep : Sweep) (turn : PollTurn) : System :=
  match turn.watch.row.closingRound.filter (· ≤ turn.watch.scanAfterRound) with
  | some closingRound =>
      (σ.perform (.markExpired turn.watch.row.id.val turn.watch.scanAfterRound closingRound)).served
        i sweep turn.initial (.ok .nothing)
  | none =>
      let σ := σ.retainSession turn.watch.row.id (some turn.watch.row)
      match σ.poller.sessions turn.watch.row.id with
      | some ref => σ.requestPage cfg i sweep turn ref
      | none => σ.requestTip i sweep turn

/-- `serviceWatch` behind a successful claim. -/
def serveClaimed (cfg : WorkerConfig) (σ : System) (i : ℕ) (sweep : Sweep) (number : ℕ)
    (initial : WatchRow) (watch : ScanWatch) (clock : Clock) : System :=
  let turn : PollTurn :=
    { number := number, initial := initial, watch := watch, used := 0, point := .checkpointTip }
  if initial.closingRound.isNone ∧ validDate clock.closing ∧ watch.expiresAt ≤ clock.closing then
    σ.withRequest i sweep turn fun turn => σ.sendRequest i sweep turn
  else σ.scan cfg i sweep turn

/-- `serviceWatch`, up to its first `await`. -/
def serviceWatch (cfg : WorkerConfig) (σ : System) (i : ℕ) (sweep : Sweep) (initial : WatchRow)
    (clock : Clock) : System :=
  match ScanWatch.of? initial with
  | none => σ.served i sweep initial (.ok .nothing)
  | some watch =>
      if initial.evidenceVersion ≠ 1 then σ.served i sweep initial (.ok .nothing)
      else
        let claim := WorkClaim.polling watch.scanAfterRound initial.closingRound
          initial.pollingFailureCount
        let number := σ.turns
        let result := (σ.store.claimWorkUnit clock.claim initial.id.val claim).2
        let σ := σ.claimUnit .polling clock.claim initial.id claim
        match result with
        | .error e => σ.served i sweep initial (.error (.ofStore e))
        | .ok .exhausted =>
            (σ.forgetSession initial.id).served i sweep initial (.ok .nothing)
        | .ok .inactive =>
            (σ.retainSession initial.id (σ.store.getWatch initial.id.val)).served i sweep initial
              (.ok .nothing)
        | .ok .claimed => σ.serveClaimed cfg i sweep number initial watch clock

/-! ## Behind an answer -/

/-- Notes the body of an answer, if it has one. -/
def observeBody (σ : System) (answer : Answer) (observation : Json → Observation) : System :=
  match answer with
  | .body body => σ.observe (observation body)
  | _ => σ

@[simp] theorem store_observeBody (σ : System) (answer : Answer)
    (observation : Json → Observation) : (σ.observeBody answer observation).store = σ.store := by
  unfold observeBody
  split <;> rfl

@[simp] theorem poller_observeBody (σ : System) (answer : Answer)
    (observation : Json → Observation) :
    (σ.observeBody answer observation).poller = σ.poller := by
  unfold observeBody
  split <;> rfl

/-- The checkpoint has its tip. -/
def closeAtTip (σ : System) (i : ℕ) (sweep : Sweep) (turn : PollTurn) (answer : Answer) : System :=
  match getCurrentRound .checkpoint answer with
  | .error e => σ.served i sweep turn.initial (.error e)
  | .ok tip =>
      σ.withRequest i sweep turn fun turn =>
        σ.sendRequest i sweep { turn with point := .checkpointBlock tip }

/-- The checkpoint has its block.  The row is read again when it was closed; a row that
is gone, or has lost its cursor, would be a `TypeError`. -/
def closeAtBlock (cfg : WorkerConfig) (σ : System) (i : ℕ) (sweep : Sweep) (turn : PollTurn)
    (tip : ℤ) (answer : Answer) : System :=
  let σ := σ.observeBody answer (.checkpointed tip)
  match getBlock tip answer with
  | .error e => σ.served i sweep turn.initial (.error e)
  | .ok block =>
      if turn.watch.expiresAt ≤ block.timestamp * 1000 then
        let σ := σ.perform (.setClosingRound turn.watch.row.id.val block.round)
        match (σ.store.getWatch turn.watch.row.id.val).bind ScanWatch.of? with
        | some watch => σ.scan cfg i sweep { turn with watch := watch }
        | none => σ.served i sweep turn.initial (.error .network)
      else σ.scan cfg i sweep turn

/-- `Number.MAX_SAFE_INTEGER` where a row has no closing round. -/
def upperRound (cfg : WorkerConfig) (watch : ScanWatch) (tip : ℤ) : ℤ :=
  min (min (watch.scanAfterRound + cfg.roundWindow) tip)
    (watch.row.closingRound.getD Json.maxSafeInteger)

/-- The sweep has its tip: a session object for the next window. -/
def scanTo (cfg : WorkerConfig) (σ : System) (i : ℕ) (sweep : Sweep) (turn : PollTurn)
    (tip : Except TurnError ℤ) : System :=
  match tip with
  | .error e => σ.served i sweep turn.initial (.error e)
  | .ok tip =>
      let maxRound := upperRound cfg turn.watch tip
      if maxRound ≤ turn.watch.scanAfterRound then σ.served i sweep turn.initial (.ok .nothing)
      else
        (σ.openSession
          { watchId := turn.watch.row.id
            minRound := turn.watch.scanAfterRound + 1
            maxRound := maxRound
            nextToken := none
            seenTokens := [] }).requestPage cfg i sweep turn σ.poller.nextObject

/-- The last page of a window: the cursor moves, and a watch scanned through its closing
round expires. -/
def finishWindow (σ : System) (i : ℕ) (sweep : Sweep) (turn : PollTurn) (maxRound : ℤ)
    (fresh : Bool) : System :=
  let id := turn.watch.row.id
  let advanced := (σ.store.advanceScanRound id.val turn.watch.scanAfterRound maxRound).2
  let σ := (σ.perform (.advanceScanRound id.val turn.watch.scanAfterRound maxRound)).forgetSession id
  if advanced = false then
    σ.served i sweep turn.initial
      (.ok (if fresh then ⟨.providerEvidenceOnly, true⟩ else .nothing))
  else
    let σ := match σ.store.getWatch id.val with
      | some updated =>
          match updated.closingRound, updated.scanAfterRound with
          | some closingRound, some scanAfterRound =>
              if scanAfterRound = closingRound then
                σ.perform (.markExpired updated.id.val scanAfterRound closingRound)
              else σ
          | _, _ => σ
      | none => σ
    σ.served i sweep turn.initial (.ok ⟨.progressed, fresh⟩)

/-- `serviceWatch` behind its page. -/
def consumePage (σ : System) (i : ℕ) (sweep : Sweep) (turn : PollTurn) (ref : ℕ)
    (result : Except TurnError TransactionPage) (fresh : Bool) : System :=
  match result with
  | .error e => σ.served i sweep turn.initial (.error e)
  | .ok page =>
      let session := σ.poller.objects ref
      let found := page.transactions.find? fun t => matchesWatch t turn.watch.row.terms
      if page.currentRound < session.maxRound then
        σ.served i sweep turn.initial (.error (.protocol ("Indexer coverage " ++
          toString page.currentRound ++ " is below requested round " ++ toString session.maxRound)))
      else
        match found with
        | some found =>
            ((σ.perform (.markMatched turn.watch.row.id.val found.transaction
              found.round)).forgetSession turn.watch.row.id).served i sweep turn.initial
                (.ok ⟨.progressed, fresh⟩)
        | none =>
            match page.nextToken with
            | some token =>
                if some token = session.nextToken ∨ token ∈ session.seenTokens then
                  σ.served i sweep turn.initial
                    (.error (.protocol "Indexer pagination continuation repeated or stalled"))
                else
                  (σ.continueSession ref token).served i sweep turn.initial
                    (.ok (if fresh then ⟨.providerEvidenceOnly, true⟩ else .nothing))
            | none => σ.finishWindow i sweep turn session.maxRound fresh

/-- A page that arrives is shared within the sweep and, when it covers its window, kept
for later ones. -/
def receivePage (cfg : WorkerConfig) (σ : System) (i : ℕ) (sweep : Sweep) (turn : PollTurn)
    (ref : ℕ) (query : ScanQuery) (answer : Answer) : System :=
  let result := searchWatchPage cfg.scanQueryVariant turn.watch.row.terms query answer
  let σ := σ.observeBody answer (.scanned turn.watch.row.terms query)
  let σ := match result with
    | .ok page =>
        if query.maxRound ≤ page.currentRound then
          σ.setCache (σ.poller.cache.store cfg.historicalPageCacheEntries
            cfg.historicalPageCacheByteBudget query page)
        else σ
    | .error _ => σ
  σ.consumePage i { sweep with sharedPages := (query, result) :: sweep.sharedPages } turn ref
    result true

/-! ## The loop -/

/-- The loop goes on with the next watch, or ends. -/
def nextTurn (cfg : WorkerConfig) (σ : System) (i : ℕ) (sweep : Sweep) (clock : Clock) : System :=
  match sweep.waiting with
  | [] => σ.setSweep i { sweep with phase := .swept }
  | watch :: rest =>
      -- `assertAcquisitionOpen` throws out of the loop
      if σ.poller.schedulingStopped then σ.setSweep i { sweep with phase := .swept }
      else
        σ.serviceWatch cfg i
          { sweep with
            waiting := rest
            outcome := { sweep.outcome with attempted := sweep.outcome.attempted + 1 } } watch clock

/-- The `catch` of the loop: the failure is persisted, and a store error ends the sweep. -/
def failTurn (cfg : WorkerConfig) (σ : System) (i : ℕ) (sweep : Sweep) (watch : WatchRow)
    (e : TurnError) (clock : Clock) : System :=
  let failure := persistedFailure cfg clock watch (classifyPollingFailure e)
  let recorded := (σ.store.recordPollingFailure clock.record watch.id.val failure).2
  let σ := ((σ.forgetSession watch.id).setCache .empty).perform
    (.recordPollingFailure clock.record watch.id.val failure)
  match recorded with
  | .error _ => σ.setSweep i { sweep with phase := .swept }
  | .ok persisted =>
      σ.nextTurn cfg i
        { sweep with outcome :=
          { sweep.outcome with
            failed := sweep.outcome.failed + 1
            isolatedFailures := sweep.outcome.isolatedFailures +
              if persisted.any (·.state == .indeterminate) then 1 else 0 } } clock

/-- What the loop does with a turn that has ended. -/
def settleTurn (cfg : WorkerConfig) (σ : System) (i : ℕ) (sweep : Sweep) (watch : WatchRow)
    (result : Except TurnError CustomerTurnOutcome) (clock : Clock) : System :=
  match result with
  | .ok turn =>
      let σ := if turn.kind = .noOp then σ else σ.perform (.clearPollingFailure watch.id.val)
      σ.nextTurn cfg i { sweep with outcome := sweep.outcome.count turn } clock
  | .error .shutdown => σ.setSweep i { sweep with phase := .swept }
  | .error e => σ.failTurn cfg i sweep watch e clock

/-- The sweep returns. -/
def finishSweep (σ : System) (i : ℕ) (sweep : Sweep) : System :=
  (if sweep.generation = σ.poller.generation then σ.pruneScanSessions else σ).endSweep i

/-- The candidates, rotated. -/
def rotated (start : ℕ) (watches : List WatchRow) : List WatchRow :=
  watches.drop (start % watches.length) ++ watches.take (start % watches.length)

theorem perm_rotated (start : ℕ) (watches : List WatchRow) :
    (rotated start watches).Perm watches := by
  unfold rotated
  refine List.perm_append_comm.trans ?_
  rw [List.take_append_drop]

/-- A sweep takes its number. -/
@[simps! store reconciler hooks nextHook turns log] def openSweep (σ : System)
    (nextWatchIndex : ℕ) : System :=
  { σ with poller := { σ.poller with
      nextWatchIndex := nextWatchIndex, nextSweep := σ.poller.nextSweep + 1 } }

/-- The candidate the next sweep starts with. -/
def rotateIndex (index : ℕ) (watches : List WatchRow) : ℕ :=
  if watches.length = 0 then 0 else (index % watches.length + 1) % watches.length

/-- `runOnce`, up to its first `await`. -/
def runOnce (cfg : WorkerConfig) (σ : System) (clock : Clock) : System :=
  if σ.poller.schedulingStopped then σ
  else
    let σ := σ.pruneScanSessions
    let i := σ.poller.nextSweep
    let index := σ.poller.nextWatchIndex
    let sweep : Sweep :=
      { generation := σ.poller.generation, sharedTip := none, sharedPages := [], waiting := [],
        outcome := .zero, phase := .swept }
    match σ.store.listPollingCandidates clock.list with
    | .error _ => (σ.openSweep index).setSweep i sweep
    | .ok watches =>
        (σ.openSweep (rotateIndex index watches)).nextTurn cfg i
          { sweep with waiting := rotated index watches } clock

/-- Sweep `i` goes on; `answer` is what its request was answered with, if it sent one. -/
def resumePoll (cfg : WorkerConfig) (σ : System) (i : ℕ) (answer : Answer) (clock : Clock) :
    System :=
  match σ.poller.sweeps i with
  | none => σ
  | some sweep =>
      match sweep.phase with
      | .serving turn =>
          match turn.point with
          | .checkpointTip => σ.closeAtTip i sweep turn answer
          | .checkpointBlock tip => σ.closeAtBlock cfg i sweep turn tip answer
          | .sweepTip (some tip) => σ.scanTo cfg i sweep turn tip
          | .sweepTip none =>
              let tip := getCurrentRound .health answer
              σ.scanTo cfg i { sweep with sharedTip := some tip } turn tip
          | .page ref _ (some (result, fresh)) => σ.consumePage i sweep turn ref result fresh
          | .page ref query none => σ.receivePage cfg i sweep turn ref query answer
      | .served watch result => σ.settleTurn cfg i sweep watch result clock
      | .swept => σ.finishSweep i sweep

end System

end RoundWatch
