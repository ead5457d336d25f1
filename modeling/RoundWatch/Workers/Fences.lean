import RoundWatch.Workers.Apart
import RoundWatch.Workers.Elsewhere

/-!
# Behind the fence of a worker

A stretch of a worker whose `stopScheduling` has been called claims no work unit and sends
no request: `assertAcquisitionOpen` and `assertSchedulingOpen` stand in front of each of
them, and what is left of a sweep only takes note of answers.

* `KeepsFence` — the fence of a worker is where it was, and behind it nothing is acquired;
* `fenced_runOnce`, `fenced_resumePoll`, `fenced_reconcileOnce`, `fenced_resumeReconcile` —
  the stretches of the two workers are of this kind;
* `System.quiet_behind_fence` — whole runs.
-/

namespace RoundWatch

open JsText

/-- A claim of a work unit or a request. -/
def Observation.isAcquisition : Observation → Bool
  | .claimed .. => true
  | .exhausted _ => true
  | .requested .. => true
  | _ => false

/-- What the workers have acquired. -/
def acquisitions (log : List Observation) : List Observation :=
  log.filter Observation.isAcquisition

/-- The terminal fence of a worker. -/
def System.fence (σ : System) : WorkerKind → Bool
  | .polling => σ.poller.schedulingStopped
  | .reconciliation => σ.reconciler.shutdownStarted

/-- The fence stays, and behind it nothing is acquired. -/
structure KeepsFence (kind : WorkerKind) (σ σ' : System) : Prop where
  fence : σ'.fence kind = σ.fence kind
  quiet : σ.fence kind = true → acquisitions σ'.log = acquisitions σ.log

variable {kind : WorkerKind} {cfg : WorkerConfig} {σ σ' σ'' : System} {i : ℕ} {sweep : Sweep}
  {turn : PollTurn}

namespace KeepsFence

theorem of_same (hfence : σ'.fence kind = σ.fence kind) (hlog : σ'.log = σ.log) :
    KeepsFence kind σ σ' :=
  ⟨hfence, fun _ => by rw [hlog]⟩

/-- In front of the fence anything can be acquired. -/
theorem of_open (hopen : σ.fence kind = false) (hfence : σ'.fence kind = σ.fence kind) :
    KeepsFence kind σ σ' :=
  ⟨hfence, fun hclosed => by
    rw [hopen] at hclosed
    cases hclosed⟩

theorem refl (σ : System) : KeepsFence kind σ σ := .of_same rfl rfl

theorem trans (h : KeepsFence kind σ σ') (h' : KeepsFence kind σ' σ'') : KeepsFence kind σ σ'' :=
  ⟨h'.fence.trans h.fence, fun hclosed =>
    (h'.quiet (h.fence.trans hclosed)).trans (h.quiet hclosed)⟩

theorem observe (h : KeepsFence kind σ σ') {o : Observation} (ho : o.isAcquisition = false) :
    KeepsFence kind σ (σ'.observe o) := by
  refine h.trans ⟨by cases kind <;> rfl, fun _ => ?_⟩
  simp [acquisitions, System.observe, ho]

theorem perform (h : KeepsFence kind σ σ') (op : StoreOp) : KeepsFence kind σ (σ'.perform op) :=
  h.trans (.of_same (by cases kind <;> rfl) rfl)

/-! ## The poller -/

theorem setSweep (h : KeepsFence kind σ σ') (i : ℕ) (sweep : Sweep) :
    KeepsFence kind σ (σ'.setSweep i sweep) :=
  h.trans (.of_same (by cases kind <;> rfl) rfl)

theorem forgetSession (h : KeepsFence kind σ σ') (id : SqlText) :
    KeepsFence kind σ (σ'.forgetSession id) :=
  h.trans (.of_same (by cases kind <;> rfl) rfl)

theorem setCache (h : KeepsFence kind σ σ') (cache : HistoricalPageCache) :
    KeepsFence kind σ (σ'.setCache cache) :=
  h.trans (.of_same (by cases kind <;> rfl) rfl)

theorem openSession (h : KeepsFence kind σ σ') (session : ScanSession) :
    KeepsFence kind σ (σ'.openSession session) :=
  h.trans (.of_same (by cases kind <;> rfl) rfl)

theorem continueSession (h : KeepsFence kind σ σ') (ref : ℕ) (token : JsString) :
    KeepsFence kind σ (σ'.continueSession ref token) :=
  h.trans (.of_same (by cases kind <;> rfl) rfl)

theorem retainSession (h : KeepsFence kind σ σ') (id : SqlText) (watch : Option WatchRow) :
    KeepsFence kind σ (σ'.retainSession id watch) := by
  unfold System.retainSession
  split
  · split
    · exact h
    · exact h.forgetSession id
  · exact h

theorem observeBody (h : KeepsFence kind σ σ') (answer : Answer) {observation : Json → Observation}
    (ho : ∀ body, (observation body).isAcquisition = false) :
    KeepsFence kind σ (σ'.observeBody answer observation) := by
  unfold System.observeBody
  split
  · exact h.observe (ho _)
  · exact h

/-- **The fence of the poller stands in front of its requests.** -/
theorem sendRequest (h : KeepsFence .polling σ σ') :
    KeepsFence .polling σ (σ'.sendRequest i sweep turn) := by
  unfold System.sendRequest
  split
  · exact h.setSweep _ _
  · rename_i hopen
    exact h.trans (.of_open (by simpa [System.fence] using hopen) rfl)

theorem withRequest (h : KeepsFence .polling σ σ') {operation : PollTurn → System}
    (hop : ∀ turn, KeepsFence .polling σ (operation turn)) :
    KeepsFence .polling σ (σ'.withRequest i sweep turn operation) := by
  unfold System.withRequest
  split
  · exact (h.observe rfl).setSweep _ _
  · exact hop _

theorem requestPage (h : KeepsFence .polling σ σ') (ref : ℕ) :
    KeepsFence .polling σ (σ'.requestPage cfg i sweep turn ref) := by
  refine h.withRequest fun turn => ?_
  dsimp only
  split
  · exact h.setSweep _ _
  · split
    · exact (h.setCache _).setSweep _ _
    · split
      · exact h.setSweep _ _
      · exact h.sendRequest

theorem requestTip (h : KeepsFence .polling σ σ') :
    KeepsFence .polling σ (σ'.requestTip i sweep turn) := by
  refine h.withRequest fun turn => ?_
  split
  · exact h.setSweep _ _
  · exact h.sendRequest

theorem scan (h : KeepsFence .polling σ σ') : KeepsFence .polling σ (σ'.scan cfg i sweep turn) := by
  unfold System.scan
  split
  · exact (h.perform _).setSweep _ _
  · dsimp only
    split
    · exact (h.retainSession _ _).requestPage _
    · exact (h.retainSession _ _).requestTip

/-- A claim leaves the fence where it is. -/
theorem claimUnit (hopen : σ.fence kind = false) (claimant : WorkerKind) (now : ℤ) (id : SqlText)
    (claim : WorkClaim) : KeepsFence kind σ (σ.claimUnit claimant now id claim) := by
  refine .of_open hopen ?_
  unfold System.claimUnit
  split
  · cases kind <;> rfl
  · cases kind <;> rfl
  · cases kind <;> rfl

theorem serviceWatch (hopen : σ.fence .polling = false) (initial : WatchRow) (clock : Clock) :
    KeepsFence .polling σ (σ.serviceWatch cfg i sweep initial clock) := by
  have h : KeepsFence .polling σ σ := .refl σ
  unfold System.serviceWatch
  split
  · exact h.setSweep _ _
  · split
    · exact h.setSweep _ _
    · rename_i watch _ _
      have hclaimed := claimUnit hopen .polling clock.claim initial.id
        (.polling watch.scanAfterRound initial.closingRound initial.pollingFailureCount)
      dsimp only
      split
      · exact hclaimed.setSweep _ _
      · exact (hclaimed.forgetSession _).setSweep _ _
      · exact (hclaimed.retainSession _ _).setSweep _ _
      · unfold System.serveClaimed
        dsimp only
        split
        · exact hclaimed.withRequest fun turn => hclaimed.sendRequest
        · exact hclaimed.scan

theorem closeAtTip (h : KeepsFence .polling σ σ') (answer : Answer) :
    KeepsFence .polling σ (σ'.closeAtTip i sweep turn answer) := by
  unfold System.closeAtTip
  split
  · exact h.setSweep _ _
  · exact h.withRequest fun turn => h.sendRequest

theorem closeAtBlock (h : KeepsFence .polling σ σ') (tip : ℤ) (answer : Answer) :
    KeepsFence .polling σ (σ'.closeAtBlock cfg i sweep turn tip answer) := by
  have hseen : KeepsFence .polling σ (σ'.observeBody answer (.checkpointed tip)) :=
    h.observeBody answer fun _ => rfl
  unfold System.closeAtBlock
  dsimp only
  split
  · exact hseen.setSweep _ _
  · split
    · split
      · exact (hseen.perform _).scan
      · exact (hseen.perform _).setSweep _ _
    · exact hseen.scan

theorem scanTo (h : KeepsFence .polling σ σ') (tip : Except TurnError ℤ) :
    KeepsFence .polling σ (σ'.scanTo cfg i sweep turn tip) := by
  unfold System.scanTo
  split
  · exact h.setSweep _ _
  · dsimp only
    split
    · exact h.setSweep _ _
    · exact (h.openSession _).requestPage _

theorem finishWindow (h : KeepsFence .polling σ σ') (maxRound : ℤ) (fresh : Bool) :
    KeepsFence .polling σ (σ'.finishWindow i sweep turn maxRound fresh) := by
  have hadvanced := (h.perform (.advanceScanRound turn.watch.row.id.val
    turn.watch.scanAfterRound maxRound)).forgetSession turn.watch.row.id
  unfold System.finishWindow
  dsimp only
  split
  · exact hadvanced.setSweep _ _
  · split
    · split
      · split
        · exact (hadvanced.perform _).setSweep _ _
        · exact hadvanced.setSweep _ _
      · exact hadvanced.setSweep _ _
    · exact hadvanced.setSweep _ _

theorem consumePage (h : KeepsFence .polling σ σ') (ref : ℕ)
    (result : Except TurnError TransactionPage) (fresh : Bool) :
    KeepsFence .polling σ (σ'.consumePage i sweep turn ref result fresh) := by
  unfold System.consumePage
  split
  · exact h.setSweep _ _
  · dsimp only
    split
    · exact h.setSweep _ _
    · split
      · exact ((h.perform _).forgetSession _).setSweep _ _
      · split
        · split
          · exact h.setSweep _ _
          · exact (h.continueSession _ _).setSweep _ _
        · exact h.finishWindow _ _

theorem receivePage (h : KeepsFence .polling σ σ') (ref : ℕ) (query : ScanQuery) (answer : Answer) :
    KeepsFence .polling σ (σ'.receivePage cfg i sweep turn ref query answer) := by
  have hseen : KeepsFence .polling σ
      (σ'.observeBody answer (.scanned turn.watch.row.terms query)) :=
    h.observeBody answer fun _ => rfl
  unfold System.receivePage
  dsimp only
  split
  · split
    · exact (hseen.setCache _).consumePage _ _ _
    · exact hseen.consumePage _ _ _
  · exact hseen.consumePage _ _ _

/-- The fence of the poller stands in front of its turns. -/
theorem nextTurn (h : KeepsFence .polling σ σ') (clock : Clock) :
    KeepsFence .polling σ (σ'.nextTurn cfg i sweep clock) := by
  unfold System.nextTurn
  split
  · exact h.setSweep _ _
  · split
    · exact h.setSweep _ _
    · rename_i hopen
      exact h.trans (serviceWatch (by simpa [System.fence] using hopen) _ _)

theorem settleTurn (h : KeepsFence .polling σ σ') (watch : WatchRow)
    (result : Except TurnError CustomerTurnOutcome) (clock : Clock) :
    KeepsFence .polling σ (σ'.settleTurn cfg i sweep watch result clock) := by
  unfold System.settleTurn
  split
  · dsimp only
    split
    · exact h.nextTurn _
    · exact (h.perform _).nextTurn _
  · exact h.setSweep _ _
  · rename_i e _
    have hfailed := ((h.forgetSession watch.id).setCache .empty).perform
      (.recordPollingFailure clock.record watch.id.val
        (persistedFailure cfg clock watch (classifyPollingFailure e)))
    unfold System.failTurn
    dsimp only
    split
    · exact hfailed.setSweep _ _
    · exact hfailed.nextTurn _

end KeepsFence

namespace KeepsFence

theorem reconciled (h : KeepsFence kind σ σ') (loop : ReconcileLoop) (watch : WatchRow)
    (result : Except TurnError CustomerTurnOutcome) :
    KeepsFence kind σ (σ'.reconciled loop watch result) :=
  h.trans (.of_same (by cases kind <;> rfl) rfl)

theorem setAbsenceSession (h : KeepsFence kind σ σ') (id : SqlText)
    (session : Option AbsenceProofSession) : KeepsFence kind σ (σ'.setAbsenceSession id session) :=
  h.trans (.of_same (by cases kind <;> rfl) rfl)

theorem retainAbsenceSession (h : KeepsFence kind σ σ') (id : SqlText) (watch : Option WatchRow) :
    KeepsFence kind σ (σ'.retainAbsenceSession id watch) := by
  unfold System.retainAbsenceSession
  split
  · split
    · exact h
    · exact h.setAbsenceSession _ _
  · exact h

theorem deferred (h : KeepsFence kind σ σ') (loop : ReconcileLoop) (watch : WatchRow)
    (clock : Clock) (outcome : CustomerTurnOutcome) :
    KeepsFence kind σ (σ'.deferred cfg loop watch clock outcome) :=
  (h.perform _).reconciled _ _ _

/-- **The fence of the reconciler stands in front of its requests.** -/
theorem requestReconcile (h : KeepsFence .reconciliation σ σ') (loop : ReconcileLoop)
    (turn : ReconcileTurn) (canonical : Bool) :
    KeepsFence .reconciliation σ (σ'.requestReconcile loop turn canonical) := by
  unfold System.requestReconcile
  split
  · exact h.reconciled _ _ _
  · rename_i hopen
    split
    · exact (h.observe rfl).reconciled _ _ _
    · split
      · exact h.trans (.of_open (by simpa [System.fence] using hopen) rfl)
      · exact h.reconciled _ _ _

theorem reconcileWatch (hopen : σ.fence .reconciliation = false) (loop : ReconcileLoop)
    (watch : WatchRow) (clock : Clock) :
    KeepsFence .reconciliation σ (σ.reconcileWatch cfg loop watch clock) := by
  have h : KeepsFence .reconciliation σ σ := .refl σ
  unfold System.reconcileWatch
  split
  · exact h.reconciled _ _ _
  · rename_i transaction _
    have hclaimed := claimUnit hopen .reconciliation clock.claim watch.id
      (.reconciliation transaction.val watch.reconciliationAttempts)
    dsimp only
    split
    · exact hclaimed.reconciled _ _ _
    · exact (hclaimed.setAbsenceSession _ _).reconciled _ _ _
    · exact (hclaimed.retainAbsenceSession _ _).reconciled _ _ _
    · unfold System.reconcileClaimed
      split
      · exact hclaimed.deferred _ _ _ _
      · dsimp only
        split
        · exact (hclaimed.retainAbsenceSession _ _).requestReconcile _ _ _
        · exact (hclaimed.retainAbsenceSession _ _).requestReconcile _ _ _

theorem applyConfirmed (h : KeepsFence .reconciliation σ σ') (loop : ReconcileLoop)
    (turn : ReconcileTurn) (transfer : IndexedAssetTransfer) (clock : Clock) :
    KeepsFence .reconciliation σ (σ'.applyConfirmed cfg loop turn transfer clock) := by
  unfold System.applyConfirmed
  dsimp only
  split
  · exact ((h.setAbsenceSession _ _).perform _).reconciled _ _ _
  · exact ((h.setAbsenceSession _ _).perform _).reconciled _ _ _

theorem afterLookup (h : KeepsFence .reconciliation σ σ') (loop : ReconcileLoop)
    (turn : ReconcileTurn) (answer : Answer) (clock : Clock) :
    KeepsFence .reconciliation σ (σ'.afterLookup cfg loop turn answer clock) := by
  have hseen : KeepsFence .reconciliation σ
      (σ'.observeLookup turn.terms.transaction.val answer) := by
    unfold System.observeLookup
    split
    · exact h.observe rfl
    · exact h.observe rfl
    · exact h
  unfold System.afterLookup
  dsimp only
  split
  · exact hseen.reconciled _ _ _
  · exact hseen.applyConfirmed _ _ _ _
  · exact hseen.requestReconcile _ _ _

theorem afterTip (h : KeepsFence .reconciliation σ σ') (loop : ReconcileLoop) (turn : ReconcileTurn)
    (answer : Answer) (clock : Clock) :
    KeepsFence .reconciliation σ (σ'.afterTip cfg loop turn answer clock) := by
  unfold System.afterTip
  split
  · exact h.reconciled _ _ _
  · split
    · exact h.deferred _ _ _ _
    · exact (h.setAbsenceSession _ _).requestReconcile _ _ _

theorem afterSearch (h : KeepsFence .reconciliation σ σ') (loop : ReconcileLoop)
    (turn : ReconcileTurn) (session : AbsenceProofSession) (answer : Answer) (clock : Clock) :
    KeepsFence .reconciliation σ (σ'.afterSearch cfg loop turn session answer clock) := by
  have hseen : KeepsFence .reconciliation σ
      (σ'.observeBody answer (.searched turn.terms.transaction.val session.nextToken)) :=
    h.observeBody answer fun _ => rfl
  have hkept := fun s => hseen.setAbsenceSession turn.watch.id s
  unfold System.afterSearch
  dsimp only
  split
  · exact hseen.reconciled _ _ _
  · split
    · exact hseen.applyConfirmed _ _ _ _
    · split
      · split
        · exact (hkept _).reconciled _ _ _
        · exact (hkept _).deferred _ _ _ _
      · split
        · exact (hkept _).reconciled _ _ _
        · exact ((hkept _).perform _).reconciled _ _ _

theorem finishReconcile (h : KeepsFence .reconciliation σ σ') (loop : ReconcileLoop) :
    KeepsFence .reconciliation σ (σ'.finishReconcile loop) := by
  unfold System.finishReconcile
  dsimp only
  split
  · exact h.trans (.of_same rfl rfl)
  · exact h.trans (.of_same rfl rfl)

/-- The fence of the reconciler stands in front of its turns. -/
theorem nextReconcileTurn (h : KeepsFence .reconciliation σ σ') (loop : ReconcileLoop)
    (clock : Clock) : KeepsFence .reconciliation σ (σ'.nextReconcileTurn cfg loop clock) := by
  unfold System.nextReconcileTurn
  split
  · exact h.finishReconcile _
  · split
    · exact h.finishReconcile _
    · rename_i hopen
      exact h.trans (reconcileWatch (by simpa [System.fence] using hopen) _ _ _)

theorem settleReconcile (h : KeepsFence .reconciliation σ σ') (loop : ReconcileLoop)
    (watch : WatchRow) (result : Except TurnError CustomerTurnOutcome) (clock : Clock) :
    KeepsFence .reconciliation σ (σ'.settleReconcile cfg loop watch result clock) := by
  unfold System.settleReconcile
  split
  · exact h.nextReconcileTurn _ _
  · exact h.finishReconcile _
  · have hdeferred := (h.setAbsenceSession watch.id none).perform
      (.recordReconciliationFailure watch.id.val (System.deferTime cfg clock watch))
    dsimp only
    split
    · exact hdeferred.finishReconcile _
    · exact hdeferred.nextReconcileTurn _ _

end KeepsFence

/-- The worker a stretch belongs to. -/
def Event.worker : Event → Option WorkerKind
  | .poll .. => some .polling
  | .resumePoll .. => some .polling
  | .reconcile .. => some .reconciliation
  | .resumeReconcile .. => some .reconciliation
  | _ => none

end RoundWatch
