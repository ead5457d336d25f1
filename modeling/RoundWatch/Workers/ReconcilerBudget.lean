import RoundWatch.Workers.PollerBudget

/-!
# The reconciler and the process keep the work budget

A reconciliation turn asks for the transaction, for the tip and for one page of the absence
proof, each at most once.

* one lemma for each stretch of the reconciler, and for the hooks and the restart;
* `Budgeted.step`, `budgeted_run` — the step and the run.
-/

namespace RoundWatch

open JsText

variable {origin : Store} {cfg : WorkerConfig} {σ σ' : System} {loop : ReconcileLoop} {turn : ReconcileTurn}

/-! ## The ways the reconciler changes -/

theorem Budgeted.setReconcileSweep (h : Budgeted origin σ) {sweep : Option ReconcileSweep}
    (hserving : ReconcileTurnOpen σ.log sweep) : Budgeted origin (σ.setReconcileSweep sweep) :=
  { h with reconciling := hserving }

theorem Budgeted.setAbsenceSession (h : Budgeted origin σ) (id : SqlText)
    (session : Option AbsenceProofSession) : Budgeted origin (σ.setAbsenceSession id session) :=
  h.of_same rfl rfl rfl rfl rfl

theorem Budgeted.pruneAbsenceProofSessions (h : Budgeted origin σ) :
    Budgeted origin σ.pruneAbsenceProofSessions :=
  h.of_same rfl rfl rfl rfl rfl

theorem Budgeted.retainAbsenceSession (h : Budgeted origin σ) (id : SqlText) (watch : Option WatchRow) :
    Budgeted origin (σ.retainAbsenceSession id watch) := by
  unfold System.retainAbsenceSession
  split
  · split
    · exact h
    · exact h.setAbsenceSession id none
  · exact h

theorem Budgeted.reconciled (h : Budgeted origin σ) (loop : ReconcileLoop) (watch : WatchRow)
    (result : Except TurnError CustomerTurnOutcome) : Budgeted origin (σ.reconciled loop watch result) :=
  h.setReconcileSweep fun s turn hs hphase => by
    cases hs
    cases hphase

theorem Budgeted.deferred (h : Budgeted origin σ) (loop : ReconcileLoop) (watch : WatchRow)
    (clock : Clock) (outcome : CustomerTurnOutcome) :
    Budgeted origin (σ.deferred cfg loop watch clock outcome) :=
  Budgeted.reconciled (h.perform rfl) _ _ _

/-! ## A turn -/

theorem ReconcilePoint.spent_le (point : ReconcilePoint) :
    point.spent ≤ maxReconciliationRequests := by
  cases point <;> simp [ReconcilePoint.spent, maxReconciliationRequests]

/-- **A request is counted.** -/
theorem Budgeted.requestReconcile (h : Budgeted origin σ) {turn : ReconcileTurn}
    (hturn : TurnOpen σ.log turn.number .reconciliation turn.watch.id turn.used)
    (hspent : turn.used + 1 ≤ turn.point.spent) (canonical : Bool) :
    Budgeted origin (σ.requestReconcile loop turn canonical) := by
  have hlimit := turn.point.spent_le
  have hspend : spend maxReconciliationRequests "settlement reconciliation turn" turn.used =
      .ok (turn.used + 1) := if_neg (by omega)
  unfold System.requestReconcile
  rw [hspend]
  split
  · exact h.reconciled _ _ _
  · dsimp only
    split
    · refine h.request hturn.claimed (Nat.lt_of_le_of_lt hturn.requests ?_) rfl rfl rfl ?_ ?_
      · show turn.used < maxReconciliationRequests
        omega
      · refine ⟨fun i sweep turn' hsweep hphase => ?_, h.polling.apart⟩
        obtain ⟨hopened, hspent'⟩ := h.polling.turn i sweep turn' hsweep hphase
        exact ⟨hopened.cons_request h.log hturn.claimed (by decide), hspent'⟩
      · intro s turn' hs hphase
        cases hs
        cases hphase
        refine ⟨⟨List.mem_cons_of_mem _ hturn.claimed, ?_⟩, hspent⟩
        have hsent := hturn.requests
        simp only [requestsIn_cons, Observation.isRequestIn, beq_self_eq_true, if_true]
        omega
    · exact h.reconciled _ _ _

theorem Budgeted.requestLookup (h : Budgeted origin σ) {turn : ReconcileTurn}
    (hturn : TurnOpen σ.log turn.number .reconciliation turn.watch.id turn.used)
    (hused : turn.used = 0) : Budgeted origin (σ.requestLookup loop turn) := by
  refine h.requestReconcile ?_ (by simp [ReconcilePoint.spent, hused]) _
  exact hturn

theorem Budgeted.requestSearch (h : Budgeted origin σ) {turn : ReconcileTurn}
    (hturn : TurnOpen σ.log turn.number .reconciliation turn.watch.id turn.used)
    (hused : turn.used ≤ 2) (session : AbsenceProofSession) :
    Budgeted origin (σ.requestSearch loop turn session) := by
  refine h.requestReconcile ?_ (Nat.succ_le_succ hused) _
  exact hturn

theorem Budgeted.reconcileClaimed (h : Budgeted origin σ) {number : ℕ} {watch : WatchRow}
    (hturn : TurnOpen σ.log number .reconciliation watch.id 0) (clock : Clock) :
    Budgeted origin (σ.reconcileClaimed cfg loop number watch clock) := by
  unfold System.reconcileClaimed
  split
  · exact h.deferred _ _ _ _
  · have hkept := h.retainAbsenceSession watch.id (some watch)
    have hlog := σ.log_retainAbsenceSession watch.id (some watch)
    dsimp only
    split
    · refine hkept.requestSearch ?_ (Nat.zero_le _) _
      rw [hlog]
      exact hturn
    · refine hkept.requestLookup ?_ rfl
      rw [hlog]
      exact hturn

theorem Budgeted.reconcileWatch (h : Budgeted origin σ) (loop : ReconcileLoop) (watch : WatchRow)
    (clock : Clock) : Budgeted origin (σ.reconcileWatch cfg loop watch clock) := by
  unfold System.reconcileWatch
  split
  · exact h.reconciled _ _ _
  · rename_i transaction _
    have hclaimed := h.claimUnit .reconciliation clock.claim watch.id
      (.reconciliation transaction.val watch.reconciliationAttempts)
    dsimp only
    split
    · exact hclaimed.reconciled _ _ _
    · exact (hclaimed.setAbsenceSession _ _).reconciled _ _ _
    · exact (hclaimed.retainAbsenceSession _ _).reconciled _ _ _
    · rename_i hresult
      exact hclaimed.reconcileClaimed (h.turnOpen hresult) _

/-! ## Behind an answer -/

theorem Budgeted.observeLookup (h : Budgeted origin σ) (transaction : JsString) (answer : Answer) :
    Budgeted origin (σ.observeLookup transaction answer) := by
  unfold System.observeLookup
  split
  · exact h.observe rfl
  · exact h.observe rfl
  · exact h

/-- What is read from a lookup leaves a turn as it is. -/
theorem TurnOpen.observeLookup {number used : ℕ} {kind : WorkerKind} {id : SqlText}
    (hturn : TurnOpen σ.log number kind id used) (transaction : JsString) (answer : Answer) :
    TurnOpen (σ.observeLookup transaction answer).log number kind id used := by
  unfold System.observeLookup
  split
  · exact hturn.cons rfl
  · exact hturn.cons rfl
  · exact hturn

theorem Budgeted.applyConfirmed (h : Budgeted origin σ) (loop : ReconcileLoop)
    (transfer : IndexedAssetTransfer) (clock : Clock) :
    Budgeted origin (σ.applyConfirmed cfg loop turn transfer clock) := by
  have hdropped := h.setAbsenceSession turn.watch.id none
  unfold System.applyConfirmed
  dsimp only
  split
  · exact Budgeted.reconciled (hdropped.perform rfl) _ _ _
  · exact Budgeted.reconciled (hdropped.perform rfl) _ _ _

theorem Budgeted.afterLookup (h : Budgeted origin σ)
    (hturn : TurnOpen σ.log turn.number .reconciliation turn.watch.id turn.used)
    (hused : turn.used ≤ 1) (answer : Answer) (clock : Clock) :
    Budgeted origin (σ.afterLookup cfg loop turn answer clock) := by
  have hseen := h.observeLookup turn.terms.transaction.val answer
  unfold System.afterLookup
  dsimp only
  split
  · exact hseen.reconciled _ _ _
  · exact hseen.applyConfirmed _ _ _
  · refine hseen.requestReconcile ?_ (Nat.succ_le_succ hused) _
    exact hturn.observeLookup _ _

theorem Budgeted.afterTip (h : Budgeted origin σ)
    (hturn : TurnOpen σ.log turn.number .reconciliation turn.watch.id turn.used)
    (hused : turn.used ≤ 2) (answer : Answer) (clock : Clock) :
    Budgeted origin (σ.afterTip cfg loop turn answer clock) := by
  unfold System.afterTip
  split
  · exact h.reconciled _ _ _
  · split
    · exact h.deferred _ _ _ _
    · refine Budgeted.requestSearch (h.setAbsenceSession _ _) ?_ hused _
      exact hturn

theorem Budgeted.afterSearch (h : Budgeted origin σ) (loop : ReconcileLoop)
    (session : AbsenceProofSession) (answer : Answer) (clock : Clock) :
    Budgeted origin (σ.afterSearch cfg loop turn session answer clock) := by
  have hseen := h.observeBody answer (fun _ => rfl : ∀ body,
    (Observation.searched turn.terms.transaction.val session.nextToken body).metered = false)
  unfold System.afterSearch
  dsimp only
  split
  · exact hseen.reconciled _ _ _
  · split
    · exact hseen.applyConfirmed _ _ _
    · split
      · split
        · exact (hseen.setAbsenceSession _ _).reconciled _ _ _
        · exact (hseen.setAbsenceSession _ _).deferred _ _ _ _
      · have hdropped := hseen.setAbsenceSession turn.watch.id none
        split
        · exact hdropped.reconciled _ _ _
        · exact Budgeted.reconciled (hdropped.perform rfl) _ _ _

/-! ## The loop -/

theorem Budgeted.finishReconcile (h : Budgeted origin σ) (loop : ReconcileLoop) :
    Budgeted origin (σ.finishReconcile loop) := by
  have hended : Budgeted origin (σ.setReconcileSweep none) :=
    h.setReconcileSweep fun _ _ hs _ => by cases hs
  unfold System.finishReconcile
  dsimp only
  split
  · exact hended.pruneAbsenceProofSessions
  · exact hended

theorem Budgeted.nextReconcileTurn (h : Budgeted origin σ) (loop : ReconcileLoop) (clock : Clock) :
    Budgeted origin (σ.nextReconcileTurn cfg loop clock) := by
  unfold System.nextReconcileTurn
  split
  · exact h.finishReconcile _
  · split
    · exact h.finishReconcile _
    · exact h.reconcileWatch _ _ _

theorem Budgeted.settleReconcile (h : Budgeted origin σ) (loop : ReconcileLoop) (watch : WatchRow)
    (result : Except TurnError CustomerTurnOutcome) (clock : Clock) :
    Budgeted origin (σ.settleReconcile cfg loop watch result clock) := by
  unfold System.settleReconcile
  split
  · exact h.nextReconcileTurn _ _
  · exact h.finishReconcile _
  · have hdeferred : Budgeted origin ((σ.setAbsenceSession watch.id none).deferWatch cfg watch clock).1 :=
      Budgeted.perform (h.setAbsenceSession _ _) rfl
    dsimp only
    split
    · exact hdeferred.finishReconcile _
    · exact hdeferred.nextReconcileTurn _ _

theorem Budgeted.reconcileOnce (h : Budgeted origin σ) (clock : Clock) :
    Budgeted origin (σ.reconcileOnce cfg clock) := by
  unfold System.reconcileOnce
  split
  · exact h
  · split
    · exact h
    · dsimp only
      split
      · exact h.pruneAbsenceProofSessions.finishReconcile _
      · exact h.pruneAbsenceProofSessions.nextReconcileTurn _ _

theorem Budgeted.resumeReconcile (h : Budgeted origin σ) (answer : Answer) (clock : Clock) :
    Budgeted origin (σ.resumeReconcile cfg answer clock) := by
  unfold System.resumeReconcile
  split
  · exact h
  · rename_i sweep hsweep
    split
    · rename_i turn hphase
      obtain ⟨hturn, hspent⟩ := h.reconciling sweep turn hsweep hphase
      split
      · rename_i hpoint
        exact h.afterLookup hturn (by simpa [hpoint, ReconcilePoint.spent] using hspent) _ _
      · rename_i hpoint
        exact h.afterTip hturn (by simpa [hpoint, ReconcilePoint.spent] using hspent) _ _
      · exact h.afterSearch _ _ _ _
    · exact h.settleReconcile _ _ _ _

/-! ## Hooks and the restart -/

theorem Budgeted.afterSettle (h : Budgeted origin σ) (watchId : JsString) (evidence : SettlementEvidence) :
    Budgeted origin (σ.afterSettle watchId evidence) := by
  have hrecorded : Budgeted origin (σ.perform (.recordSettlementCandidate watchId evidence)) :=
    h.perform rfl
  unfold System.afterSettle
  dsimp only
  split
  · exact hrecorded
  · split
    · exact hrecorded.of_same rfl rfl rfl rfl rfl
    · exact hrecorded

theorem Budgeted.resumeHook (h : Budgeted origin σ) (k : ℕ) (answer : Answer) (clock : Clock) :
    Budgeted origin (σ.resumeHook k answer clock) := by
  unfold System.resumeHook
  split
  · exact h
  · rename_i hook _
    have hended : Budgeted origin (σ.endHook k) := h.of_same rfl rfl rfl rfl rfl
    have hseen := hended.observeLookup hook.evidence.transaction answer
    dsimp only
    split
    · exact hseen
    · exact hseen
    · split
      · exact hseen
      · split
        · exact hseen.perform rfl
        · exact hseen.perform rfl

/-- No turn survives the process. -/
theorem Budgeted.restart (h : Budgeted origin σ) (config : StoreConfig) : Budgeted origin (σ.restart config) where
  history := h.history_perform (.reopen config)
  rows := (@Budgeted.perform origin σ h (.reopen config) rfl).rows
  known := (@Budgeted.perform origin σ h (.reopen config) rfl).known
  log := h.log
  turns := h.turns
  polling := by
    constructor
    · intro _ _ _ hsweep
      cases hsweep
    · intro _ _ _ _ _ _ hsweep
      cases hsweep
  reconciling := fun _ _ hs => by cases hs

/-! ## Steps and runs -/

theorem StoreOp.charges_of_external {op : StoreOp} (h : op.external = true) :
    op.charges = false := by
  cases op <;> first | rfl | cases h

/-- **What happens next keeps the budget.** -/
theorem Budgeted.step (h : Budgeted origin σ) (e : Event) : Budgeted origin (σ.step cfg e) := by
  cases e with
  | call op => exact h.perform (StoreOp.charges_of_external op.2)
  | poll clock => exact h.runOnce clock
  | resumePoll i answer clock => exact h.resumePoll answer clock
  | turnPoller => exact h.of_same rfl rfl rfl rfl rfl
  | stopPolling =>
      simp only [System.step]
      split
      · exact h
      · exact h.of_same rfl rfl rfl rfl rfl
  | reconcile clock => exact h.reconcileOnce clock
  | resumeReconcile answer clock => exact h.resumeReconcile answer clock
  | turnReconciler => exact h.of_same rfl rfl rfl rfl rfl
  | stopReconciling =>
      simp only [System.step]
      split
      · exact h
      · exact h.of_same rfl rfl rfl rfl rfl
  | settle watchId evidence => exact h.afterSettle watchId evidence
  | resumeHook k answer clock => exact h.resumeHook k answer clock
  | restart config => exact h.restart config

end RoundWatch
