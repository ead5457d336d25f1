import RoundWatch.Workers.Run
import RoundWatch.Store.Lifecycle

/-!
# What happens outside the poller

The reconciler and the hooks work on rows that still settle, and leave the poller and what
it has scanned alone.

* `StoreOp.settles` — the operations of a settlement; they touch settling rows only;
* `Elsewhere` — a stretch that performs such operations and nothing the poller can see;
* `elsewhere_step` — the stretches that are of this kind.
-/

namespace RoundWatch

open JsText

/-- The operations that work on a settlement. -/
def StoreOp.settles : StoreOp → Bool
  | .recordSettlementCandidate .. => true
  | .activateWatch .. => true
  | .markSettlementUnknown .. => true
  | .markSettlementInvalid .. => true
  | .claimWorkUnit _ _ (.reconciliation ..) => true
  | .recordReconciliationFailure .. => true
  | .recordRefundEvidence .. => true
  | _ => false

/-- They change settling rows only. -/
theorem RowChange.settling {op : StoreOp} {r r' : WatchRow} (h : RowChange op r r')
    (hop : op.settles = true) : r.settling = true := by
  cases h with
  | recordCandidate _ hopen _ => exact (WatchRow.settling_of_unsettled hopen).1
  | activate _ hopen _ => exact (WatchRow.settling_of_unsettled hopen).1
  | settleUnknown _ hpending => simp [WatchRow.settling, hpending]
  | settleInvalid _ hsettling => exact hsettling
  | @charge now id claim _ _ heligible _ =>
      cases claim with
      | polling scan closing failures => cases hop
      | reconciliation transaction attempts =>
          simp only [Store.eligible, Bool.and_eq_true] at heligible
          exact (WatchRow.settling_of_unsettled heligible.1.1.1).1
  | @exhaust now id claim _ _ heligible _ =>
      cases claim with
      | polling scan closing failures => cases hop
      | reconciliation transaction attempts =>
          simp only [Store.eligible, Bool.and_eq_true] at heligible
          exact (WatchRow.settling_of_unsettled heligible.1.1.1).1
  | deferUntil _ hopen => exact (WatchRow.settling_of_unsettled hopen).1
  | _ => cases hop

theorem WatchRow.not_settling_of_active {r : WatchRow} (h : r.state = .active) :
    r.settling = false := by
  simp [WatchRow.settling, h]

/-- So they leave an active row as it is. -/
theorem Store.mem_run_of_active {s : Store} {r : WatchRow} (hr : r ∈ s.rows)
    (hactive : r.state = .active) {ops : List StoreOp} (hops : ∀ op ∈ ops, op.settles = true) :
    r ∈ (s.run ops).rows := by
  induction ops generalizing s with
  | nil => exact hr
  | cons op ops ih =>
      refine ih ?_ fun o ho => hops o (List.mem_cons_of_mem _ ho)
      obtain ⟨r', hr', heq | hchange⟩ := Store.exists_apply_of_mem hr op
      · exact heq ▸ hr'
      · have hsettling := hchange.settling (hops op List.mem_cons_self)
        simp [WatchRow.not_settling_of_active hactive] at hsettling

/-- A page that was read. -/
def Observation.isScan : Observation → Bool
  | .scanned .. => true
  | _ => false

/-- What a stretch outside the poller does. -/
structure Elsewhere (σ σ' : System) : Prop where
  poller : σ'.poller = σ.poller
  log : ∃ new, σ'.log = new ++ σ.log ∧ ∀ o ∈ new, o.isScan = false
  store : ∃ ops, σ'.store = σ.store.run ops ∧ ∀ op ∈ ops, op.settles = true

theorem Elsewhere.of_same {σ σ' : System} (hpoller : σ'.poller = σ.poller)
    (hlog : σ'.log = σ.log) (hstore : σ'.store = σ.store) : Elsewhere σ σ' :=
  ⟨hpoller, ⟨[], by simp [hlog], by simp⟩, ⟨[], by simp [hstore], by simp⟩⟩

theorem Elsewhere.refl (σ : System) : Elsewhere σ σ := .of_same rfl rfl rfl

theorem Elsewhere.trans {σ σ' σ'' : System} (h : Elsewhere σ σ') (h' : Elsewhere σ' σ'') :
    Elsewhere σ σ'' := by
  obtain ⟨new, hnew, hscan⟩ := h.log
  obtain ⟨new', hnew', hscan'⟩ := h'.log
  obtain ⟨ops, hops, hsettles⟩ := h.store
  obtain ⟨ops', hops', hsettles'⟩ := h'.store
  refine ⟨h'.poller.trans h.poller, ⟨new' ++ new, by simp [hnew', hnew], ?_⟩,
    ⟨ops ++ ops', by rw [hops', hops]; exact (Runs.run_append Store.apply _ _ _).symm, ?_⟩⟩
  · intro o ho
    rcases List.mem_append.1 ho with ho | ho
    · exact hscan' o ho
    · exact hscan o ho
  · intro op hop
    rcases List.mem_append.1 hop with hop | hop
    · exact hsettles op hop
    · exact hsettles' op hop

variable {cfg : WorkerConfig} (σ : System)

theorem elsewhere_perform {op : StoreOp} (hop : op.settles = true) :
    Elsewhere σ (σ.perform op) :=
  ⟨rfl, ⟨[], rfl, by simp⟩, ⟨[op], rfl, by simpa using hop⟩⟩

theorem elsewhere_observe {o : Observation} (ho : o.isScan = false) : Elsewhere σ (σ.observe o) :=
  ⟨rfl, ⟨[o], rfl, by simpa using ho⟩, ⟨[], rfl, by simp⟩⟩

theorem elsewhere_beginTurn (kind : WorkerKind) (id : SqlText) :
    Elsewhere σ (σ.beginTurn kind id) :=
  ⟨rfl, ⟨[_], rfl, by simp [Observation.isScan]⟩, ⟨[], rfl, by simp⟩⟩

theorem elsewhere_claimUnit (now : ℤ) (id : SqlText) (transaction : JsString) (attempts : ℕ) :
    Elsewhere σ (σ.claimUnit .reconciliation now id (.reconciliation transaction attempts)) := by
  have hclaimed : Elsewhere σ
      (σ.perform (.claimWorkUnit now id.val (.reconciliation transaction attempts))) :=
    elsewhere_perform σ rfl
  unfold System.claimUnit
  split
  · exact hclaimed.trans (elsewhere_beginTurn _ _ _)
  · exact hclaimed.trans (elsewhere_observe _ rfl)
  · exact hclaimed

/-! ## The reconciler -/

theorem elsewhere_reconciled (loop : ReconcileLoop) (watch : WatchRow)
    (result : Except TurnError CustomerTurnOutcome) :
    Elsewhere σ (σ.reconciled loop watch result) :=
  .of_same rfl rfl rfl

theorem elsewhere_setAbsenceSession (id : SqlText) (session : Option AbsenceProofSession) :
    Elsewhere σ (σ.setAbsenceSession id session) :=
  .of_same rfl rfl rfl

theorem elsewhere_retainAbsenceSession (id : SqlText) (watch : Option WatchRow) :
    Elsewhere σ (σ.retainAbsenceSession id watch) := by
  unfold System.retainAbsenceSession
  split
  · split
    · exact .refl σ
    · exact .of_same rfl rfl rfl
  · exact .refl σ

theorem elsewhere_deferred (loop : ReconcileLoop) (watch : WatchRow) (clock : Clock)
    (outcome : CustomerTurnOutcome) : Elsewhere σ (σ.deferred cfg loop watch clock outcome) :=
  (elsewhere_perform σ rfl).trans (elsewhere_reconciled _ _ _ _)

theorem elsewhere_requestReconcile (loop : ReconcileLoop) (turn : ReconcileTurn)
    (canonical : Bool) : Elsewhere σ (σ.requestReconcile loop turn canonical) := by
  unfold System.requestReconcile
  split
  · exact elsewhere_reconciled _ _ _ _
  · split
    · exact (elsewhere_observe σ rfl).trans (elsewhere_reconciled _ _ _ _)
    · split
      · exact (elsewhere_observe σ rfl).trans (.of_same rfl rfl rfl)
      · exact elsewhere_reconciled _ _ _ _

theorem elsewhere_reconcileClaimed (loop : ReconcileLoop) (number : ℕ) (watch : WatchRow)
    (clock : Clock) : Elsewhere σ (σ.reconcileClaimed cfg loop number watch clock) := by
  unfold System.reconcileClaimed
  split
  · exact elsewhere_deferred _ _ _ _ _
  · dsimp only
    split
    · exact (elsewhere_retainAbsenceSession σ _ _).trans (elsewhere_requestReconcile _ _ _ _)
    · exact (elsewhere_retainAbsenceSession σ _ _).trans (elsewhere_requestReconcile _ _ _ _)

theorem elsewhere_reconcileWatch (loop : ReconcileLoop) (watch : WatchRow) (clock : Clock) :
    Elsewhere σ (σ.reconcileWatch cfg loop watch clock) := by
  unfold System.reconcileWatch
  split
  · exact elsewhere_reconciled _ _ _ _
  · rename_i transaction _
    have hclaimed := elsewhere_claimUnit σ clock.claim watch.id transaction.val
      watch.reconciliationAttempts
    dsimp only
    split
    · exact hclaimed.trans (elsewhere_reconciled _ _ _ _)
    · exact (hclaimed.trans (elsewhere_setAbsenceSession _ _ _)).trans
        (elsewhere_reconciled _ _ _ _)
    · exact (hclaimed.trans (elsewhere_retainAbsenceSession _ _ _)).trans
        (elsewhere_reconciled _ _ _ _)
    · exact hclaimed.trans (elsewhere_reconcileClaimed _ _ _ _ _)

theorem elsewhere_observeLookup (transaction : JsString) (answer : Answer) :
    Elsewhere σ (σ.observeLookup transaction answer) := by
  unfold System.observeLookup
  split
  · exact elsewhere_observe σ rfl
  · exact elsewhere_observe σ rfl
  · exact .refl σ

theorem elsewhere_applyConfirmed (loop : ReconcileLoop) (turn : ReconcileTurn)
    (transfer : IndexedAssetTransfer) (clock : Clock) :
    Elsewhere σ (σ.applyConfirmed cfg loop turn transfer clock) := by
  unfold System.applyConfirmed
  dsimp only
  split
  · exact ((elsewhere_setAbsenceSession σ _ _).trans (elsewhere_perform _ rfl)).trans
      (elsewhere_reconciled _ _ _ _)
  · exact ((elsewhere_setAbsenceSession σ _ _).trans (elsewhere_perform _ rfl)).trans
      (elsewhere_reconciled _ _ _ _)

theorem elsewhere_afterLookup (loop : ReconcileLoop) (turn : ReconcileTurn) (answer : Answer)
    (clock : Clock) : Elsewhere σ (σ.afterLookup cfg loop turn answer clock) := by
  have hseen := elsewhere_observeLookup σ turn.terms.transaction.val answer
  unfold System.afterLookup
  dsimp only
  split
  · exact hseen.trans (elsewhere_reconciled _ _ _ _)
  · exact hseen.trans (elsewhere_applyConfirmed _ _ _ _ _)
  · exact hseen.trans (elsewhere_requestReconcile _ _ _ _)

theorem elsewhere_afterTip (loop : ReconcileLoop) (turn : ReconcileTurn) (answer : Answer)
    (clock : Clock) : Elsewhere σ (σ.afterTip cfg loop turn answer clock) := by
  unfold System.afterTip
  split
  · exact elsewhere_reconciled _ _ _ _
  · split
    · exact elsewhere_deferred _ _ _ _ _
    · exact (elsewhere_setAbsenceSession σ _ _).trans (elsewhere_requestReconcile _ _ _ _)

theorem elsewhere_afterSearch (loop : ReconcileLoop) (turn : ReconcileTurn)
    (session : AbsenceProofSession) (answer : Answer) (clock : Clock) :
    Elsewhere σ (σ.afterSearch cfg loop turn session answer clock) := by
  have hseen : Elsewhere σ
      (σ.observeBody answer (.searched turn.terms.transaction.val session.nextToken)) := by
    unfold System.observeBody
    split
    · exact elsewhere_observe σ rfl
    · exact .refl σ
  have hkept := fun s => hseen.trans (elsewhere_setAbsenceSession _ turn.watch.id s)
  unfold System.afterSearch
  dsimp only
  split
  · exact hseen.trans (elsewhere_reconciled _ _ _ _)
  · split
    · exact hseen.trans (elsewhere_applyConfirmed _ _ _ _ _)
    · split
      · split
        · exact (hkept _).trans (elsewhere_reconciled _ _ _ _)
        · exact (hkept _).trans (elsewhere_deferred _ _ _ _ _)
      · split
        · exact (hkept _).trans (elsewhere_reconciled _ _ _ _)
        · exact ((hkept _).trans (elsewhere_perform _ rfl)).trans (elsewhere_reconciled _ _ _ _)

theorem elsewhere_finishReconcile (loop : ReconcileLoop) :
    Elsewhere σ (σ.finishReconcile loop) := by
  unfold System.finishReconcile
  dsimp only
  split
  · exact .of_same rfl rfl rfl
  · exact .of_same rfl rfl rfl

theorem elsewhere_nextReconcileTurn (loop : ReconcileLoop) (clock : Clock) :
    Elsewhere σ (σ.nextReconcileTurn cfg loop clock) := by
  unfold System.nextReconcileTurn
  split
  · exact elsewhere_finishReconcile _ _
  · split
    · exact elsewhere_finishReconcile _ _
    · exact elsewhere_reconcileWatch _ _ _ _

theorem elsewhere_settleReconcile (loop : ReconcileLoop) (watch : WatchRow)
    (result : Except TurnError CustomerTurnOutcome) (clock : Clock) :
    Elsewhere σ (σ.settleReconcile cfg loop watch result clock) := by
  unfold System.settleReconcile
  split
  · exact elsewhere_nextReconcileTurn _ _ _
  · exact elsewhere_finishReconcile _ _
  · have hdeferred : Elsewhere σ ((σ.setAbsenceSession watch.id none).perform
        (.recordReconciliationFailure watch.id.val (System.deferTime cfg clock watch))) :=
      (elsewhere_setAbsenceSession σ watch.id none).trans (elsewhere_perform _ rfl)
    dsimp only
    split
    · exact hdeferred.trans (elsewhere_finishReconcile _ _)
    · exact hdeferred.trans (elsewhere_nextReconcileTurn _ _ _)

theorem elsewhere_reconcileOnce (clock : Clock) : Elsewhere σ (σ.reconcileOnce cfg clock) := by
  have hpruned : Elsewhere σ σ.pruneAbsenceProofSessions := .of_same rfl rfl rfl
  unfold System.reconcileOnce
  split
  · exact .refl σ
  · split
    · exact .refl σ
    · dsimp only
      split
      · exact hpruned.trans (elsewhere_finishReconcile _ _)
      · exact hpruned.trans (elsewhere_nextReconcileTurn _ _ _)

theorem elsewhere_resumeReconcile (answer : Answer) (clock : Clock) :
    Elsewhere σ (σ.resumeReconcile cfg answer clock) := by
  unfold System.resumeReconcile
  split
  · exact .refl σ
  · split
    · split
      · exact elsewhere_afterLookup _ _ _ _ _
      · exact elsewhere_afterTip _ _ _ _ _
      · exact elsewhere_afterSearch _ _ _ _ _ _
    · exact elsewhere_settleReconcile _ _ _ _ _

/-! ## The hooks -/

theorem elsewhere_afterSettle (watchId : JsString) (evidence : SettlementEvidence) :
    Elsewhere σ (σ.afterSettle watchId evidence) := by
  have hrecorded : Elsewhere σ (σ.perform (.recordSettlementCandidate watchId evidence)) :=
    elsewhere_perform σ rfl
  unfold System.afterSettle
  dsimp only
  split
  · exact hrecorded
  · split
    · exact hrecorded.trans (.of_same rfl rfl rfl)
    · exact hrecorded

theorem elsewhere_resumeHook (k : ℕ) (answer : Answer) (clock : Clock) :
    Elsewhere σ (σ.resumeHook k answer clock) := by
  unfold System.resumeHook
  split
  · exact .refl σ
  · rename_i hook _
    have hended : Elsewhere σ (σ.endHook k) := .of_same rfl rfl rfl
    have hseen := hended.trans (elsewhere_observeLookup _ hook.evidence.transaction answer)
    dsimp only
    split
    · exact hseen
    · exact hseen
    · split
      · exact hseen
      · split
        · exact hseen.trans (elsewhere_perform _ rfl)
        · exact hseen.trans (elsewhere_perform _ rfl)

@[simp] theorem reconciler_observeLookup (σ : System) (transaction : JsString) (answer : Answer) :
    (σ.observeLookup transaction answer).reconciler = σ.reconciler := by
  unfold System.observeLookup
  split <;> rfl

theorem reconciler_afterSettle (σ : System) (watchId : JsString) (evidence : SettlementEvidence) :
    (σ.afterSettle watchId evidence).reconciler = σ.reconciler := by
  unfold System.afterSettle
  dsimp only
  split
  · rfl
  · split <;> rfl

theorem reconciler_resumeHook (σ : System) (k : ℕ) (answer : Answer) (clock : Clock) :
    (σ.resumeHook k answer clock).reconciler = σ.reconciler := by
  have hseen : ∀ transaction, ((σ.endHook k).observeLookup transaction answer).reconciler =
      σ.reconciler := fun transaction => reconciler_observeLookup _ _ _
  unfold System.resumeHook
  split
  · rfl
  · dsimp only
    split
    · exact hseen _
    · exact hseen _
    · split
      · exact hseen _
      · split
        · exact hseen _
        · exact hseen _

/-! ## The stretches outside the poller -/

/-- The events the poller has no part in, but for a new watch; `clearPollingFailure` and
`recordPollingFailure` are the poller's own operations. -/
def Event.isElsewhere : Event → Bool
  | .call op => op.1.settles
  | .reconcile .. => true
  | .resumeReconcile .. => true
  | .turnReconciler => true
  | .stopReconciling => true
  | .settle .. => true
  | .resumeHook .. => true
  | _ => false

/-- **They are stretches outside the poller.** -/
theorem elsewhere_step {e : Event} (he : e.isElsewhere = true) : Elsewhere σ (σ.step cfg e) := by
  cases e with
  | call op => exact elsewhere_perform σ he
  | reconcile clock => exact elsewhere_reconcileOnce σ clock
  | resumeReconcile answer clock => exact elsewhere_resumeReconcile σ answer clock
  | turnReconciler => exact .of_same rfl rfl rfl
  | stopReconciling =>
      simp only [System.step]
      split
      · exact .refl σ
      · exact .of_same rfl rfl rfl
  | settle watchId evidence => exact elsewhere_afterSettle σ watchId evidence
  | resumeHook k answer clock => exact elsewhere_resumeHook σ k answer clock
  | _ => cases he

end RoundWatch
