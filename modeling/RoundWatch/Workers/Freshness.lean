import RoundWatch.Workers.Agreement

/-!
# Stale plans

A turn goes by the row its sweep selected, and other owners of the store run between the
selection and the claim.  When the row has moved by then, the claim is refused and the
turn is over: `stale_polling_turn` and `stale_reconciliation_turn` say what it leaves
behind, `stale_turn_has_no_effect` is both.

A clock that reads no date refuses the claim in another way: it throws, and the turn goes
the way of every turn that failed, which may write a failure or a deferral.
-/

namespace RoundWatch

open JsText

/-! ## Rows that have moved -/

/-- The plan of a polling turn does not fit the row that is now under its id.  A retry time
is later when its text is. -/
def StalePolling (s : Store) (now : ℤ) (plan : ScanWatch) : Prop :=
  ∀ row, s.getWatch plan.row.id.val = some row →
    row.state ≠ .active ∨ row.evidenceVersion ≠ 1 ∨ row.expiresAt = none ∨
    row.scanAfterRound ≠ some plan.scanAfterRound ∨
    row.closingRound ≠ plan.row.closingRound ∨
    row.pollingFailureCount ≠ plan.row.pollingFailureCount ∨
    ∃ retryAt, row.pollingRetryAt = some retryAt ∧
      Dates.toIsoText now < Dates.toIsoText retryAt

/-- The plan of a reconciliation turn does not. -/
def StaleReconciliation (s : Store) (now : ℤ) (plan : WatchRow) : Prop :=
  ∀ row, s.getWatch plan.id.val = some row →
    row.unsettled = false ∨
    row.expectedServiceTransaction ≠ plan.expectedServiceTransaction ∨
    row.reconciliationAttempts ≠ plan.reconciliationAttempts ∨
    ∃ nextAttemptAt, row.reconciliationNextAttemptAt = some nextAttemptAt ∧
      Dates.toIsoText now < Dates.toIsoText nextAttemptAt

theorem StalePolling.not_eligible {s : Store} {now : ℤ} {plan : ScanWatch}
    (h : StalePolling s now plan) (row : WatchRow)
    (hrow : s.getWatch plan.row.id.val = some row) :
    Store.eligible (.polling plan.scanAfterRound plan.row.closingRound
      plan.row.pollingFailureCount) now row = false := by
  rw [Bool.eq_false_iff]
  intro heligible
  simp only [Store.eligible, Bool.and_eq_true, beq_iff_eq] at heligible
  obtain ⟨⟨⟨⟨⟨⟨hactive, hversion⟩, hscan⟩, hexpires⟩, hclosing⟩, hfailures⟩, hretry⟩ := heligible
  rcases h row hrow with h | h | h | h | h | h | ⟨retryAt, hretryAt, hlater⟩
  · exact h hactive
  · exact h hversion
  · simp [h] at hexpires
  · exact h hscan
  · exact h hclosing
  · exact h hfailures
  · simp [hretryAt, Store.dueBy, hlater] at hretry

theorem StaleReconciliation.not_eligible {s : Store} {now : ℤ} {plan : WatchRow}
    (h : StaleReconciliation s now plan) {transaction : SqlText}
    (htransaction : plan.expectedServiceTransaction = some transaction) (row : WatchRow)
    (hrow : s.getWatch plan.id.val = some row) :
    Store.eligible (.reconciliation transaction.val plan.reconciliationAttempts) now row =
      false := by
  rw [Bool.eq_false_iff]
  intro heligible
  simp only [Store.eligible, Bool.and_eq_true, beq_iff_eq, bindText_val] at heligible
  obtain ⟨⟨⟨hopen, hexpected⟩, hattempts⟩, hdue⟩ := heligible
  rcases h row hrow with h | h | h | ⟨nextAttemptAt, hnext, hlater⟩
  · simp [h] at hopen
  · exact h (hexpected.trans htransaction.symm)
  · exact h hattempts
  · simp [hnext, Store.dueBy, hlater] at hdue

/-! ## Sessions -/

/-- The row a scan session can go on with: it is polled, its cursor stands before the
session's window, and no closing round cuts the window off. -/
structure ScanSession.Fits (session : ScanSession) (row : WatchRow) : Prop where
  active : row.state = .active
  version : row.evidenceVersion = 1
  deadline : row.expiresAt.isSome
  cursor : row.scanAfterRound = some (session.minRound - 1)
  closing : ∀ closingRound, row.closingRound = some closingRound → session.maxRound ≤ closingRound

theorem isScanSessionCompatible_iff {watch : Option WatchRow} {session : ScanSession} :
    isScanSessionCompatible watch session = true ↔
      ∃ row, watch = some row ∧ session.Fits row := by
  cases watch with
  | none => simp [isScanSessionCompatible]
  | some row =>
      simp only [isScanSessionCompatible, Option.any_some, Bool.and_eq_true, beq_iff_eq,
        Option.some.injEq, exists_eq_left']
      constructor
      · rintro ⟨⟨⟨⟨hactive, hversion⟩, hcursor⟩, hdeadline⟩, hclosing⟩
        obtain ⟨scan, hscan, hmin⟩ := Option.any_eq_true _ _ |>.1 hcursor
        refine ⟨hactive, hversion, hdeadline, ?_, fun c hc => by simpa [hc] using hclosing⟩
        rw [hscan, eq_of_beq hmin, Int.add_sub_cancel]
      · rintro ⟨hactive, hversion, hdeadline, hcursor, hclosing⟩
        refine ⟨⟨⟨⟨hactive, hversion⟩, by simp [hcursor]⟩, hdeadline⟩, ?_⟩
        cases hc : row.closingRound with
        | none => rfl
        | some c => simpa using hclosing c hc

/-- The row an absence proof can go on with. -/
structure AbsenceProofSession.Fits (session : AbsenceProofSession) (row : WatchRow) : Prop where
  unsettled : row.unsettled
  transaction : row.expectedServiceTransaction = some session.expectedTransaction

theorem isAbsenceSessionCompatible_iff {watch : Option WatchRow}
    {session : AbsenceProofSession} : isAbsenceSessionCompatible session watch = true ↔
      ∃ row, watch = some row ∧ session.Fits row := by
  cases watch with
  | none => simp [isAbsenceSessionCompatible]
  | some row =>
      simp only [isAbsenceSessionCompatible, Option.any_some, Bool.and_eq_true, beq_iff_eq,
        Option.some.injEq, exists_eq_left']
      exact ⟨fun h => ⟨h.1, h.2⟩, fun h => ⟨h.unsettled, h.transaction⟩⟩

namespace System

@[simp] theorem store_retainSession (σ : System) (id : SqlText) (watch : Option WatchRow) :
    (σ.retainSession id watch).store = σ.store := by
  unfold retainSession
  split
  · split <;> rfl
  · rfl

end System

/-! ## A refused claim -/

section

variable {σ : System} {now : ℤ} {id : SqlText} {claim : WorkClaim}

/-- A refused claim leaves the system as it is. -/
theorem System.claimUnit_of_not_eligible (kind : WorkerKind)
    (h : ∀ row, σ.store.getWatch id.val = some row → Store.eligible claim now row = false) :
    σ.claimUnit kind now id claim = σ := by
  unfold System.claimUnit
  rcases Store.claimWorkUnit_of_not_eligible h with hcase | hcase
  · rw [hcase]
    simp [System.perform, Store.apply, hcase]
  · rw [hcase]
    simp [System.perform, Store.apply, hcase]

/-- With a valid clock it says so. -/
theorem Store.claimWorkUnit_inactive {s : Store} {id : JsString}
    (h : ∀ row, s.getWatch id = some row → Store.eligible claim now row = false)
    (hnow : validDate now) : (s.claimWorkUnit now id claim).2 = .ok .inactive := by
  rcases Store.claimWorkUnit_of_not_eligible h with hcase | hcase
  · exfalso
    have hclock : currentTime now = .ok now := by simp [currentTime, hnow]
    simp only [claimWorkUnit, hclock] at hcase
    split_ifs at hcase
    all_goals simp at hcase
  · rw [hcase]

/-- Without one it throws. -/
theorem Store.claimWorkUnit_invalidClock {s : Store} {id : JsString}
    (hnow : validDate now = false) : (s.claimWorkUnit now id claim).2 = .error .invalidClock := by
  simp [claimWorkUnit, currentTime, hnow]

end

/-! ## Stale turns -/

/-- One more turn that did nothing. -/
def WorkerCycleOutcome.idle (o : WorkerCycleOutcome) : WorkerCycleOutcome :=
  { o with noOp := o.noOp + 1 }

theorem WorkerCycleOutcome.count_nothing (o : WorkerCycleOutcome) :
    o.count .nothing = o.idle := by
  simp [count, CustomerTurnOutcome.nothing, idle]

/-- **A stale polling turn.**  Up to its end the store and what was claimed and requested
stay as they are; with a valid clock the loop counts a no-op and goes on, and the session of
the watch survives exactly when it fits the row; without one the turn has thrown. -/
theorem stale_polling_turn (cfg : WorkerConfig) (σ : System) (i : ℕ) (sweep : Sweep)
    (plan : ScanWatch) (clock : Clock) (hplan : ScanWatch.of? plan.row = some plan)
    (hversion : plan.row.evidenceVersion = 1) (hstale : StalePolling σ.store clock.claim plan) :
    let σ' := σ.serviceWatch cfg i sweep plan.row clock
    σ'.store = σ.store ∧ σ'.log = σ.log ∧
      (validDate clock.claim = false →
        σ' = σ.served i sweep plan.row (.error (.ofStore .invalidClock))) ∧
      (validDate clock.claim →
        (∀ answer clock', σ'.resumePoll cfg i answer clock' =
          σ'.nextTurn cfg i
            { sweep with
              phase := .served plan.row (.ok .nothing), outcome := sweep.outcome.idle } clock') ∧
        ∀ ref, σ.poller.sessions plan.row.id = some ref →
          (σ'.poller.sessions plan.row.id = some ref ↔
            ∃ row, σ.store.getWatch plan.row.id.val = some row ∧
              (σ.poller.objects ref).Fits row)) := by
  intro σ'
  have hclaim := System.claimUnit_of_not_eligible .polling hstale.not_eligible
  cases hnow : validDate clock.claim with
  | false =>
      have hturn : σ' = σ.served i sweep plan.row (.error (.ofStore .invalidClock)) := by
        simp only [σ', System.serviceWatch, hplan, hversion, hclaim,
          Store.claimWorkUnit_invalidClock hnow]
        simp
      rw [hturn]
      exact ⟨rfl, rfl, fun _ => rfl, fun h => by simp at h⟩
  | true =>
      have hturn : σ' = (σ.retainSession plan.row.id (σ.store.getWatch plan.row.id.val)).served i
          sweep plan.row (.ok .nothing) := by
        simp only [σ', System.serviceWatch, hplan, hversion, hclaim,
          Store.claimWorkUnit_inactive hstale.not_eligible hnow]
        simp
      rw [hturn]
      refine ⟨?_, ?_, fun h => by simp at h, fun _ => ⟨fun answer clock' => ?_, fun ref href => ?_⟩⟩
      · simp [System.served]
      · simp [System.served]
      · have hkind : CustomerTurnOutcome.nothing.kind = .noOp := rfl
        simp [System.resumePoll, System.served, System.setSweep, System.settleTurn, hkind,
          WorkerCycleOutcome.count_nothing]
      · show (σ.retainSession plan.row.id (σ.store.getWatch plan.row.id.val)).poller.sessions
          plan.row.id = some ref ↔ _
        rw [System.sessions_retainSession, and_iff_right href, isScanSessionCompatible_iff]

/-- **A stale reconciliation turn.** -/
theorem stale_reconciliation_turn (cfg : WorkerConfig) (σ : System) (loop : ReconcileLoop)
    (plan : WatchRow) (clock : Clock)
    (hplan : (plan.expectedServiceTransaction.filter (·.val ≠ [])).isSome)
    (hstale : StaleReconciliation σ.store clock.claim plan) :
    let σ' := σ.reconcileWatch cfg loop plan clock
    σ'.store = σ.store ∧ σ'.log = σ.log ∧
      (validDate clock.claim = false →
        σ' = σ.reconciled loop plan (.error (.ofStore .invalidClock))) ∧
      (validDate clock.claim →
        (∀ answer clock', σ'.resumeReconcile cfg answer clock' =
          σ'.nextReconcileTurn cfg { loop with outcome := loop.outcome.idle } clock') ∧
        ∀ session, σ.reconciler.sessions plan.id = some session →
          (σ'.reconciler.sessions plan.id = some session ↔
            ∃ row, σ.store.getWatch plan.id.val = some row ∧ session.Fits row)) := by
  intro σ'
  obtain ⟨transaction, htransaction⟩ := Option.isSome_iff_exists.1 hplan
  have hexpected := (Option.filter_eq_some_iff.1 htransaction).1
  have hnot := hstale.not_eligible hexpected
  have hclaim := System.claimUnit_of_not_eligible .reconciliation hnot
  cases hnow : validDate clock.claim with
  | false =>
      have hturn : σ' = σ.reconciled loop plan (.error (.ofStore .invalidClock)) := by
        simp only [σ', System.reconcileWatch, htransaction, hclaim,
          Store.claimWorkUnit_invalidClock hnow]
      rw [hturn]
      exact ⟨rfl, rfl, fun _ => rfl, fun h => by simp at h⟩
  | true =>
      have hturn : σ' = (σ.retainAbsenceSession plan.id (σ.store.getWatch plan.id.val)).reconciled
          loop plan (.ok .nothing) := by
        simp only [σ', System.reconcileWatch, htransaction, hclaim,
          Store.claimWorkUnit_inactive hnot hnow]
      rw [hturn]
      refine ⟨?_, ?_, fun h => by simp at h,
        fun _ => ⟨fun answer clock' => ?_, fun session hsession => ?_⟩⟩
      · simp [System.reconciled]
      · simp [System.reconciled]
      · simp [System.resumeReconcile, System.reconciled, System.setReconcileSweep,
          System.settleReconcile, WorkerCycleOutcome.count_nothing]
      · show (σ.retainAbsenceSession plan.id (σ.store.getWatch plan.id.val)).reconciler.sessions
          plan.id = some session ↔ _
        rw [System.sessions_retainAbsenceSession, and_iff_right hsession,
          isAbsenceSessionCompatible_iff]

/-- **A stale plan has no effect.**  Whatever the state, a turn whose plan does not fit the
row any more leaves every row, every claim and every request as they are when it ends.  With
a valid clock its loop counts a no-op and goes straight on, and the pagination session of the
watch survives exactly when the row can still go on with it; without one the turn ends as one
whose claim threw. -/
theorem stale_turn_has_no_effect (cfg : WorkerConfig) (σ : System) (clock : Clock) :
    (∀ (i : ℕ) (sweep : Sweep) (plan : ScanWatch), ScanWatch.of? plan.row = some plan →
      plan.row.evidenceVersion = 1 → StalePolling σ.store clock.claim plan →
      let σ' := σ.serviceWatch cfg i sweep plan.row clock
      σ'.store = σ.store ∧ σ'.log = σ.log ∧
        (validDate clock.claim = false →
          σ' = σ.served i sweep plan.row (.error (.ofStore .invalidClock))) ∧
        (validDate clock.claim →
          (∀ answer clock', σ'.resumePoll cfg i answer clock' =
            σ'.nextTurn cfg i
              { sweep with
                phase := .served plan.row (.ok .nothing), outcome := sweep.outcome.idle } clock') ∧
          ∀ ref, σ.poller.sessions plan.row.id = some ref →
            (σ'.poller.sessions plan.row.id = some ref ↔
              ∃ row, σ.store.getWatch plan.row.id.val = some row ∧
                (σ.poller.objects ref).Fits row))) ∧
    (∀ (loop : ReconcileLoop) (plan : WatchRow),
      (plan.expectedServiceTransaction.filter (·.val ≠ [])).isSome →
      StaleReconciliation σ.store clock.claim plan →
      let σ' := σ.reconcileWatch cfg loop plan clock
      σ'.store = σ.store ∧ σ'.log = σ.log ∧
        (validDate clock.claim = false →
          σ' = σ.reconciled loop plan (.error (.ofStore .invalidClock))) ∧
        (validDate clock.claim →
          (∀ answer clock', σ'.resumeReconcile cfg answer clock' =
            σ'.nextReconcileTurn cfg { loop with outcome := loop.outcome.idle } clock') ∧
          ∀ session, σ.reconciler.sessions plan.id = some session →
            (σ'.reconciler.sessions plan.id = some session ↔
              ∃ row, σ.store.getWatch plan.id.val = some row ∧ session.Fits row))) :=
  ⟨fun i sweep plan hplan hversion hstale =>
    stale_polling_turn cfg σ i sweep plan clock hplan hversion hstale,
    fun loop plan hplan hstale => stale_reconciliation_turn cfg σ loop plan clock hplan hstale⟩

/-! ## Samples -/

/-- The sample watch is prepared with its intent, and the reconciler keeps a session for it:
its absence proof goes on behind the first page. -/
def searchingSystem : System :=
  System.run sampleWorker (preparedSystem (some canonicalIntent))
    [.reconcile (.at 1000),
      .resumeReconcile (.status 404 false none) (.at 1000),
      .resumeReconcile (.body (tipBody 2000)) (.at 1000),
      .resumeReconcile (.body (.obj [(js "transactions", .arr []), (js "current-round", .num 2000),
        (js "next-token", .str (js "next"))])) (.at 1000),
      .resumeReconcile .timeout (.at 1000)]

/-- The row the next sweep selects. -/
def searchedRow : WatchRow :=
  ((preparedRow .default (js "w") sampleSpec (some canonicalIntent) 0 1800000).charge).deferUntil
    2000

/-- Then the payment is found after all. -/
def activatedSystem : System :=
  searchingSystem.step sampleWorker
    (.call ⟨.activateWatch 3000 (js "w") canonicalEvidence 10, rfl⟩)

/-- The row is now. -/
def activatedRow : WatchRow := searchedRow.activate canonicalEvidence (some 10) 3000

theorem getWatch_activatedSystem :
    activatedSystem.store.getWatch searchedRow.id.val = some activatedRow := by
  decide +kernel

theorem staleReconciliation_activated :
    StaleReconciliation activatedSystem.store 4000 searchedRow := by
  intro row h
  cases getWatch_activatedSystem.symm.trans h
  exact Or.inl (by decide)

/-- A plan of a sweep that saw three failures more. -/
def failedPlan : ScanWatch :=
  { row := { activatedRow with pollingFailureCount := 3 }
    scanAfterRound := 10
    expiresAt := 1800000
    scan_eq := rfl
    expires_eq := rfl }

/-- A sweep on its first watch. -/
def firstSweep : Sweep := ⟨0, none, [], [], .zero, .swept⟩

theorem stalePolling_activated (now : ℤ) :
    StalePolling activatedSystem.store now failedPlan := by
  intro row h
  cases getWatch_activatedSystem.symm.trans h
  exact Or.inr (Or.inr (Or.inr (Or.inr (Or.inr (Or.inl (by decide))))))

theorem stale_turn_has_no_effect_activated :
    (activatedSystem.serviceWatch sampleWorker 0 firstSweep failedPlan.row (.at 4000)).store =
        activatedSystem.store ∧
      (activatedSystem.reconcileWatch sampleWorker idleLoop searchedRow (.at 4000)).store =
        activatedSystem.store := by
  obtain ⟨hpolling, hreconciliation⟩ :=
    stale_turn_has_no_effect sampleWorker activatedSystem (.at 4000)
  exact ⟨(hpolling 0 firstSweep failedPlan rfl rfl (stalePolling_activated 4000)).1,
    (hreconciliation idleLoop searchedRow (by decide) staleReconciliation_activated).1⟩

/-- Where the clock reads no date at the claim, and a date again behind it. -/
def haltedClock : Clock := { Clock.at 4000 with claim := invalidTime }

/-- The last second of year 9999, and the first of year 10000. -/
def lastFourDigits : ℤ := 253402300799000

def firstFiveDigits : ℤ := 253402300800000

/-- **What a stale turn can do.**  A session can be lost while its transaction stays: the row
was activated between selection and claim, and still expects the transaction of the session,
which is dropped.  A stale turn of which the claim throws writes a failure to its row.  And a
retry time of year 10000 does not hold a claim of year 9999 back. -/
theorem stale_turn_drops_session :
    (searchingSystem.store.getWatch (js "w") = some searchedRow ∧
      StaleReconciliation activatedSystem.store 4000 searchedRow ∧
      ∃ session row, activatedSystem.reconciler.sessions searchedRow.id = some session ∧
        activatedSystem.store.getWatch searchedRow.id.val = some row ∧
        row.expectedServiceTransaction = some session.expectedTransaction ∧
        (activatedSystem.reconcileWatch sampleWorker idleLoop searchedRow
          (.at 4000)).reconciler.sessions searchedRow.id = none) ∧
    (StalePolling activatedSystem.store haltedClock.claim failedPlan ∧
      ((activatedSystem.serviceWatch sampleWorker 0 firstSweep failedPlan.row
          haltedClock).resumePoll sampleWorker 0 .timeout (.at 4000)).store.getWatch (js "w") ≠
        activatedSystem.store.getWatch (js "w")) ∧
    (lastFourDigits < firstFiveDigits ∧
      Store.eligible (.polling 10 none 0) lastFourDigits
        { activatedRow with pollingRetryAt := some firstFiveDigits } = true) :=
  ⟨⟨by decide +kernel, staleReconciliation_activated, _, _, rfl, getWatch_activatedSystem,
    by decide, rfl⟩, ⟨stalePolling_activated _, by decide +kernel⟩, by decide, by decide +kernel⟩

end RoundWatch
