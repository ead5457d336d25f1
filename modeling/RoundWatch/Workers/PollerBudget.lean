import RoundWatch.Workers.Charging

/-!
# The poller keeps the work budget

A polling turn asks for the tip and the block of its checkpoint, for the sweep's tip and
for one page, each at most once.

* `InHand` — the turn that runs, apart from the turns that wait;
* one lemma for each stretch, with the number of requests its turn can have counted.
-/

namespace RoundWatch

open JsText

variable {origin : Store} {cfg : WorkerConfig} {σ σ' : System} {log : List Observation} {i : ℕ} {sweep : Sweep}
  {turn : PollTurn}

/-! ## The turn in hand -/

/-- The turn of sweep `i` that runs: it was claimed, it has sent at most `sent` requests,
and no other sweep is in it. -/
structure InHand (log : List Observation) (sweeps : ℕ → Option Sweep) (i : ℕ) (turn : PollTurn)
    (sent : ℕ) : Prop where
  opened : TurnOpen log turn.number .polling turn.initial.id sent
  alone : ∀ j sweep' turn', j ≠ i → sweeps j = some sweep' → sweep'.phase = .serving turn' →
    turn'.number ≠ turn.number

theorem PollPoint.spent_le (point : PollPoint) : point.spent ≤ maxActiveRequests := by
  cases point <;> simp [PollPoint.spent, maxActiveRequests]

/-- What a sweep waits for is in hand when it goes on. -/
theorem Budgeted.inHand (h : Budgeted origin σ) (hsweep : σ.poller.sweeps i = some sweep)
    (hphase : sweep.phase = .serving turn) :
    InHand σ.log σ.poller.sweeps i turn turn.used ∧ turn.used ≤ turn.point.spent := by
  obtain ⟨hopened, hspent⟩ := h.polling.turn i sweep turn hsweep hphase
  refine ⟨⟨hopened, fun j sweep' turn' hj hsweep' hphase' heq => hj ?_⟩, hspent⟩
  exact h.polling.apart j i sweep' sweep turn' turn hsweep' hphase' hsweep hphase heq

/-- A turn that was just claimed has a number of its own. -/
theorem Budgeted.inHand_claimed (h : Budgeted origin σ) {now : ℤ} {claim : WorkClaim}
    (hclaimed : (σ.store.claimWorkUnit now turn.initial.id.val claim).2 = .ok .claimed)
    (hnumber : turn.number = σ.turns) :
    InHand (σ.claimUnit .polling now turn.initial.id claim).log σ.poller.sweeps i turn 0 := by
  refine ⟨?_, fun j sweep' turn' _ hsweep' hphase' heq => ?_⟩
  · rw [hnumber]
    exact h.turnOpen hclaimed
  · have hlt := h.log.claimed_lt (h.polling.turn j sweep' turn' hsweep' hphase').1.claimed
    rw [heq, hnumber, h.turns] at hlt
    exact Nat.lt_irrefl _ hlt

/-- A sweep comes to a point where its turn, if it has one, has counted its requests. -/
theorem PollTurnsOpen.update {sweeps : ℕ → Option Sweep}
    (hother : ∀ j sweep' turn', j ≠ i → sweeps j = some sweep' → sweep'.phase = .serving turn' →
      TurnOpen log turn'.number .polling turn'.initial.id turn'.used ∧
        turn'.used ≤ turn'.point.spent)
    (hapart : ∀ j k sweep' sweep'' turn' turn'', sweeps j = some sweep' →
      sweep'.phase = .serving turn' → sweeps k = some sweep'' → sweep''.phase = .serving turn'' →
      turn'.number = turn''.number → j = k)
    (hserving : ∀ turn, sweep.phase = .serving turn →
      InHand log sweeps i turn turn.used ∧ turn.used ≤ turn.point.spent) :
    PollTurnsOpen log (Function.update sweeps i (some sweep)) := by
  constructor
  · intro j sweep' turn' hsweep' hphase'
    by_cases hj : j = i
    · subst hj
      rw [Function.update_self] at hsweep'
      cases hsweep'
      exact ⟨(hserving turn' hphase').1.opened, (hserving turn' hphase').2⟩
    · rw [Function.update_of_ne hj] at hsweep'
      exact hother j sweep' turn' hj hsweep' hphase'
  · intro j k sweep' sweep'' turn' turn'' hsweep' hphase' hsweep'' hphase'' heq
    by_cases hj : j = i <;> by_cases hk : k = i
    · exact hj.trans hk.symm
    · subst hj
      rw [Function.update_self] at hsweep'
      rw [Function.update_of_ne hk] at hsweep''
      cases hsweep'
      exact absurd heq.symm ((hserving turn' hphase').1.alone k _ _ hk hsweep'' hphase'')
    · subst hk
      rw [Function.update_self] at hsweep''
      rw [Function.update_of_ne hj] at hsweep'
      cases hsweep''
      exact absurd heq ((hserving turn'' hphase'').1.alone j _ _ hj hsweep' hphase')
    · rw [Function.update_of_ne hj] at hsweep'
      rw [Function.update_of_ne hk] at hsweep''
      exact hapart j k _ _ _ _ hsweep' hphase' hsweep'' hphase'' heq

theorem Budgeted.setSweep (h : Budgeted origin σ)
    (hserving : ∀ turn, sweep.phase = .serving turn →
      InHand σ.log σ.poller.sweeps i turn turn.used ∧ turn.used ≤ turn.point.spent) :
    Budgeted origin (σ.setSweep i sweep) := by
  have hpolling : PollTurnsOpen σ.log (Function.update σ.poller.sweeps i (some sweep)) :=
    .update (fun j sweep' turn' _ => h.polling.turn j sweep' turn') h.polling.apart hserving
  exact { h with polling := hpolling }

theorem Budgeted.served (h : Budgeted origin σ) (sweep : Sweep) (watch : WatchRow)
    (result : Except TurnError CustomerTurnOutcome) : Budgeted origin (σ.served i sweep watch result) :=
  h.setSweep fun _ hphase => by cases hphase

theorem Budgeted.awaitAt (h : Budgeted origin σ) {turn : PollTurn} {sent : ℕ}
    (hturn : InHand σ.log σ.poller.sweeps i turn sent) (hsent : sent ≤ turn.used)
    (hspent : turn.used ≤ turn.point.spent) : Budgeted origin (σ.awaitAt i sweep turn) := by
  refine h.setSweep fun turn' hphase => ?_
  cases hphase
  exact ⟨⟨⟨hturn.opened.claimed, Nat.le_trans hturn.opened.requests hsent⟩, hturn.alone⟩, hspent⟩

/-! ## Requests -/

/-- **A request is counted.**  Its turn has one left, and the other turns have other
numbers. -/
theorem Budgeted.sendRequest (h : Budgeted origin σ) {turn : PollTurn} {sent : ℕ}
    (hturn : InHand σ.log σ.poller.sweeps i turn sent) (hused : turn.used = sent + 1)
    (hspent : turn.used ≤ turn.point.spent) : Budgeted origin (σ.sendRequest i sweep turn) := by
  unfold System.sendRequest
  split
  · exact h.served _ _ _
  · have hclaimed := hturn.opened.claimed
    have hsent := hturn.opened.requests
    have hlimit := turn.point.spent_le
    refine h.request hclaimed (Nat.lt_of_le_of_lt hsent ?_) rfl rfl rfl ?_ ?_
    · show sent < maxActiveRequests
      omega
    · refine .update (fun j sweep' turn' hj hsweep' hphase' => ?_) h.polling.apart
        fun turn' hphase => ?_
      · have hne := hturn.alone j sweep' turn' hj hsweep' hphase'
        obtain ⟨hopened, hspent'⟩ := h.polling.turn j sweep' turn' hsweep' hphase'
        exact ⟨hopened.cons (by simpa [Observation.isRequestIn] using hne.symm), hspent'⟩
      · cases hphase
        refine ⟨⟨⟨List.mem_cons_of_mem _ hclaimed, ?_⟩, hturn.alone⟩, hspent⟩
        simp only [requestsIn_cons, Observation.isRequestIn, beq_self_eq_true, if_true, hused]
        omega
    · intro s turn' hs hphase
      obtain ⟨hopened, hspent'⟩ := h.reconciling s turn' hs hphase
      exact ⟨hopened.cons_request h.log hclaimed (by decide), hspent'⟩

/-- The guard of a turn lets a request through that is within the limit. -/
theorem Budgeted.withRequest {turn : PollTurn} {operation : PollTurn → System}
    (hused : turn.used < maxActiveRequests)
    (hop : Budgeted origin (operation { turn with used := turn.used + 1 })) :
    Budgeted origin (σ.withRequest i sweep turn operation) := by
  have hspend : spend maxActiveRequests "active polling turn" turn.used = .ok (turn.used + 1) :=
    if_neg (Nat.not_le.2 hused)
  unfold System.withRequest
  rw [hspend]
  exact hop

theorem Budgeted.requestPage (h : Budgeted origin σ) {turn : PollTurn}
    (hturn : InHand σ.log σ.poller.sweeps i turn turn.used) (hused : turn.used ≤ 3) (ref : ℕ) :
    Budgeted origin (σ.requestPage cfg i sweep turn ref) := by
  refine Budgeted.withRequest (Nat.lt_succ_of_le hused) ?_
  have hspent : turn.used + 1 ≤ 4 := Nat.succ_le_succ hused
  have hsent : turn.used ≤ turn.used + 1 := Nat.le_succ _
  dsimp only
  split
  · exact h.served _ _ _
  · split
    · refine Budgeted.awaitAt (h.setCache _) ?_ hsent hspent
      exact ⟨hturn.opened, hturn.alone⟩
    · split
      · refine h.awaitAt ?_ hsent hspent
        exact ⟨hturn.opened, hturn.alone⟩
      · refine h.sendRequest ?_ rfl hspent
        exact ⟨hturn.opened, hturn.alone⟩

theorem Budgeted.requestTip (h : Budgeted origin σ) {turn : PollTurn}
    (hturn : InHand σ.log σ.poller.sweeps i turn turn.used) (hused : turn.used ≤ 2) :
    Budgeted origin (σ.requestTip i sweep turn) := by
  refine Budgeted.withRequest (Nat.lt_of_le_of_lt hused (by decide)) ?_
  have hspent : turn.used + 1 ≤ 3 := Nat.succ_le_succ hused
  dsimp only
  split
  · refine h.awaitAt ?_ (Nat.le_succ _) hspent
    exact ⟨hturn.opened, hturn.alone⟩
  · refine h.sendRequest ?_ rfl hspent
    exact ⟨hturn.opened, hturn.alone⟩

/-! ## A turn -/

theorem Budgeted.scan (h : Budgeted origin σ)
    (hturn : InHand σ.log σ.poller.sweeps i turn turn.used) (hused : turn.used ≤ 2) :
    Budgeted origin (σ.scan cfg i sweep turn) := by
  unfold System.scan
  split
  · exact Budgeted.served (h.perform rfl) _ _ _
  · have hkept := h.retainSession turn.watch.row.id (some turn.watch.row)
    have hturn' : InHand
        (σ.retainSession turn.watch.row.id (some turn.watch.row)).log
        (σ.retainSession turn.watch.row.id (some turn.watch.row)).poller.sweeps i turn
        turn.used := by
      simpa using hturn
    dsimp only
    split
    · exact hkept.requestPage hturn' (Nat.le_succ_of_le hused) _
    · exact hkept.requestTip hturn' hused

theorem Budgeted.serveClaimed (h : Budgeted origin σ) {number : ℕ} {initial : WatchRow}
    {watch : ScanWatch} {clock : Clock}
    (hturn : InHand σ.log σ.poller.sweeps i ⟨number, initial, watch, 0, .checkpointTip⟩ 0) :
    Budgeted origin (σ.serveClaimed cfg i sweep number initial watch clock) := by
  unfold System.serveClaimed
  dsimp only
  split
  · refine Budgeted.withRequest (Nat.zero_lt_succ 3) (h.sendRequest ?_ rfl (Nat.le_refl 1))
    exact ⟨hturn.opened, hturn.alone⟩
  · exact h.scan hturn (Nat.zero_le _)

theorem Budgeted.serviceWatch (h : Budgeted origin σ) (sweep : Sweep) (initial : WatchRow)
    (clock : Clock) : Budgeted origin (σ.serviceWatch cfg i sweep initial clock) := by
  unfold System.serviceWatch
  split
  · exact h.served _ _ _
  · rename_i watch hwatch
    split
    · exact h.served _ _ _
    · have hclaimed := h.claimUnit .polling clock.claim initial.id
        (.polling watch.scanAfterRound initial.closingRound initial.pollingFailureCount)
      dsimp only
      split
      · exact hclaimed.served _ _ _
      · exact (hclaimed.forgetSession _).served _ _ _
      · exact (hclaimed.retainSession _ _).served _ _ _
      · rename_i hresult
        have hturn := @Budgeted.inHand_claimed origin σ i ⟨σ.turns, initial, watch, 0, .checkpointTip⟩ h
          clock.claim _ hresult rfl
        rw [← σ.poller_claimUnit .polling clock.claim] at hturn
        exact hclaimed.serveClaimed hturn

/-! ## Behind an answer -/

theorem Budgeted.observeBody (h : Budgeted origin σ) (answer : Answer) {observation : Json → Observation}
    (hobservation : ∀ body, (observation body).metered = false) :
    Budgeted origin (σ.observeBody answer observation) := by
  unfold System.observeBody
  split
  · exact h.observe (hobservation _)
  · exact h

/-- What is read from an answer leaves the turn in hand. -/
theorem InHand.observeBody {sent : ℕ} (hturn : InHand σ.log σ.poller.sweeps i turn sent)
    (answer : Answer) {observation : Json → Observation}
    (hobservation : ∀ body, (observation body).metered = false) :
    InHand (σ.observeBody answer observation).log
      (σ.observeBody answer observation).poller.sweeps i turn sent := by
  rw [System.poller_observeBody]
  refine ⟨?_, hturn.alone⟩
  unfold System.observeBody
  split
  · exact hturn.opened.cons (Observation.isRequestIn_of_unmetered (hobservation _) _)
  · exact hturn.opened

theorem Budgeted.closeAtTip (h : Budgeted origin σ)
    (hturn : InHand σ.log σ.poller.sweeps i turn turn.used) (hused : turn.used ≤ 1)
    (answer : Answer) : Budgeted origin (σ.closeAtTip i sweep turn answer) := by
  unfold System.closeAtTip
  split
  · exact h.served _ _ _
  · refine Budgeted.withRequest (Nat.lt_of_le_of_lt hused (by decide))
      (h.sendRequest ?_ rfl (Nat.succ_le_succ hused))
    exact ⟨hturn.opened, hturn.alone⟩

theorem Budgeted.closeAtBlock (h : Budgeted origin σ)
    (hturn : InHand σ.log σ.poller.sweeps i turn turn.used) (hused : turn.used ≤ 2) (tip : ℤ)
    (answer : Answer) : Budgeted origin (σ.closeAtBlock cfg i sweep turn tip answer) := by
  have hseen := h.observeBody answer (fun _ => rfl : ∀ body,
    (Observation.checkpointed tip body).metered = false)
  have hturn' := hturn.observeBody answer (fun _ => rfl : ∀ body,
    (Observation.checkpointed tip body).metered = false)
  unfold System.closeAtBlock
  dsimp only
  split
  · exact hseen.served _ _ _
  · rename_i block _
    split
    · have hclosed : Budgeted origin ((σ.observeBody answer (.checkpointed tip)).perform
          (.setClosingRound turn.watch.row.id.val block.round)) := hseen.perform rfl
      split
      · refine hclosed.scan ?_ hused
        exact ⟨hturn'.opened, hturn'.alone⟩
      · exact hclosed.served _ _ _
    · exact hseen.scan hturn' hused

theorem Budgeted.scanTo (h : Budgeted origin σ)
    (hturn : InHand σ.log σ.poller.sweeps i turn turn.used) (hused : turn.used ≤ 3)
    (tip : Except TurnError ℤ) : Budgeted origin (σ.scanTo cfg i sweep turn tip) := by
  unfold System.scanTo
  split
  · exact h.served _ _ _
  · dsimp only
    split
    · exact h.served _ _ _
    · refine Budgeted.requestPage (h.openSession _) ?_ hused _
      exact ⟨hturn.opened, hturn.alone⟩

theorem Budgeted.finishWindow (h : Budgeted origin σ) (maxRound : ℤ) (fresh : Bool) :
    Budgeted origin (σ.finishWindow i sweep turn maxRound fresh) := by
  have hadvanced : Budgeted origin ((σ.perform (.advanceScanRound turn.watch.row.id.val
      turn.watch.scanAfterRound maxRound)).forgetSession turn.watch.row.id) :=
    Budgeted.forgetSession (h.perform rfl) _
  unfold System.finishWindow
  dsimp only
  split
  · exact hadvanced.served _ _ _
  · refine Budgeted.served ?_ _ _ _
    split
    · split
      · split
        · exact hadvanced.perform rfl
        · exact hadvanced
      · exact hadvanced
    · exact hadvanced

theorem Budgeted.consumePage (h : Budgeted origin σ) (sweep : Sweep) (ref : ℕ)
    (result : Except TurnError TransactionPage) (fresh : Bool) :
    Budgeted origin (σ.consumePage i sweep turn ref result fresh) := by
  unfold System.consumePage
  split
  · exact h.served _ _ _
  · dsimp only
    split
    · exact h.served _ _ _
    · split
      · exact (Budgeted.forgetSession (h.perform rfl) _).served _ _ _
      · split
        · split
          · exact h.served _ _ _
          · exact (h.continueSession _ _).served _ _ _
        · exact h.finishWindow _ _

theorem Budgeted.receivePage (h : Budgeted origin σ) (ref : ℕ) (query : ScanQuery) (answer : Answer) :
    Budgeted origin (σ.receivePage cfg i sweep turn ref query answer) := by
  have hseen := h.observeBody answer (fun _ => rfl : ∀ body,
    (Observation.scanned turn.watch.row.terms query body).metered = false)
  unfold System.receivePage
  dsimp only
  refine Budgeted.consumePage ?_ _ _ _ _
  split
  · split
    · exact hseen.setCache _
    · exact hseen
  · exact hseen

/-! ## The loop -/

theorem Budgeted.nextTurn (h : Budgeted origin σ) (sweep : Sweep) (clock : Clock) :
    Budgeted origin (σ.nextTurn cfg i sweep clock) := by
  have hswept : Budgeted origin (σ.setSweep i { sweep with phase := .swept }) :=
    h.setSweep fun _ hphase => by cases hphase
  unfold System.nextTurn
  split
  · exact hswept
  · split
    · exact hswept
    · exact h.serviceWatch _ _ _

theorem Budgeted.settleTurn (h : Budgeted origin σ) (sweep : Sweep) (watch : WatchRow)
    (result : Except TurnError CustomerTurnOutcome) (clock : Clock) :
    Budgeted origin (σ.settleTurn cfg i sweep watch result clock) := by
  unfold System.settleTurn
  split
  · refine Budgeted.nextTurn ?_ _ _
    split
    · exact h
    · exact h.perform rfl
  · exact h.setSweep fun _ hphase => by cases hphase
  · rename_i e _
    have hrecorded : Budgeted origin (((σ.forgetSession watch.id).setCache .empty).perform
        (.recordPollingFailure clock.record watch.id.val
          (persistedFailure cfg clock watch (classifyPollingFailure e)))) :=
      ((h.forgetSession _).setCache _).perform rfl
    unfold System.failTurn
    dsimp only
    split
    · exact hrecorded.setSweep fun _ hphase => by cases hphase
    · exact hrecorded.nextTurn _ _

theorem Budgeted.finishSweep (h : Budgeted origin σ) : Budgeted origin (σ.finishSweep i sweep) := by
  unfold System.finishSweep
  refine Budgeted.endSweep ?_ i
  split
  · exact h.pruneScanSessions
  · exact h

theorem Budgeted.runOnce (h : Budgeted origin σ) (clock : Clock) : Budgeted origin (σ.runOnce cfg clock) := by
  unfold System.runOnce
  split
  · exact h
  · dsimp only
    split
    · exact (h.pruneScanSessions.openSweep _).setSweep fun _ hphase => by cases hphase
    · exact (h.pruneScanSessions.openSweep _).nextTurn _ _

/-- **A sweep that goes on keeps the budget.** -/
theorem Budgeted.resumePoll (h : Budgeted origin σ) (answer : Answer) (clock : Clock) :
    Budgeted origin (σ.resumePoll cfg i answer clock) := by
  unfold System.resumePoll
  split
  · exact h
  · rename_i sweep hsweep
    split
    · rename_i turn hphase
      obtain ⟨hturn, hspent⟩ := h.inHand hsweep hphase
      split
      · rename_i hpoint
        exact h.closeAtTip hturn (by simpa [hpoint, PollPoint.spent] using hspent) _
      · rename_i tip hpoint
        exact h.closeAtBlock hturn (by simpa [hpoint, PollPoint.spent] using hspent) _ _
      · rename_i tip hpoint
        exact h.scanTo hturn (by simpa [hpoint, PollPoint.spent] using hspent) _
      · rename_i hpoint
        exact h.scanTo hturn (by simpa [hpoint, PollPoint.spent] using hspent) _
      · exact h.consumePage _ _ _ _
      · exact h.receivePage _ _ _
    · exact h.settleTurn _ _ _ _
    · exact h.finishSweep

end RoundWatch
