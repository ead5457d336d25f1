import RoundWatch.Workers.Run

/-!
# What the poller leaves alone

The counterpart of the stretches outside the poller: a stretch of the poller adds to the
history and works on the store by its operations, and nothing else changes.

* `Apart` — what it does to everything but the poller;
* `apart_runOnce`, `apart_resumePoll` — the stretches of the poller are of this kind.
-/

namespace RoundWatch

open JsText

/-- What a stretch of the poller does to everything but the poller; its session objects
are made for good. -/
structure Apart (σ σ' : System) : Prop where
  reconciler : σ'.reconciler = σ.reconciler
  log : σ.log <:+ σ'.log
  store : ∃ ops, σ'.store = σ.store.run ops
  objects : ∀ ref < σ.poller.nextObject, ref < σ'.poller.nextObject ∧
    (σ'.poller.objects ref).watchId = (σ.poller.objects ref).watchId ∧
    (σ'.poller.objects ref).minRound = (σ.poller.objects ref).minRound ∧
    (σ'.poller.objects ref).maxRound = (σ.poller.objects ref).maxRound

variable {cfg : WorkerConfig} {σ σ' σ'' : System} {i : ℕ} {sweep : Sweep} {turn : PollTurn}

theorem Apart.of_same (hreconciler : σ'.reconciler = σ.reconciler) (hlog : σ.log <:+ σ'.log)
    (hstore : σ'.store = σ.store) (hobjects : σ'.poller.objects = σ.poller.objects)
    (hnext : σ'.poller.nextObject = σ.poller.nextObject) : Apart σ σ' := by
  refine ⟨hreconciler, hlog, ⟨[], hstore⟩, fun ref href => ?_⟩
  rw [hobjects, hnext]
  exact ⟨href, rfl, rfl, rfl⟩

theorem Apart.refl (σ : System) : Apart σ σ := .of_same rfl (List.suffix_refl _) rfl rfl rfl

theorem Apart.trans (h : Apart σ σ') (h' : Apart σ' σ'') : Apart σ σ'' := by
  obtain ⟨ops, hops⟩ := h.store
  obtain ⟨ops', hops'⟩ := h'.store
  refine ⟨h'.reconciler.trans h.reconciler, h.log.trans h'.log, ⟨ops ++ ops', ?_⟩,
    fun ref href => ?_⟩
  · rw [hops', hops]
    exact (Runs.run_append Store.apply _ _ _).symm
  · obtain ⟨h₁, h₂, h₃, h₄⟩ := h.objects ref href
    obtain ⟨h₁', h₂', h₃', h₄'⟩ := h'.objects ref h₁
    exact ⟨h₁', h₂'.trans h₂, h₃'.trans h₃, h₄'.trans h₄⟩

theorem Apart.perform (h : Apart σ σ') (op : StoreOp) : Apart σ (σ'.perform op) :=
  h.trans ⟨rfl, List.suffix_refl _, ⟨[op], rfl⟩, fun _ href => ⟨href, rfl, rfl, rfl⟩⟩

theorem Apart.observe (h : Apart σ σ') (o : Observation) : Apart σ (σ'.observe o) :=
  h.trans (.of_same rfl (List.suffix_cons _ _) rfl rfl rfl)

theorem Apart.setSweep (h : Apart σ σ') (i : ℕ) (sweep : Sweep) : Apart σ (σ'.setSweep i sweep) :=
  h.trans (.of_same rfl (List.suffix_refl _) rfl rfl rfl)

theorem Apart.forgetSession (h : Apart σ σ') (id : SqlText) : Apart σ (σ'.forgetSession id) :=
  h.trans (.of_same rfl (List.suffix_refl _) rfl rfl rfl)

theorem Apart.openSession (h : Apart σ σ') (session : ScanSession) :
    Apart σ (σ'.openSession session) := by
  refine h.trans ⟨rfl, List.suffix_refl _, ⟨[], rfl⟩, fun ref href => ?_⟩
  have hold : (σ'.openSession session).poller.objects ref = σ'.poller.objects ref := by
    simp [System.openSession, Nat.ne_of_lt href]
  rw [hold]
  exact ⟨Nat.lt_succ_of_lt href, rfl, rfl, rfl⟩

theorem Apart.continueSession (h : Apart σ σ') (ref : ℕ) (token : JsString) :
    Apart σ (σ'.continueSession ref token) := by
  refine h.trans ⟨rfl, List.suffix_refl _, ⟨[], rfl⟩, fun other hother => ⟨hother, ?_⟩⟩
  by_cases heq : other = ref
  · subst heq
    simp [System.continueSession]
  · simp [System.continueSession, heq]

theorem Apart.setCache (h : Apart σ σ') (cache : HistoricalPageCache) :
    Apart σ (σ'.setCache cache) :=
  h.trans (.of_same rfl (List.suffix_refl _) rfl rfl rfl)

theorem Apart.retainSession (h : Apart σ σ') (id : SqlText) (watch : Option WatchRow) :
    Apart σ (σ'.retainSession id watch) := by
  unfold System.retainSession
  split
  · split
    · exact h
    · exact h.forgetSession id
  · exact h

theorem Apart.observeBody (h : Apart σ σ') (answer : Answer) (observation : Json → Observation) :
    Apart σ (σ'.observeBody answer observation) := by
  unfold System.observeBody
  split
  · exact h.observe _
  · exact h

theorem Apart.claimUnit (h : Apart σ σ') (kind : WorkerKind) (now : ℤ) (id : SqlText)
    (claim : WorkClaim) : Apart σ (σ'.claimUnit kind now id claim) := by
  have hclaimed := h.perform (.claimWorkUnit now id.val claim)
  unfold System.claimUnit
  split
  · exact hclaimed.trans (.of_same rfl (List.suffix_cons _ _) rfl rfl rfl)
  · exact hclaimed.observe _
  · exact hclaimed

theorem Apart.sendRequest (h : Apart σ σ') : Apart σ (σ'.sendRequest i sweep turn) := by
  unfold System.sendRequest
  split
  · exact h.setSweep _ _
  · exact (h.observe _).setSweep _ _

theorem Apart.withRequest (h : Apart σ σ') {operation : PollTurn → System}
    (hop : ∀ turn, Apart σ (operation turn)) :
    Apart σ (σ'.withRequest i sweep turn operation) := by
  unfold System.withRequest
  split
  · exact (h.observe _).setSweep _ _
  · exact hop _

theorem Apart.requestPage (h : Apart σ σ') (ref : ℕ) :
    Apart σ (σ'.requestPage cfg i sweep turn ref) := by
  refine h.withRequest fun turn => ?_
  dsimp only
  split
  · exact h.setSweep _ _
  · split
    · exact (h.setCache _).setSweep _ _
    · split
      · exact h.setSweep _ _
      · exact h.sendRequest

theorem Apart.requestTip (h : Apart σ σ') : Apart σ (σ'.requestTip i sweep turn) := by
  refine h.withRequest fun turn => ?_
  split
  · exact h.setSweep _ _
  · exact h.sendRequest

theorem Apart.scan (h : Apart σ σ') : Apart σ (σ'.scan cfg i sweep turn) := by
  unfold System.scan
  split
  · exact (h.perform _).setSweep _ _
  · dsimp only
    split
    · exact (h.retainSession _ _).requestPage _
    · exact (h.retainSession _ _).requestTip

theorem Apart.serviceWatch (h : Apart σ σ') (initial : WatchRow) (clock : Clock) :
    Apart σ (σ'.serviceWatch cfg i sweep initial clock) := by
  unfold System.serviceWatch
  split
  · exact h.setSweep _ _
  · split
    · exact h.setSweep _ _
    · rename_i watch _ _
      have hclaimed := h.claimUnit .polling clock.claim initial.id
        (.polling watch.scanAfterRound initial.closingRound initial.pollingFailureCount)
      dsimp only
      split
      · exact hclaimed.setSweep _ _
      · exact (hclaimed.forgetSession _).setSweep _ _
      · exact (hclaimed.retainSession _ _).setSweep _ _
      · unfold System.serveClaimed
        dsimp only
        split
        · exact hclaimed.withRequest fun turn => hclaimed.sendRequest
        · exact hclaimed.scan

theorem Apart.closeAtTip (h : Apart σ σ') (answer : Answer) :
    Apart σ (σ'.closeAtTip i sweep turn answer) := by
  unfold System.closeAtTip
  split
  · exact h.setSweep _ _
  · exact h.withRequest fun turn => h.sendRequest

theorem Apart.closeAtBlock (h : Apart σ σ') (tip : ℤ) (answer : Answer) :
    Apart σ (σ'.closeAtBlock cfg i sweep turn tip answer) := by
  have hseen := h.observeBody answer (.checkpointed tip)
  unfold System.closeAtBlock
  dsimp only
  split
  · exact hseen.setSweep _ _
  · split
    · split
      · exact (hseen.perform _).scan
      · exact (hseen.perform _).setSweep _ _
    · exact hseen.scan

theorem Apart.scanTo (h : Apart σ σ') (tip : Except TurnError ℤ) :
    Apart σ (σ'.scanTo cfg i sweep turn tip) := by
  unfold System.scanTo
  split
  · exact h.setSweep _ _
  · dsimp only
    split
    · exact h.setSweep _ _
    · exact (h.openSession _).requestPage _

theorem Apart.finishWindow (h : Apart σ σ') (maxRound : ℤ) (fresh : Bool) :
    Apart σ (σ'.finishWindow i sweep turn maxRound fresh) := by
  have hadvanced := (h.perform (.advanceScanRound turn.watch.row.id.val
    turn.watch.scanAfterRound maxRound)).forgetSession turn.watch.row.id
  unfold System.finishWindow
  dsimp only
  split
  · exact hadvanced.setSweep _ _
  · split
    · split
      · split
        · exact (hadvanced.perform _).setSweep _ _
        · exact hadvanced.setSweep _ _
      · exact hadvanced.setSweep _ _
    · exact hadvanced.setSweep _ _

theorem Apart.consumePage (h : Apart σ σ') (ref : ℕ) (result : Except TurnError TransactionPage)
    (fresh : Bool) : Apart σ (σ'.consumePage i sweep turn ref result fresh) := by
  unfold System.consumePage
  split
  · exact h.setSweep _ _
  · dsimp only
    split
    · exact h.setSweep _ _
    · split
      · exact ((h.perform _).forgetSession _).setSweep _ _
      · split
        · split
          · exact h.setSweep _ _
          · exact (h.continueSession _ _).setSweep _ _
        · exact h.finishWindow _ _

theorem Apart.receivePage (h : Apart σ σ') (ref : ℕ) (query : ScanQuery) (answer : Answer) :
    Apart σ (σ'.receivePage cfg i sweep turn ref query answer) := by
  have hseen := h.observeBody answer (.scanned turn.watch.row.terms query)
  unfold System.receivePage
  dsimp only
  split
  · split
    · exact (hseen.setCache _).consumePage _ _ _
    · exact hseen.consumePage _ _ _
  · exact hseen.consumePage _ _ _

theorem Apart.nextTurn (h : Apart σ σ') (clock : Clock) :
    Apart σ (σ'.nextTurn cfg i sweep clock) := by
  unfold System.nextTurn
  split
  · exact h.setSweep _ _
  · split
    · exact h.setSweep _ _
    · exact h.serviceWatch _ _

theorem Apart.settleTurn (h : Apart σ σ') (watch : WatchRow)
    (result : Except TurnError CustomerTurnOutcome) (clock : Clock) :
    Apart σ (σ'.settleTurn cfg i sweep watch result clock) := by
  unfold System.settleTurn
  split
  · dsimp only
    split
    · exact h.nextTurn _
    · exact (h.perform _).nextTurn _
  · exact h.setSweep _ _
  · rename_i e _
    have hfailed := ((h.forgetSession watch.id).setCache .empty).perform
      (.recordPollingFailure clock.record watch.id.val
        (persistedFailure cfg clock watch (classifyPollingFailure e)))
    unfold System.failTurn
    dsimp only
    split
    · exact hfailed.setSweep _ _
    · exact hfailed.nextTurn _

theorem apart_runOnce (σ : System) (clock : Clock) : Apart σ (σ.runOnce cfg clock) := by
  have hopened : ∀ index, Apart σ (σ.pruneScanSessions.openSweep index) := fun _ =>
    .of_same rfl (List.suffix_refl _) rfl rfl rfl
  unfold System.runOnce
  split
  · exact .refl σ
  · dsimp only
    split
    · exact (hopened _).setSweep _ _
    · exact (hopened _).nextTurn _

theorem apart_resumePoll (σ : System) (i : ℕ) (answer : Answer) (clock : Clock) :
    Apart σ (σ.resumePoll cfg i answer clock) := by
  have h := Apart.refl σ
  unfold System.resumePoll
  split
  · exact h
  · split
    · split
      · exact h.closeAtTip _
      · exact h.closeAtBlock _ _
      · exact h.scanTo _
      · exact h.scanTo _
      · exact h.consumePage _ _ _
      · exact h.receivePage _ _ _
    · exact h.settleTurn _ _ _
    · unfold System.finishSweep
      split
      · exact .of_same rfl (List.suffix_refl _) rfl rfl rfl
      · exact .of_same rfl (List.suffix_refl _) rfl rfl rfl

end RoundWatch
