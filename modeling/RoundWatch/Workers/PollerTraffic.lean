import RoundWatch.Workers.Freshness
import RoundWatch.Workers.PollerSound
import RoundWatch.Workers.Traffic

/-!
# The poller keeps its traffic in order

One lemma for each stretch of the poller, in the order of its code, then every event and
every run.

* `Traffic.resumePoll`, `Traffic.runOnce` — what the scheduler can call;
* `Event.Keeps` — the calls from outside that a law of rows survives;
* `traffic_run` — the invariant of every run of such events.
-/

namespace RoundWatch

open JsText

variable {cfg : WorkerConfig} {P : WatchRow → Prop} {σ : System} {i : ℕ} {sweep : Sweep}
  {turn : PollTurn}

/-! ## A turn, up to an `await` -/

theorem Traffic.served (h : Traffic cfg P σ) (hloop : LoopTraffic σ.store sweep) {watch : WatchRow}
    (hknown : Known σ.store watch) (hpast : sweep.Past watch)
    {result : Except TurnError CustomerTurnOutcome} (hspares : Spares watch result) :
    Traffic cfg P (σ.served i sweep watch result) := by
  refine h.setSweep ⟨⟨hloop.waiting, hloop.distinct, hloop.tip, hloop.pages⟩,
    by simp, fun w result' hphase => ?_⟩
  cases hphase
  exact ⟨hknown, hspares, hpast⟩

/-- The turn ends in an error that ends no watch. -/
theorem Traffic.failed (h : Traffic cfg P σ) (hloop : LoopTraffic σ.store sweep) {watch : WatchRow}
    (hknown : Known σ.store watch) (hpast : sweep.Past watch) {e : TurnError} (he : ¬e.terminal) :
    Traffic cfg P (σ.served i sweep watch (.error e)) :=
  h.served hloop hknown hpast (.of_not_terminal he)

theorem Traffic.awaitAt (h : Traffic cfg P σ) (hloop : LoopTraffic σ.store sweep)
    {turn : PollTurn} (hturn : TurnTraffic cfg σ.store turn) (hpast : sweep.Past turn.initial) :
    Traffic cfg P (σ.awaitAt i sweep turn) := by
  refine h.setSweep ⟨⟨hloop.waiting, hloop.distinct, hloop.tip, hloop.pages⟩,
    fun turn' hphase => ?_, by simp⟩
  cases hphase
  exact ⟨hturn, hpast⟩

theorem Traffic.sendRequest (h : Traffic cfg P σ) (hloop : LoopTraffic σ.store sweep)
    {turn : PollTurn} (hturn : TurnTraffic cfg σ.store turn) (hpast : sweep.Past turn.initial) :
    Traffic cfg P (σ.sendRequest i sweep turn) := by
  unfold System.sendRequest
  split
  · exact h.failed hloop hturn.known hpast TurnError.not_terminal_shutdown
  · exact Traffic.awaitAt (h.observe rfl) hloop hturn hpast

theorem Traffic.withRequest (h : Traffic cfg P σ) (hloop : LoopTraffic σ.store sweep)
    {turn : PollTurn} (hknown : Known σ.store turn.initial) (hpast : sweep.Past turn.initial)
    {operation : PollTurn → System}
    (hop : ∀ used, Traffic cfg P (operation { turn with used := used })) :
    Traffic cfg P (σ.withRequest i sweep turn operation) := by
  unfold System.withRequest
  split
  · rename_i e hspend
    exact Traffic.failed (h.observe rfl) hloop hknown hpast (not_terminal_of_spend hspend)
  · exact hop _

/-- At its page a turn waits for a query it has just built. -/
theorem Traffic.requestPage (h : Traffic cfg P σ) (hloop : LoopTraffic σ.store sweep)
    {turn : PollTurn} (hknown : Known σ.store turn.initial)
    (hsame : SameWatch turn.initial turn.watch.row) (hpast : sweep.Past turn.initial) (ref : ℕ) :
    Traffic cfg P (σ.requestPage cfg i sweep turn ref) := by
  refine h.withRequest hloop hknown hpast fun used => ?_
  dsimp only
  split
  · exact h.failed hloop hknown hpast (TurnError.not_terminal_protocol _)
  · rename_i query hquery
    have hturn : ∀ held : Option (Except TurnError TransactionPage × Bool),
        (∀ result fresh, held = some (result, fresh) → ZeroOnly query result) →
        TurnTraffic cfg σ.store { turn with used := used, point := .page ref query held } := by
      refine fun held hheld => ⟨hknown, hsame, fun ref' query' held' hpoint => ?_,
        by simp⟩
      cases hpoint
      exact ⟨⟨_, _, _, hquery⟩, hheld⟩
    split
    · rename_i page hpage
      have hcache : Traffic cfg P (σ.setCache (σ.poller.cache.get query).1) := by
        refine h.setCache ?_
        rintro query' page' ⟨e, he, hkey, hread⟩
        exact h.covers query' page' ⟨e, HistoricalPageCache.mem_get he, hkey, hread⟩
      refine Traffic.awaitAt hcache hloop (hturn _ fun result fresh heq => ?_) hpast
      cases heq
      exact fun _ herror => by cases herror
    · split
      · rename_i shared hshared
        refine h.awaitAt hloop (hturn _ fun result fresh heq => ?_) hpast
        cases heq
        have hkey : shared.1 = query := by simpa using List.find?_some hshared
        exact hloop.pages query shared.2 (hkey ▸ List.mem_of_find?_eq_some hshared)
      · exact h.sendRequest hloop (hturn none (by simp)) hpast

theorem Traffic.requestTip (h : Traffic cfg P σ) (hloop : LoopTraffic σ.store sweep)
    {turn : PollTurn} (hknown : Known σ.store turn.initial)
    (hsame : SameWatch turn.initial turn.watch.row) (hpast : sweep.Past turn.initial) :
    Traffic cfg P (σ.requestTip i sweep turn) := by
  refine h.withRequest hloop hknown hpast fun used => ?_
  dsimp only
  split
  · rename_i tip htip
    refine h.awaitAt hloop ⟨hknown, hsame, by simp, fun e hpoint => ?_⟩ hpast
    cases hpoint
    exact hloop.tip e htip
  · exact h.sendRequest hloop ⟨hknown, hsame, by simp, by simp⟩ hpast

theorem Traffic.scan (h : Traffic cfg P σ) (hlaw : RowLaw P) (hloop : LoopTraffic σ.store sweep)
    {turn : PollTurn} (hknown : Known σ.store turn.initial)
    (hsame : SameWatch turn.initial turn.watch.row) (hpast : sweep.Past turn.initial) :
    Traffic cfg P (σ.scan cfg i sweep turn) := by
  unfold System.scan
  split
  · rename_i closingRound _
    have hexpired : Traffic cfg P (σ.perform (.markExpired turn.watch.row.id.val
        turn.watch.scanAfterRound closingRound)) := h.perform hlaw (by simp) (by simp)
    have hstore := keepsWatches_apply σ.store
      (.markExpired turn.watch.row.id.val turn.watch.scanAfterRound closingRound)
    exact hexpired.served (hloop.mono hstore) (hstore _ hknown) hpast (.ok _ _)
  · have hkept := h.retainSession turn.watch.row.id (some turn.watch.row)
    have hstore : (σ.retainSession turn.watch.row.id (some turn.watch.row)).store = σ.store :=
      System.store_retainSession σ _ _
    rw [← hstore] at hloop hknown
    dsimp only
    split
    · exact hkept.requestPage hloop hknown hsame hpast _
    · exact hkept.requestTip hloop hknown hsame hpast

theorem Traffic.serveClaimed (h : Traffic cfg P σ) (hlaw : RowLaw P)
    (hloop : LoopTraffic σ.store sweep) {initial : WatchRow} {watch : ScanWatch}
    (hknown : Known σ.store initial) (hsame : SameWatch initial watch.row)
    (hpast : sweep.Past initial) (number : ℕ) (clock : Clock) :
    Traffic cfg P (σ.serveClaimed cfg i sweep number initial watch clock) := by
  unfold System.serveClaimed
  dsimp only
  split
  · exact h.withRequest hloop hknown hpast fun used => h.sendRequest hloop
      ⟨hknown, hsame, by simp, by simp⟩ hpast
  · exact h.scan hlaw hloop hknown hsame hpast

theorem Traffic.serviceWatch (h : Traffic cfg P σ) (hlaw : RowLaw P)
    (hloop : LoopTraffic σ.store sweep) {initial : WatchRow} (hknown : Known σ.store initial)
    (hpast : sweep.Past initial) (clock : Clock) :
    Traffic cfg P (σ.serviceWatch cfg i sweep initial clock) := by
  unfold System.serviceWatch
  split
  · exact h.served hloop hknown hpast (.ok _ _)
  · rename_i watch hwatch
    split
    · exact h.served hloop hknown hpast (.ok _ _)
    · have hclaimed := h.claimUnit hlaw .polling clock.claim initial.id
        (.polling watch.scanAfterRound initial.closingRound initial.pollingFailureCount)
      have hstore : KeepsWatches σ.store (σ.claimUnit .polling clock.claim initial.id
          (.polling watch.scanAfterRound initial.closingRound initial.pollingFailureCount)).store := by
        rw [System.store_claimUnit]
        exact keepsWatches_apply σ.store (.claimWorkUnit _ _ _)
      replace hloop := hloop.mono hstore
      replace hknown := hstore _ hknown
      dsimp only
      split
      · exact hclaimed.failed hloop hknown hpast (TurnError.not_terminal_ofStore _)
      · exact (hclaimed.forgetSession _).served hloop hknown hpast (.ok _ _)
      · refine (hclaimed.retainSession _ _).served ?_ ?_ hpast (.ok _ _)
        · rw [System.store_retainSession]
          exact hloop
        · rw [System.store_retainSession]
          exact hknown
      · refine hclaimed.serveClaimed hlaw hloop hknown ?_ hpast _ clock
        rw [ScanWatch.of?_row hwatch]
        exact .refl initial

/-! ## Behind an answer -/

theorem Traffic.closeAtTip (h : Traffic cfg P σ) (hloop : LoopTraffic σ.store sweep)
    (hturn : TurnTraffic cfg σ.store turn) (hpast : sweep.Past turn.initial) (answer : Answer) :
    Traffic cfg P (σ.closeAtTip i sweep turn answer) := by
  unfold System.closeAtTip
  split
  · rename_i e he
    exact h.failed hloop hturn.known hpast (not_terminal_of_getCurrentRound he)
  · exact h.withRequest hloop hturn.known hpast fun used => h.sendRequest hloop
      ⟨hturn.known, hturn.same, by simp, by simp⟩ hpast

theorem Traffic.closeAtBlock (h : Traffic cfg P σ) (hlaw : RowLaw P)
    (hloop : LoopTraffic σ.store sweep) (hturn : TurnTraffic cfg σ.store turn)
    (hpast : sweep.Past turn.initial) (tip : ℤ) (answer : Answer) :
    Traffic cfg P (σ.closeAtBlock cfg i sweep turn tip answer) := by
  have hseen : Traffic cfg P (σ.observeBody answer (.checkpointed tip)) := by
    unfold System.observeBody
    split
    · exact h.observe rfl
    · exact h
  have hstore : (σ.observeBody answer (.checkpointed tip)).store = σ.store :=
    System.store_observeBody _ _ _
  have hknown := hturn.known
  rw [← hstore] at hloop hknown
  unfold System.closeAtBlock
  dsimp only
  split
  · rename_i e he
    exact hseen.failed hloop hknown hpast (not_terminal_of_getBlock he)
  · rename_i block _
    split
    · have hclosed : Traffic cfg P ((σ.observeBody answer (.checkpointed tip)).perform
          (.setClosingRound turn.watch.row.id.val block.round)) :=
        hseen.perform hlaw (by simp) (by simp)
      have hkeeps := keepsWatches_apply (σ.observeBody answer (.checkpointed tip)).store
        (.setClosingRound turn.watch.row.id.val block.round)
      split
      · rename_i watch hwatch
        obtain ⟨row, hrow, hof⟩ := Option.bind_eq_some_iff.1 hwatch
        refine hclosed.scan hlaw (hloop.mono hkeeps) (hkeeps _ hknown) ?_ hpast
        rw [ScanWatch.of?_row hof]
        refine (hkeeps _ hknown).sameWatch_of_mem (Store.getWatch_mem hrow) ?_
        rw [Store.getWatch_id hrow, bindText_val, hturn.same.id]
      · exact hclosed.failed (hloop.mono hkeeps) (hkeeps _ hknown) hpast
          TurnError.not_terminal_network
    · exact hseen.scan hlaw hloop hknown hturn.same hpast

theorem Traffic.openSession (h : Traffic cfg P σ) (session : ScanSession) :
    Traffic cfg P (σ.openSession session) :=
  h.of_same rfl rfl rfl rfl

theorem Traffic.scanTo (h : Traffic cfg P σ) (hloop : LoopTraffic σ.store sweep)
    (hturn : TurnTraffic cfg σ.store turn) (hpast : sweep.Past turn.initial)
    {tip : Except TurnError ℤ} (htip : ∀ e, tip = .error e → ¬e.terminal) :
    Traffic cfg P (σ.scanTo cfg i sweep turn tip) := by
  unfold System.scanTo
  split
  · exact h.failed hloop hturn.known hpast (htip _ rfl)
  · dsimp only
    split
    · exact h.served hloop hturn.known hpast (.ok _ _)
    · exact (h.openSession _).requestPage hloop hturn.known hturn.same hpast _

theorem Traffic.finishWindow (h : Traffic cfg P σ) (hlaw : RowLaw P)
    (hloop : LoopTraffic σ.store sweep) (hturn : TurnTraffic cfg σ.store turn)
    (hpast : sweep.Past turn.initial) (maxRound : ℤ) (fresh : Bool) :
    Traffic cfg P (σ.finishWindow i sweep turn maxRound fresh) := by
  have hadvanced : Traffic cfg P ((σ.perform (.advanceScanRound turn.watch.row.id.val
      turn.watch.scanAfterRound maxRound)).forgetSession turn.watch.row.id) :=
    (h.perform hlaw (by simp) (by simp)).forgetSession _
  have hkeeps := keepsWatches_apply σ.store (.advanceScanRound turn.watch.row.id.val
    turn.watch.scanAfterRound maxRound)
  have hended : ∀ outcome, Traffic cfg P (((σ.perform (.advanceScanRound turn.watch.row.id.val
      turn.watch.scanAfterRound maxRound)).forgetSession turn.watch.row.id).served i sweep
        turn.initial (.ok outcome)) := fun outcome =>
    hadvanced.served (hloop.mono hkeeps) (hkeeps _ hturn.known) hpast (.ok _ _)
  unfold System.finishWindow
  dsimp only
  split
  · exact hended _
  · split
    · rename_i updated _
      split
      · rename_i closingRound scanAfterRound _ _
        split
        · have hexpired : Traffic cfg P (((σ.perform (.advanceScanRound turn.watch.row.id.val
              turn.watch.scanAfterRound maxRound)).forgetSession turn.watch.row.id).perform
                (.markExpired updated.id.val scanAfterRound closingRound)) :=
            hadvanced.perform hlaw (by simp) (by simp)
          have hkeeps' := hkeeps.trans (keepsWatches_apply _
            (.markExpired updated.id.val scanAfterRound closingRound))
          exact hexpired.served (hloop.mono hkeeps') (hkeeps' _ hturn.known) hpast (.ok _ _)
        · exact hended _
      · exact hended _
    · exact hended _

theorem Traffic.continueSession (h : Traffic cfg P σ) (ref : ℕ) (token : JsString) :
    Traffic cfg P (σ.continueSession ref token) :=
  h.of_same rfl rfl rfl rfl

/-- **A page is consumed.**  An error that ends a watch answered a query by the zero address,
and the query is the watch's own. -/
theorem Traffic.consumePage (h : Traffic cfg P σ) (hlaw : RowLaw P)
    (hloop : LoopTraffic σ.store sweep) (hturn : TurnTraffic cfg σ.store turn)
    (hpast : sweep.Past turn.initial) {ref : ℕ} {query : ScanQuery}
    (hasks : AsksFor cfg.scanQueryVariant turn.watch.row.terms query)
    {result : Except TurnError TransactionPage} (hzero : ZeroOnly query result) (fresh : Bool) :
    Traffic cfg P (σ.consumePage i sweep turn ref result fresh) := by
  unfold System.consumePage
  split
  · rename_i e
    refine h.served hloop hturn.known hpast fun e' heq hterminal => ?_
    cases heq
    obtain ⟨_, _, _, hquery⟩ := hasks
    have hsender := expectedSender_of_zeroSender hquery (hzero e rfl hterminal)
    rw [← hturn.same.expectedSender]
    exact hsender
  · rename_i page
    dsimp only
    split
    · exact h.failed hloop hturn.known hpast (TurnError.not_terminal_protocol _)
    · split
      · rename_i found _
        have hmatched : Traffic cfg P (σ.perform (.markMatched turn.watch.row.id.val
            found.transaction found.round)) := h.perform hlaw (by simp) (by simp)
        have hkeeps := keepsWatches_apply σ.store
          (.markMatched turn.watch.row.id.val found.transaction found.round)
        exact (hmatched.forgetSession _).served (hloop.mono hkeeps) (hkeeps _ hturn.known) hpast
          (.ok _ _)
      · split
        · split
          · exact h.failed hloop hturn.known hpast (TurnError.not_terminal_protocol _)
          · exact (h.continueSession _ _).served hloop hturn.known hpast (.ok _ _)
        · exact h.finishWindow hlaw hloop hturn hpast _ fresh

/-- A page that arrives was asked for by the turn; only a page that covers its window is
cached. -/
theorem Traffic.receivePage (h : Traffic cfg P σ) (hlaw : RowLaw P)
    (hloop : LoopTraffic σ.store sweep) (hturn : TurnTraffic cfg σ.store turn)
    (hpast : sweep.Past turn.initial) {ref : ℕ} {query : ScanQuery}
    (hasks : AsksFor cfg.scanQueryVariant turn.watch.row.terms query) (answer : Answer) :
    Traffic cfg P (σ.receivePage cfg i sweep turn ref query answer) := by
  have hzero : ZeroOnly query
      (searchWatchPage cfg.scanQueryVariant turn.watch.row.terms query answer) := by
    intro e he hterminal
    obtain ⟨-, q, hq, hsender⟩ := zeroSender_of_received he hterminal
    cases hq
    exact hsender
  have hseen : Traffic cfg P (σ.observeBody answer (.scanned turn.watch.row.terms query)) := by
    unfold System.observeBody
    split
    · refine ⟨h.rows, fun fetcher query' body hmem => ?_, h.covers, h.sweeps⟩
      rcases List.mem_cons.1 hmem with heq | hmem
      · cases heq
        exact ⟨⟨_, hturn.known.same hturn.same, rfl⟩, hasks⟩
      · exact h.asked fetcher query' body hmem
    · exact h
  have hstore : (σ.observeBody answer (.scanned turn.watch.row.terms query)).store = σ.store :=
    System.store_observeBody _ _ _
  have hshared : LoopTraffic (σ.observeBody answer (.scanned turn.watch.row.terms query)).store
      { sweep with sharedPages := (query, searchWatchPage cfg.scanQueryVariant
        turn.watch.row.terms query answer) :: sweep.sharedPages } := by
    rw [hstore]
    refine ⟨hloop.waiting, hloop.distinct, hloop.tip, fun query' result hmem => ?_⟩
    rcases List.mem_cons.1 hmem with heq | hmem
    · cases heq
      exact hzero
    · exact hloop.pages query' result hmem
  rw [← hstore] at hturn
  unfold System.receivePage
  dsimp only
  split
  · rename_i page hresult
    split
    · rename_i hcovers
      have hcached : Traffic cfg P
          ((σ.observeBody answer (.scanned turn.watch.row.terms query)).setCache
            ((σ.observeBody answer (.scanned turn.watch.row.terms query)).poller.cache.store
              cfg.historicalPageCacheEntries cfg.historicalPageCacheByteBudget query page)) := by
        refine hseen.setCache ?_
        rintro query' page' ⟨e, he, hkey, hread⟩
        rcases HistoricalPageCache.mem_store he with he | rfl
        · exact hseen.covers query' page' ⟨e, he, hkey, hread⟩
        · simp only [pageOfJson_pageJson, Option.some.injEq] at hread
          subst hkey
          subst hread
          exact hcovers
      exact hcached.consumePage hlaw hshared hturn hpast hasks (hresult ▸ hzero) true
    · exact hseen.consumePage hlaw hshared hturn hpast hasks (hresult ▸ hzero) true
  · rename_i e hresult
    exact hseen.consumePage hlaw hshared hturn hpast hasks (hresult ▸ hzero) true

/-! ## The loop -/

theorem Traffic.sweptOut (h : Traffic cfg P σ) (hloop : LoopTraffic σ.store sweep) :
    Traffic cfg P (σ.setSweep i { sweep with phase := .swept }) :=
  h.setSweep ⟨⟨hloop.waiting, hloop.distinct, hloop.tip, hloop.pages⟩,
    by simp, by simp⟩

theorem Traffic.nextTurn (h : Traffic cfg P σ) (hlaw : RowLaw P)
    (hloop : LoopTraffic σ.store sweep) (clock : Clock) :
    Traffic cfg P (σ.nextTurn cfg i sweep clock) := by
  unfold System.nextTurn
  split
  · exact h.sweptOut hloop
  · rename_i watch rest hwaiting
    split
    · exact h.sweptOut hloop
    · have hdistinct := hloop.distinct
      rw [hwaiting, List.map_cons, List.nodup_cons] at hdistinct
      have hknown := hloop.waiting watch (hwaiting ▸ List.mem_cons_self ..)
      have hpast : Sweep.Past
          { sweep with
            waiting := rest
            outcome := { sweep.outcome with attempted := sweep.outcome.attempted + 1 } } watch :=
        hdistinct.1
      refine h.serviceWatch hlaw ?_ hknown hpast clock
      exact ⟨fun w hw => hloop.waiting w (hwaiting ▸ List.mem_cons_of_mem _ hw), hdistinct.2,
        hloop.tip, hloop.pages⟩

theorem Traffic.failTurn (h : Traffic cfg P σ) (hlaw : RowLaw P)
    (hloop : LoopTraffic σ.store sweep) {watch : WatchRow} (hknown : Known σ.store watch)
    {e : TurnError} (hspares : Spares (α := CustomerTurnOutcome) watch (.error e)) (clock : Clock) :
    Traffic cfg P (σ.failTurn cfg i sweep watch e clock) := by
  have hcleared : Traffic cfg P ((σ.forgetSession watch.id).setCache .empty) := by
    refine (h.forgetSession watch.id).setCache ?_
    rintro query page ⟨entry, hentry, -⟩
    cases hentry
  have hrecorded : Traffic cfg P (((σ.forgetSession watch.id).setCache .empty).perform
      (.recordPollingFailure clock.record watch.id.val
        (persistedFailure cfg clock watch (classifyPollingFailure e)))) := by
    refine hcleared.perform hlaw (by simp) fun r hr now id failure hop hid hpermanent => ?_
    cases hop
    have hsame := hknown.sameWatch_of_mem hr (hid.trans (bindText_val _))
    rw [hsame.expectedSender]
    exact hspares e rfl hpermanent
  have hloop' := hloop.mono (keepsWatches_apply σ.store (.recordPollingFailure clock.record
    watch.id.val (persistedFailure cfg clock watch (classifyPollingFailure e))))
  unfold System.failTurn
  dsimp only
  split
  · exact hrecorded.sweptOut hloop'
  · refine hrecorded.nextTurn hlaw ?_ clock
    exact ⟨hloop'.waiting, hloop'.distinct, hloop'.tip, hloop'.pages⟩

theorem Traffic.settleTurn (h : Traffic cfg P σ) (hlaw : RowLaw P)
    (hloop : LoopTraffic σ.store sweep) {watch : WatchRow} (hknown : Known σ.store watch)
    {result : Except TurnError CustomerTurnOutcome} (hspares : Spares watch result)
    (clock : Clock) : Traffic cfg P (σ.settleTurn cfg i sweep watch result clock) := by
  unfold System.settleTurn
  split
  · dsimp only
    split
    · refine h.nextTurn hlaw ?_ clock
      exact ⟨hloop.waiting, hloop.distinct, hloop.tip, hloop.pages⟩
    · have hcleared : Traffic cfg P (σ.perform (.clearPollingFailure watch.id.val)) :=
        h.perform hlaw (by simp) (by simp)
      have hloop' := hloop.mono (keepsWatches_apply σ.store (.clearPollingFailure watch.id.val))
      refine hcleared.nextTurn hlaw ?_ clock
      exact ⟨hloop'.waiting, hloop'.distinct, hloop'.tip, hloop'.pages⟩
  · exact h.sweptOut hloop
  · exact h.failTurn hlaw hloop hknown hspares clock

theorem Traffic.pruneScanSessions (h : Traffic cfg P σ) : Traffic cfg P σ.pruneScanSessions :=
  h.of_same rfl rfl rfl rfl

theorem Traffic.finishSweep (h : Traffic cfg P σ) : Traffic cfg P (σ.finishSweep i sweep) := by
  unfold System.finishSweep
  split
  · exact h.pruneScanSessions.endSweep i
  · exact h.endSweep i

/-- The candidates of a sweep are watches with ids of their own. -/
theorem Store.nodup_pollingCandidates {s : Store} {now : ℤ} {watches : List WatchRow}
    (h : s.listPollingCandidates now = .ok watches) : (watches.map (·.id)).Nodup := by
  have hrows : (s.rows.map (·.id)).Nodup := by
    have hids := s.constraints.ids
    rwa [Table.UniqueOn, List.filterMap_eq_map'] at hids
  unfold listPollingCandidates at h
  split at h
  · cases h
  · cases h
    refine (((List.perm_insertionSort _ _).map _).nodup_iff).2 ?_
    exact hrows.sublist (List.filter_sublist.map _)

theorem Traffic.openSweep (h : Traffic cfg P σ) (index : ℕ) :
    Traffic cfg P (σ.openSweep index) :=
  h.of_same rfl rfl rfl rfl

theorem Traffic.runOnce (h : Traffic cfg P σ) (hlaw : RowLaw P) (clock : Clock) :
    Traffic cfg P (σ.runOnce cfg clock) := by
  unfold System.runOnce
  split
  · exact h
  · have hpruned := h.pruneScanSessions
    dsimp only
    split
    · refine (hpruned.openSweep _).setSweep ⟨⟨?_, ?_, by simp, ?_⟩, by simp, by simp⟩
      · simp
      · simp
      · simp
    · rename_i watches hlist
      have hperm := System.perm_rotated σ.poller.nextWatchIndex watches
      refine (hpruned.openSweep _).nextTurn hlaw ⟨fun w hw => ?_, ?_, by simp, ?_⟩ clock
      · exact .of_mem (Store.mem_of_mem_pollingCandidates hlist (hperm.mem_iff.1 hw)).1
      · exact (hperm.map _).nodup_iff.2 (Store.nodup_pollingCandidates hlist)
      · simp

/-- **A sweep goes on.** -/
theorem Traffic.resumePoll (h : Traffic cfg P σ) (hlaw : RowLaw P) (answer : Answer)
    (clock : Clock) : Traffic cfg P (σ.resumePoll cfg i answer clock) := by
  unfold System.resumePoll
  split
  · exact h
  · rename_i sweep hsweep
    have hs := h.sweeps i sweep hsweep
    have hloop := hs.toLoopTraffic
    split
    · rename_i turn hphase
      obtain ⟨hturn, hpast⟩ := hs.serving turn hphase
      split
      · exact h.closeAtTip hloop hturn hpast answer
      · exact h.closeAtBlock hlaw hloop hturn hpast _ answer
      · rename_i tip hpoint
        refine h.scanTo hloop hturn hpast fun e he => hturn.tip e ?_
        rw [hpoint, he]
      · have htip : ∀ e, getCurrentRound .health answer = .error e → ¬e.terminal :=
          fun e he => not_terminal_of_getCurrentRound he
        have hpast' : Sweep.Past
            { sweep with sharedTip := some (getCurrentRound .health answer) } turn.initial := hpast
        refine h.scanTo ?_ hturn hpast' htip
        exact ⟨hloop.waiting, hloop.distinct, fun e he => htip e (Option.some.inj he), hloop.pages⟩
      · rename_i ref query result fresh hpoint
        obtain ⟨hasks, hzero⟩ := hturn.page _ _ _ hpoint
        exact h.consumePage hlaw hloop hturn hpast hasks (hzero result fresh rfl) fresh
      · rename_i ref query hpoint
        exact h.receivePage hlaw hloop hturn hpast (hturn.page _ _ _ hpoint).1 answer
    · rename_i watch result hphase
      obtain ⟨hknown, hspares, -⟩ := hs.served watch result hphase
      exact h.settleTurn hlaw hloop hknown hspares clock
    · exact h.finishSweep

/-! ## Every event -/

/-- A call from outside leaves lawful rows lawful; the other events are not such calls. -/
def Event.Keeps (P : WatchRow → Prop) : Event → Prop
  | .call op =>
      (∀ r r', RowChange op.1 r r' → P r → P r') ∧
        ∀ now id spec intent, op.1 = .prepareWatch now id spec intent →
          ∀ config expiresAt, P (preparedRow config id spec intent now expiresAt)
  | _ => True

theorem Traffic.call (h : Traffic cfg P σ) {op : {op : StoreOp // op.external}}
    (hkeeps : (Event.call op).Keeps P) : Traffic cfg P (σ.perform op.1) := by
  refine h.of_poller (keepsWatches_apply _ op.1) (fun r' hr' => ?_) rfl fun _ _ _ hmem => hmem
  rcases σ.store.apply_cases op.1 with ⟨now, id, spec, intent, expiresAt, hop, hcreated⟩ | hrewrites
  · rw [System.perform_store, hcreated.rows, List.mem_append, List.mem_singleton] at hr'
    rcases hr' with hr' | rfl
    · exact h.rows r' hr'
    · exact hkeeps.2 now id spec intent hop _ _
  · obtain ⟨r, hr, heq | hchange⟩ := hrewrites.exists_of_mem_right hr'
    · exact heq ▸ h.rows r hr
    · exact hkeeps.1 r r' hchange (h.rows r hr)

theorem Traffic.restart (h : Traffic cfg P σ) (hlaw : RowLaw P) (config : StoreConfig) :
    Traffic cfg P (σ.restart config) where
  rows := by
    have hrows : ∀ r ∈ (σ.store.apply (.reopen config)).rows, P r :=
      hlaw.apply h.rows (by simp) (by simp)
    exact hrows
  asked fetcher query body hmem := by
    obtain ⟨⟨w, hknown, hterms⟩, hasks⟩ := h.asked fetcher query body hmem
    exact ⟨⟨w, keepsWatches_apply σ.store (.reopen config) w hknown, hterms⟩, hasks⟩
  covers query page hholds := by
    obtain ⟨e, he, -⟩ := hholds
    cases he
  sweeps i sweep hsweep := by cases hsweep

/-- **One stretch of code keeps the traffic in order.** -/
theorem Traffic.step (h : Traffic cfg P σ) (hlaw : RowLaw P) {e : Event} (he : e.Keeps P) :
    Traffic cfg P (σ.step cfg e) := by
  cases e with
  | call op => exact h.call he
  | poll clock => exact h.runOnce hlaw clock
  | resumePoll i answer clock => exact h.resumePoll hlaw answer clock
  | turnPoller => exact h.of_same rfl rfl rfl rfl
  | stopPolling =>
      simp only [System.step]
      split
      · exact h
      · exact h.of_same rfl rfl rfl rfl
  | restart config => exact h.restart hlaw config
  | reconcile clock => exact h.elsewhere hlaw (elsewhere_step σ rfl)
  | resumeReconcile answer clock => exact h.elsewhere hlaw (elsewhere_step σ rfl)
  | turnReconciler => exact h.elsewhere hlaw (elsewhere_step σ rfl)
  | stopReconciling => exact h.elsewhere hlaw (elsewhere_step σ rfl)
  | settle watchId evidence => exact h.elsewhere hlaw (elsewhere_step σ rfl)
  | resumeHook k answer clock => exact h.elsewhere hlaw (elsewhere_step σ rfl)

theorem Traffic.boot (cfg : WorkerConfig) (P : WatchRow → Prop) (config : StoreConfig) :
    Traffic cfg P (.boot (.empty config)) where
  rows r hr := by cases hr
  asked fetcher query body hmem := by cases hmem
  covers query page hholds := by
    obtain ⟨e, he, -⟩ := hholds
    cases he
  sweeps i sweep hsweep := by cases hsweep

/-- **Every run keeps the traffic in order.** -/
theorem traffic_run (cfg : WorkerConfig) (hlaw : RowLaw P) (config : StoreConfig)
    {es : List Event} (hes : ∀ e ∈ es, e.Keeps P) :
    Traffic cfg P (System.run cfg (.boot (.empty config)) es) :=
  Runs.run_invariant (fun _ _ he h => h.step hlaw he) (Runs.admissible_of_forall hes)
    (.boot cfg P config)

end RoundWatch
