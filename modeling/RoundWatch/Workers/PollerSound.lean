import RoundWatch.Workers.Provenance

/-!
# The poller keeps the invariant

One lemma for each stretch of the poller, in the order of its code, and
`Sound.resumePoll` and `Sound.runOnce` for what the scheduler can call.
-/

namespace RoundWatch

open JsText

variable {cfg : WorkerConfig} {σ : System} {i : ℕ} {sweep : Sweep} {turn : PollTurn}

/-! ## A turn, up to an `await` -/

theorem Sound.served (h : Sound cfg σ)
    (hloop : LoopSound cfg σ sweep) (watch : WatchRow)
    (result : Except TurnError CustomerTurnOutcome) :
    Sound cfg (σ.served i sweep watch result) :=
  h.setSweep ⟨⟨hloop.waiting, hloop.shared⟩, fun _ hturn => by cases hturn⟩

theorem Sound.awaitAt (h : Sound cfg σ)
    (hloop : LoopSound cfg σ sweep) {turn : PollTurn} (hturn : TurnSound cfg σ turn) :
    Sound cfg (σ.awaitAt i sweep turn) := by
  refine h.setSweep ⟨⟨hloop.waiting, hloop.shared⟩, fun turn' heq => ?_⟩
  cases heq
  exact hturn

theorem Sound.sendRequest (h : Sound cfg σ)
    (hloop : LoopSound cfg σ sweep) {turn : PollTurn} (hturn : TurnSound cfg σ turn) :
    Sound cfg (σ.sendRequest i sweep turn) := by
  unfold System.sendRequest
  split
  · exact h.served hloop _ _
  · exact (h.observe _).awaitAt (hloop.mono (extends_observe _)) (hturn.mono (extends_observe _))

theorem Sound.withRequest (h : Sound cfg σ)
    (hloop : LoopSound cfg σ sweep) {turn : PollTurn} {operation : PollTurn → System}
    (hop : ∀ used, Sound cfg (operation { turn with used := used })) :
    Sound cfg (σ.withRequest i sweep turn operation) := by
  unfold System.withRequest
  split
  · exact (h.observe _).served (hloop.mono (extends_observe _)) _ _
  · exact hop _

/-- The page behind the token of a session object. -/
theorem Sound.requestPage (h : Sound cfg σ)
    (hloop : LoopSound cfg σ sweep) {turn : PollTurn}
    (htracked : Tracked σ.store turn.watch.row.id turn.watch.row.terms) {ref : ℕ}
    (href : ref < σ.poller.nextObject)
    (hwatch : (σ.poller.objects ref).watchId = turn.watch.row.id)
    (hmin : (σ.poller.objects ref).minRound = turn.watch.scanAfterRound + 1) :
    Sound cfg (σ.requestPage cfg i sweep turn ref) := by
  refine h.withRequest hloop fun used => ?_
  dsimp only
  split
  · exact h.served hloop _ _
  · rename_i query hquery
    obtain ⟨terms, htracked', hcleared⟩ := h.poller.objects ref href
    rw [hwatch] at htracked'
    cases htracked.unique htracked'
    -- whatever is held for the query was answered, so the turn may wait for it
    have hturn : ∀ held : Option (Except TurnError TransactionPage × Bool),
        (∀ page fresh, held = some (.ok page, fresh) → Answered cfg.scanQueryVariant σ.log query page) →
        TurnSound cfg σ { turn with used := used, point := .page ref query held } := by
      intro held hheld
      refine ⟨htracked, fun ref' query' held' hpoint => ?_⟩
      cases hpoint
      exact ⟨href, hwatch, hmin, ⟨_, hcleared, hquery⟩, hheld⟩
    split
    · rename_i page hpage
      have hanswered := h.poller.cache query page (HistoricalPageCache.holds_of_get hpage)
      refine (h.setCache ?_).awaitAt (hloop.mono (extends_setCache _)) (TurnSound.mono ?_
        (extends_setCache _))
      · rintro query' page' ⟨e, he, hkey, hread⟩
        exact h.poller.cache query' page' ⟨e, HistoricalPageCache.mem_get he, hkey, hread⟩
      · refine hturn _ fun page' fresh heq => ?_
        cases heq
        exact hanswered
    · split
      · rename_i shared hshared
        refine h.awaitAt hloop (hturn _ fun page fresh heq => ?_)
        have hkey : shared.1 = query := by simpa using List.find?_some hshared
        have hmem := List.mem_of_find?_eq_some hshared
        refine hloop.shared query page ?_
        have hpage : shared.2 = .ok page := by
          simpa using congrArg (fun held => held.map Prod.fst) heq
        rw [← hkey, ← hpage]
        exact hmem
      · exact h.sendRequest hloop (hturn none fun _ _ heq => by cases heq)

theorem Sound.requestTip (h : Sound cfg σ)
    (hloop : LoopSound cfg σ sweep) {turn : PollTurn}
    (htracked : Tracked σ.store turn.watch.row.id turn.watch.row.terms) :
    Sound cfg (σ.requestTip i sweep turn) := by
  refine h.withRequest hloop fun used => ?_
  have hturn : ∀ held, TurnSound cfg σ { turn with used := used, point := .sweepTip held } :=
    fun held => ⟨htracked, fun _ _ _ hpoint => by cases hpoint⟩
  dsimp only
  split
  · exact h.awaitAt hloop (hturn _)
  · exact h.sendRequest hloop (hturn none)

theorem objects_retainSession (id : SqlText) (watch : Option WatchRow) :
    (σ.retainSession id watch).poller.objects = σ.poller.objects := by
  unfold System.retainSession
  split
  · split <;> rfl
  · rfl

theorem Sound.scan (h : Sound cfg σ)
    (hloop : LoopSound cfg σ sweep)
    (htracked : Tracked σ.store turn.watch.row.id turn.watch.row.terms) :
    Sound cfg (σ.scan cfg i sweep turn) := by
  unfold System.scan
  split
  · rename_i closingRound _
    have hexpired := h.performs (.markExpired turn.watch.row.id.val turn.watch.scanAfterRound
      closingRound) fun _ _ => trivial
    exact hexpired.served (hloop.mono (extends_perform h _)) _ _
  · have hkept := h.retainSession turn.watch.row.id (some turn.watch.row)
    have hext : Extends σ (σ.retainSession turn.watch.row.id (some turn.watch.row)) :=
      extends_retainSession _ _
    dsimp only
    split
    · rename_i ref href
      obtain ⟨hlt, hwatch⟩ := hkept.poller.sessions _ ref href
      refine hkept.requestPage (hloop.mono hext) (htracked.mono hext) hlt hwatch ?_
      have hfit := (System.sessions_retainSession.1 href).2
      rw [objects_retainSession]
      simp only [isScanSessionCompatible, Option.any_some, turn.watch.scan_eq, Bool.and_eq_true,
        beq_iff_eq] at hfit
      exact hfit.1.1.2
    · exact hkept.requestTip (hloop.mono hext) (htracked.mono hext)

theorem Sound.serveClaimed (h : Sound cfg σ) (hloop : LoopSound cfg σ sweep) {initial : WatchRow}
    {watch : ScanWatch} (htracked : Tracked σ.store watch.row.id watch.row.terms) (number : ℕ)
    (clock : Clock) : Sound cfg (σ.serveClaimed cfg i sweep number initial watch clock) := by
  unfold System.serveClaimed
  dsimp only
  split
  · exact h.withRequest hloop fun used =>
      h.sendRequest hloop ⟨htracked, fun _ _ _ hpoint => by cases hpoint⟩
  · exact h.scan hloop htracked

theorem Sound.serviceWatch (h : Sound cfg σ) (hloop : LoopSound cfg σ sweep) {initial : WatchRow}
    (htracked : Tracked σ.store initial.id initial.terms) (clock : Clock) :
    Sound cfg (σ.serviceWatch cfg i sweep initial clock) := by
  unfold System.serviceWatch
  split
  · exact h.served hloop _ _
  · rename_i watch hwatch
    split
    · exact h.served hloop _ _
    · dsimp only
      have hclaimed := h.claimUnit .polling clock.claim initial.id
        (.polling watch.scanAfterRound initial.closingRound initial.pollingFailureCount)
      have hext := extends_claimUnit h .polling clock.claim initial.id
        (.polling watch.scanAfterRound initial.closingRound initial.pollingFailureCount)
      have hloop' := hloop.mono hext
      split
      · exact hclaimed.served hloop' _ _
      · exact (hclaimed.forgetSession _).served (hloop'.mono (extends_forgetSession _)) _ _
      · exact (hclaimed.retainSession _ _).served (hloop'.mono (extends_retainSession _ _)) _ _
      · refine hclaimed.serveClaimed hloop' ?_ _ clock
        rw [ScanWatch.of?_row hwatch]
        exact htracked.mono hext

/-! ## Behind an answer -/

theorem extends_observeBody (answer : Answer) (observation : Json → Observation) :
    Extends σ (σ.observeBody answer observation) := by
  unfold System.observeBody
  split
  · exact extends_observe _
  · exact .refl σ

theorem Sound.observeBody (h : Sound cfg σ) (answer : Answer)
    (observation : Json → Observation) : Sound cfg (σ.observeBody answer observation) := by
  unfold System.observeBody
  split
  · exact h.observe _
  · exact h

theorem Sound.closeAtTip (h : Sound cfg σ) (hloop : LoopSound cfg σ sweep)
    (hturn : TurnSound cfg σ turn) (answer : Answer) :
    Sound cfg (σ.closeAtTip i sweep turn answer) := by
  unfold System.closeAtTip
  split
  · exact h.served hloop _ _
  · exact h.withRequest hloop fun used => h.sendRequest hloop
      ⟨hturn.tracked, fun _ _ _ hpoint => by cases hpoint⟩

theorem Sound.closeAtBlock (h : Sound cfg σ)
    (hloop : LoopSound cfg σ sweep)
    (hturn : TurnSound cfg σ turn) (tip : ℤ) (answer : Answer) :
    Sound cfg (σ.closeAtBlock cfg i sweep turn tip answer) := by
  have hseen := h.observeBody answer (.checkpointed tip)
  have hext : Extends σ (σ.observeBody answer (.checkpointed tip)) := extends_observeBody _ _
  have hloop' := hloop.mono hext
  have htracked := hturn.tracked.mono hext
  unfold System.closeAtBlock
  dsimp only
  split
  · exact hseen.served hloop' _ _
  · rename_i block hblock
    split
    · rename_i hdeadline
      obtain ⟨body, rfl, hparse⟩ := received_eq_ok hblock
      obtain ⟨hround, htime⟩ := parseBlock_eq_ok hparse
      -- the row that is closed has the deadline of the turn's watch
      have hclosed : Sound cfg ((σ.observeBody (.body body)
          (.checkpointed tip)).perform (.setClosingRound turn.watch.row.id.val block.round)) := by
        refine hseen.perform fun r hr r' hchange => ?_
        cases hchange with
        | closeAt hid _ _ =>
            have hterms := htracked.eq_of_mem hr (hid.trans (bindText_val _))
            have hexpires : r.expiresAt = some turn.watch.expiresAt :=
              (congrArg WatchTerms.expiresAt hterms).trans turn.watch.expires_eq
            exact ⟨tip, body, block.timestamp, turn.watch.expiresAt, List.mem_cons_self ..,
              hround, htime, hexpires, hdeadline⟩
      have hext' := extends_perform hseen
        (.setClosingRound turn.watch.row.id.val block.round)
      split
      · rename_i watch hwatch
        obtain ⟨row, hrow, hof⟩ := Option.bind_eq_some_iff.1 hwatch
        refine hclosed.scan (hloop'.mono hext') ?_
        rw [ScanWatch.of?_row hof]
        exact (htracked.mono hext').of_getWatch hrow
      · exact hclosed.served (hloop'.mono hext') _ _
    · exact hseen.scan hloop' htracked

theorem Sound.scanTo (h : Sound cfg σ)
    (hloop : LoopSound cfg σ sweep)
    (hturn : TurnSound cfg σ turn) (tip : Except TurnError ℤ) :
    Sound cfg (σ.scanTo cfg i sweep turn tip) := by
  unfold System.scanTo
  split
  · exact h.served hloop _ _
  · dsimp only
    split
    · exact h.served hloop _ _
    · refine (h.openSession hturn.tracked rfl).requestPage
        (hloop.mono (extends_openSession _)) hturn.tracked ?_ ?_ ?_
      · exact Nat.lt_succ_self _
      · simp [System.openSession]
      · simp [System.openSession]

/-- What a turn at its last point knows of the page it gets. -/
theorem PageSound.page {watch : ScanWatch} {ref : ℕ} {query : ScanQuery}
    {held : Option (Except TurnError TransactionPage × Bool)}
    (h : PageSound cfg σ watch ref query held) {page : TransactionPage}
    (hanswered : Answered cfg.scanQueryVariant σ.log query page)
    (hcovers : (σ.poller.objects ref).maxRound ≤ page.currentRound)
    (hblank : ∀ t ∈ page.transactions, matchesWatch t watch.row.terms = false) :
    ∃ token, Cleared cfg.scanQueryVariant σ.log watch.row.terms (σ.poller.objects ref).minRound
        (σ.poller.objects ref).maxRound token ∧
      BlankPage cfg.scanQueryVariant σ.log watch.row.terms (σ.poller.objects ref).minRound
        (σ.poller.objects ref).maxRound token page := by
  obtain ⟨token, hcleared, hquery⟩ := h.asked
  exact ⟨token, hcleared, ⟨query, hquery, hanswered⟩, hcovers, hblank⟩

/-- A match on an answered page was seen in the log. -/
theorem PageSound.seen {watch : ScanWatch} {ref : ℕ} {query : ScanQuery}
    {held : Option (Except TurnError TransactionPage × Bool)}
    (h : PageSound cfg σ watch ref query held) {page : TransactionPage}
    (hanswered : Answered cfg.scanQueryVariant σ.log query page)
    (hcovers : (σ.poller.objects ref).maxRound ≤ page.currentRound)
    {t : IndexedWatchTransaction} (ht : t ∈ page.transactions)
    (hmatch : matchesWatch t watch.row.terms = true) :
    Seen cfg.scanQueryVariant σ.log watch.row.terms (bindText t.transaction) t.round := by
  obtain ⟨token, -, hquery⟩ := h.asked
  obtain ⟨amount, hbuilt⟩ := buildWatchSearchUrl_eq_ok hquery
  obtain ⟨fetcher, body, hmem, hparse⟩ := hanswered
  obtain ⟨⟨items, hitems, hall, -⟩, hcurrent, -⟩ := parseScan_eq_ok hparse
  obtain ⟨item, hitem, hshows, hmin, hmax⟩ := hall t ht
  rw [hbuilt.minRound] at hmin
  rw [hbuilt.maxRound] at hmax
  exact ⟨_, _, token, query, fetcher, body, items, item, t, hquery, hmem, hitems, hitem, hshows,
    hmatch, hmin, hmax, ⟨_, hcurrent, hcovers⟩, rfl, rfl⟩

theorem Sound.finishWindow (h : Sound cfg σ) (hloop : LoopSound cfg σ sweep)
    (htracked : Tracked σ.store turn.watch.row.id turn.watch.row.terms) {maxRound : ℤ}
    (hcovered : Covered cfg.scanQueryVariant σ.log turn.watch.row.terms (turn.watch.scanAfterRound + 1) maxRound)
    (fresh : Bool) : Sound cfg (σ.finishWindow i sweep turn maxRound fresh) := by
  have hadvanced : Sound cfg (σ.perform (.advanceScanRound turn.watch.row.id.val
      turn.watch.scanAfterRound maxRound)) := by
    refine h.perform fun r hr r' hchange => ?_
    cases hchange with
    | advanceTo hid _ _ _ =>
        have hterms := htracked.eq_of_mem hr (hid.trans (bindText_val _))
        show Covered cfg.scanQueryVariant σ.log r.terms _ _
        rw [hterms]
        exact hcovered
  have hkept := hadvanced.forgetSession turn.watch.row.id
  have hloop' := (hloop.mono (extends_perform h (.advanceScanRound turn.watch.row.id.val
    turn.watch.scanAfterRound maxRound))).mono (extends_forgetSession turn.watch.row.id)
  unfold System.finishWindow
  dsimp only
  split
  · exact hkept.served hloop' _ _
  · split
    · rename_i updated _
      split
      · rename_i closingRound scanAfterRound _ _
        split
        · have hexpired := hkept.performs (.markExpired updated.id.val scanAfterRound
            closingRound) fun _ _ => trivial
          exact hexpired.served (hloop'.mono (extends_perform hkept _)) _ _
        · exact hkept.served hloop' _ _
      · exact hkept.served hloop' _ _
    · exact hkept.served hloop' _ _

/-- **A page is consumed**: a match is recorded on the evidence of the page, a blank page
clears its window one page further. -/
theorem Sound.consumePage (h : Sound cfg σ) (hloop : LoopSound cfg σ sweep)
    (htracked : Tracked σ.store turn.watch.row.id turn.watch.row.terms) {ref : ℕ}
    {query : ScanQuery} {held : Option (Except TurnError TransactionPage × Bool)}
    (hpage : PageSound cfg σ turn.watch ref query held)
    {result : Except TurnError TransactionPage}
    (hanswered : ∀ page, result = .ok page → Answered cfg.scanQueryVariant σ.log query page) (fresh : Bool) :
    Sound cfg (σ.consumePage i sweep turn ref result fresh) := by
  unfold System.consumePage
  split
  · exact h.served hloop _ _
  · rename_i page
    have hanswer := hanswered page rfl
    dsimp only
    split
    · exact h.served hloop _ _
    · rename_i hcovers
      have hcovers := Int.not_lt.1 hcovers
      split
      · rename_i t hfound
        have hmatch : matchesWatch t turn.watch.row.terms = true := by
          simpa using List.find?_some hfound
        have hseen := hpage.seen hanswer hcovers (List.mem_of_find?_eq_some hfound) hmatch
        have hmatched : Sound cfg (σ.perform
            (.markMatched turn.watch.row.id.val t.transaction t.round)) := by
          refine h.perform fun r hr r' hchange => ?_
          cases hchange with
          | matchWith hid _ =>
              have hterms := htracked.eq_of_mem hr (hid.trans (bindText_val _))
              show Seen cfg.scanQueryVariant σ.log r.terms _ _
              rw [hterms]
              exact hseen
        exact (hmatched.forgetSession _).served
          ((hloop.mono (extends_perform h _)).mono (extends_forgetSession _)) _ _
      · rename_i hnone
        have hblank : ∀ t ∈ page.transactions, matchesWatch t turn.watch.row.terms = false := by
          intro t ht
          simpa using List.find?_eq_none.1 hnone t ht
        obtain ⟨token, hcleared, hblankPage⟩ := hpage.page hanswer hcovers hblank
        split
        · rename_i next hnext
          split
          · exact h.served hloop _ _
          · have htracked' : Tracked σ.store (σ.poller.objects ref).watchId
                turn.watch.row.terms := by
              rw [hpage.watchId]
              exact htracked
            have hcontinued : Sound cfg (σ.continueSession ref next) :=
              h.continueSession htracked' (.next hcleared hblankPage hnext)
            exact hcontinued.served ⟨hloop.waiting, hloop.shared⟩ _ _
        · rename_i hend
          refine h.finishWindow hloop htracked ?_ fresh
          rw [← hpage.minRound]
          exact ⟨token, page, hcleared, hblankPage, hend⟩

theorem Sound.receivePage (h : Sound cfg σ)
    (hloop : LoopSound cfg σ sweep)
    (htracked : Tracked σ.store turn.watch.row.id turn.watch.row.terms) {ref : ℕ}
    {query : ScanQuery}
    (hpage : PageSound cfg σ turn.watch ref query none) (answer : Answer) :
    Sound cfg (σ.receivePage cfg i sweep turn ref query answer) := by
  have hseen := h.observeBody answer (.scanned turn.watch.row.terms query)
  have hext : Extends σ (σ.observeBody answer (.scanned turn.watch.row.terms query)) :=
    extends_observeBody _ _
  -- a page that was read from the answer is an answered page
  have hanswered : ∀ page, searchWatchPage cfg.scanQueryVariant turn.watch.row.terms query
      answer = .ok page → Answered cfg.scanQueryVariant
        (σ.observeBody answer (.scanned turn.watch.row.terms query)).log query page := by
    intro page hresult
    obtain ⟨body, rfl, hparse⟩ := received_eq_ok hresult
    exact ⟨turn.watch.row.terms, body, List.mem_cons_self .., hparse⟩
  have hshared : LoopSound cfg
      (σ.observeBody answer (.scanned turn.watch.row.terms query))
      { sweep with sharedPages := (query, searchWatchPage cfg.scanQueryVariant
        turn.watch.row.terms query answer) :: sweep.sharedPages } := by
    have hold := hloop.mono hext
    refine ⟨hold.waiting, fun query' page hmem => ?_⟩
    rcases List.mem_cons.1 hmem with heq | hmem
    · rw [Prod.mk.injEq] at heq
      rw [heq.1]
      exact hanswered page heq.2.symm
    · exact hold.shared query' page hmem
  unfold System.receivePage
  dsimp only
  split
  · rename_i page hresult
    split
    · have hcached : Sound cfg
          ((σ.observeBody answer (.scanned turn.watch.row.terms query)).setCache
            ((σ.observeBody answer (.scanned turn.watch.row.terms query)).poller.cache.store
              cfg.historicalPageCacheEntries cfg.historicalPageCacheByteBudget query page)) := by
        refine hseen.setCache ?_
        rintro query' page' ⟨e, he, hkey, hread⟩
        rcases HistoricalPageCache.mem_store he with he | rfl
        · exact hseen.poller.cache query' page' ⟨e, he, hkey, hread⟩
        · simp only [pageOfJson_pageJson, Option.some.injEq] at hread
          subst hkey
          subst hread
          exact hanswered page hresult
      exact hcached.consumePage (hshared.mono (extends_setCache _))
        ((htracked.mono hext).mono (extends_setCache _))
        ((hpage.mono hext).mono (extends_setCache _)) hanswered true
    · exact hseen.consumePage hshared (htracked.mono hext) (hpage.mono hext) hanswered true
  · exact hseen.consumePage hshared (htracked.mono hext) (hpage.mono hext) hanswered true

/-! ## The loop -/

/-- The loop is over. -/
theorem Sound.sweptOut (h : Sound cfg σ) (hloop : LoopSound cfg σ sweep) :
    Sound cfg (σ.setSweep i { sweep with phase := .swept }) :=
  h.setSweep ⟨⟨hloop.waiting, hloop.shared⟩, fun _ hturn => by cases hturn⟩

theorem Sound.nextTurn (h : Sound cfg σ) (hloop : LoopSound cfg σ sweep) (clock : Clock) :
    Sound cfg (σ.nextTurn cfg i sweep clock) := by
  unfold System.nextTurn
  split
  · exact h.sweptOut hloop
  · rename_i watch rest hwaiting
    split
    · exact h.sweptOut hloop
    · refine h.serviceWatch ?_ (hloop.waiting watch (hwaiting ▸ List.mem_cons_self ..)) clock
      exact ⟨fun w hw => hloop.waiting w (hwaiting ▸ List.mem_cons_of_mem _ hw), hloop.shared⟩

theorem Sound.failTurn (h : Sound cfg σ) (hloop : LoopSound cfg σ sweep) (watch : WatchRow)
    (e : TurnError) (clock : Clock) : Sound cfg (σ.failTurn cfg i sweep watch e clock) := by
  have hcleared : Sound cfg ((σ.forgetSession watch.id).setCache .empty) := by
    refine (h.forgetSession watch.id).setCache ?_
    rintro query page ⟨entry, hentry, -⟩
    cases hentry
  have hrecorded := hcleared.performs (.recordPollingFailure clock.record watch.id.val
    (persistedFailure cfg clock watch (classifyPollingFailure e))) fun _ _ => trivial
  have hloop' := ((hloop.mono (extends_forgetSession watch.id)).mono (extends_setCache .empty)).mono
    (extends_perform hcleared (.recordPollingFailure clock.record watch.id.val
      (persistedFailure cfg clock watch (classifyPollingFailure e))))
  unfold System.failTurn
  dsimp only
  split
  · exact hrecorded.sweptOut hloop'
  · refine hrecorded.nextTurn ?_ clock
    exact ⟨hloop'.waiting, hloop'.shared⟩

theorem Sound.settleTurn (h : Sound cfg σ) (hloop : LoopSound cfg σ sweep) (watch : WatchRow)
    (result : Except TurnError CustomerTurnOutcome) (clock : Clock) :
    Sound cfg (σ.settleTurn cfg i sweep watch result clock) := by
  unfold System.settleTurn
  split
  · dsimp only
    split
    · refine h.nextTurn ?_ clock
      exact ⟨hloop.waiting, hloop.shared⟩
    · have hcleared := h.performs (.clearPollingFailure watch.id.val) fun _ _ => trivial
      have hloop' := hloop.mono (extends_perform h (.clearPollingFailure watch.id.val))
      refine hcleared.nextTurn ?_ clock
      exact ⟨hloop'.waiting, hloop'.shared⟩
  · exact h.sweptOut hloop
  · exact h.failTurn hloop watch _ clock

theorem Sound.finishSweep (h : Sound cfg σ) : Sound cfg (σ.finishSweep i sweep) := by
  unfold System.finishSweep
  split
  · exact h.pruneScanSessions.endSweep i
  · exact h.endSweep i

theorem Sound.openSweep (h : Sound cfg σ) (index : ℕ) : Sound cfg (σ.openSweep index) :=
  h.of_sessions (fun _ _ href => href) rfl rfl rfl rfl

/-- A polling candidate is an active row. -/
theorem Store.mem_of_mem_pollingCandidates {s : Store} {now : ℤ} {watches : List WatchRow}
    (h : s.listPollingCandidates now = .ok watches) {w : WatchRow} (hw : w ∈ watches) :
    w ∈ s.rows ∧ w.state = .active := by
  unfold listPollingCandidates at h
  split at h
  · cases h
  · cases h
    rw [List.mem_insertionSort, List.mem_filter] at hw
    simp only [Bool.and_eq_true, beq_iff_eq] at hw
    exact ⟨hw.1, hw.2.1⟩

/-- An active row is tracked. -/
theorem Sound.tracked_of_active (h : Sound cfg σ) {r : WatchRow} (hr : r ∈ σ.store.rows)
    (hactive : r.state = .active) : Tracked σ.store r.id r.terms := by
  refine .of_mem hr ?_
  obtain ⟨-, activated, -, hactivation, -⟩ :=
    (h.rows r hr).lifecycle.funded (by simp [WatchRow.funded, hactive])
  simp [hactivation]

theorem Sound.runOnce (h : Sound cfg σ) (clock : Clock) : Sound cfg (σ.runOnce cfg clock) := by
  unfold System.runOnce
  split
  · exact h
  · have hpruned := h.pruneScanSessions
    dsimp only
    split
    · exact (hpruned.openSweep _).setSweep
        ⟨⟨by simp, by simp⟩, fun _ hturn => by cases hturn⟩
    · rename_i watches hlist
      refine (hpruned.openSweep _).nextTurn ⟨fun w hw => ?_, by simp⟩ clock
      obtain ⟨hrow, hactive⟩ := Store.mem_of_mem_pollingCandidates hlist
        ((System.perm_rotated _ _).mem_iff.1 hw)
      exact hpruned.tracked_of_active hrow hactive

/-- **A sweep goes on.** -/
theorem Sound.resumePoll (h : Sound cfg σ) (answer : Answer) (clock : Clock) :
    Sound cfg (σ.resumePoll cfg i answer clock) := by
  unfold System.resumePoll
  split
  · exact h
  · rename_i sweep hsweep
    have hs := h.poller.sweeps i sweep hsweep
    have hloop := hs.toLoopSound
    split
    · rename_i turn hphase
      have hturn := hs.turn turn hphase
      split
      · exact h.closeAtTip hloop hturn answer
      · exact h.closeAtBlock hloop hturn _ answer
      · exact h.scanTo hloop hturn _
      · refine h.scanTo ?_ hturn _
        exact ⟨hloop.waiting, hloop.shared⟩
      · rename_i ref query result fresh hpoint
        have hpage := hturn.page _ _ _ hpoint
        refine h.consumePage hloop hturn.tracked hpage (fun page hresult => ?_) fresh
        exact hpage.held page fresh (by rw [hresult])
      · rename_i ref query hpoint
        exact h.receivePage hloop hturn.tracked (hturn.page _ _ _ hpoint) answer
    · exact h.settleTurn hloop _ _ clock
    · exact h.finishSweep

end RoundWatch
