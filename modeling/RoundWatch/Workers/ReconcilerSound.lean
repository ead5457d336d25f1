import RoundWatch.Workers.PollerSound

/-!
# The reconciler, the hooks and whole runs keep the invariant

* `AbsenceSound.read` — one more empty page of an absence proof;
* one lemma for each stretch of the reconciler and of the after-settle hook;
* `Sound.step` and `sound_run` — the invariant holds in every run.
-/

namespace RoundWatch

open JsText

variable {cfg : WorkerConfig} {σ σ' : System} {loop : ReconcileLoop} {turn : ReconcileTurn}

/-! ## The ways the reconciler changes -/

/-- A step of the reconciler's memory. -/
theorem Sound.of_reconciler (h : Sound cfg σ) (hstore : σ'.store = σ.store)
    (hlog : σ'.log = σ.log) (hpoller : σ'.poller = σ.poller) (hhooks : σ'.hooks = σ.hooks)
    (hreconciler : ReconcilerSound σ') : Sound cfg σ' where
  rows r hr := hlog ▸ h.rows r (hstore ▸ hr)
  poller := h.poller.mono (.of_same (hlog ▸ List.suffix_refl _) (by rw [hstore])
    (by rw [hpoller]) (by rw [hpoller])) hpoller
  reconciler := hreconciler
  hooks k hook hhook :=
    ⟨(h.hooks k hook (hhooks ▸ hhook)).canonical,
      hstore ▸ (h.hooks k hook (hhooks ▸ hhook)).expecting⟩

theorem Sound.setReconcileSweep (h : Sound cfg σ) {sweep : Option ReconcileSweep}
    (hloop : ∀ s, sweep = some s → ReconcileLoopSound σ s.toReconcileLoop)
    (hturn : ∀ s turn, sweep = some s → s.phase = .serving turn → ReconcileTurnSound σ turn) :
    Sound cfg (σ.setReconcileSweep sweep) := by
  have hext : Extends σ (σ.setReconcileSweep sweep) :=
    .of_same (List.suffix_refl _) rfl rfl rfl
  exact h.of_reconciler rfl rfl rfl rfl ⟨h.reconciler.sessions,
    fun s hs => (hloop s hs).mono hext, fun s turn hs hphase => (hturn s turn hs hphase).mono hext⟩

theorem extends_setAbsenceSession (id : SqlText) (session : Option AbsenceProofSession) :
    Extends σ (σ.setAbsenceSession id session) :=
  .of_same (List.suffix_refl _) rfl rfl rfl

/-- Sessions may be dropped. -/
theorem Sound.of_absenceSessions (h : Sound cfg σ)
    {sessions : SqlText → Option AbsenceProofSession}
    (hsound : ∀ id session, sessions id = some session → AbsenceSound σ.log session) :
    Sound cfg { σ with reconciler := { σ.reconciler with sessions := sessions } } := by
  have hext : Extends σ { σ with reconciler := { σ.reconciler with sessions := sessions } } :=
    .of_same (List.suffix_refl _) rfl rfl rfl
  exact h.of_reconciler rfl rfl rfl rfl ⟨hsound,
    fun s hs => (h.reconciler.loop s hs).mono hext,
    fun s turn hs hphase => (h.reconciler.turn s turn hs hphase).mono hext⟩

theorem Sound.setAbsenceSession (h : Sound cfg σ) {id : SqlText}
    {session : Option AbsenceProofSession}
    (hsound : ∀ s, session = some s → AbsenceSound σ.log s) :
    Sound cfg (σ.setAbsenceSession id session) := by
  refine h.of_absenceSessions fun id' s hs => ?_
  by_cases hid : id' = id
  · subst hid
    rw [Function.update_self] at hs
    exact hsound s hs
  · rw [Function.update_of_ne hid] at hs
    exact h.reconciler.sessions id' s hs

theorem Sound.dropAbsenceSession (h : Sound cfg σ) (id : SqlText) :
    Sound cfg (σ.setAbsenceSession id none) :=
  h.setAbsenceSession fun _ hs => by cases hs

theorem Sound.pruneAbsenceProofSessions (h : Sound cfg σ) :
    Sound cfg σ.pruneAbsenceProofSessions :=
  h.of_absenceSessions fun id s hs =>
    h.reconciler.sessions id s (Option.filter_eq_some_iff.1 hs).1

theorem extends_retainAbsenceSession (id : SqlText) (watch : Option WatchRow) :
    Extends σ (σ.retainAbsenceSession id watch) := by
  unfold System.retainAbsenceSession
  split
  · split
    · exact .refl σ
    · exact extends_setAbsenceSession id none
  · exact .refl σ

theorem Sound.retainAbsenceSession (h : Sound cfg σ) (id : SqlText) (watch : Option WatchRow) :
    Sound cfg (σ.retainAbsenceSession id watch) := by
  unfold System.retainAbsenceSession
  split
  · split
    · exact h
    · exact h.dropAbsenceSession id
  · exact h

/-! ## The absence proof -/

/-- A new session has read nothing. -/
theorem AbsenceSound.start (log : List Observation) (transaction : SqlText) :
    AbsenceSound log
      { expectedTransaction := transaction, nextToken := none, seenTokens := [],
        coverage := none } :=
  ⟨[], List.nil_sublist _, .start, by simp⟩

/-- The coverage of a session never exceeds what it was, nor the page just read. -/
theorem AbsenceProofSession.covered_le (session : AbsenceProofSession) (currentRound : ℤ) :
    session.covered currentRound ≤ currentRound ∧
      ∀ covered, session.coverage = some covered → session.covered currentRound ≤ covered := by
  cases h : session.coverage with
  | none => simp [covered, h]
  | some c => simp [covered, h]

/-- A search page on which no item bears the transaction is empty. -/
theorem searchPage_empty {transaction : JsString} {token : Option JsString} {body : Json}
    {page : TransactionIdPage} (hparse : parseTransactionPage transaction body = .ok page)
    (hnone : page.transactions.find? (fun t => t.transaction == transaction) = none) :
    SearchPage.Empty ⟨token, body⟩ page.currentRound := by
  obtain ⟨⟨items, hitems, -, hall⟩, hcurrent, -⟩ := parseTransactionPage_eq_ok hparse
  have hempty : items = [] := by
    refine List.eq_nil_iff_forall_not_mem.2 fun item hitem => ?_
    obtain ⟨t, ht, -, hid⟩ := hall item hitem
    exact absurd hid (by simpa using List.find?_eq_none.1 hnone t ht)
  exact ⟨hempty ▸ hitems, hcurrent⟩

/-- **One more empty page**: the proof now covers what it covered before and the page. -/
theorem AbsenceSound.read {log : List Observation} {session : AbsenceProofSession}
    (h : AbsenceSound log session) {body : Json} {currentRound : ℤ}
    (hempty : SearchPage.Empty ⟨session.nextToken, body⟩ currentRound) :
    ∃ pages, Paging.Reads SearchPage.next SearchPage.Serves session.nextToken pages ∧
      Logged (.searched session.expectedTransaction.val session.nextToken body :: log)
        session.expectedTransaction.val (pages ++ [⟨session.nextToken, body⟩]) ∧
      ∀ p ∈ pages ++ [⟨session.nextToken, body⟩], ∃ current, p.Empty current ∧
        session.covered currentRound ≤ current := by
  obtain ⟨pages, hlogged, hreads, hpages⟩ := h
  refine ⟨pages, hreads, hlogged.snoc ⟨session.nextToken, body⟩, fun p hp => ?_⟩
  obtain ⟨hnew, hold⟩ := session.covered_le currentRound
  rcases List.mem_append.1 hp with hp | hp
  · obtain ⟨current, covered, hcurrent, hcovered, hle⟩ := hpages p hp
    exact ⟨current, hcurrent, Int.le_trans (hold covered hcovered) hle⟩
  · cases List.mem_singleton.1 hp
    exact ⟨currentRound, hempty, hnew⟩

/-- A page that returns a token: the session goes on behind it. -/
theorem AbsenceSound.next {log : List Observation} {session : AbsenceProofSession}
    (h : AbsenceSound log session) {body : Json} {currentRound : ℤ}
    (hempty : SearchPage.Empty ⟨session.nextToken, body⟩ currentRound) {token : JsString}
    (htoken : nextTokenOf body = some token) (seenTokens : List JsString) :
    AbsenceSound (.searched session.expectedTransaction.val session.nextToken body :: log)
      { session with
        coverage := some (session.covered currentRound), nextToken := some token,
        seenTokens := seenTokens } := by
  obtain ⟨pages, hreads, hlogged, hpages⟩ := h.read hempty
  have hread : Paging.Reads SearchPage.next SearchPage.Serves (some token)
      (pages ++ [⟨session.nextToken, body⟩]) := .page hreads rfl htoken
  refine ⟨_, hlogged, hread, fun p hp => ?_⟩
  obtain ⟨current, hcurrent, hle⟩ := hpages p hp
  exact ⟨current, _, hcurrent, rfl, hle⟩

/-- The last page: the transaction is absent after every round the proof covers. -/
theorem AbsenceSound.finish {log : List Observation} {session : AbsenceProofSession}
    (h : AbsenceSound log session) {body : Json} {currentRound lastValid : ℤ}
    (hempty : SearchPage.Empty ⟨session.nextToken, body⟩ currentRound)
    (hend : nextTokenOf body = none) (hcovers : lastValid < session.covered currentRound) :
    AbsentAfter (.searched session.expectedTransaction.val session.nextToken body :: log)
      session.expectedTransaction.val lastValid := by
  obtain ⟨pages, hreads, hlogged, hpages⟩ := h.read hempty
  refine ⟨_, hlogged, ⟨_, pages, _, rfl, hreads, rfl, hend⟩, fun p hp => ?_⟩
  obtain ⟨current, hcurrent, hle⟩ := hpages p hp
  exact ⟨current, hcurrent, Int.lt_of_lt_of_le hcovers hle⟩

/-- A smaller coverage. -/
theorem AbsenceSound.lower {log : List Observation} {session : AbsenceProofSession}
    (h : AbsenceSound log session) (currentRound : ℤ) :
    AbsenceSound log { session with coverage := some (session.covered currentRound) } := by
  obtain ⟨pages, hlogged, hreads, hpages⟩ := h
  refine ⟨pages, hlogged, hreads, fun p hp => ?_⟩
  obtain ⟨current, covered, hcurrent, hcovered, hle⟩ := hpages p hp
  exact ⟨current, _, hcurrent, rfl,
    Int.le_trans ((session.covered_le currentRound).2 covered hcovered) hle⟩

/-! ## A turn of the reconciler -/

theorem Sound.reconciled (h : Sound cfg σ) (hloop : ReconcileLoopSound σ loop) (watch : WatchRow)
    (result : Except TurnError CustomerTurnOutcome) :
    Sound cfg (σ.reconciled loop watch result) :=
  h.setReconcileSweep (fun _ hs => by cases hs; exact hloop)
    fun _ _ hs hphase => by cases hs; cases hphase

theorem Sound.deferWatch (h : Sound cfg σ) (watch : WatchRow) (clock : Clock) :
    Sound cfg (σ.deferWatch cfg watch clock).1 ∧ Extends σ (σ.deferWatch cfg watch clock).1 :=
  ⟨h.performs _ fun _ _ => trivial, extends_perform h _⟩

theorem Sound.deferred (h : Sound cfg σ) (hloop : ReconcileLoopSound σ loop) (watch : WatchRow)
    (clock : Clock) (outcome : CustomerTurnOutcome) :
    Sound cfg (σ.deferred cfg loop watch clock outcome) := by
  obtain ⟨hdeferred, hext⟩ := h.deferWatch watch clock
  exact hdeferred.reconciled (hloop.mono hext) _ _

theorem Sound.requestReconcile (h : Sound cfg σ) (hloop : ReconcileLoopSound σ loop)
    (hturn : ReconcileTurnSound σ turn) (canonical : Bool) :
    Sound cfg (σ.requestReconcile loop turn canonical) := by
  unfold System.requestReconcile
  split
  · exact h.reconciled hloop _ _
  · split
    · exact (h.observe _).reconciled (hloop.mono (extends_observe _)) _ _
    · split
      · have hext : Extends σ (σ.observe (.requested turn.number turn.watch.id)) :=
          extends_observe _
        refine (h.observe _).setReconcileSweep (fun _ hs => ?_) fun _ _ hs hphase => ?_
        · cases hs
          exact hloop.mono hext
        · cases hs
          cases hphase
          exact ⟨hturn.bound.mono hext, (hturn.mono hext).search⟩
      · exact h.reconciled hloop _ _

theorem Sound.requestLookup (h : Sound cfg σ) (hloop : ReconcileLoopSound σ loop)
    (hbound : Bound σ.store turn.watch.id turn.terms) :
    Sound cfg (σ.requestLookup loop turn) := by
  refine h.requestReconcile hloop ?_ _
  exact ⟨hbound, fun _ hpoint => by cases hpoint⟩

theorem Sound.requestSearch (h : Sound cfg σ) (hloop : ReconcileLoopSound σ loop)
    (hbound : Bound σ.store turn.watch.id turn.terms) {session : AbsenceProofSession}
    (htransaction : session.expectedTransaction = turn.terms.transaction)
    (hsession : AbsenceSound σ.log session) :
    Sound cfg (σ.requestSearch loop turn session) := by
  refine h.requestReconcile hloop ?_ _
  refine ⟨hbound, fun session' hpoint => ?_⟩
  cases hpoint
  exact ⟨htransaction, hsession⟩

theorem Sound.reconcileClaimed (h : Sound cfg σ) (hloop : ReconcileLoopSound σ loop)
    {watch : WatchRow}
    (hbound : ∀ terms, watch.immutableTerms? = some terms → Bound σ.store watch.id terms)
    (number : ℕ) (clock : Clock) :
    Sound cfg (σ.reconcileClaimed cfg loop number watch clock) := by
  unfold System.reconcileClaimed
  split
  · exact h.deferred hloop watch clock _
  · rename_i terms hterms
    have hkept := h.retainAbsenceSession watch.id (some watch)
    have hext : Extends σ (σ.retainAbsenceSession watch.id (some watch)) :=
      extends_retainAbsenceSession _ _
    dsimp only
    split
    · rename_i session hsession
      refine hkept.requestSearch (hloop.mono hext) ((hbound terms hterms).mono hext) ?_
        (hkept.reconciler.sessions _ _ hsession)
      -- the session is about the transaction the row expects
      have hfit := (System.sessions_retainAbsenceSession.1 hsession).2
      simp only [isAbsenceSessionCompatible, Option.any_some, Bool.and_eq_true, beq_iff_eq] at hfit
      have hexpected := (WatchRow.immutableTerms?_eq_some.1 hterms).2.1
      exact Option.some.inj (hfit.2.symm.trans hexpected)
    · exact hkept.requestLookup (hloop.mono hext) ((hbound terms hterms).mono hext)

theorem Sound.reconcileWatch (h : Sound cfg σ) (hloop : ReconcileLoopSound σ loop)
    {watch : WatchRow}
    (hbound : ∀ terms, watch.immutableTerms? = some terms → Bound σ.store watch.id terms)
    (clock : Clock) : Sound cfg (σ.reconcileWatch cfg loop watch clock) := by
  unfold System.reconcileWatch
  split
  · exact h.reconciled hloop _ _
  · rename_i transaction _
    dsimp only
    have hclaimed := h.claimUnit .reconciliation clock.claim watch.id
      (.reconciliation transaction.val watch.reconciliationAttempts)
    have hext := extends_claimUnit h .reconciliation clock.claim watch.id
      (.reconciliation transaction.val watch.reconciliationAttempts)
    have hloop' := hloop.mono hext
    split
    · exact hclaimed.reconciled hloop' _ _
    · exact (hclaimed.dropAbsenceSession _).reconciled
        (hloop'.mono (extends_setAbsenceSession _ _)) _ _
    · exact (hclaimed.retainAbsenceSession _ _).reconciled
        (hloop'.mono (extends_retainAbsenceSession _ _)) _ _
    · exact hclaimed.reconcileClaimed hloop'
        (fun terms hterms => (hbound terms hterms).mono hext) _ clock

/-! ## Behind an answer -/

/-- A watch is turned down on the evidence against its terms. -/
theorem Sound.markSettlementInvalid (h : Sound cfg σ) {id : SqlText} {terms : ImmutableTerms}
    (hbound : Bound σ.store id terms) (hrejected : Rejected cfg.network σ.log terms) :
    Sound cfg (σ.perform (.markSettlementInvalid id.val)) := by
  refine h.perform fun r hr r' hchange terms' hterms' => ?_
  cases hchange with
  | settleInvalid hid _ =>
      rw [hbound.eq_of_mem hr (hid.trans (bindText_val id)) hterms']
      exact hrejected

/-- The transaction was shown, and the row is told apart from it or activated. -/
theorem Sound.applyConfirmed (h : Sound cfg σ) (hloop : ReconcileLoopSound σ loop)
    (hbound : Bound σ.store turn.watch.id turn.terms) {transfer : IndexedAssetTransfer}
    (hshown : Shown σ.log turn.terms.transaction.val transfer) (clock : Clock) :
    Sound cfg (σ.applyConfirmed cfg loop turn transfer clock) := by
  have hdropped := h.dropAbsenceSession turn.watch.id
  have hext : Extends σ (σ.setAbsenceSession turn.watch.id none) :=
    extends_setAbsenceSession _ _
  have hloop' := hloop.mono hext
  unfold System.applyConfirmed
  dsimp only
  split
  · rename_i hmatch
    have hactivated := hdropped.performs (.activateWatch clock.record turn.watch.id.val
      { transaction := transfer.transaction, network := cfg.network,
        payer := some transfer.sender } transfer.round) fun _ _ => trivial
    exact hactivated.reconciled (hloop'.mono (extends_perform hdropped _)) _ _
  · rename_i hmismatch
    have hrejected := hdropped.markSettlementInvalid (hbound.mono hext)
      (Or.inr (Or.inl ⟨transfer, hshown, by simpa using hmismatch⟩))
    exact hrejected.reconciled (hloop'.mono (extends_perform hdropped _)) _ _

theorem extends_observeLookup (transaction : JsString) (answer : Answer) :
    Extends σ (σ.observeLookup transaction answer) := by
  unfold System.observeLookup
  split
  · exact extends_observe _
  · exact extends_observe _
  · exact .refl σ

theorem Sound.observeLookup (h : Sound cfg σ) (transaction : JsString) (answer : Answer) :
    Sound cfg (σ.observeLookup transaction answer) := by
  unfold System.observeLookup
  split
  · exact h.observe _
  · exact h.observe _
  · exact h

/-- A lookup that finds the transaction shows it. -/
theorem shown_of_lookup {transaction : JsString} {purpose : IndexerRequestPurpose}
    {answer : Answer} {t : IndexedAssetTransfer}
    (h : lookupAssetTransfer transaction purpose answer = .ok (some t)) :
    Shown (σ.observeLookup transaction answer).log transaction t := by
  obtain ⟨body, item, rfl, hitem, hshows, hid⟩ := lookupAssetTransfer_eq_some h
  exact ⟨item, hshows, hid, Or.inl ⟨body, List.mem_cons_self .., hitem⟩⟩

theorem Sound.afterLookup (h : Sound cfg σ) (hloop : ReconcileLoopSound σ loop)
    (hbound : Bound σ.store turn.watch.id turn.terms) (answer : Answer) (clock : Clock) :
    Sound cfg (σ.afterLookup cfg loop turn answer clock) := by
  have hseen := h.observeLookup turn.terms.transaction.val answer
  have hext : Extends σ (σ.observeLookup turn.terms.transaction.val answer) :=
    extends_observeLookup _ _
  have hloop' := hloop.mono hext
  have hbound' := hbound.mono hext
  unfold System.afterLookup
  dsimp only
  split
  · exact hseen.reconciled hloop' _ _
  · rename_i transfer hlookup
    exact hseen.applyConfirmed hloop' hbound' (shown_of_lookup hlookup) clock
  · refine hseen.requestReconcile hloop' ?_ true
    exact ⟨hbound', fun _ hpoint => by cases hpoint⟩

theorem Sound.afterTip (h : Sound cfg σ) (hloop : ReconcileLoopSound σ loop)
    (hbound : Bound σ.store turn.watch.id turn.terms) (answer : Answer) (clock : Clock) :
    Sound cfg (σ.afterTip cfg loop turn answer clock) := by
  unfold System.afterTip
  split
  · exact h.reconciled hloop _ _
  · split
    · exact h.deferred hloop _ clock _
    · dsimp only
      have hstart : AbsenceSound σ.log
          { expectedTransaction := turn.terms.transaction, nextToken := none, seenTokens := [],
            coverage := none } := .start _ _
      have hext := extends_setAbsenceSession (σ := σ) turn.watch.id (some
        { expectedTransaction := turn.terms.transaction, nextToken := none, seenTokens := [],
          coverage := none })
      refine (h.setAbsenceSession fun _ hs => ?_).requestSearch (hloop.mono hext)
        (hbound.mono hext) rfl hstart
      cases hs
      exact hstart

theorem Sound.afterSearch (h : Sound cfg σ) (hloop : ReconcileLoopSound σ loop)
    (hbound : Bound σ.store turn.watch.id turn.terms) {session : AbsenceProofSession}
    (htransaction : session.expectedTransaction = turn.terms.transaction)
    (hsession : AbsenceSound σ.log session) (answer : Answer) (clock : Clock) :
    Sound cfg (σ.afterSearch cfg loop turn session answer clock) := by
  have hseen := h.observeBody answer
    (.searched turn.terms.transaction.val session.nextToken)
  have hext : Extends σ (σ.observeBody answer
    (.searched turn.terms.transaction.val session.nextToken)) := extends_observeBody _ _
  have hloop' := hloop.mono hext
  have hbound' := hbound.mono hext
  unfold System.afterSearch
  dsimp only
  split
  · exact hseen.reconciled hloop' _ _
  · rename_i page hpage
    obtain ⟨body, rfl, hparse⟩ := received_eq_ok hpage
    obtain ⟨⟨items, hitems, hall, -⟩, -, hnext⟩ := parseTransactionPage_eq_ok hparse
    split
    · rename_i found hfound
      obtain ⟨item, hitem, hshows, hid⟩ := hall found (List.mem_of_find?_eq_some hfound)
      exact hseen.applyConfirmed hloop' hbound' ⟨item, hshows, hid, Or.inr ⟨session.nextToken,
        body, items, List.mem_cons_self .., hitems, hitem⟩⟩ clock
    · rename_i hnone
      have hempty : SearchPage.Empty ⟨session.nextToken, body⟩ page.currentRound :=
        searchPage_empty hparse hnone
      rw [← htransaction] at hseen hext hloop' hbound' ⊢
      split
      · rename_i token htoken
        split
        · refine (hseen.setAbsenceSession fun _ hs => ?_).reconciled
            (hloop'.mono (extends_setAbsenceSession _ _)) _ _
          cases hs
          exact (hsession.mono hext.log).lower page.currentRound
        · refine (hseen.setAbsenceSession fun _ hs => ?_).deferred
            (hloop'.mono (extends_setAbsenceSession _ _)) _ clock _
          cases hs
          exact hsession.next hempty (hnext.trans htoken) _
      · rename_i hend
        have hdropped := hseen.dropAbsenceSession turn.watch.id
        have hloop'' := hloop'.mono (extends_setAbsenceSession turn.watch.id none)
        split
        · exact hdropped.reconciled hloop'' _ _
        · rename_i hcovers
          have habsent := hsession.finish hempty (hnext.trans hend) (Int.not_le.1 hcovers)
          have hrejected := hdropped.markSettlementInvalid
            (hbound'.mono (extends_setAbsenceSession turn.watch.id none))
            (Or.inr (Or.inr (htransaction ▸ habsent)))
          exact hrejected.reconciled (hloop''.mono (extends_perform hdropped _)) _ _

/-! ## The loop -/

theorem Sound.finishReconcile (h : Sound cfg σ) : Sound cfg (σ.finishReconcile loop) := by
  have hended : Sound cfg (σ.setReconcileSweep none) :=
    h.setReconcileSweep (fun _ hs => by cases hs) fun _ _ hs => by cases hs
  unfold System.finishReconcile
  dsimp only
  split
  · exact hended.pruneAbsenceProofSessions
  · exact hended

theorem Sound.nextReconcileTurn (h : Sound cfg σ) (hloop : ReconcileLoopSound σ loop)
    (clock : Clock) : Sound cfg (σ.nextReconcileTurn cfg loop clock) := by
  unfold System.nextReconcileTurn
  split
  · exact h.finishReconcile
  · rename_i watch rest hwaiting
    split
    · exact h.finishReconcile
    · refine h.reconcileWatch ?_ (hloop watch (hwaiting ▸ List.mem_cons_self ..)) clock
      exact fun w hw => hloop w (hwaiting ▸ List.mem_cons_of_mem _ hw)

theorem Sound.settleReconcile (h : Sound cfg σ) (hloop : ReconcileLoopSound σ loop)
    (watch : WatchRow) (result : Except TurnError CustomerTurnOutcome) (clock : Clock) :
    Sound cfg (σ.settleReconcile cfg loop watch result clock) := by
  unfold System.settleReconcile
  split
  · refine h.nextReconcileTurn ?_ clock
    exact hloop
  · exact h.finishReconcile
  · obtain ⟨hdeferred, hext⟩ := (h.dropAbsenceSession watch.id).deferWatch watch clock
    dsimp only
    split
    · exact hdeferred.finishReconcile
    · refine hdeferred.nextReconcileTurn ?_ clock
      exact (hloop.mono (extends_setAbsenceSession watch.id none)).mono hext

/-- A reconciliation candidate is a row. -/
theorem Store.mem_of_mem_reconciliationCandidates {s : Store} {now : ℤ} {watches : List WatchRow}
    (h : s.listSettlementReconciliationCandidates now = .ok watches) {w : WatchRow}
    (hw : w ∈ watches) : w ∈ s.rows := by
  unfold listSettlementReconciliationCandidates at h
  split at h
  · cases h
  · cases h
    rw [List.mem_insertionSort, List.mem_filter] at hw
    exact hw.1

theorem Sound.reconcileOnce (h : Sound cfg σ) (clock : Clock) :
    Sound cfg (σ.reconcileOnce cfg clock) := by
  unfold System.reconcileOnce
  split
  · exact h
  · split
    · exact h
    · dsimp only
      split
      · exact h.pruneAbsenceProofSessions.finishReconcile
      · rename_i watches hlist
        refine h.pruneAbsenceProofSessions.nextReconcileTurn (fun w hw terms hterms => ?_) clock
        exact ⟨w, Store.mem_of_mem_reconciliationCandidates hlist hw, rfl, hterms⟩

/-- **The sweep of the reconciler goes on.** -/
theorem Sound.resumeReconcile (h : Sound cfg σ) (answer : Answer) (clock : Clock) :
    Sound cfg (σ.resumeReconcile cfg answer clock) := by
  unfold System.resumeReconcile
  split
  · exact h
  · rename_i sweep hsweep
    have hloop := h.reconciler.loop sweep hsweep
    split
    · rename_i turn hphase
      have hturn := h.reconciler.turn sweep turn hsweep hphase
      split
      · exact h.afterLookup hloop hturn.bound answer clock
      · exact h.afterTip hloop hturn.bound answer clock
      · rename_i session hpoint
        obtain ⟨htransaction, hsession⟩ := hturn.search session hpoint
        exact h.afterSearch hloop hturn.bound htransaction hsession answer clock
    · exact h.settleReconcile hloop _ _ clock

/-! ## The after-settle hook -/

/-- The row a candidate was recorded on expects it. -/
theorem expects_recordCandidate {r : WatchRow} {evidence : SettlementEvidence}
    (h : assertSettlementEvidenceMatches r evidence = .ok ()) :
    (r.recordCandidate evidence).expects evidence.transaction := by
  have hsame := (assertSettlementEvidenceMatches_ok.1 h).1
  cases hexpected : r.expectedServiceTransaction with
  | none => exact ⟨_, by simp [WatchRow.recordCandidate, hexpected], Or.inr rfl⟩
  | some t =>
      refine ⟨t, by simp [WatchRow.recordCandidate, hexpected], ?_⟩
      by_cases hempty : t = emptyText
      · exact Or.inl hempty
      · exact Or.inr (eq_bindText_of_not_differs hsame hexpected hempty)

/-- A candidate that was recorded is the transaction the watch expects, if its settlement
is still open. -/
theorem Store.expecting_recordSettlementCandidate {s : Store} {id : JsString}
    {evidence : SettlementEvidence} {watch : WatchRow}
    (h : (s.recordSettlementCandidate id evidence).2 = .ok watch) :
    Expecting (s.recordSettlementCandidate id evidence).1 id evidence.transaction := by
  revert h
  unfold recordSettlementCandidate
  cases hget : s.getWatch id with
  | none => exact fun h => by cases h
  | some existing =>
      have hrow := getWatch_mem hget
      have hid := getWatch_id hget
      dsimp only
      cases hmatch : assertSettlementEvidenceMatches existing evidence with
      | error e => exact fun h => by cases h
      | ok u =>
          dsimp only
          split
          · rename_i hfunded
            have hdecided : existing.unsettled = false := by
              rcases hfunded with hstate | hstate <;>
                simp [WatchRow.unsettled, WatchRow.settling, hstate]
            split
            · exact fun _ => ⟨existing, hrow, hid, by simp [hdecided]⟩
            · exact fun h => by cases h
          · split
            · exact fun h => by cases h
            · cases htry : s.tryUpdate (fun r => hasId id r && r.unsettled)
                (·.recordCandidate evidence) with
              | error e => exact fun h => by cases h
              | ok s' =>
                  have hmem : (if (hasId id existing && existing.unsettled) = true then
                      existing.recordCandidate evidence else existing) ∈ s'.rows := by
                    rw [(tryUpdate_ok htry).1]
                    exact List.mem_map_of_mem hrow
                  have hexpecting : Expecting s' id evidence.transaction := by
                    cases hopen : existing.unsettled with
                    | false =>
                        simp only [hopen, Bool.and_false, Bool.false_eq_true, if_false] at hmem
                        exact ⟨existing, hmem, hid, by simp [hopen]⟩
                    | true =>
                        simp only [hopen, hasId_iff.2 hid, Bool.and_self, if_true] at hmem
                        exact ⟨_, hmem, hid, fun _ => expects_recordCandidate hmatch⟩
                  dsimp only
                  split
                  · exact fun _ => hexpecting
                  · exact fun h => by cases h

/-- The hooks in flight may change as long as each of them is sound. -/
theorem Sound.of_hooks (h : Sound cfg σ) (hstore : σ'.store = σ.store) (hlog : σ'.log = σ.log)
    (hpoller : σ'.poller = σ.poller) (hreconciler : σ'.reconciler = σ.reconciler)
    (hhooks : ∀ k hook, σ'.hooks k = some hook → HookSound σ' hook) : Sound cfg σ' := by
  have hext : Extends σ σ' := .of_same (hlog ▸ List.suffix_refl _) (by rw [hstore])
    (by rw [hpoller]) (by rw [hpoller])
  exact ⟨fun r hr => hlog ▸ h.rows r (hstore ▸ hr), h.poller.mono hext hpoller,
    h.reconciler.mono hext hreconciler, hhooks⟩

theorem Sound.endHook (h : Sound cfg σ) (k : ℕ) : Sound cfg (σ.endHook k) := by
  refine h.of_hooks rfl rfl rfl rfl fun k' hook hhook => ?_
  by_cases hk : k' = k
  · subst hk
    simp [System.endHook] at hhook
  · have hold : σ.hooks k' = some hook := by simpa [System.endHook, hk] using hhook
    exact ⟨(h.hooks k' hook hold).canonical, (h.hooks k' hook hold).expecting⟩

theorem Sound.openHook (h : Sound cfg σ) {hook : SettlementHook} (hhook : HookSound σ hook) :
    Sound cfg (σ.openHook hook) := by
  refine h.of_hooks rfl rfl rfl rfl fun k hook' hhook' => ?_
  by_cases hk : k = σ.nextHook
  · subst hk
    have heq : hook = hook' := by simpa [System.openHook] using hhook'
    exact heq ▸ ⟨hhook.canonical, hhook.expecting⟩
  · have hold : σ.hooks k = some hook' := by simpa [System.openHook, hk] using hhook'
    exact ⟨(h.hooks k hook' hold).canonical, (h.hooks k hook' hold).expecting⟩

theorem Sound.afterSettle (h : Sound cfg σ) (watchId : JsString) (evidence : SettlementEvidence) :
    Sound cfg (σ.afterSettle watchId evidence) := by
  have hrecorded := h.performs (.recordSettlementCandidate watchId evidence) fun _ _ => trivial
  unfold System.afterSettle
  dsimp only
  split
  · exact hrecorded
  · rename_i watch hwatch
    split
    · rename_i hcanonical
      exact hrecorded.openHook ⟨hcanonical, Store.expecting_recordSettlementCandidate hwatch⟩
    · exact hrecorded

/-- What the hook compares is part of what the reconciler compares. -/
theorem confirmsSettlement_of_confirmsTerms {network : JsString} {evidence : SettlementEvidence}
    {t : IndexedAssetTransfer} {r : WatchRow} {terms : ImmutableTerms}
    (hterms : r.immutableTerms? = some terms) (htransaction : t.transaction = evidence.transaction)
    (h : confirmsTerms network t terms = true) : confirmsSettlement evidence t r = true := by
  obtain ⟨-, -, -, hpayer, hreceiver, hasset, hamount, hfirst, hlast, -⟩ :=
    WatchRow.immutableTerms?_eq_some.1 hterms
  simp only [confirmsTerms, Bool.and_eq_true, beq_iff_eq, decide_eq_true_eq] at h
  simp [confirmsSettlement, htransaction, hpayer, hreceiver, hasset, hamount, hfirst, hlast, h]

/-- A hook that finds another payment than its watch expects has the evidence for turning
it down. -/
theorem Sound.rejected_of_hook (h : Sound cfg σ) {hook : SettlementHook} (hhook : HookSound σ hook)
    {t : IndexedAssetTransfer} (hshown : Shown σ.log hook.evidence.transaction t) {r : WatchRow}
    (hr : r ∈ σ.store.rows) (hid : r.id = bindText hook.watchId) (hsettling : r.settling = true)
    (hmismatch : confirmsSettlement hook.evidence t r = false) {terms : ImmutableTerms}
    (hterms : r.immutableTerms? = some terms) : Rejected cfg.network σ.log terms := by
  have hsound := h.rows r hr
  cases hflag : r.settlementReconciliationTerminal with
  | true =>
      -- a flagged row that settles was turned down before
      have hstate : r.state = .settlementUnknown := by
        rcases hsound.lifecycle.terminalFlag hflag with hstate | hstate
        · exact hstate
        · simp [WatchRow.settling, hstate] at hsettling
      exact hsound.trail.rejected terms hterms hstate hflag
  | false =>
      obtain ⟨r', hr', hid', hexpects⟩ := hhook.expecting
      cases Store.eq_of_id hr hr' (hid.trans hid'.symm)
      obtain ⟨e, he, hcase⟩ := hexpects (by simp [WatchRow.unsettled, hsettling, hflag])
      cases he.symm.trans (WatchRow.immutableTerms?_eq_some.1 hterms).2.1
      rcases hcase with hempty | heq
      · exact Or.inl hempty
      · have hsame : terms.transaction.val = hook.evidence.transaction := by
          rw [heq]
          exact wellFormed_of_canonical hhook.canonical
        obtain ⟨item, hshows, htransaction, hlogged⟩ := hshown
        refine Or.inr (Or.inl ⟨t, hsame ▸ ⟨item, hshows, htransaction, hlogged⟩, ?_⟩)
        by_contra hconfirms
        have hconfirmed := confirmsSettlement_of_confirmsTerms hterms htransaction
          (by simpa using hconfirms)
        simp [hconfirmed] at hmismatch

theorem Sound.resumeHook (h : Sound cfg σ) (k : ℕ) (answer : Answer) (clock : Clock) :
    Sound cfg (σ.resumeHook k answer clock) := by
  unfold System.resumeHook
  split
  · exact h
  · rename_i hook hhook
    have hended := h.endHook k
    have hseen := hended.observeLookup hook.evidence.transaction answer
    have hsound : HookSound (σ.endHook k) hook :=
      ⟨(h.hooks k hook hhook).canonical, (h.hooks k hook hhook).expecting⟩
    dsimp only
    split
    · exact hseen
    · exact hseen
    · rename_i transfer hlookup
      split
      · exact hseen
      · rename_i watch hwatch
        split
        · exact hseen.performs _ fun _ _ => trivial
        · rename_i hmismatch
          refine hseen.perform fun r hr r' hchange terms hterms => ?_
          cases hchange with
          | settleInvalid hid hsettling =>
              cases Store.eq_of_id hr (Store.getWatch_mem hwatch)
                (hid.trans (Store.getWatch_id hwatch).symm)
              exact hseen.rejected_of_hook (hsound.mono (extends_observeLookup _ _))
                (shown_of_lookup hlookup) hr hid hsettling (by simpa using hmismatch) hterms

/-! ## Runs -/

/-- A process starts from the rows alone. -/
theorem Sound.restart (h : Sound cfg σ) (config : StoreConfig) : Sound cfg (σ.restart config) := by
  have hopened := h.performs (.reopen config) fun _ _ => trivial
  have hext : Extends (σ.perform (.reopen config)) (σ.restart config) :=
    .of_same (List.suffix_refl _) rfl rfl rfl
  refine ⟨hopened.rows, ⟨fun ref href => (hopened.poller.objects ref href).mono hext, ?_, ?_, ?_⟩,
    ⟨?_, ?_, ?_⟩, ?_⟩
  · exact fun _ _ href => by cases href
  · rintro query page ⟨entry, hentry, -⟩
    cases hentry
  · exact fun _ _ hsweep => by cases hsweep
  · exact fun _ _ hsession => by cases hsession
  · exact fun _ hsweep => by cases hsweep
  · exact fun _ _ hsweep => by cases hsweep
  · exact fun _ _ hhook => by cases hhook

theorem StoreOp.supported_of_external {op : StoreOp} (h : op.external = true)
    (log : List Observation) (r : WatchRow) : Supported cfg log op r := by
  cases op <;> trivial

/-- **Every stretch of code keeps the invariant.** -/
theorem Sound.step (h : Sound cfg σ) (e : Event) : Sound cfg (σ.step cfg e) := by
  cases e with
  | call op => exact h.performs op.1 (StoreOp.supported_of_external op.2)
  | poll clock => exact h.runOnce clock
  | resumePoll i answer clock => exact h.resumePoll answer clock
  | turnPoller => exact h.of_sessions (fun _ _ href => href) rfl rfl rfl rfl
  | stopPolling =>
      simp only [System.step]
      split
      · exact h
      · exact h.of_sessions (fun _ _ href => href) rfl rfl rfl rfl
  | reconcile clock => exact h.reconcileOnce clock
  | resumeReconcile answer clock => exact h.resumeReconcile answer clock
  | turnReconciler =>
      have hext : Extends σ σ.turnReconciler := .of_same (List.suffix_refl _) rfl rfl rfl
      exact h.of_reconciler rfl rfl rfl rfl ⟨h.reconciler.sessions,
        fun s hs => (h.reconciler.loop s hs).mono hext,
        fun s turn hs hphase => (h.reconciler.turn s turn hs hphase).mono hext⟩
  | stopReconciling =>
      simp only [System.step]
      split
      · exact h
      · have hext : Extends σ σ.stopReconciling := .of_same (List.suffix_refl _) rfl rfl rfl
        exact h.of_reconciler rfl rfl rfl rfl ⟨h.reconciler.sessions,
          fun s hs => (h.reconciler.loop s hs).mono hext,
          fun s turn hs hphase => (h.reconciler.turn s turn hs hphase).mono hext⟩
  | settle watchId evidence => exact h.afterSettle watchId evidence
  | resumeHook k answer clock => exact h.resumeHook k answer clock
  | restart config => exact h.restart config

/-- An empty database is sound. -/
theorem Sound.boot (cfg : WorkerConfig) (config : StoreConfig) :
    Sound cfg (.boot (.empty config)) := by
  refine ⟨?_, ⟨?_, ?_, ?_, ?_⟩, ⟨?_, ?_, ?_⟩, ?_⟩
  · exact fun _ hr => by cases hr
  · exact fun _ href => absurd href (Nat.not_lt_zero _)
  · exact fun _ _ href => by cases href
  · rintro query page ⟨entry, hentry, -⟩
    cases hentry
  · exact fun _ _ hsweep => by cases hsweep
  · exact fun _ _ hsession => by cases hsession
  · exact fun _ hsweep => by cases hsweep
  · exact fun _ _ hsweep => by cases hsweep
  · exact fun _ _ hhook => by cases hhook

/-- **The invariant holds in every run** from an empty database, whatever the provider
answers. -/
theorem sound_run (cfg : WorkerConfig) (config : StoreConfig) (es : List Event) :
    Sound cfg (System.run cfg (.boot (.empty config)) es) :=
  Runs.run_invariant' (I := Sound cfg) (fun _ e h => h.step e) es (.boot cfg config)

end RoundWatch
