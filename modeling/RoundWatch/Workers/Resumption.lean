import RoundWatch.Workers.Matches
import RoundWatch.Workers.Sharing
import RoundWatch.Workers.Transcript

/-!
# Every continuation is used where it came from

What the invariant of the transcripts says about the tokens that are sent: each was
returned to the session that sends it, and sends it once; a page that returns one of them
again fails its turn, unless it shows the payment; and a session whose watch has moved on
is never asked for again.

* `System.pollFailed`, `System.reconcileFailed` — a turn that failed, and what it drops;
* `Spent`, `Closed` — the sessions and searches that have had their time;
* `continuations_used_soundly` — all of it, for every orderly run.
-/

namespace RoundWatch

open JsText

variable {cfg : WorkerConfig} {asked : List PageRequest} {searches : List SearchRequest}
  {σ σ' : System} {t : Transcript} {e : Event} {i : ℕ} {sweep : Sweep} {turn : PollTurn}

/-! ## Tokens that come again -/

/-- What comes back to a polling turn at its page. -/
def PollTurn.reply (cfg : WorkerConfig) (turn : PollTurn) (answer : Answer) :
    Option (Except TurnError TransactionPage) :=
  match turn.point with
  | .page _ _ (some (result, _)) => some result
  | .page _ query none =>
      some (searchWatchPage cfg.scanQueryVariant turn.watch.row.terms query answer)
  | _ => none

/-- Sweep `i` has ended the turn of a watch in an error that is no interruption. -/
def System.pollFailed (σ : System) (i : ℕ) (watch : WatchRow) : Prop :=
  ∃ sweep e, σ.poller.sweeps i = some sweep ∧ sweep.phase = .served watch (.error e) ∧
    e ≠ .shutdown

/-- The reconciler has. -/
def System.reconcileFailed (σ : System) (watch : WatchRow) : Prop :=
  ∃ sweep e, σ.reconciler.sweep = some sweep ∧ sweep.phase = .served watch (.error e) ∧
    e ≠ .shutdown


/-- A page without a match that returns a token its session has seen fails the turn. -/
theorem System.pollFailed_consumePage {ref : ℕ} {page : TransactionPage} {token : JsString}
    (hblank : ∀ x ∈ page.transactions, matchesWatch x turn.watch.row.terms = false)
    (htoken : page.nextToken = some token) (hseen : token ∈ (σ.poller.objects ref).seenTokens)
    (fresh : Bool) :
    (σ.consumePage i sweep turn ref (.ok page) fresh).pollFailed i turn.initial := by
  have hnone : page.transactions.find? (fun x => matchesWatch x turn.watch.row.terms) = none := by
    rw [List.find?_eq_none]
    intro x hx
    simp [hblank x hx]
  unfold System.consumePage
  simp only [hnone, htoken, hseen, or_true, if_true]
  split
  · exact ⟨_, _, Function.update_self .., rfl, by simp⟩
  · exact ⟨_, _, Function.update_self .., rfl, by simp⟩

/-- **A page that repeats a token fails the turn.** -/
theorem Ordered.repeats_fail (h : Ordered cfg asked σ) (hsweep : σ.poller.sweeps i = some sweep)
    (hphase : sweep.phase = .serving turn) {ref : ℕ} {query : ScanQuery}
    {held : Option (Except TurnError TransactionPage × Bool)}
    (hpoint : turn.point = .page ref query held) {answer : Answer} {page : TransactionPage}
    (hreply : turn.reply cfg answer = some (.ok page))
    (hblank : ∀ x ∈ page.transactions, matchesWatch x turn.watch.row.terms = false)
    {token : JsString} (htoken : page.nextToken = some token)
    (hasked : ∃ p ∈ asked, p.session = ref ∧ p.object.nextToken = some token) (clock : Clock) :
    (σ.resumePoll cfg i answer clock).pollFailed i turn.initial := by
  obtain ⟨p, hp, hsession, hrepeats⟩ := hasked
  have hseen : token ∈ (σ.poller.objects ref).seenTokens := by
    have hfor := (h.requests p hp).2.token token hrepeats
    rwa [hsession] at hfor
  unfold System.resumePoll
  simp only [hsweep, hphase, hpoint]
  unfold PollTurn.reply at hreply
  rw [hpoint] at hreply
  cases held with
  | some pair =>
      obtain ⟨result, fresh⟩ := pair
      cases hreply
      exact System.pollFailed_consumePage hblank htoken hseen fresh
  | none =>
      have hresult : searchWatchPage cfg.scanQueryVariant turn.watch.row.terms query answer =
          .ok page := Option.some.inj hreply
      have hseen' : token ∈ ((σ.observeBody answer
          (.scanned turn.watch.row.terms query)).poller.objects ref).seenTokens := by
        rw [System.poller_observeBody]
        exact hseen
      unfold System.receivePage
      simp only [hresult]
      split
      · refine System.pollFailed_consumePage hblank htoken ?_ true
        exact hseen'
      · exact System.pollFailed_consumePage hblank htoken hseen' true

/-- No session comes to a watch that has none. -/
def NoNewSession (σ σ' : System) : Prop :=
  ∀ id, σ.poller.sessions id = none → σ'.poller.sessions id = none

theorem noNewSession_retainSession (σ : System) (id : SqlText) (watch : Option WatchRow) :
    NoNewSession σ (σ.retainSession id watch) := by
  intro other hnone
  unfold System.retainSession
  split
  · split
    · exact hnone
    · by_cases heq : other = id
      · simp [System.forgetSession, heq]
      · simpa [System.forgetSession, heq] using hnone
  · exact hnone

theorem sessions_sendRequest (σ : System) (i : ℕ) (sweep : Sweep) (turn : PollTurn) :
    (σ.sendRequest i sweep turn).poller.sessions = σ.poller.sessions := by
  unfold System.sendRequest
  split <;> rfl

theorem sessions_withRequest (σ : System) (i : ℕ) (sweep : Sweep) (turn : PollTurn)
    {operation : PollTurn → System}
    (hop : ∀ turn, (operation turn).poller.sessions = σ.poller.sessions) :
    (σ.withRequest i sweep turn operation).poller.sessions = σ.poller.sessions := by
  unfold System.withRequest
  split
  · rfl
  · exact hop _

theorem sessions_requestPage (cfg : WorkerConfig) (σ : System) (i : ℕ) (sweep : Sweep)
    (turn : PollTurn) (ref : ℕ) :
    (σ.requestPage cfg i sweep turn ref).poller.sessions = σ.poller.sessions := by
  refine sessions_withRequest σ i sweep turn fun turn => ?_
  dsimp only
  split
  · rfl
  · split
    · rfl
    · split
      · rfl
      · exact sessions_sendRequest _ _ _ _

theorem sessions_requestTip (σ : System) (i : ℕ) (sweep : Sweep) (turn : PollTurn) :
    (σ.requestTip i sweep turn).poller.sessions = σ.poller.sessions := by
  refine sessions_withRequest σ i sweep turn fun turn => ?_
  split
  · rfl
  · exact sessions_sendRequest _ _ _ _

theorem noNewSession_scan (cfg : WorkerConfig) (σ : System) (i : ℕ) (sweep : Sweep)
    (turn : PollTurn) : NoNewSession σ (σ.scan cfg i sweep turn) := by
  intro id hnone
  unfold System.scan
  split
  · exact hnone
  · dsimp only
    split
    · rw [sessions_requestPage]
      exact noNewSession_retainSession _ _ _ id hnone
    · rw [sessions_requestTip]
      exact noNewSession_retainSession _ _ _ id hnone

/-- A turn opens a session only behind a tip. -/
theorem noNewSession_serviceWatch (cfg : WorkerConfig) (σ : System) (i : ℕ) (sweep : Sweep)
    (initial : WatchRow) (clock : Clock) :
    NoNewSession σ (σ.serviceWatch cfg i sweep initial clock) := by
  intro id hnone
  unfold System.serviceWatch
  split
  · exact hnone
  · split
    · exact hnone
    · rename_i watch _ _
      have hclaimed : (σ.claimUnit .polling clock.claim initial.id (.polling watch.scanAfterRound
          initial.closingRound initial.pollingFailureCount)).poller.sessions id = none := by
        rw [System.poller_claimUnit]
        exact hnone
      dsimp only
      split
      · exact hclaimed
      · by_cases heq : id = initial.id
        · simp [System.served, System.setSweep, System.forgetSession, heq]
        · simpa [System.served, System.setSweep, System.forgetSession, heq] using hnone
      · exact noNewSession_retainSession _ _ _ id hclaimed
      · unfold System.serveClaimed
        dsimp only
        split
        · rw [sessions_withRequest _ _ _ _ fun _ => sessions_sendRequest _ _ _ _]
          exact hclaimed
        · exact noNewSession_scan _ _ _ _ _ id hclaimed

theorem noNewSession_nextTurn (cfg : WorkerConfig) (σ : System) (i : ℕ) (sweep : Sweep)
    (clock : Clock) : NoNewSession σ (σ.nextTurn cfg i sweep clock) := by
  intro id hnone
  unfold System.nextTurn
  split
  · exact hnone
  · split
    · exact hnone
    · exact noNewSession_serviceWatch _ _ _ _ _ _ id hnone

/-- **A failed turn drops the session of its watch.** -/
theorem System.pollFailed.drops {watch : WatchRow} (h : σ.pollFailed i watch) (answer : Answer)
    (clock : Clock) : (σ.resumePoll cfg i answer clock).poller.sessions watch.id = none := by
  obtain ⟨sweep, e, hsweep, hphase, hne⟩ := h
  have hforgotten : ((σ.forgetSession watch.id).setCache .empty).poller.sessions watch.id =
      none := by
    simp [System.forgetSession, System.setCache]
  unfold System.resumePoll
  simp only [hsweep, hphase]
  unfold System.settleTurn
  split
  · rename_i heq
    cases heq
  · rename_i heq
    exact absurd (Except.error.inj heq) hne
  · unfold System.failTurn
    dsimp only
    split
    · exact hforgotten
    · exact noNewSession_nextTurn _ _ _ _ _ _ hforgotten

/-- **A page of a search that repeats a token fails the turn.** -/
theorem SearchOrdered.repeats_fail (h : SearchOrdered searches σ) (hsound : Sound cfg σ)
    {sweep : ReconcileSweep} {turn : ReconcileTurn} {session : AbsenceProofSession}
    (hsweep : σ.reconciler.sweep = some sweep) (hphase : sweep.phase = .serving turn)
    (hpoint : turn.point = .search session) {answer : Answer} {page : TransactionIdPage}
    (hpage : searchTransactionPage session.expectedTransaction.val answer = .ok page)
    (hblank : ∀ x ∈ page.transactions, x.transaction ≠ session.expectedTransaction.val)
    {token : JsString} (htoken : page.nextToken = some token)
    (hasked : ∃ p ∈ searches, p.watch = turn.watch.id ∧
      p.session = sessionsOpened searches turn.watch.id ∧ p.token = some token) (clock : Clock) :
    (σ.resumeReconcile cfg answer clock).reconcileFailed turn.watch := by
  obtain ⟨p, hp, hwatch, hsession, hrepeats⟩ := hasked
  have hseen := (h.search sweep turn session hsweep hphase hpoint).seen p hp hwatch hsession token
    hrepeats
  have htransaction := ((hsound.reconciler.turn sweep turn hsweep hphase).search session hpoint).1
  rw [htransaction] at hpage hblank
  have hnone : page.transactions.find? (fun x => x.transaction == turn.terms.transaction.val) =
      none := by
    rw [List.find?_eq_none]
    intro x hx
    simp [hblank x hx]
  unfold System.resumeReconcile
  simp only [hsweep, hphase, hpoint]
  unfold System.afterSearch
  simp only [hpage, hnone, htoken, hseen, or_true, if_true]
  exact ⟨_, _, rfl, rfl, by simp⟩

theorem absence_retainAbsenceSession {id other : SqlText} {watch : Option WatchRow}
    (h : σ.reconciler.sessions id = none) :
    (σ.retainAbsenceSession other watch).reconciler.sessions id = none := by
  unfold System.retainAbsenceSession
  split
  · split
    · exact h
    · by_cases heq : id = other
      · simp [System.setAbsenceSession, heq]
      · simpa [System.setAbsenceSession, heq] using h
  · exact h

theorem absence_requestReconcile {loop : ReconcileLoop} {turn : ReconcileTurn} {canonical : Bool} :
    (σ.requestReconcile loop turn canonical).reconciler.sessions = σ.reconciler.sessions := by
  unfold System.requestReconcile
  split
  · rfl
  · split
    · rfl
    · split <;> rfl

theorem absence_nextReconcileTurn {id : SqlText} {loop : ReconcileLoop}
    (h : σ.reconciler.sessions id = none) (clock : Clock) :
    (σ.nextReconcileTurn cfg loop clock).reconciler.sessions id = none := by
  have hfinished : ∀ τ : System, τ.reconciler.sessions id = none →
      (τ.finishReconcile loop).reconciler.sessions id = none := by
    intro τ hnone
    unfold System.finishReconcile
    dsimp only
    split
    · simp [System.pruneAbsenceProofSessions, System.setReconcileSweep, hnone]
    · exact hnone
  unfold System.nextReconcileTurn
  split
  · exact hfinished σ h
  · split
    · exact hfinished σ h
    · rename_i watch _ _ _
      unfold System.reconcileWatch
      split
      · exact h
      · rename_i transaction _
        have hclaimed : (σ.claimUnit .reconciliation clock.claim watch.id (.reconciliation
            transaction.val watch.reconciliationAttempts)).reconciler.sessions id = none := by
          rw [System.reconciler_claimUnit]
          exact h
        dsimp only
        split
        · exact hclaimed
        · by_cases heq : id = watch.id
          · simp [System.reconciled, System.setReconcileSweep, System.setAbsenceSession, heq]
          · simpa [System.reconciled, System.setReconcileSweep, System.setAbsenceSession, heq]
              using h
        · exact absence_retainAbsenceSession hclaimed
        · unfold System.reconcileClaimed
          split
          · exact hclaimed
          · dsimp only
            split
            · exact (congrFun absence_requestReconcile id).trans
                (absence_retainAbsenceSession hclaimed)
            · exact (congrFun absence_requestReconcile id).trans
                (absence_retainAbsenceSession hclaimed)

/-- **A failed turn of the reconciler drops the session of its watch.** -/
theorem System.reconcileFailed.drops {watch : WatchRow} (h : σ.reconcileFailed watch)
    (answer : Answer) (clock : Clock) :
    (σ.resumeReconcile cfg answer clock).reconciler.sessions watch.id = none := by
  obtain ⟨sweep, e, hsweep, hphase, hne⟩ := h
  have hforgotten : (σ.setAbsenceSession watch.id none).reconciler.sessions watch.id = none := by
    simp [System.setAbsenceSession]
  unfold System.resumeReconcile
  simp only [hsweep, hphase]
  unfold System.settleReconcile
  split
  · rename_i heq
    cases heq
  · rename_i heq
    exact absurd (Except.error.inj heq) hne
  · dsimp only
    split
    · unfold System.finishReconcile
      dsimp only
      split
      · simp [System.pruneAbsenceProofSessions, System.setReconcileSweep, System.setAbsenceSession,
          System.deferWatch]
      · exact hforgotten
    · refine absence_nextReconcileTurn ?_ clock
      exact hforgotten

/-! ## Sessions that have had their time -/

/-- A session that fits a row after a change fitted it before. -/
theorem RowChange.fits {op : StoreOp} {r r' : WatchRow} (hchange : RowChange op r r')
    (hpaid : Paid r) {session : ScanSession} (hopened : session.Opened r)
    (hfits : session.Fits r') : session.Fits r := by
  by_cases hfinished : r.finished = true
  · rw [hchange.eq_of_finished hfinished] at hfits
    exact hfits
  · have hevolves := hchange.evolves hpaid
    have hsame := hchange.sameWatch
    refine ⟨hopened.state.resolve_right hfinished, hopened.version, hopened.deadline, ?_,
      fun closingRound hclosing => hfits.closing _ (hevolves.closing _ hclosing)⟩
    obtain ⟨scanned, hscanned, hle⟩ := hopened.cursor
    obtain ⟨scanned', hscanned', hgrows⟩ := hevolves.scan _ hscanned
    have heq : scanned' = session.minRound - 1 := by
      simpa [hfits.cursor] using hscanned'.symm
    rw [hscanned, Option.some.injEq]
    omega

/-- The session was opened for a row of the store that can no longer go on with it. -/
def Spent (s : Store) (session : ScanSession) : Prop :=
  ∃ row ∈ s.rows, Paid row ∧ session.Opened row ∧ ¬session.Fits row

theorem Spent.run {s : Store} {session : ScanSession} (h : Spent s session) (ops : List StoreOp) :
    Spent (s.run ops) session := by
  refine Runs.run_invariant' (I := fun s => Spent s session) (fun s op h => ?_) ops h
  obtain ⟨row, hrow, hpaid, hopened, hnot⟩ := h
  obtain ⟨row', hrow', rfl | hchange⟩ := Store.exists_apply_of_mem hrow op
  · exact ⟨row', hrow', hpaid, hopened, hnot⟩
  · exact ⟨row', hrow', hpaid.change hchange, hchange.opened hopened, fun hfits =>
      hnot (hchange.fits hpaid hopened hfits)⟩

/-- The settlement of the watch is over. -/
def Closed (s : Store) (id : SqlText) : Prop :=
  ∃ row ∈ s.rows, row.id = id ∧ Lifecycle row ∧ row.unsettled = false

theorem Closed.run {s : Store} {id : SqlText} (h : Closed s id) (ops : List StoreOp) :
    Closed (s.run ops) id := by
  refine Runs.run_invariant' (I := fun s => Closed s id) (fun s op h => ?_) ops h
  obtain ⟨row, hrow, hid, hlife, hover⟩ := h
  obtain ⟨row', hrow', rfl | hchange⟩ := Store.exists_apply_of_mem hrow op
  · exact ⟨row', hrow', hid, hlife, hover⟩
  · refine ⟨row', hrow', hchange.sameWatch.id.trans hid, hlife.change hchange, ?_⟩
    rw [Bool.eq_false_iff] at hover ⊢
    exact fun hopen => hover (hchange.unsettled hlife hopen)

/-- Every stretch works on the store by its operations, and the session objects of the
poller are made for good. -/
theorem System.step_store_objects (cfg : WorkerConfig) (σ : System) (e : Event) :
    (∃ ops, (σ.step cfg e).store = σ.store.run ops) ∧
      ∀ ref < σ.poller.nextObject, ref < (σ.step cfg e).poller.nextObject ∧
        ((σ.step cfg e).poller.objects ref).watchId = (σ.poller.objects ref).watchId ∧
        ((σ.step cfg e).poller.objects ref).minRound = (σ.poller.objects ref).minRound ∧
        ((σ.step cfg e).poller.objects ref).maxRound = (σ.poller.objects ref).maxRound := by
  have houtside : e.isElsewhere = true → (∃ ops, (σ.step cfg e).store = σ.store.run ops) ∧
      ∀ ref < σ.poller.nextObject, ref < (σ.step cfg e).poller.nextObject ∧
        ((σ.step cfg e).poller.objects ref).watchId = (σ.poller.objects ref).watchId ∧
        ((σ.step cfg e).poller.objects ref).minRound = (σ.poller.objects ref).minRound ∧
        ((σ.step cfg e).poller.objects ref).maxRound = (σ.poller.objects ref).maxRound := by
    intro he
    have hstretch : Elsewhere σ (σ.step cfg e) := elsewhere_step σ he
    obtain ⟨ops, hops, -⟩ := hstretch.store
    refine ⟨⟨ops, hops⟩, fun ref href => ?_⟩
    rw [hstretch.poller]
    exact ⟨href, rfl, rfl, rfl⟩
  cases e with
  | call op => exact ⟨⟨[op.1], rfl⟩, fun ref href => ⟨href, rfl, rfl, rfl⟩⟩
  | poll clock =>
      have hpoll : Apart σ (σ.runOnce cfg clock) := apart_runOnce σ clock
      exact ⟨hpoll.store, hpoll.objects⟩
  | resumePoll i answer clock =>
      have hpoll : Apart σ (σ.resumePoll cfg i answer clock) := apart_resumePoll σ i answer clock
      exact ⟨hpoll.store, hpoll.objects⟩
  | turnPoller => exact ⟨⟨[], rfl⟩, fun ref href => ⟨href, rfl, rfl, rfl⟩⟩
  | stopPolling =>
      simp only [System.step]
      split
      · exact ⟨⟨[], rfl⟩, fun ref href => ⟨href, rfl, rfl, rfl⟩⟩
      · exact ⟨⟨[], rfl⟩, fun ref href => ⟨href, rfl, rfl, rfl⟩⟩
  | restart config => exact ⟨⟨[.reopen config], rfl⟩, fun ref href => ⟨href, rfl, rfl, rfl⟩⟩
  | reconcile clock => exact houtside rfl
  | resumeReconcile answer clock => exact houtside rfl
  | turnReconciler => exact houtside rfl
  | stopReconciling => exact houtside rfl
  | settle watchId evidence => exact houtside rfl
  | resumeHook k answer clock => exact houtside rfl

/-- **A spent session is not asked for again.** -/
theorem Transcript.Ordered.spent_run (h : t.Ordered cfg) {ref : ℕ}
    (href : ref < t.system.poller.nextObject)
    (hspent : Spent t.system.store (t.system.poller.objects ref)) {es : List Event}
    (hes : OrderlyRun cfg t es) :
    ∃ later, (run cfg t es).pages = later ++ t.pages ∧ ∀ q ∈ later, q.session ≠ ref := by
  let I : Transcript → Prop := fun u => u.Ordered cfg ∧ ref < u.system.poller.nextObject ∧
    (u.system.poller.objects ref).watchId = (t.system.poller.objects ref).watchId ∧
    (u.system.poller.objects ref).minRound = (t.system.poller.objects ref).minRound ∧
    (u.system.poller.objects ref).maxRound = (t.system.poller.objects ref).maxRound ∧
    Spent u.system.store (t.system.poller.objects ref) ∧
    ∃ later, u.pages = later ++ t.pages ∧ ∀ q ∈ later, q.session ≠ ref
  have hstep : ∀ (u : Transcript) (e : Event), e.orderly u.system = true → I u →
      I (u.step cfg e) := by
    rintro u e he ⟨hu, hlt, hid, hmin, hmax, hspent, later, hlater, hnever⟩
    have hu' := hu.step he
    obtain ⟨⟨ops, hops⟩, hobjects⟩ := System.step_store_objects cfg u.system e
    obtain ⟨hlt', hid', hmin', hmax'⟩ := hobjects ref hlt
    have hspent' : Spent (u.step cfg e).system.store (t.system.poller.objects ref) := by
      have hrun := hspent.run ops
      rw [← hops] at hrun
      exact hrun
    refine ⟨hu', hlt', hid'.trans hid, hmin'.trans hmin, hmax'.trans hmax, hspent',
      (e.pageRequest? u.system (u.system.step cfg e)).toList ++ later, ?_, fun q hq hsession => ?_⟩
    · simp [Transcript.step, hlater]
    · rcases List.mem_append.1 hq with hq | hq
      · have hrequest : e.pageRequest? u.system (u.system.step cfg e) = some q := by simpa using hq
        obtain ⟨i, hi⟩ := Event.pageRequest?_eq_some hrequest
        obtain ⟨_, _, _, _, -, -, -, hobject, -, hget⟩ := System.pageRequest?_eq_some hi
        obtain ⟨row, hrow, hfits⟩ :=
          (hu'.pages.history [] q u.pages (by simp [Transcript.step, hrequest])).fits
        obtain ⟨spent, hmem, -, hopened, hnot⟩ := hspent'
        rw [hsession] at hobject
        rw [hrow] at hget
        have hrowId : row.id = spent.id := by
          rw [Store.getWatch_id hget.symm, bindText_val, hobject, hid', hid, hopened.id]
        have heq := Store.eq_of_id (Store.getWatch_mem hget.symm) hmem hrowId
        subst heq
        refine hnot ⟨hfits.active, hfits.version, hfits.deadline, ?_, ?_⟩
        · rw [hfits.cursor, hobject, hmin', hmin]
        · rw [← hmax, ← hmax', ← hobject]
          exact hfits.closing
      · exact hnever q hq hsession
  obtain ⟨-, -, -, -, -, -, hlater⟩ := Runs.run_invariant (I := I) hstep hes
    ⟨h, href, rfl, rfl, rfl, hspent, [], rfl, by simp⟩
  exact hlater

theorem Event.searchRequest?_row {q : SearchRequest}
    (h : e.searchRequest? σ σ' searches = some q) : q.row = σ'.store.getWatch q.watch.val := by
  have hrequest : σ'.searchRequest? searches = some q := by
    cases e with
    | reconcile clock =>
        simp only [Event.searchRequest?] at h
        split at h
        · cases h
        · exact h
    | resumeReconcile answer clock => exact h
    | _ => cases h
  obtain ⟨sweep, -, hphase⟩ := Option.bind_eq_some_iff.1 hrequest
  split at hphase
  · split at hphase
    · cases hphase
      rfl
    · cases hphase
  · cases hphase

/-- **A search whose watch is settled does not go on.** -/
theorem Transcript.Ordered.closed_run (h : t.Ordered cfg) {id : SqlText}
    (hclosed : Closed t.system.store id) {es : List Event} (hes : OrderlyRun cfg t es) :
    ∃ later, (run cfg t es).searches = later ++ t.searches ∧
      ∀ q ∈ later, q.watch = id → q.token = none := by
  let I : Transcript → Prop := fun u => u.Ordered cfg ∧ Closed u.system.store id ∧
    ∃ later, u.searches = later ++ t.searches ∧ ∀ q ∈ later, q.watch = id → q.token = none
  have hstep : ∀ (u : Transcript) (e : Event), e.orderly u.system = true → I u →
      I (u.step cfg e) := by
    rintro u e he ⟨hu, hclosed, later, hlater, hnever⟩
    have hu' := hu.step he
    obtain ⟨⟨ops, hops⟩, -⟩ := System.step_store_objects cfg u.system e
    have hclosed' : Closed (u.step cfg e).system.store id := by
      have hrun := hclosed.run ops
      rw [← hops] at hrun
      exact hrun
    refine ⟨hu', hclosed', (e.searchRequest? u.system (u.system.step cfg e) u.searches).toList ++
      later, ?_, fun q hq hwatch => ?_⟩
    · simp [Transcript.step, hlater]
    · rcases List.mem_append.1 hq with hq | hq
      · have hrequest : e.searchRequest? u.system (u.system.step cfg e) u.searches = some q := by
          simpa using hq
        have hget := Event.searchRequest?_row hrequest
        by_contra htoken
        obtain ⟨row, hrow, hopen, -⟩ :=
          (hu'.searches.history [] q u.searches (by simp [Transcript.step, hrequest])).fits
            (Option.isSome_iff_ne_none.2 htoken)
        obtain ⟨closed, hmem, hid, -, hover⟩ := hclosed'
        rw [hrow] at hget
        have hrowId : row.id = closed.id := by
          rw [Store.getWatch_id hget.symm, bindText_val, hwatch, hid]
        have heq := Store.eq_of_id (Store.getWatch_mem hget.symm) hmem hrowId
        subst heq
        simp [hover] at hopen
      · exact hnever q hq hwatch
  obtain ⟨-, -, hlater⟩ := Runs.run_invariant (I := I) hstep hes ⟨h, hclosed, [], rfl, by simp⟩
  exact hlater

/-! ## Every token -/

/-- What is so of the continuations in a transcript. -/
structure Transcript.Continues (cfg : WorkerConfig) (t : Transcript) : Prop where
  pages : History cfg.scanQueryVariant t.system.log t.pages
  terms : ∀ q ∈ t.pages, ∃ row, q.row = some row ∧ row.terms = q.terms
  searches : SearchHistory t.system.log t.searches
  /-- A page without a match that returns a token its session was asked for with before
  fails the turn of the session's watch. -/
  repeatedPage : ∀ i sweep turn ref query held, t.system.poller.sweeps i = some sweep →
    sweep.phase = .serving turn → turn.point = .page ref query held →
    ∀ answer page token, turn.reply cfg answer = some (.ok page) →
      (∀ x ∈ page.transactions, matchesWatch x turn.watch.row.terms = false) →
      page.nextToken = some token →
      (∃ p ∈ t.pages, p.session = ref ∧ p.object.nextToken = some token) →
      t.system.poller.sessions turn.initial.id = some ref ∧
        ∀ clock, (t.system.resumePoll cfg i answer clock).pollFailed i turn.initial
  /-- A failed turn drops the session. -/
  failedTurn : ∀ i watch, t.system.pollFailed i watch → ∀ answer clock,
    (t.system.resumePoll cfg i answer clock).poller.sessions watch.id = none
  /-- The same for a page of a search that does not show the transaction. -/
  repeatedSearch : ∀ sweep turn session, t.system.reconciler.sweep = some sweep →
    sweep.phase = .serving turn → turn.point = .search session →
    ∀ answer page token, searchTransactionPage session.expectedTransaction.val answer = .ok page →
      (∀ x ∈ page.transactions, x.transaction ≠ session.expectedTransaction.val) →
      page.nextToken = some token →
      (∃ p ∈ t.searches, p.watch = turn.watch.id ∧
        p.session = sessionsOpened t.searches turn.watch.id ∧ p.token = some token) →
      ∀ clock, (t.system.resumeReconcile cfg answer clock).reconcileFailed turn.watch
  failedSearch : ∀ watch, t.system.reconcileFailed watch → ∀ answer clock,
    (t.system.resumeReconcile cfg answer clock).reconciler.sessions watch.id = none

theorem Transcript.Ordered.continues (h : t.Ordered cfg) : t.Continues cfg where
  pages := h.pages.history
  terms := h.terms
  searches := h.searches.history
  repeatedPage i sweep turn ref query held hsweep hphase hpoint _ _ _ hreply hblank htoken
      hasked :=
    ⟨(((h.pages.sweeps i sweep hsweep).serving turn hphase).page ref query held hpoint).1,
      h.pages.repeats_fail hsweep hphase hpoint hreply hblank htoken hasked⟩
  failedTurn _ _ hfailed := hfailed.drops
  repeatedSearch _ _ _ hsweep hphase hpoint _ _ _ hpage hblank htoken hasked :=
    h.searches.repeats_fail h.sound hsweep hphase hpoint hpage hblank htoken hasked
  failedSearch _ hfailed := hfailed.drops

/-- **Continuations are used soundly.**  In every run whose sweeps do not overlap, whatever
the answers, the failures, the pauses and the work of others on the store: a token is sent
only in the session it was returned to, once, for a watch that can go on with the session;
a page that repeats a token without showing the payment fails its turn and drops the
session; a session that does not fit its row is never asked for again, and no search goes on
for a watch whose settlement is over. -/
theorem continuations_used_soundly (cfg : WorkerConfig) (config : StoreConfig) {es : List Event}
    (hes : OrderlyRun cfg (.boot config) es) :
    let t := Transcript.run cfg (.boot config) es
    t.Continues cfg ∧ ∀ before after, es = before ++ after →
      let t' := Transcript.run cfg (.boot config) before
      (∀ ref < t'.system.poller.nextObject,
        (∀ row, t'.system.store.getWatch (t'.system.poller.objects ref).watchId.val = some row →
          ¬(t'.system.poller.objects ref).Fits row) →
        ∃ later, t.pages = later ++ t'.pages ∧ ∀ q ∈ later, q.session ≠ ref) ∧
      ∀ id row, t'.system.store.getWatch id.val = some row → row.unsettled = false →
        ∃ later, t.searches = later ++ t'.searches ∧ ∀ q ∈ later, q.watch = id → q.token = none := by
  refine ⟨(ordered_run cfg config hes).continues, ?_⟩
  rintro before after rfl
  intro t'
  obtain ⟨hbefore, hafter⟩ := Runs.admissible_append.1 hes
  have ht' : t'.Ordered cfg := ordered_run cfg config hbefore
  have hrun : Transcript.run cfg (.boot config) (before ++ after) = Transcript.run cfg t' after :=
    Runs.run_append _ _ _ _
  rw [hrun]
  refine ⟨fun ref href hnot => ?_, fun id row hget hover => ?_⟩
  · obtain ⟨row, hrow, hopened⟩ := ht'.pages.opened ref href
    have hget : t'.system.store.getWatch (t'.system.poller.objects ref).watchId.val = some row :=
      Store.getWatch_of_mem hrow (hopened.id.trans (bindText_val _).symm)
    exact ht'.spent_run href ⟨row, hrow, (ht'.sound.rows row hrow).paid, hopened, hnot row hget⟩
      hafter
  · have hrow := Store.getWatch_mem hget
    have hid : row.id = id := (Store.getWatch_id hget).trans (bindText_val id)
    exact ht'.closed_run ⟨row, hrow, hid, (ht'.sound.rows row hrow).lifecycle, hover⟩ hafter

/-- A page that returns a token. -/
def continuedBody (items : List Json) : Json :=
  .obj [(js "transactions", .arr items), (js "current-round", .num 50),
    (js "next-token", .str (js "t"))]

/-- Two watches read the first page of one query, the second one from the cache, and the
next sweep goes on with the second one. -/
def sharedTokenHistory : List Event :=
  activeOpening ++ secondOpening ++ [.poll (.at 1000),
    .resumePoll 0 (.body (tipBody 50)) (.at 1000),
    .resumePoll 0 (.body (continuedBody [])) (.at 1000),
    .resumePoll 0 .network (.at 1000), .resumePoll 0 .network (.at 1000),
    .resumePoll 0 .network (.at 1000), .resumePoll 0 .network (.at 1000),
    .resumePoll 0 .network (.at 1000), .poll (.at 2000)]

theorem continuations_used_soundly_second_page :
    ∃ q ∈ (Transcript.run sampleWorker (.boot .default) sharedTokenHistory).pages,
      q.object.nextToken = some (js "t") ∧
      ∃ p ∈ (Transcript.run sampleWorker (.boot .default) sharedTokenHistory).pages,
        p.session = q.session ∧ p.object.nextToken ≠ q.object.nextToken := by
  have hes : OrderlyRun sampleWorker (.boot .default) sharedTokenHistory := by decide +kernel
  obtain ⟨hcontinues, -⟩ := continuations_used_soundly sampleWorker .default hes
  have hlast : ((Transcript.run sampleWorker (.boot .default) sharedTokenHistory).pages.head?.map
      (·.object.nextToken)) = some (some (js "t")) := by decide +kernel
  cases hpages : (Transcript.run sampleWorker (.boot .default) sharedTokenHistory).pages with
  | nil => simp [hpages] at hlast
  | cons q earlier =>
      have htoken : q.object.nextToken = some (js "t") := by simpa [hpages] using hlast
      have hq := hcontinues.pages [] q earlier (by simp [hpages])
      obtain ⟨p, hp, hsession, -⟩ := hq.token _ htoken
      exact ⟨q, List.mem_cons_self, htoken, p, List.mem_cons_of_mem _ hp, hsession,
        hq.once p hp hsession⟩

/-- The second page shows the payment, and returns the token it was asked for with. -/
def repeatedTokenHistory : List Event :=
  activeOpening ++ [.poll (.at 1000),
    .resumePoll 0 (.body (tipBody 50)) (.at 1000),
    .resumePoll 0 (.body (continuedBody [])) (.at 1000),
    .resumePoll 0 .network (.at 1000), .resumePoll 0 .network (.at 1000), .poll (.at 2000),
    .resumePoll 1 (.body (continuedBody [paymentItem])) (.at 2000)]

/-- The turn of sweep `i` has ended well. -/
def System.servedWell (σ : System) (i : ℕ) : Bool :=
  (σ.poller.sweeps i).any fun sweep =>
    match sweep.phase with
    | .served _ (.ok _) => true
    | _ => false

/-- A watch goes on with a token that only another watch was sent, and a page that repeats
its token and shows the payment ends its turn well. -/
theorem continuation_of_another_watch :
    ((Transcript.run sampleWorker (.boot .default) sharedTokenHistory).pages.filter
        (·.sent)).map (fun q => (q.object.watchId.val, q.object.nextToken)) =
      [(js "v", some (js "t")), (js "w", none)] ∧
    (Transcript.run sampleWorker (.boot .default) repeatedTokenHistory).pages.map
        (fun q => (q.session, q.object.nextToken)) = [(0, some (js "t")), (0, none)] ∧
    nextTokenOf (continuedBody [paymentItem]) = some (js "t") ∧
    (Transcript.run sampleWorker (.boot .default) repeatedTokenHistory).system.servedWell 1 =
      true := by
  decide +kernel

end RoundWatch
