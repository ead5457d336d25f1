import RoundWatch.Workers.Apart
import RoundWatch.Workers.PollerContinuations
import RoundWatch.Workers.ReconcilerSound

/-!
# The reconciler goes on where it left off

An absence proof is one session of searches for the transaction a watch expects.  As with
the poller, each search is tied to those before it.

* `SearchRequest`, `SearchRequest.Continues` — a search, and its place in the history;
* `SearchOrdered` — the invariant, kept by every stretch of the reconciler.
-/

namespace RoundWatch

open JsText

/-! ## Searches -/

/-- A page of a search as the reconciler asks for it. -/
structure SearchRequest where
  watch : SqlText
  transaction : SqlText
  token : Option JsString
  /-- The session, counted for each watch: a search without a token opens one. -/
  session : ℕ
  /-- The row of the watch as it is now. -/
  row : Option WatchRow

/-- The sessions opened for a watch so far. -/
def sessionsOpened (asked : List SearchRequest) (id : SqlText) : ℕ :=
  asked.countP fun p => p.watch == id && p.token.isNone

/-- The search the reconciler waits for, given those before it. -/
def System.searchRequest? (σ : System) (earlier : List SearchRequest) : Option SearchRequest :=
  σ.reconciler.sweep.bind fun sweep =>
    match sweep.phase with
    | .serving turn =>
        match turn.point with
        | .search session =>
            some
              { watch := turn.watch.id
                transaction := session.expectedTransaction
                token := session.nextToken
                session := sessionsOpened earlier turn.watch.id +
                  if session.nextToken.isNone then 1 else 0
                row := σ.store.getWatch turn.watch.id.val }
        | _ => none
    | _ => none

/-- The search a stretch ends in. -/
def Event.searchRequest? (σ σ' : System) (earlier : List SearchRequest) :
    Event → Option SearchRequest
  | .reconcile _ => if σ.reconciler.sweep.isSome then none else σ'.searchRequest? earlier
  | .resumeReconcile _ _ => σ'.searchRequest? earlier
  | _ => none

/-- The search was answered with a page that returns the token. -/
def SearchRequest.Returned (log : List Observation) (p : SearchRequest) (token : JsString) : Prop :=
  ∃ body page, .searched p.transaction.val p.token body ∈ log ∧
    searchTransactionPage p.transaction.val (.body body) = .ok page ∧ page.nextToken = some token

/-- What is so of a search, given those before it. -/
structure SearchRequest.Continues (log : List Observation) (earlier : List SearchRequest)
    (q : SearchRequest) : Prop where
  /-- Its token was returned to a search of the same session, for the same transaction. -/
  token : ∀ t, q.token = some t → ∃ p ∈ earlier, p.watch = q.watch ∧ p.session = q.session ∧
    p.transaction = q.transaction ∧ p.Returned log t
  /-- No search of the session had it. -/
  once : ∀ p ∈ earlier, p.watch = q.watch → p.session = q.session → p.token ≠ q.token
  /-- A session goes on only while the watch expects its transaction. -/
  fits : q.token.isSome → ∃ row, q.row = some row ∧ row.unsettled = true ∧
    row.expectedServiceTransaction = some q.transaction

/-- Every search of a history, latest first, continues those before it. -/
def SearchHistory (log : List Observation) (asked : List SearchRequest) : Prop :=
  ∀ later q earlier, asked = later ++ q :: earlier → q.Continues log earlier

section History

variable {log log' : List Observation} {asked : List SearchRequest}

theorem SearchRequest.Returned.mono {p : SearchRequest} {token : JsString}
    (h : p.Returned log token) (hlog : log ⊆ log') : p.Returned log' token := by
  obtain ⟨body, page, hmem, hrest⟩ := h
  exact ⟨body, page, hlog hmem, hrest⟩

theorem SearchRequest.Continues.mono {q : SearchRequest} (h : q.Continues log asked)
    (hlog : log ⊆ log') : q.Continues log' asked := by
  refine ⟨fun t ht => ?_, h.once, h.fits⟩
  obtain ⟨p, hp, hwatch, hsession, htransaction, hreturned⟩ := h.token t ht
  exact ⟨p, hp, hwatch, hsession, htransaction, hreturned.mono hlog⟩

theorem SearchHistory.cons {q : SearchRequest} (hq : q.Continues log asked)
    (h : SearchHistory log asked) : SearchHistory log (q :: asked) := by
  intro later p earlier heq
  cases later with
  | nil =>
      cases heq
      exact hq
  | cons first later =>
      rw [List.cons_append, List.cons.injEq] at heq
      exact h later p earlier heq.2

theorem SearchHistory.mono (h : SearchHistory log asked) (hlog : log ⊆ log') :
    SearchHistory log' asked :=
  fun later q earlier heq => (h later q earlier heq).mono hlog

end History

/-! ## The parts of the invariant -/

/-- The searches of the session that is open for a watch had tokens the session has seen. -/
def SeenBy (asked : List SearchRequest) (id : SqlText) (session : AbsenceProofSession) : Prop :=
  ∀ p ∈ asked, p.watch = id → p.session = sessionsOpened asked id →
    ∀ t, p.token = some t → t ∈ session.seenTokens

/-- A session that goes on with a token: a search of it returned the token, none had it. -/
structure SessionReady (asked : List SearchRequest) (log : List Observation) (id : SqlText)
    (session : AbsenceProofSession) (t : JsString) : Prop where
  seen : SeenBy asked id session
  returned : ∃ p ∈ asked, p.watch = id ∧ p.session = sessionsOpened asked id ∧
    p.transaction = session.expectedTransaction ∧ p.Returned log t
  fresh : ∀ p ∈ asked, p.watch = id → p.session = sessionsOpened asked id → p.token ≠ some t
  token : t ∈ session.seenTokens

/-- The session a turn searches for is the open one of its watch. -/
structure AtSearch (asked : List SearchRequest) (id : SqlText) (session : AbsenceProofSession) :
    Prop where
  seen : SeenBy asked id session
  asked : ∃ p ∈ asked, p.watch = id ∧ p.session = sessionsOpened asked id ∧
    p.transaction = session.expectedTransaction ∧ p.token = session.nextToken

/-- The sweep has searched for the watch, or has to drop its session. -/
def ReconcilePhase.Holds (phase : ReconcilePhase) (id : SqlText) : Prop :=
  (∃ turn session, phase = .serving turn ∧ turn.point = .search session ∧ turn.watch.id = id) ∨
  ∃ w e, phase = .served w (.error e) ∧ w.id = id

/-- No turn will go on with the session of the watch as it is. -/
def SearchBusy (σ : System) (id : SqlText) : Prop :=
  (∃ sweep, σ.reconciler.sweep = some sweep ∧ sweep.phase.Holds id) ∨
  (σ.reconciler.shutdownStarted = true ∧
    ∀ sweep turn, σ.reconciler.sweep = some sweep → sweep.phase ≠ .serving turn)

/-- The invariant within a stretch: the sessions of some watches do not go on as they are. -/
structure SearchMidway (asked : List SearchRequest) (busy : SqlText → Prop) (σ : System) :
    Prop where
  history : SearchHistory σ.log asked
  counted : ∀ p ∈ asked, p.session ≤ sessionsOpened asked p.watch
  ready : ∀ id session, σ.reconciler.sessions id = some session → ¬busy id →
    ∀ t, session.nextToken = some t → SessionReady asked σ.log id session t

/-- **The invariant** between two stretches. -/
structure SearchOrdered (asked : List SearchRequest) (σ : System) : Prop extends
    SearchMidway asked (SearchBusy σ) σ where
  search : ∀ sweep turn session, σ.reconciler.sweep = some sweep → sweep.phase = .serving turn →
    turn.point = .search session → AtSearch asked turn.watch.id session
  served : ∀ sweep w, σ.reconciler.sweep = some sweep →
    sweep.phase = .served w (.error .shutdown) → σ.reconciler.shutdownStarted = true

variable {cfg : WorkerConfig} {asked : List SearchRequest} {σ σ' : System} {busy : SqlText → Prop}
  {loop : ReconcileLoop} {turn : ReconcileTurn}

/-! ## What other steps keep -/

theorem SessionReady.mono {log log' : List Observation} {id : SqlText}
    {session : AbsenceProofSession} {t : JsString} (h : SessionReady asked log id session t)
    (hlog : log ⊆ log') : SessionReady asked log' id session t := by
  obtain ⟨p, hp, hwatch, hsession, htransaction, hreturned⟩ := h.returned
  exact ⟨h.seen, ⟨p, hp, hwatch, hsession, htransaction, hreturned.mono hlog⟩, h.fresh, h.token⟩

/-- A step that makes no search and at most drops sessions. -/
theorem SearchMidway.keep (h : SearchMidway asked busy σ) (hlog : σ.log ⊆ σ'.log)
    (hsessions : ∀ id session, σ'.reconciler.sessions id = some session →
      σ.reconciler.sessions id = some session) : SearchMidway asked busy σ' :=
  ⟨h.history.mono hlog, h.counted, fun id session hsession hid t ht =>
    (h.ready id session (hsessions id session hsession) hid t ht).mono hlog⟩

theorem SearchMidway.mono (h : SearchMidway asked busy σ) {busy' : SqlText → Prop}
    (hbusy : ∀ id, busy id → busy' id) : SearchMidway asked busy' σ :=
  ⟨h.history, h.counted, fun id session hsession hid =>
    h.ready id session hsession fun hb => hid (hbusy id hb)⟩

theorem SearchMidway.perform (h : SearchMidway asked busy σ) (op : StoreOp) :
    SearchMidway asked busy (σ.perform op) :=
  h.keep (List.Subset.refl _) fun _ _ h => h

theorem SearchMidway.observe (h : SearchMidway asked busy σ) (o : Observation) :
    SearchMidway asked busy (σ.observe o) :=
  h.keep (List.subset_cons_self _ _) fun _ _ h => h

theorem SearchMidway.claimUnit (h : SearchMidway asked busy σ) (kind : WorkerKind) (now : ℤ)
    (id : SqlText) (claim : WorkClaim) :
    SearchMidway asked busy (σ.claimUnit kind now id claim) := by
  unfold System.claimUnit
  split
  · exact h.keep (List.subset_cons_self _ _) fun _ _ h => h
  · exact (h.perform _).observe _
  · exact h.perform _

/-- Another session under a watch, or none. -/
theorem SearchMidway.setAbsenceSession (h : SearchMidway asked busy σ) {id : SqlText}
    {session : Option AbsenceProofSession} {busy' : SqlText → Prop}
    (hbusy : ∀ id', busy id' → id' = id ∨ busy' id')
    (hready : ∀ s t, session = some s → s.nextToken = some t → busy' id ∨
      SessionReady asked σ.log id s t) :
    SearchMidway asked busy' (σ.setAbsenceSession id session) := by
  refine ⟨h.history, h.counted, fun id' s hs hid t ht => ?_⟩
  by_cases heq : id' = id
  · subst heq
    have hs' : session = some s := by simpa [System.setAbsenceSession] using hs
    exact (hready s t hs' ht).resolve_left hid
  · have hs' : σ.reconciler.sessions id' = some s := by
      simpa [System.setAbsenceSession, heq] using hs
    exact h.ready id' s hs' (fun hb => (hbusy id' hb).elim heq hid) t ht

theorem SearchMidway.forget (h : SearchMidway asked busy σ) {id : SqlText} {busy' : SqlText → Prop}
    (hbusy : ∀ id', busy id' → id' = id ∨ busy' id') :
    SearchMidway asked busy' (σ.setAbsenceSession id none) :=
  h.setAbsenceSession hbusy (by simp)

theorem SearchMidway.retainAbsenceSession (h : SearchMidway asked busy σ) (id : SqlText)
    (watch : Option WatchRow) : SearchMidway asked busy (σ.retainAbsenceSession id watch) := by
  unfold System.retainAbsenceSession
  split
  · split
    · exact h
    · exact h.forget fun _ hid => Or.inr hid
  · exact h

/-! ## The end of a stretch -/

/-- A stretch of the reconciler is over: the invariant holds of the searches so far and of
the one it ends in. -/
abbrev SearchSettles (asked : List SearchRequest) (σ : System) : Prop :=
  SearchOrdered ((σ.searchRequest? asked).toList ++ asked) σ

/-- The turn of a watch ends. -/
theorem SearchMidway.reconciled (h : SearchMidway asked busy σ) {watch : WatchRow}
    {result : Except TurnError CustomerTurnOutcome}
    (hshutdown : result = .error .shutdown → σ.reconciler.shutdownStarted = true)
    (hbusy : ∀ id, busy id → watch.id = id ∧ ∃ e, result = .error e) :
    SearchSettles asked (σ.reconciled loop watch result) := by
  have hnone : (σ.reconciled loop watch result).searchRequest? asked = none := rfl
  unfold SearchSettles
  rw [hnone]
  refine ⟨SearchMidway.keep (h.mono fun id hid => ?_) (List.Subset.refl _) fun _ _ h => h, ?_, ?_⟩
  · obtain ⟨hwatch, e, rfl⟩ := hbusy id hid
    exact Or.inl ⟨_, rfl, Or.inr ⟨watch, e, rfl, hwatch⟩⟩
  · intro sweep turn session hsweep hphase
    cases hsweep
    cases hphase
  · intro sweep w hsweep hphase
    cases hsweep
    cases hphase
    exact hshutdown rfl

/-- It ends well, or in an error of its own. -/
theorem SearchMidway.done (h : SearchMidway asked (fun _ => False) σ) {watch : WatchRow}
    {result : Except TurnError CustomerTurnOutcome}
    (hshutdown : result = .error .shutdown → σ.reconciler.shutdownStarted = true) :
    SearchSettles asked (σ.reconciled loop watch result) :=
  h.reconciled hshutdown fun _ hid => hid.elim

/-- It ends in an error. -/
theorem SearchMidway.failed (h : SearchMidway asked (· = turn.watch.id) σ) {e : TurnError}
    (he : e = .shutdown → σ.reconciler.shutdownStarted = true) :
    SearchSettles asked (σ.reconciled loop turn.watch (.error e)) :=
  h.reconciled (fun heq => he (Except.error.inj heq)) fun _ hid => ⟨hid.symm, e, rfl⟩

/-- What the store throws is no interruption. -/
theorem stored_ne_shutdown {α β : Type} (stored : Except StoreError α) (f : α → β) :
    (stored.mapError TurnError.ofStore).map f ≠ .error .shutdown := by
  cases stored with
  | ok a => simp [Except.map, Except.mapError]
  | error e => simp [Except.map, Except.mapError, TurnError.ofStore_ne_shutdown]

theorem SearchMidway.deferred (h : SearchMidway asked (fun _ => False) σ) (watch : WatchRow)
    (clock : Clock) (outcome : CustomerTurnOutcome) :
    SearchSettles asked (σ.deferred cfg loop watch clock outcome) :=
  (h.perform _).done fun heq => absurd heq (stored_ne_shutdown _ _)

/-- A request that may be refused, and a point other than a search. -/
theorem SearchMidway.requestReconcile (h : SearchMidway asked (fun _ => False) σ)
    (hpoint : ∀ session, turn.point ≠ .search session) (canonical : Bool) :
    SearchSettles asked (σ.requestReconcile loop turn canonical) := by
  unfold System.requestReconcile
  split
  · rename_i hstopped
    exact h.done fun _ => hstopped
  · split
    · rename_i e hspend
      refine (h.observe _).done fun heq => ?_
      exact absurd (Except.error.inj heq ▸ hspend) spend_ne_shutdown
    · rename_i used _
      split
      · have hnone : ((σ.observe (.requested turn.number turn.watch.id)).setReconcileSweep
            (some { loop with phase := .serving { turn with used := used } })).searchRequest?
              asked = none := by
          simp only [System.searchRequest?, System.setReconcileSweep, Option.bind_some]
        unfold SearchSettles
        rw [hnone]
        refine ⟨SearchMidway.keep (h.mono fun _ hid => hid.elim) (List.subset_cons_self _ _)
          fun _ _ h => h, fun sweep turn' session hsweep hphase hsearch => ?_, ?_⟩
        · cases hsweep
          cases hphase
          exact absurd hsearch (hpoint session)
        · intro sweep w hsweep hphase
          cases hsweep
          cases hphase
      · exact h.done (by simp [requestedIdError])

theorem sessionsOpened_cons (q : SearchRequest) (asked : List SearchRequest) (id : SqlText) :
    sessionsOpened (q :: asked) id =
      sessionsOpened asked id + if q.watch = id ∧ q.token = none then 1 else 0 := by
  simp [sessionsOpened, List.countP_cons]

/-- A search for another watch. -/
theorem SessionReady.cons {log : List Observation} {id : SqlText} {session : AbsenceProofSession}
    {t : JsString} (h : SessionReady asked log id session t) {q : SearchRequest}
    (hne : q.watch ≠ id) : SessionReady (q :: asked) log id session t := by
  have hopened : sessionsOpened (q :: asked) id = sessionsOpened asked id := by
    simp [sessionsOpened_cons, hne]
  obtain ⟨p, hp, hwatch, hsession, hrest⟩ := h.returned
  refine ⟨fun p hp hwatch hsession => ?_,
    ⟨p, List.mem_cons_of_mem _ hp, hwatch, hsession.trans hopened.symm, hrest⟩,
    fun p hp hwatch hsession => ?_, h.token⟩
  · rcases List.mem_cons.1 hp with rfl | hp
    · exact absurd hwatch hne
    · exact h.seen p hp hwatch (hsession.trans hopened)
  · rcases List.mem_cons.1 hp with rfl | hp
    · exact absurd hwatch hne
    · exact h.fresh p hp hwatch (hsession.trans hopened)

/-- A search begins a session of its watch or goes on with the open one. -/
theorem SearchMidway.search (h : SearchMidway asked (fun _ => False) σ)
    {session : AbsenceProofSession}
    (hready : ∀ t, session.nextToken = some t →
      SessionReady asked σ.log turn.watch.id session t ∧
        ∃ row, σ.store.getWatch turn.watch.id.val = some row ∧ row.unsettled = true ∧
          row.expectedServiceTransaction = some session.expectedTransaction) (used : ℕ) :
    SearchSettles asked (σ.setReconcileSweep (some { loop with
      phase := .serving { turn with point := .search session, used := used } })) := by
  let q : SearchRequest :=
    { watch := turn.watch.id
      transaction := session.expectedTransaction
      token := session.nextToken
      session := sessionsOpened asked turn.watch.id + if session.nextToken.isNone then 1 else 0
      row := σ.store.getWatch turn.watch.id.val }
  have hopened : sessionsOpened (q :: asked) turn.watch.id = q.session := by
    rw [sessionsOpened_cons]
    cases htoken : session.nextToken <;> simp [q, htoken]
  have hless : ∀ p ∈ asked, p.watch = turn.watch.id → session.nextToken = none →
      p.session < q.session := by
    intro p hp hwatch hnone
    have hle := h.counted p hp
    rw [hwatch] at hle
    simp only [q, hnone, Option.isNone_none, if_true]
    omega
  have hsame : ∀ t, session.nextToken = some t → q.session = sessionsOpened asked turn.watch.id := by
    intro t ht
    simp [q, ht]
  have hq : q.Continues σ.log asked := by
    refine ⟨fun t ht => ?_, fun p hp hwatch hsession => ?_, fun hsome => ?_⟩
    · obtain ⟨p, hp, hwatch, hsession, hrest⟩ := (hready t ht).1.returned
      exact ⟨p, hp, hwatch, hsession.trans (hsame t ht).symm, hrest⟩
    · cases htoken : session.nextToken with
      | none =>
          have hlt := hless p hp hwatch htoken
          omega
      | some t =>
          have hfresh := (hready t htoken).1.fresh p hp hwatch (hsession.trans (hsame t htoken))
          simpa [q, htoken] using hfresh
    · obtain ⟨t, ht⟩ := Option.isSome_iff_exists.1 hsome
      exact (hready t ht).2
  have hrequest : (σ.setReconcileSweep (some { loop with
      phase := .serving { turn with point := .search session, used := used } })).searchRequest?
        asked = some q := rfl
  unfold SearchSettles
  rw [hrequest, Option.toList_some, List.singleton_append]
  refine ⟨⟨.cons hq h.history, fun p hp => ?_, fun id s hs hid t ht => ?_⟩,
    fun sweep turn' session' hsweep hphase hpoint => ?_, fun sweep w hsweep hphase => ?_⟩
  · rcases List.mem_cons.1 hp with rfl | hp
    · exact hopened.ge
    · refine (h.counted p hp).trans ?_
      rw [sessionsOpened_cons]
      exact Nat.le_add_right _ _
  · have hne : q.watch ≠ id := fun heq =>
      hid (Or.inl ⟨_, rfl, Or.inl ⟨_, session, rfl, rfl, heq⟩⟩)
    exact (h.ready id s hs (fun hfalse => hfalse) t ht).cons hne
  · cases hsweep
    cases hphase
    cases hpoint
    refine ⟨fun p hp hwatch hsession t ht => ?_, q, List.mem_cons_self, rfl, hopened.symm, rfl, rfl⟩
    have hsession' : p.session = q.session := hsession.trans hopened
    rcases List.mem_cons.1 hp with rfl | hp
    · exact (hready t ht).1.token
    · cases htoken : session.nextToken with
      | none =>
          have hlt := hless p hp hwatch htoken
          omega
      | some t' =>
          exact (hready t' htoken).1.seen p hp hwatch (hsession'.trans (hsame t' htoken)) t ht
  · cases hsweep
    cases hphase

/-! ## A turn, up to an `await` -/

theorem SearchMidway.requestSearch (h : SearchMidway asked (fun _ => False) σ)
    {session : AbsenceProofSession}
    (hready : ∀ t, session.nextToken = some t →
      SessionReady asked σ.log turn.watch.id session t ∧
        ∃ row, σ.store.getWatch turn.watch.id.val = some row ∧ row.unsettled = true ∧
          row.expectedServiceTransaction = some session.expectedTransaction) :
    SearchSettles asked (σ.requestSearch loop turn session) := by
  unfold System.requestSearch System.requestReconcile
  split
  · rename_i hstopped
    exact h.done fun _ => hstopped
  · split
    · rename_i e hspend
      refine (h.observe _).done fun heq => ?_
      exact absurd (Except.error.inj heq ▸ hspend) spend_ne_shutdown
    · rename_i used _
      split
      · refine (h.observe (.requested turn.number turn.watch.id)).search (fun t ht => ?_) used
        obtain ⟨hsession, hrow⟩ := hready t ht
        exact ⟨hsession.mono (List.subset_cons_self _ _), hrow⟩
      · exact h.done (by simp [requestedIdError])

theorem SearchMidway.requestLookup (h : SearchMidway asked (fun _ => False) σ) :
    SearchSettles asked (σ.requestLookup loop turn) :=
  h.requestReconcile (by simp) _

/-- A claim that succeeds found a row whose settlement is open. -/
theorem unsettled_of_claimed {s : Store} {id : SqlText} {now : ℤ} {transaction : SqlText}
    {attempts : ℕ}
    (h : (s.claimWorkUnit now id.val (.reconciliation transaction.val attempts)).2 =
      .ok .claimed) :
    ∃ row, (s.claimWorkUnit now id.val (.reconciliation transaction.val attempts)).1.getWatch
      id.val = some row ∧ row.unsettled = true ∧
        row.expectedServiceTransaction = some transaction := by
  obtain ⟨hstore, r, hr, hclaimable⟩ := Store.claimWorkUnit_claimed h
  have heligible : Store.eligible (.reconciliation transaction.val attempts) now r = true := by
    simp only [Store.claimable, Bool.and_eq_true] at hclaimable
    exact hclaimable.1.2
  simp only [Store.eligible, Bool.and_eq_true, beq_iff_eq, bindText_val] at heligible
  obtain ⟨⟨⟨hopen, hexpected⟩, -⟩, -⟩ := heligible
  refine ⟨r.charge, ?_, hopen, hexpected⟩
  have hid : r.id = bindText id.val := Store.getWatch_id hr
  rw [hstore]
  refine Store.getWatch_of_mem ?_ hid
  exact Table.mem_updateWhere.2 (Or.inl ⟨r, Store.getWatch_mem hr, hclaimable, rfl⟩)

theorem SearchMidway.reconcileClaimed (h : SearchMidway asked (fun _ => False) σ)
    {watch : WatchRow} (hrow : ∃ row, σ.store.getWatch watch.id.val = some row ∧
      row.unsettled = true ∧ row.expectedServiceTransaction = watch.expectedServiceTransaction)
    (number : ℕ) (clock : Clock) :
    SearchSettles asked (σ.reconcileClaimed cfg loop number watch clock) := by
  unfold System.reconcileClaimed
  split
  · exact h.deferred _ _ _
  · have hkept := h.retainAbsenceSession watch.id (some watch)
    dsimp only
    split
    · rename_i session hsession
      obtain ⟨-, hcompatible⟩ := System.sessions_retainAbsenceSession.1 hsession
      obtain ⟨_, hwatch, hfits⟩ := isAbsenceSessionCompatible_iff.1 hcompatible
      cases hwatch
      refine hkept.requestSearch fun t ht =>
        ⟨hkept.ready _ session hsession (fun hfalse => hfalse) t ht, ?_⟩
      obtain ⟨row, hget, hopen, hexpected⟩ := hrow
      exact ⟨row, by simpa using hget, hopen, hexpected.trans hfits.transaction⟩
    · exact hkept.requestLookup

theorem SearchMidway.reconcileWatch (h : SearchMidway asked (fun _ => False) σ) (watch : WatchRow)
    (clock : Clock) : SearchSettles asked (σ.reconcileWatch cfg loop watch clock) := by
  unfold System.reconcileWatch
  split
  · exact h.done (by simp)
  · rename_i transaction htransaction
    have hexpected := (Option.filter_eq_some_iff.1 htransaction).1
    have hclaimed := h.claimUnit .reconciliation clock.claim watch.id
      (.reconciliation transaction.val watch.reconciliationAttempts)
    dsimp only
    split
    · exact hclaimed.done fun heq =>
        absurd (Except.error.inj heq) (TurnError.ofStore_ne_shutdown _)
    · exact (hclaimed.forget fun _ hid => hid.elim).done (by simp)
    · exact (hclaimed.retainAbsenceSession _ _).done (by simp)
    · rename_i hclaim
      refine hclaimed.reconcileClaimed ?_ _ clock
      rw [System.store_claimUnit, hexpected]
      exact unsettled_of_claimed hclaim

/-! ## Behind an answer -/

theorem SearchMidway.observeLookup (h : SearchMidway asked busy σ) (transaction : JsString)
    (answer : Answer) : SearchMidway asked busy (σ.observeLookup transaction answer) := by
  unfold System.observeLookup
  split
  · exact h.observe _
  · exact h.observe _
  · exact h

/-- A lookup is interrupted by the answer only. -/
theorem lookup_shutdown {transaction : JsString} {purpose : IndexerRequestPurpose} {answer : Answer}
    (h : lookupAssetTransfer transaction purpose answer = .error .shutdown) :
    answer = .shutdown := by
  unfold lookupAssetTransfer receivedOrAbsent at h
  split at h
  · cases h
  · cases hread : received purpose none (parseLookup transaction) answer with
    | ok a => simp [hread, Except.map] at h
    | error e =>
        have he : e = .shutdown := by simpa [hread, Except.map] using h
        exact received_shutdown (he ▸ hread)

theorem SearchMidway.applyConfirmed (h : SearchMidway asked busy σ)
    (hbusy : ∀ id, busy id → id = turn.watch.id) (transfer : IndexedAssetTransfer) (clock : Clock) :
    SearchSettles asked (σ.applyConfirmed cfg loop turn transfer clock) := by
  have hforgotten : SearchMidway asked (fun _ => False) (σ.setAbsenceSession turn.watch.id none) :=
    h.forget fun id hid => Or.inl (hbusy id hid)
  unfold System.applyConfirmed
  dsimp only
  split
  · exact (hforgotten.perform _).done fun heq => absurd heq (stored_ne_shutdown _ _)
  · exact (hforgotten.perform _).done (by simp)

theorem SearchMidway.afterLookup (h : SearchMidway asked (fun _ => False) σ) {answer : Answer}
    (hanswer : answer = .shutdown → σ.reconciler.shutdownStarted = true) (clock : Clock) :
    SearchSettles asked (σ.afterLookup cfg loop turn answer clock) := by
  have hseen := h.observeLookup turn.terms.transaction.val answer
  unfold System.afterLookup
  dsimp only
  split
  · rename_i e he
    refine hseen.done fun heq => ?_
    rw [reconciler_observeLookup]
    exact hanswer (lookup_shutdown (Except.error.inj heq ▸ he))
  · exact hseen.applyConfirmed (fun _ hid => hid.elim) _ clock
  · exact hseen.requestReconcile (by simp) true

theorem SearchMidway.afterTip (h : SearchMidway asked (fun _ => False) σ) {answer : Answer}
    (hanswer : answer = .shutdown → σ.reconciler.shutdownStarted = true) (clock : Clock) :
    SearchSettles asked (σ.afterTip cfg loop turn answer clock) := by
  unfold System.afterTip
  split
  · rename_i e he
    refine h.done fun heq => hanswer ?_
    exact received_shutdown (Except.error.inj heq ▸ he)
  · split
    · exact h.deferred _ _ _
    · refine SearchMidway.requestSearch (h.setAbsenceSession (fun _ hid => Or.inr hid) ?_) (by simp)
      rintro s t hs ht
      cases hs
      cases ht

/-- **A page of the search is there.**  A token that is new goes into the session; one that
was there before ends the turn. -/
theorem SearchMidway.afterSearch (h : SearchMidway asked (· = turn.watch.id) σ)
    {session : AbsenceProofSession} (hat : AtSearch asked turn.watch.id session)
    (htransaction : session.expectedTransaction = turn.terms.transaction) {answer : Answer}
    (hanswer : answer = .shutdown → σ.reconciler.shutdownStarted = true) (clock : Clock) :
    SearchSettles asked (σ.afterSearch cfg loop turn session answer clock) := by
  have hseen : SearchMidway asked (· = turn.watch.id)
      (σ.observeBody answer (.searched turn.terms.transaction.val session.nextToken)) := by
    unfold System.observeBody
    split
    · exact h.observe _
    · exact h
  have hreconciler : (σ.observeBody answer
      (.searched turn.terms.transaction.val session.nextToken)).reconciler = σ.reconciler := by
    unfold System.observeBody
    split <;> rfl
  unfold System.afterSearch
  dsimp only
  split
  · rename_i e he
    refine hseen.failed fun heq => ?_
    rw [hreconciler]
    exact hanswer (received_shutdown (heq ▸ he))
  · rename_i page hpage
    split
    · exact hseen.applyConfirmed (fun _ hid => hid) _ clock
    · split
      · rename_i token htoken
        split
        · refine SearchMidway.failed (hseen.setAbsenceSession (fun _ hid => Or.inl hid) ?_) (by simp)
          exact fun _ _ _ _ => Or.inl rfl
        · rename_i hrepeats
          have hnew : token ∉ session.seenTokens := fun hmem => hrepeats (Or.inr hmem)
          refine SearchMidway.deferred (hseen.setAbsenceSession (fun _ hid => Or.inl hid) ?_) _ _ _
          intro s t hs ht
          cases hs
          cases ht
          obtain ⟨p, hp, hwatch, hsession, hexpected, hasked⟩ := hat.asked
          obtain ⟨body, rfl, hparse⟩ := received_eq_ok hpage
          refine Or.inr ⟨fun p hp hwatch hsession t ht =>
            List.mem_cons_of_mem _ (hat.seen p hp hwatch hsession t ht),
            ⟨p, hp, hwatch, hsession, hexpected, body, page, ?_, ?_, htoken⟩,
            fun p hp hwatch hsession heq => hnew (hat.seen p hp hwatch hsession token heq),
            List.mem_cons_self⟩
          · rw [hexpected, htransaction, hasked]
            exact List.mem_cons_self
          · rw [hexpected, htransaction]
            exact hpage
      · have hforgotten : SearchMidway asked (fun _ => False) ((σ.observeBody answer
            (.searched turn.terms.transaction.val session.nextToken)).setAbsenceSession
              turn.watch.id none) := hseen.forget fun _ hid => Or.inl hid
        split
        · exact hforgotten.done (by simp)
        · exact (hforgotten.perform _).done (by simp)

/-! ## The loop -/

theorem SearchMidway.finishReconcile (h : SearchMidway asked busy σ)
    (hbusy : ∀ id, busy id → σ.reconciler.shutdownStarted = true) (loop : ReconcileLoop) :
    SearchSettles asked (σ.finishReconcile loop) := by
  have hended : ∀ σ' : System, σ'.reconciler.sweep = none → σ'.log = σ.log →
      σ'.reconciler.shutdownStarted = σ.reconciler.shutdownStarted →
      (∀ id session, σ'.reconciler.sessions id = some session →
        σ.reconciler.sessions id = some session) → SearchSettles asked σ' := by
    intro σ' hnone hlog hstopped hsessions
    have hrequest : σ'.searchRequest? asked = none := by simp [System.searchRequest?, hnone]
    unfold SearchSettles
    rw [hrequest]
    refine ⟨SearchMidway.keep (h.mono fun id hid => Or.inr ⟨hstopped ▸ hbusy id hid, ?_⟩)
      (by rw [hlog]; exact List.Subset.refl _) hsessions, ?_, ?_⟩
    · simp [hnone]
    · simp [hnone]
    · simp [hnone]
  unfold System.finishReconcile
  dsimp only
  split
  · exact hended _ rfl rfl rfl fun _ _ hs => (Option.filter_eq_some_iff.1 hs).1
  · exact hended _ rfl rfl rfl fun _ _ hs => hs

theorem SearchMidway.nextReconcileTurn (h : SearchMidway asked busy σ)
    (hbusy : ∀ id, busy id → σ.reconciler.shutdownStarted = true) (clock : Clock) :
    SearchSettles asked (σ.nextReconcileTurn cfg loop clock) := by
  unfold System.nextReconcileTurn
  split
  · exact h.finishReconcile hbusy _
  · split
    · exact h.finishReconcile hbusy _
    · rename_i hopen
      exact (h.mono fun id hid => hopen (hbusy id hid)).reconcileWatch _ clock

theorem SearchMidway.settleReconcile (h : SearchMidway asked busy σ) {watch : WatchRow}
    {result : Except TurnError CustomerTurnOutcome}
    (hshutdown : result = .error .shutdown → σ.reconciler.shutdownStarted = true)
    (hbusy : ∀ id, busy id → σ.reconciler.shutdownStarted = true ∨
      (id = watch.id ∧ ∃ e, result = .error e)) (clock : Clock) :
    SearchSettles asked (σ.settleReconcile cfg loop watch result clock) := by
  unfold System.settleReconcile
  split
  · refine h.nextReconcileTurn (fun id hid => (hbusy id hid).resolve_right ?_) clock
    rintro ⟨-, e, he⟩
    cases he
  · exact h.finishReconcile (fun _ _ => hshutdown rfl) _
  · have hdeferred : SearchMidway asked (fun _ => σ.reconciler.shutdownStarted = true)
        ((σ.setAbsenceSession watch.id none).perform (.recordReconciliationFailure watch.id.val
          (System.deferTime cfg clock watch))) := by
      refine SearchMidway.perform (h.forget fun id hid => ?_) _
      exact (hbusy id hid).elim Or.inr fun hwatch => Or.inl hwatch.1
    dsimp only
    split
    · exact hdeferred.finishReconcile (fun _ hid => hid) _
    · exact hdeferred.nextReconcileTurn (fun _ hid => hid) clock

theorem SearchOrdered.reconcileOnce (h : SearchOrdered asked σ) (clock : Clock) :
    SearchOrdered
      ((Event.searchRequest? σ (σ.reconcileOnce cfg clock) asked (.reconcile clock)).toList ++ asked)
      (σ.reconcileOnce cfg clock) := by
  by_cases hrunning : σ.reconciler.sweep.isSome = true
  · have hsame : σ.reconcileOnce cfg clock = σ := by
      simp [System.reconcileOnce, hrunning]
    have hrequest : Event.searchRequest? σ σ asked (.reconcile clock) = none := by
      simp [Event.searchRequest?, hrunning]
    rw [hsame, hrequest]
    exact h
  · have hnone : σ.reconciler.sweep = none := by simpa using hrunning
    have hrequest : ∀ σ', Event.searchRequest? σ σ' asked (.reconcile clock) =
        σ'.searchRequest? asked := by
      intro σ'
      simp [Event.searchRequest?, hnone]
    rw [hrequest]
    unfold System.reconcileOnce
    split
    · have hidle : σ.searchRequest? asked = none := by simp [System.searchRequest?, hnone]
      rw [hidle]
      exact h
    · rename_i hopen
      have hpruned : SearchMidway asked (fun _ => False) σ.pruneAbsenceProofSessions := by
        refine SearchMidway.keep (h.toSearchMidway.mono fun id hid => ?_) (List.Subset.refl _)
          fun _ _ hs => (Option.filter_eq_some_iff.1 hs).1
        rcases hid with ⟨sweep, hsweep, -⟩ | ⟨hstopped, -⟩
        · simp [hnone] at hsweep
        · exact hopen hstopped
      dsimp only
      split
      · exact hpruned.finishReconcile (fun _ hid => hid.elim) _
      · exact hpruned.nextReconcileTurn (fun _ hid => hid.elim) clock

/-- **A sweep of the reconciler goes on.** -/
theorem SearchOrdered.resumeReconcile (h : SearchOrdered asked σ) (hsound : Sound cfg σ)
    {answer : Answer} (hanswer : answer = .shutdown → σ.reconciler.shutdownStarted = true)
    (clock : Clock) : SearchSettles asked (σ.resumeReconcile cfg answer clock) := by
  unfold System.resumeReconcile
  split
  · rename_i hnone
    have hrequest : σ.searchRequest? asked = none := by simp [System.searchRequest?, hnone]
    unfold SearchSettles
    rw [hrequest]
    exact h
  · rename_i sweep hsweep
    have hbusy : ∀ id, SearchBusy σ id → sweep.phase.Holds id ∨
        (σ.reconciler.shutdownStarted = true ∧ ∀ turn, sweep.phase ≠ .serving turn) := by
      rintro id (⟨other, hother, hholds⟩ | ⟨hstopped, hphase⟩)
      · cases hsweep.symm.trans hother
        exact Or.inl hholds
      · exact Or.inr ⟨hstopped, fun turn => hphase sweep turn hsweep⟩
    split
    · rename_i turn hphase
      have hsearching : ∀ id, SearchBusy σ id → ∃ session, turn.point = .search session ∧
          turn.watch.id = id := by
        intro id hid
        rcases (hbusy id hid).resolve_right fun hnot => hnot.2 turn hphase with
          ⟨turn', session, hphase', hpoint, hwatch⟩ | ⟨w, e, hphase', -⟩
        · cases hphase.symm.trans hphase'
          exact ⟨session, hpoint, hwatch⟩
        · cases hphase.symm.trans hphase'
      have hfree : (∀ session, turn.point ≠ .search session) →
          SearchMidway asked (fun _ => False) σ := fun hpoint => h.toSearchMidway.mono fun id hid => by
        obtain ⟨session, heq, -⟩ := hsearching id hid
        exact hpoint session heq
      split
      · rename_i hpoint
        exact (hfree (by simp [hpoint])).afterLookup hanswer clock
      · rename_i hpoint
        exact (hfree (by simp [hpoint])).afterTip hanswer clock
      · rename_i session hpoint
        have hat := h.search sweep turn session hsweep hphase hpoint
        have htransaction :=
          ((hsound.reconciler.turn sweep turn hsweep hphase).search session hpoint).1
        refine (h.toSearchMidway.mono fun id hid => ?_).afterSearch hat htransaction hanswer clock
        obtain ⟨_, -, hwatch⟩ := hsearching id hid
        exact hwatch.symm
    · rename_i watch result hphase
      refine h.toSearchMidway.settleReconcile (fun heq => h.served sweep watch hsweep (heq ▸ hphase))
        (fun id hid => ?_) clock
      rcases hbusy id hid with hholds | ⟨hstopped, -⟩
      · rcases hholds with ⟨turn', _, hphase', -⟩ | ⟨w, e, hphase', hw⟩
        · cases hphase.symm.trans hphase'
        · cases hphase.symm.trans hphase'
          exact Or.inr ⟨hw.symm, e, rfl⟩
      · exact Or.inl hstopped

/-- A step that leaves the sessions of the reconciler and its sweep alone. -/
theorem SearchOrdered.of_same (h : SearchOrdered asked σ) (hlog : σ.log ⊆ σ'.log)
    (hsessions : σ'.reconciler.sessions = σ.reconciler.sessions)
    (hsweep : σ'.reconciler.sweep = σ.reconciler.sweep)
    (hstopped : σ.reconciler.shutdownStarted = true → σ'.reconciler.shutdownStarted = true) :
    SearchOrdered asked σ' := by
  refine ⟨SearchMidway.keep (h.toSearchMidway.mono fun id hid => ?_) hlog fun id session hs => ?_,
    ?_, fun sweep w hs hphase => ?_⟩
  · unfold SearchBusy
    rw [hsweep]
    exact hid.imp_right fun ⟨hs, hphase⟩ => ⟨hstopped hs, hphase⟩
  · exact hsessions ▸ hs
  · rw [hsweep]
    exact h.search
  · exact hstopped (h.served sweep w (hsweep ▸ hs) hphase)

end RoundWatch
