import RoundWatch.Workers.Freshness
import RoundWatch.Workers.Elsewhere
import RoundWatch.Workers.Trail

/-!
# What the poller remembers between pages

A session object outlives turns and sweeps.  The invariant below ties each of them to the
requests that were made for it, in runs whose sweeps do not overlap.

* `PageRequest`, `System.pageRequest?` — a page as a turn asks for it;
* `PageRequest.Continues` — what its place in the history says about a request;
* `Current`, `ScanSession.Opened` — the row a turn works on, and the row a session was
  opened for;
* `Memory`, `Ordered` — the invariant, of the session objects and of everything.
-/

namespace RoundWatch

open JsText

/-! ## Requests -/

/-- A page as a turn asks for it, of the Indexer or of the pages it shares. -/
structure PageRequest where
  /-- The number of the session object. -/
  session : ℕ
  /-- The object as it is now. -/
  object : ScanSession
  terms : WatchTerms
  query : ScanQuery
  /-- The Indexer is asked. -/
  sent : Bool
  /-- The row of the watch as it is now. -/
  row : Option WatchRow

/-- The request a turn waits for at its page. -/
def PollTurn.pageRequest? (turn : PollTurn) (σ : System) : Option PageRequest :=
  match turn.point with
  | .page ref query held =>
      some
        { session := ref
          object := σ.poller.objects ref
          terms := turn.watch.row.terms
          query := query
          sent := held.isNone
          row := σ.store.getWatch (σ.poller.objects ref).watchId.val }
  | _ => none

/-- The request sweep `i` waits for. -/
def System.pageRequest? (σ : System) (i : ℕ) : Option PageRequest :=
  (σ.poller.sweeps i).bind fun sweep =>
    match sweep.phase with
    | .serving turn => turn.pageRequest? σ
    | _ => none

/-- The request a stretch ends in. -/
def Event.pageRequest? (σ σ' : System) : Event → Option PageRequest
  | .poll _ => σ'.pageRequest? σ.poller.nextSweep
  | .resumePoll i _ _ => σ'.pageRequest? i
  | _ => none

/-- The request was answered with a page that returns the token. -/
def PageRequest.Returned (variant : ScanQueryVariant) (log : List Observation) (p : PageRequest)
    (token : JsString) : Prop :=
  ∃ page, Answered variant log p.query page ∧ page.nextToken = some token

/-- What is so of a request, given those before it. -/
structure PageRequest.Continues (variant : ScanQueryVariant) (log : List Observation)
    (earlier : List PageRequest) (q : PageRequest) : Prop where
  /-- Its token was returned to a request of the same session, for the same watch and the
  same window. -/
  token : ∀ t, q.object.nextToken = some t → ∃ p ∈ earlier, p.session = q.session ∧
    p.object.watchId = q.object.watchId ∧ p.object.minRound = q.object.minRound ∧
    p.object.maxRound = q.object.maxRound ∧ p.Returned variant log t
  /-- No request of the session had it. -/
  once : ∀ p ∈ earlier, p.session = q.session → p.object.nextToken ≠ q.object.nextToken
  /-- The watch can go on with the session. -/
  fits : ∃ row, q.row = some row ∧ q.object.Fits row
  built : buildWatchSearchUrl variant q.terms q.object.minRound q.object.maxRound
    q.object.nextToken = .ok q.query

/-- Every request of a history, latest first, continues those before it. -/
def History (variant : ScanQueryVariant) (log : List Observation) (asked : List PageRequest) :
    Prop :=
  ∀ later q earlier, asked = later ++ q :: earlier → q.Continues variant log earlier

section History

variable {variant : ScanQueryVariant} {log log' : List Observation}

theorem PageRequest.Returned.mono {p : PageRequest} {token : JsString}
    (h : p.Returned variant log token) (hlog : log ⊆ log') : p.Returned variant log' token := by
  obtain ⟨page, hanswered, htoken⟩ := h
  exact ⟨page, hanswered.mono hlog, htoken⟩

theorem PageRequest.Continues.mono {earlier : List PageRequest} {q : PageRequest}
    (h : q.Continues variant log earlier) (hlog : log ⊆ log') :
    q.Continues variant log' earlier := by
  refine ⟨fun t ht => ?_, h.once, h.fits, h.built⟩
  obtain ⟨p, hp, hsession, hwatch, hmin, hmax, hreturned⟩ := h.token t ht
  exact ⟨p, hp, hsession, hwatch, hmin, hmax, hreturned.mono hlog⟩

theorem History.nil : History variant log [] := by
  intro later q earlier h
  simp at h

theorem History.cons {asked : List PageRequest} {q : PageRequest}
    (hq : q.Continues variant log asked) (h : History variant log asked) :
    History variant log (q :: asked) := by
  intro later p earlier heq
  cases later with
  | nil =>
      cases heq
      exact hq
  | cons first later =>
      rw [List.cons_append, List.cons.injEq] at heq
      exact h later p earlier heq.2

theorem History.mono {asked : List PageRequest} (h : History variant log asked)
    (hlog : log ⊆ log') : History variant log' asked :=
  fun later q earlier heq => (h later q earlier heq).mono hlog

end History

/-! ## Rows -/

/-- A turn works on the row as it is. -/
def Current (s : Store) (watch : ScanWatch) : Prop :=
  ∃ row ∈ s.rows, row.id = watch.row.id ∧ row.state = .active ∧ row.evidenceVersion = 1 ∧
    row.expiresAt.isSome ∧ row.scanAfterRound = some watch.scanAfterRound ∧
    row.closingRound = watch.row.closingRound

/-- A session that starts behind the cursor and ends at the closing round fits the row. -/
theorem Current.fits {s : Store} {watch : ScanWatch} (h : Current s watch) {session : ScanSession}
    (hid : session.watchId = watch.row.id) (hmin : session.minRound = watch.scanAfterRound + 1)
    (hmax : ∀ closingRound, watch.row.closingRound = some closingRound →
      session.maxRound ≤ closingRound) :
    ∃ row, s.getWatch session.watchId.val = some row ∧ session.Fits row := by
  obtain ⟨row, hrow, hrowId, hactive, hversion, hdeadline, hscan, hclosing⟩ := h
  refine ⟨row, Store.getWatch_of_mem hrow ?_, hactive, hversion, hdeadline, ?_, ?_⟩
  · rw [bindText_val, hid, hrowId]
  · rw [hscan, hmin, Int.add_sub_cancel]
  · rw [hclosing]
    exact hmax

/-- The row a session was opened for: it was active, and its cursor has not come back. -/
structure ScanSession.Opened (session : ScanSession) (row : WatchRow) : Prop where
  id : row.id = session.watchId
  state : row.state = .active ∨ row.finished = true
  version : row.evidenceVersion = 1
  deadline : row.expiresAt.isSome
  cursor : ∃ scanned, row.scanAfterRound = some scanned ∧ session.minRound ≤ scanned + 1

/-- No change takes that back. -/
theorem RowChange.opened {op : StoreOp} {r r' : WatchRow} (h : RowChange op r r')
    {session : ScanSession} (hopened : session.Opened r) : session.Opened r' := by
  by_cases hfinished : r.finished = true
  · rw [h.eq_of_finished hfinished]
    exact hopened
  · have hactive : r.state = .active := hopened.state.resolve_right hfinished
    have hsame := h.sameWatch
    have hcursor := hopened.cursor
    refine ⟨hsame.id.trans hopened.id, ?_, hsame.evidenceVersion.trans hopened.version,
      hsame.expiresAt ▸ hopened.deadline, ?_⟩
    · cases h with
      | @recordFailure _ _ failure _ _ _ =>
          by_cases hpermanent : failure.disposition = .permanent
          · exact Or.inr (by simp [WatchRow.finished, WatchRow.recordFailure, hpermanent])
          · exact Or.inl (by simp [WatchRow.recordFailure, hpermanent, hactive])
      | recordCandidate _ hopen _ =>
          have hsettling := (WatchRow.settling_of_unsettled hopen).1
          simp [WatchRow.not_settling_of_active hactive] at hsettling
      | activate _ hopen _ =>
          have hsettling := (WatchRow.settling_of_unsettled hopen).1
          simp [WatchRow.not_settling_of_active hactive] at hsettling
      | settleUnknown _ hpending => simp [hactive] at hpending
      | settleInvalid _ hsettling =>
          simp [WatchRow.not_settling_of_active hactive] at hsettling
      | deferUntil _ hopen => exact Or.inl hactive
      | exhaust _ _ _ => exact Or.inr (by simp [WatchRow.finished, WatchRow.exhaust])
      | matchWith _ _ => exact Or.inr (by simp [WatchRow.finished, WatchRow.matchWith])
      | expire _ _ _ _ _ _ => exact Or.inr (by simp [WatchRow.finished, WatchRow.expire])
      | _ => exact Or.inl hactive
    · cases h with
      | @advanceTo _ expectedRound round _ _ _ hscan hlt =>
          obtain ⟨scanned, hscanned, hle⟩ := hcursor
          have heq : scanned = expectedRound := by simpa [hscan] using hscanned.symm
          exact ⟨round, rfl, by omega⟩
      | recordCandidate _ hopen _ => exact hcursor
      | activate _ hopen _ =>
          have hsettling := (WatchRow.settling_of_unsettled hopen).1
          simp [WatchRow.not_settling_of_active hactive] at hsettling
      | _ => exact hcursor

/-! ## The parts of the invariant -/

/-- The request was made for this session object. -/
structure PageRequest.AskedFor (q : PageRequest) (object : ScanSession) : Prop where
  watchId : q.object.watchId = object.watchId
  minRound : q.object.minRound = object.minRound
  maxRound : q.object.maxRound = object.maxRound
  token : ∀ t, q.object.nextToken = some t → t ∈ object.seenTokens

/-- The next page of a session object has not been asked for. -/
def Unasked (asked : List PageRequest) (σ : System) (ref : ℕ) : Prop :=
  ∀ q ∈ asked, q.session = ref → q.object.nextToken ≠ (σ.poller.objects ref).nextToken

/-- The session objects and the requests made for them. -/
structure Memory (cfg : WorkerConfig) (asked : List PageRequest) (σ : System) : Prop where
  history : History cfg.scanQueryVariant σ.log asked
  sessions : ∀ id ref, σ.poller.sessions id = some ref →
    ref < σ.poller.nextObject ∧ (σ.poller.objects ref).watchId = id
  tokens : ∀ ref < σ.poller.nextObject, ∀ t, (σ.poller.objects ref).nextToken = some t →
    t ∈ (σ.poller.objects ref).seenTokens ∧
      ∃ p ∈ asked, p.session = ref ∧ p.Returned cfg.scanQueryVariant σ.log t
  requests : ∀ q ∈ asked, q.session < σ.poller.nextObject ∧ q.AskedFor (σ.poller.objects q.session)
  opened : ∀ ref < σ.poller.nextObject, ∃ row ∈ σ.store.rows, (σ.poller.objects ref).Opened row

/-- The poller throws `ShutdownInterrupted` only once its scheduling has stopped. -/
structure LoopOrdered (σ : System) (sweep : Sweep) : Prop where
  tip : sweep.sharedTip = some (.error .shutdown) → σ.poller.schedulingStopped = true
  pages : ∀ query, (query, .error .shutdown) ∈ sweep.sharedPages →
    σ.poller.schedulingStopped = true

/-- A turn works on the row as it is; at its page it has asked for one of its session. -/
structure TurnOrdered (asked : List PageRequest) (σ : System) (turn : PollTurn) : Prop where
  same : turn.watch.row.id = turn.initial.id
  current : Current σ.store turn.watch
  tip : turn.point = .sweepTip (some (.error .shutdown)) → σ.poller.schedulingStopped = true
  page : ∀ ref query held, turn.point = .page ref query held →
    σ.poller.sessions turn.initial.id = some ref ∧
      (∃ p ∈ asked, p.session = ref ∧ p.query = query) ∧
        ∀ fresh, held = some (.error .shutdown, fresh) → σ.poller.schedulingStopped = true

structure SweepOrdered (asked : List PageRequest) (σ : System) (sweep : Sweep) : Prop extends
    LoopOrdered σ sweep where
  serving : ∀ turn, sweep.phase = .serving turn → TurnOrdered asked σ turn
  served : ∀ w, sweep.phase = .served w (.error .shutdown) → σ.poller.schedulingStopped = true

/-- The sweep has asked for the next page of the watch's session, or has to drop it. -/
def Sweep.Holds (sweep : Sweep) (id : SqlText) : Prop :=
  (∃ turn ref query held, sweep.phase = .serving turn ∧ turn.point = .page ref query held ∧
    turn.initial.id = id) ∨
  ∃ w e, sweep.phase = .served w (.error e) ∧ w.id = id

/-- No turn will go on with the session of the watch as it is. -/
def Busy (σ : System) (id : SqlText) : Prop :=
  (∃ i sweep, σ.poller.sweeps i = some sweep ∧ sweep.Holds id) ∨
  (σ.poller.schedulingStopped = true ∧
    ∀ i sweep turn, σ.poller.sweeps i = some sweep → sweep.phase ≠ .serving turn)

/-- **The invariant** between two stretches. -/
structure Ordered (cfg : WorkerConfig) (asked : List PageRequest) (σ : System) : Prop extends
    Memory cfg asked σ where
  alone : ∀ i j, (σ.poller.sweeps i).isSome → (σ.poller.sweeps j).isSome → i = j
  numbered : ∀ i, (σ.poller.sweeps i).isSome → i < σ.poller.nextSweep
  sweeps : ∀ i sweep, σ.poller.sweeps i = some sweep → SweepOrdered asked σ sweep
  ready : ∀ id ref, σ.poller.sessions id = some ref → ¬Busy σ id → Unasked asked σ ref

/-- The invariant within a stretch of sweep `i`: what is left to do leaves only the sessions
of some watches as they are. -/
structure Midway (cfg : WorkerConfig) (asked : List PageRequest) (i : ℕ) (busy : SqlText → Prop)
    (σ : System) : Prop extends Memory cfg asked σ where
  alone : ∀ j, (σ.poller.sweeps j).isSome → j = i
  numbered : i < σ.poller.nextSweep
  ready : ∀ id ref, σ.poller.sessions id = some ref → ¬busy id → Unasked asked σ ref

variable {cfg : WorkerConfig} {asked : List PageRequest} {σ σ' : System} {i : ℕ}
  {busy : SqlText → Prop}

/-! ## What other steps keep -/

/-- The rows sessions were opened for are still there. -/
def KeepsOpened (s s' : Store) : Prop :=
  ∀ session row, row ∈ s.rows → ScanSession.Opened session row →
    ∃ row' ∈ s'.rows, ScanSession.Opened session row'

theorem KeepsOpened.refl (s : Store) : KeepsOpened s s := fun _ row hrow h => ⟨row, hrow, h⟩

theorem KeepsOpened.trans {s s' s'' : Store} (h : KeepsOpened s s') (h' : KeepsOpened s' s'') :
    KeepsOpened s s'' := by
  intro session row hrow hopened
  obtain ⟨row', hrow', hopened'⟩ := h session row hrow hopened
  exact h' session row' hrow' hopened'

theorem keepsOpened_apply (s : Store) (op : StoreOp) : KeepsOpened s (s.apply op) := by
  intro session row hrow hopened
  obtain ⟨row', hrow', rfl | hchange⟩ := Store.exists_apply_of_mem hrow op
  · exact ⟨row', hrow', hopened⟩
  · exact ⟨row', hrow', hchange.opened hopened⟩

theorem keepsOpened_run (s : Store) (ops : List StoreOp) : KeepsOpened s (s.run ops) :=
  Runs.run_relation KeepsOpened.refl KeepsOpened.trans keepsOpened_apply s ops

/-- A step that makes no session object and no request, and at most drops sessions. -/
theorem Memory.keep (h : Memory cfg asked σ) (hlog : σ.log ⊆ σ'.log)
    (hstore : KeepsOpened σ.store σ'.store) (hobjects : σ'.poller.objects = σ.poller.objects)
    (hnext : σ'.poller.nextObject = σ.poller.nextObject)
    (hsessions : ∀ id ref, σ'.poller.sessions id = some ref → σ.poller.sessions id = some ref) :
    Memory cfg asked σ' where
  history := h.history.mono hlog
  sessions id ref href := by
    rw [hobjects, hnext]
    exact h.sessions id ref (hsessions id ref href)
  tokens ref href t ht := by
    rw [hobjects] at ht ⊢
    obtain ⟨hseen, p, hp, hsession, hreturned⟩ := h.tokens ref (hnext ▸ href) t ht
    exact ⟨hseen, p, hp, hsession, hreturned.mono hlog⟩
  requests q hq := by
    rw [hobjects, hnext]
    exact h.requests q hq
  opened ref href := by
    rw [hobjects]
    obtain ⟨row, hrow, hopened⟩ := h.opened ref (hnext ▸ href)
    exact hstore _ row hrow hopened

theorem Midway.keep (h : Midway cfg asked i busy σ) (hlog : σ.log ⊆ σ'.log)
    (hstore : KeepsOpened σ.store σ'.store) (hobjects : σ'.poller.objects = σ.poller.objects)
    (hnext : σ'.poller.nextObject = σ.poller.nextObject)
    (hsessions : ∀ id ref, σ'.poller.sessions id = some ref → σ.poller.sessions id = some ref)
    (hsweeps : σ'.poller.sweeps = σ.poller.sweeps)
    (hnumber : σ'.poller.nextSweep = σ.poller.nextSweep) : Midway cfg asked i busy σ' where
  toMemory := h.toMemory.keep hlog hstore hobjects hnext hsessions
  alone := hsweeps ▸ h.alone
  numbered := hnumber ▸ h.numbered
  ready id ref href hbusy := by
    unfold Unasked
    rw [hobjects]
    exact h.ready id ref (hsessions id ref href) hbusy

theorem Midway.mono (h : Midway cfg asked i busy σ) {busy' : SqlText → Prop}
    (hbusy : ∀ id, busy id → busy' id) : Midway cfg asked i busy' σ :=
  ⟨h.toMemory, h.alone, h.numbered, fun id ref href hid =>
    h.ready id ref href fun hb => hid (hbusy id hb)⟩

theorem Midway.perform (h : Midway cfg asked i busy σ) (op : StoreOp) :
    Midway cfg asked i busy (σ.perform op) :=
  h.keep (List.Subset.refl _) (keepsOpened_apply _ op) rfl rfl (fun _ _ h => h) rfl rfl

theorem Midway.observe (h : Midway cfg asked i busy σ) (o : Observation) :
    Midway cfg asked i busy (σ.observe o) :=
  h.keep (List.subset_cons_self _ _) (.refl _) rfl rfl (fun _ _ h => h) rfl rfl

theorem Midway.observeBody (h : Midway cfg asked i busy σ) (answer : Answer)
    (observation : Json → Observation) :
    Midway cfg asked i busy (σ.observeBody answer observation) := by
  unfold System.observeBody
  split
  · exact h.observe _
  · exact h

theorem Midway.claimUnit (h : Midway cfg asked i busy σ) (kind : WorkerKind) (now : ℤ)
    (id : SqlText) (claim : WorkClaim) :
    Midway cfg asked i busy (σ.claimUnit kind now id claim) := by
  have hclaimed := h.perform (.claimWorkUnit now id.val claim)
  unfold System.claimUnit
  split
  · exact hclaimed.keep (List.subset_cons_self _ _) (.refl _) rfl rfl (fun _ _ h => h) rfl rfl
  · exact hclaimed.observe _
  · exact hclaimed

theorem Midway.setCache (h : Midway cfg asked i busy σ) (cache : HistoricalPageCache) :
    Midway cfg asked i busy (σ.setCache cache) :=
  h.keep (List.Subset.refl _) (.refl _) rfl rfl (fun _ _ h => h) rfl rfl

theorem System.sessions_forgetSession {id id' : SqlText} {ref : ℕ}
    (h : (σ.forgetSession id).poller.sessions id' = some ref) :
    id' ≠ id ∧ σ.poller.sessions id' = some ref := by
  by_cases hid : id' = id
  · subst hid
    simp [System.forgetSession] at h
  · exact ⟨hid, by simpa [System.forgetSession, hid] using h⟩

theorem Midway.forgetSession (h : Midway cfg asked i busy σ) (id : SqlText) :
    Midway cfg asked i busy (σ.forgetSession id) :=
  h.keep (List.Subset.refl _) (.refl _) rfl rfl
    (fun _ _ h => (System.sessions_forgetSession h).2) rfl rfl

/-- Without its session a watch is done with. -/
theorem Midway.forgetBusy (h : Midway cfg asked i busy σ) {id : SqlText} {busy' : SqlText → Prop}
    (hbusy : ∀ id', busy id' → id' = id ∨ busy' id') :
    Midway cfg asked i busy' (σ.forgetSession id) := by
  refine ⟨(h.forgetSession id).toMemory, h.alone, h.numbered, fun id' ref href hid => ?_⟩
  obtain ⟨hne, href'⟩ := System.sessions_forgetSession href
  exact h.ready id' ref href' fun hb => (hbusy id' hb).elim hne hid

theorem Midway.retainSession (h : Midway cfg asked i busy σ) (id : SqlText)
    (watch : Option WatchRow) : Midway cfg asked i busy (σ.retainSession id watch) := by
  unfold System.retainSession
  split
  · split
    · exact h
    · exact h.forgetSession id
  · exact h

theorem System.sessions_pruneScanSessions {id : SqlText} {ref : ℕ}
    (h : σ.pruneScanSessions.poller.sessions id = some ref) :
    σ.poller.sessions id = some ref :=
  (Option.filter_eq_some_iff.1 h).1

/-- A session is opened for the row its turn works on. -/
theorem Midway.openSession (h : Midway cfg asked i busy σ) {session : ScanSession}
    (hopened : ∃ row ∈ σ.store.rows, session.Opened row) (htoken : session.nextToken = none) :
    Midway cfg asked i busy (σ.openSession session) := by
  have hold : ∀ ref < σ.poller.nextObject,
      (σ.openSession session).poller.objects ref = σ.poller.objects ref := by
    intro ref href
    simp [System.openSession, Nat.ne_of_lt href]
  have hnew : (σ.openSession session).poller.objects σ.poller.nextObject = session := by
    simp [System.openSession]
  have hcases : ∀ ref < σ.poller.nextObject + 1, ref < σ.poller.nextObject ∨
      ref = σ.poller.nextObject := fun ref href => by omega
  refine ⟨⟨h.history, fun id ref href => ?_, fun ref href t ht => ?_, fun q hq => ?_,
    fun ref href => ?_⟩, h.alone, h.numbered, fun id ref href hbusy => ?_⟩
  · by_cases hid : id = session.watchId
    · subst hid
      have heq : σ.poller.nextObject = ref := by simpa [System.openSession] using href
      subst heq
      exact ⟨Nat.lt_succ_self _, by rw [hnew]⟩
    · have href' : σ.poller.sessions id = some ref := by
        simpa [System.openSession, hid] using href
      obtain ⟨hlt, hwatch⟩ := h.sessions id ref href'
      exact ⟨Nat.lt_succ_of_lt hlt, by rw [hold ref hlt, hwatch]⟩
  · rcases hcases ref href with hlt | rfl
    · rw [hold ref hlt] at ht ⊢
      exact h.tokens ref hlt t ht
    · rw [hnew, htoken] at ht
      cases ht
  · obtain ⟨hlt, hfor⟩ := h.requests q hq
    exact ⟨Nat.lt_succ_of_lt hlt, by rw [hold _ hlt]; exact hfor⟩
  · rcases hcases ref href with hlt | rfl
    · rw [hold ref hlt]
      exact h.opened ref hlt
    · rw [hnew]
      exact hopened
  · by_cases hid : id = session.watchId
    · subst hid
      have heq : σ.poller.nextObject = ref := by simpa [System.openSession] using href
      subst heq
      intro q hq hsession
      exact absurd (h.requests q hq).1 (by omega)
    · have href' : σ.poller.sessions id = some ref := by
        simpa [System.openSession, hid] using href
      unfold Unasked
      rw [hold ref (h.sessions id ref href').1]
      exact h.ready id ref href' hbusy

/-- A session goes on with a token that a page of it returned and no request of it had. -/
theorem Midway.continueSession {id : SqlText} {ref : ℕ} {token : JsString}
    (h : Midway cfg asked i (· = id) σ) (href : σ.poller.sessions id = some ref)
    (hnew : token ∉ (σ.poller.objects ref).seenTokens)
    (hreturned : ∃ p ∈ asked, p.session = ref ∧ p.Returned cfg.scanQueryVariant σ.log token) :
    Midway cfg asked i (fun _ => False) (σ.continueSession ref token) := by
  have hself : (σ.continueSession ref token).poller.objects ref =
      { σ.poller.objects ref with
        nextToken := some token, seenTokens := token :: (σ.poller.objects ref).seenTokens } := by
    simp [System.continueSession]
  have hother : ∀ ref', ref' ≠ ref →
      (σ.continueSession ref token).poller.objects ref' = σ.poller.objects ref' := by
    intro ref' hne
    simp [System.continueSession, hne]
  refine ⟨⟨h.history, fun id' ref' href' => ?_, fun ref' hlt t ht => ?_, fun q hq => ?_,
    fun ref' hlt => ?_⟩, h.alone, h.numbered, fun id' ref' href' _ => ?_⟩
  · obtain ⟨hlt, hwatch⟩ := h.sessions id' ref' href'
    by_cases hne : ref' = ref
    · subst hne
      exact ⟨hlt, by rw [hself]; exact hwatch⟩
    · exact ⟨hlt, by rw [hother _ hne]; exact hwatch⟩
  · by_cases hne : ref' = ref
    · subst hne
      rw [hself] at ht ⊢
      cases ht
      exact ⟨List.mem_cons_self, hreturned⟩
    · rw [hother _ hne] at ht ⊢
      exact h.tokens ref' hlt t ht
  · obtain ⟨hlt, hfor⟩ := h.requests q hq
    refine ⟨hlt, ?_⟩
    by_cases hne : q.session = ref
    · rw [hne] at hfor ⊢
      rw [hself]
      exact ⟨hfor.watchId, hfor.minRound, hfor.maxRound, fun t ht =>
        List.mem_cons_of_mem _ (hfor.token t ht)⟩
    · rw [hother _ hne]
      exact hfor
  · by_cases hne : ref' = ref
    · subst hne
      obtain ⟨row, hrow, hopened⟩ := h.opened ref' hlt
      rw [hself]
      exact ⟨row, hrow, ⟨hopened.id, hopened.state, hopened.version, hopened.deadline,
        hopened.cursor⟩⟩
    · rw [hother _ hne]
      exact h.opened ref' hlt
  · by_cases hne : ref' = ref
    · subst hne
      intro q hq hsession htoken
      rw [hself] at htoken
      have hfor := (h.requests q hq).2
      rw [hsession] at hfor
      exact hnew (hfor.token token htoken)
    · have hid : id' ≠ id := by
        rintro rfl
        exact hne (Option.some.inj (href'.symm.trans href))
      unfold Unasked
      rw [hother _ hne]
      exact h.ready id' ref' href' hid

end RoundWatch
