import RoundWatch.Workers.Trail

/-!
# Where everything in memory comes from

The invariant of the process: each row has its trail, each session object has been
cleared up to its token, each cached or shared page was answered, each waiting turn asks
for the page behind a cleared token of its watch, and each absence proof in progress is
made of pages that were answered one after the other.  Nothing is assumed of the
provider, which may answer anything.

* `Follows`, `Extends` — what no step takes back;
* `SessionSound`, `PageSound`, … — the parts of the invariant, each kept by any step that
  leaves the memory it speaks about alone;
* `Sound` — the invariant, with one lemma for each way a `System` changes.
-/

namespace RoundWatch

open JsText

/-! ## What no step takes back -/

/-- A later state of a row; a watch whose settlement was decided stays decided. -/
structure Follows (r r' : WatchRow) : Prop extends Evolves r r' where
  unsettled : r'.unsettled = true → r.unsettled = true

theorem Follows.refl (r : WatchRow) : Follows r r := ⟨.refl r, id⟩

theorem Follows.trans {r r' r'' : WatchRow} (h : Follows r r') (h' : Follows r' r'') :
    Follows r r'' :=
  ⟨h.toEvolves.trans h'.toEvolves, fun hopen => h.unsettled (h'.unsettled hopen)⟩

/-- Only a row whose settlement is open comes out of a change with an open settlement. -/
theorem RowChange.unsettled {op : StoreOp} {r r' : WatchRow} (hchange : RowChange op r r')
    (h : Lifecycle r) (hopen : r'.unsettled = true) : r.unsettled = true := by
  cases hchange with
  | settleUnknown _ hpending =>
      have hflag : r.settlementReconciliationTerminal = false := by
        by_contra hterminal
        rcases h.terminalFlag (by simpa using hterminal) with hstate | hstate <;>
          simp [hpending] at hstate
      simp [WatchRow.unsettled, WatchRow.settling, hpending, hflag]
  | recordCandidate _ hold _ => exact hold
  | activate _ hold _ => exact hold
  | recordFailure _ hactive =>
      simp only [WatchRow.unsettled, WatchRow.settling, WatchRow.recordFailure] at hopen
      split at hopen
      · simp at hopen
      · simp [hactive] at hopen
  | settleInvalid _ _ => simp [WatchRow.unsettled, WatchRow.settleInvalid] at hopen
  | exhaust _ _ _ => simp [WatchRow.unsettled, WatchRow.exhaust] at hopen
  | matchWith _ _ => simp [WatchRow.unsettled, WatchRow.settling, WatchRow.matchWith] at hopen
  | expire _ _ _ _ _ _ => simp [WatchRow.unsettled, WatchRow.settling, WatchRow.expire] at hopen
  | _ => exact hopen

/-- What no step takes back. -/
structure Extends (σ σ' : System) : Prop where
  log : σ.log <:+ σ'.log
  rows : ∀ r ∈ σ.store.rows, ∃ r' ∈ σ'.store.rows, Follows r r'
  objects : ∀ ref < σ.poller.nextObject, ref < σ'.poller.nextObject ∧
    (σ'.poller.objects ref).watchId = (σ.poller.objects ref).watchId ∧
    (σ'.poller.objects ref).minRound = (σ.poller.objects ref).minRound ∧
    (σ'.poller.objects ref).maxRound = (σ.poller.objects ref).maxRound

theorem Extends.refl (σ : System) : Extends σ σ :=
  ⟨List.suffix_refl _, fun r hr => ⟨r, hr, .refl r⟩, fun _ h => ⟨h, rfl, rfl, rfl⟩⟩

theorem Extends.trans {σ σ' σ'' : System} (h : Extends σ σ') (h' : Extends σ' σ'') :
    Extends σ σ'' where
  log := h.log.trans h'.log
  rows r hr := by
    obtain ⟨r', hr', hfollows⟩ := h.rows r hr
    obtain ⟨r'', hr'', hfollows'⟩ := h'.rows r' hr'
    exact ⟨r'', hr'', hfollows.trans hfollows'⟩
  objects ref href := by
    obtain ⟨h₁, h₂, h₃, h₄⟩ := h.objects ref href
    obtain ⟨h₁', h₂', h₃', h₄'⟩ := h'.objects ref h₁
    exact ⟨h₁', h₂'.trans h₂, h₃'.trans h₃, h₄'.trans h₄⟩

/-- A step that leaves rows and session objects alone. -/
theorem Extends.of_same {σ σ' : System} (hlog : σ.log <:+ σ'.log)
    (hrows : σ'.store.rows = σ.store.rows) (hobjects : σ'.poller.objects = σ.poller.objects)
    (hnext : σ'.poller.nextObject = σ.poller.nextObject) : Extends σ σ' where
  log := hlog
  rows r hr := ⟨r, hrows ▸ hr, .refl r⟩
  objects ref href := by
    rw [hobjects, hnext]
    exact ⟨href, rfl, rfl, rfl⟩

/-! ## Facts about the rows -/

/-- An activated watch with these terms is in the store. -/
def Tracked (s : Store) (id : SqlText) (terms : WatchTerms) : Prop :=
  ∃ r ∈ s.rows, r.id = id ∧ r.terms = terms ∧ terms.activationRound.isSome

theorem Tracked.of_mem {s : Store} {r : WatchRow} (hr : r ∈ s.rows)
    (hactivation : r.activationRound.isSome) : Tracked s r.id r.terms :=
  ⟨r, hr, rfl, rfl, hactivation⟩

/-- The terms under an id are those of its row. -/
theorem Tracked.eq_of_mem {s : Store} {id : SqlText} {terms : WatchTerms} (h : Tracked s id terms)
    {r : WatchRow} (hr : r ∈ s.rows) (hid : r.id = id) : r.terms = terms := by
  obtain ⟨r', hr', hid', hterms, -⟩ := h
  rw [Store.eq_of_id hr hr' (hid.trans hid'.symm), hterms]

theorem Tracked.unique {s : Store} {id : SqlText} {terms terms' : WatchTerms}
    (h : Tracked s id terms) (h' : Tracked s id terms') : terms = terms' := by
  obtain ⟨r, hr, hid, hterms, -⟩ := h
  exact hterms.symm.trans (h'.eq_of_mem hr hid)

/-- The row under the id of a tracked watch is tracked. -/
theorem Tracked.of_getWatch {s : Store} {id : SqlText} {terms : WatchTerms}
    (h : Tracked s id terms) {r : WatchRow} (hr : s.getWatch id.val = some r) :
    Tracked s r.id r.terms := by
  have hid : r.id = id := (Store.getWatch_id hr).trans (bindText_val id)
  have hterms := h.eq_of_mem (Store.getWatch_mem hr) hid
  rw [hid, hterms]
  exact h

/-- A watch with these settlement terms is in the store. -/
def Bound (s : Store) (id : SqlText) (terms : ImmutableTerms) : Prop :=
  ∃ r ∈ s.rows, r.id = id ∧ r.immutableTerms? = some terms

/-- The settlement terms under an id are those of its row. -/
theorem Bound.eq_of_mem {s : Store} {id : SqlText} {terms terms' : ImmutableTerms}
    (h : Bound s id terms) {r : WatchRow} (hr : r ∈ s.rows) (hid : r.id = id)
    (hterms : r.immutableTerms? = some terms') : terms' = terms := by
  obtain ⟨r', hr', hid', hterms'⟩ := h
  cases Store.eq_of_id hr hr' (hid.trans hid'.symm)
  exact Option.some.inj (hterms.symm.trans hterms')

/-- The row expects this service transaction. -/
def WatchRow.expects (r : WatchRow) (transaction : JsString) : Prop :=
  ∃ t, r.expectedServiceTransaction = some t ∧ (t = emptyText ∨ t = bindText transaction)

/-- The watch under the id, while its settlement is open, expects this transaction. -/
def Expecting (s : Store) (id : JsString) (transaction : JsString) : Prop :=
  ∃ r ∈ s.rows, r.id = bindText id ∧ (r.unsettled = true → r.expects transaction)

section Extension

variable {σ σ' : System}

theorem Tracked.mono {id : SqlText} {terms : WatchTerms} (h : Tracked σ.store id terms)
    (hext : Extends σ σ') : Tracked σ'.store id terms := by
  obtain ⟨r, hr, rfl, rfl, hsome⟩ := h
  obtain ⟨round, hround⟩ := Option.isSome_iff_exists.1 hsome
  obtain ⟨r', hr', hfollows⟩ := hext.rows r hr
  exact ⟨r', hr', hfollows.same.id, terms_eq_of_evolves hfollows.toEvolves hround, hsome⟩

theorem Bound.mono {id : SqlText} {terms : ImmutableTerms} (h : Bound σ.store id terms)
    (hext : Extends σ σ') : Bound σ'.store id terms := by
  obtain ⟨r, hr, rfl, hterms⟩ := h
  obtain ⟨r', hr', hfollows⟩ := hext.rows r hr
  exact ⟨r', hr', hfollows.same.id, immutableTerms?_of_evolves hfollows.toEvolves hterms⟩

theorem Expecting.mono {id transaction : JsString} (h : Expecting σ.store id transaction)
    (hext : Extends σ σ') : Expecting σ'.store id transaction := by
  obtain ⟨r, hr, hid, hexpects⟩ := h
  obtain ⟨r', hr', hfollows⟩ := hext.rows r hr
  refine ⟨r', hr', hfollows.same.id.trans hid, fun hopen => ?_⟩
  obtain ⟨t, ht, hcase⟩ := hexpects (hfollows.unsettled hopen)
  exact ⟨t, hfollows.expectedTransaction t ht, hcase⟩

end Extension

/-! ## The parts of the invariant -/

/-- A session object is cleared up to its token. -/
def SessionSound (cfg : WorkerConfig) (σ : System) (session : ScanSession) : Prop :=
  ∃ terms, Tracked σ.store session.watchId terms ∧
    Cleared cfg.scanQueryVariant σ.log terms session.minRound session.maxRound session.nextToken

/-- A turn waits for the page behind a cleared token of its session object. -/
structure PageSound (cfg : WorkerConfig) (σ : System) (watch : ScanWatch) (ref : ℕ)
    (query : ScanQuery) (held : Option (Except TurnError TransactionPage × Bool)) : Prop where
  object : ref < σ.poller.nextObject
  watchId : (σ.poller.objects ref).watchId = watch.row.id
  minRound : (σ.poller.objects ref).minRound = watch.scanAfterRound + 1
  asked : ∃ token, Cleared cfg.scanQueryVariant σ.log watch.row.terms
      (σ.poller.objects ref).minRound (σ.poller.objects ref).maxRound token ∧
    buildWatchSearchUrl cfg.scanQueryVariant watch.row.terms (σ.poller.objects ref).minRound
      (σ.poller.objects ref).maxRound token = .ok query
  held : ∀ page fresh, held = some (.ok page, fresh) →
    Answered cfg.scanQueryVariant σ.log query page

/-- A turn sees an activated watch; at its last point it waits for a page. -/
structure TurnSound (cfg : WorkerConfig) (σ : System) (turn : PollTurn) : Prop where
  tracked : Tracked σ.store turn.watch.row.id turn.watch.row.terms
  page : ∀ ref query held, turn.point = .page ref query held →
    PageSound cfg σ turn.watch ref query held

/-- The watches a sweep still has to serve are activated, and its shared pages were
answered. -/
structure LoopSound (cfg : WorkerConfig) (σ : System) (sweep : Sweep) : Prop where
  waiting : ∀ w ∈ sweep.waiting, Tracked σ.store w.id w.terms
  shared : ∀ query page, (query, .ok page) ∈ sweep.sharedPages →
    Answered cfg.scanQueryVariant σ.log query page

structure SweepSound (cfg : WorkerConfig) (σ : System) (sweep : Sweep) : Prop extends
    LoopSound cfg σ sweep where
  turn : ∀ turn, sweep.phase = .serving turn → TurnSound cfg σ turn

structure PollerSound (cfg : WorkerConfig) (σ : System) : Prop where
  objects : ∀ ref < σ.poller.nextObject, SessionSound cfg σ (σ.poller.objects ref)
  sessions : ∀ id ref, σ.poller.sessions id = some ref →
    ref < σ.poller.nextObject ∧ (σ.poller.objects ref).watchId = id
  cache : ∀ query page, σ.poller.cache.Holds query page →
    Answered cfg.scanQueryVariant σ.log query page
  sweeps : ∀ i sweep, σ.poller.sweeps i = some sweep → SweepSound cfg σ sweep

/-- The pages of an absence proof in progress: they were answered one after the other,
show nothing, and were all current at the round the session covers. -/
def AbsenceSound (log : List Observation) (session : AbsenceProofSession) : Prop :=
  ∃ pages, Logged log session.expectedTransaction.val pages ∧
    Paging.Reads SearchPage.next SearchPage.Serves session.nextToken pages ∧
    ∀ p ∈ pages, ∃ current covered, p.Empty current ∧ session.coverage = some covered ∧
      covered ≤ current

/-- A reconciliation turn goes by the terms of its watch; while it searches, its session
is about the transaction they name. -/
structure ReconcileTurnSound (σ : System) (turn : ReconcileTurn) : Prop where
  bound : Bound σ.store turn.watch.id turn.terms
  search : ∀ session, turn.point = .search session →
    session.expectedTransaction = turn.terms.transaction ∧ AbsenceSound σ.log session

/-- The watches the sweep still has to serve are in the store. -/
def ReconcileLoopSound (σ : System) (loop : ReconcileLoop) : Prop :=
  ∀ w ∈ loop.waiting, ∀ terms, w.immutableTerms? = some terms → Bound σ.store w.id terms

structure ReconcilerSound (σ : System) : Prop where
  sessions : ∀ id session, σ.reconciler.sessions id = some session → AbsenceSound σ.log session
  loop : ∀ sweep, σ.reconciler.sweep = some sweep → ReconcileLoopSound σ sweep.toReconcileLoop
  turn : ∀ sweep turn, σ.reconciler.sweep = some sweep → sweep.phase = .serving turn →
    ReconcileTurnSound σ turn

/-- A hook that waits was called for the transaction its watch expects. -/
structure HookSound (σ : System) (hook : SettlementHook) : Prop where
  canonical : isCanonicalTransactionId hook.evidence.transaction = true
  expecting : Expecting σ.store hook.watchId hook.evidence.transaction

/-- **The invariant.** -/
structure Sound (cfg : WorkerConfig) (σ : System) : Prop where
  rows : ∀ r ∈ σ.store.rows, SoundRow cfg σ.log r
  poller : PollerSound cfg σ
  reconciler : ReconcilerSound σ
  hooks : ∀ k hook, σ.hooks k = some hook → HookSound σ hook

variable {cfg : WorkerConfig} {σ σ' : System}

/-! ## What a longer history keeps -/

theorem SessionSound.mono {session : ScanSession} (h : SessionSound cfg σ session)
    (hext : Extends σ σ') : SessionSound cfg σ' session := by
  obtain ⟨terms, htracked, hcleared⟩ := h
  exact ⟨terms, htracked.mono hext, hcleared.mono hext.log.subset⟩

theorem PageSound.mono {watch : ScanWatch} {ref : ℕ} {query : ScanQuery}
    {held : Option (Except TurnError TransactionPage × Bool)}
    (h : PageSound cfg σ watch ref query held) (hext : Extends σ σ') :
    PageSound cfg σ' watch ref query held := by
  obtain ⟨h₁, h₂, h₃, h₄⟩ := hext.objects ref h.object
  obtain ⟨token, hcleared, hquery⟩ := h.asked
  refine ⟨h₁, h₂.trans h.watchId, h₃.trans h.minRound, ⟨token, ?_, ?_⟩, fun page fresh hheld =>
    (h.held page fresh hheld).mono hext.log.subset⟩
  · rw [h₃, h₄]
    exact hcleared.mono hext.log.subset
  · rw [h₃, h₄]
    exact hquery

theorem TurnSound.mono {turn : PollTurn} (h : TurnSound cfg σ turn) (hext : Extends σ σ') :
    TurnSound cfg σ' turn :=
  ⟨h.tracked.mono hext, fun ref query held hpoint => (h.page ref query held hpoint).mono hext⟩

theorem LoopSound.mono {sweep : Sweep} (h : LoopSound cfg σ sweep) (hext : Extends σ σ') :
    LoopSound cfg σ' sweep :=
  ⟨fun w hw => (h.waiting w hw).mono hext, fun query page hpage =>
    (h.shared query page hpage).mono hext.log.subset⟩

theorem SweepSound.mono {sweep : Sweep} (h : SweepSound cfg σ sweep) (hext : Extends σ σ') :
    SweepSound cfg σ' sweep :=
  ⟨h.toLoopSound.mono hext, fun turn hturn => (h.turn turn hturn).mono hext⟩

theorem PollerSound.mono (h : PollerSound cfg σ) (hext : Extends σ σ')
    (hpoller : σ'.poller = σ.poller) : PollerSound cfg σ' := by
  refine ⟨?_, ?_, ?_, ?_⟩ <;> rw [hpoller]
  · exact fun ref href => (h.objects ref href).mono hext
  · exact h.sessions
  · exact fun query page hholds => (h.cache query page hholds).mono hext.log.subset
  · exact fun i sweep hsweep => (h.sweeps i sweep hsweep).mono hext

theorem AbsenceSound.mono {log log' : List Observation} {session : AbsenceProofSession}
    (h : AbsenceSound log session) (hlog : log <:+ log') : AbsenceSound log' session := by
  obtain ⟨pages, hlogged, hrest⟩ := h
  exact ⟨pages, hlogged.mono hlog, hrest⟩

theorem ReconcileTurnSound.mono {turn : ReconcileTurn} (h : ReconcileTurnSound σ turn)
    (hext : Extends σ σ') : ReconcileTurnSound σ' turn :=
  ⟨h.bound.mono hext, fun session hpoint =>
    ⟨(h.search session hpoint).1, (h.search session hpoint).2.mono hext.log⟩⟩

theorem ReconcileLoopSound.mono {loop : ReconcileLoop} (h : ReconcileLoopSound σ loop)
    (hext : Extends σ σ') : ReconcileLoopSound σ' loop :=
  fun w hw terms hterms => (h w hw terms hterms).mono hext

theorem ReconcilerSound.mono (h : ReconcilerSound σ) (hext : Extends σ σ')
    (hreconciler : σ'.reconciler = σ.reconciler) : ReconcilerSound σ' := by
  refine ⟨?_, ?_, ?_⟩ <;> rw [hreconciler]
  · exact fun id session hsession => (h.sessions id session hsession).mono hext.log
  · exact fun sweep hsweep => (h.loop sweep hsweep).mono hext
  · exact fun sweep turn hsweep hturn => (h.turn sweep turn hsweep hturn).mono hext

theorem HookSound.mono {hook : SettlementHook} (h : HookSound σ hook) (hext : Extends σ σ') :
    HookSound σ' hook :=
  ⟨h.canonical, h.expecting.mono hext⟩

/-! ## The ways a system changes -/

/-- A step that leaves the memory of the workers alone. -/
theorem Sound.of_extends (h : Sound cfg σ) (hext : Extends σ σ')
    (hrows : ∀ r ∈ σ'.store.rows, SoundRow cfg σ'.log r) (hpoller : σ'.poller = σ.poller)
    (hreconciler : σ'.reconciler = σ.reconciler) (hhooks : σ'.hooks = σ.hooks) : Sound cfg σ' where
  rows := hrows
  poller := h.poller.mono hext hpoller
  reconciler := h.reconciler.mono hext hreconciler
  hooks k hook hhook := (h.hooks k hook (hhooks ▸ hhook)).mono hext

/-- A step of the poller's memory. -/
theorem Sound.of_poller (h : Sound cfg σ) (hext : Extends σ σ') (hstore : σ'.store = σ.store)
    (hlog : σ'.log = σ.log) (hreconciler : σ'.reconciler = σ.reconciler)
    (hhooks : σ'.hooks = σ.hooks) (hpoller : PollerSound cfg σ') : Sound cfg σ' where
  rows r hr := hlog ▸ h.rows r (hstore ▸ hr)
  poller := hpoller
  reconciler := h.reconciler.mono hext hreconciler
  hooks k hook hhook := (h.hooks k hook (hhooks ▸ hhook)).mono hext

/-- A store operation only moves rows on. -/
theorem extends_perform (h : Sound cfg σ) (op : StoreOp) : Extends σ (σ.perform op) where
  log := List.suffix_refl _
  objects ref href := ⟨href, rfl, rfl, rfl⟩
  rows r hr := by
    obtain ⟨r', hr', heq | hchange⟩ := Store.exists_apply_of_mem hr op
    · exact ⟨r', hr', heq ▸ .refl r⟩
    · exact ⟨r', hr', hchange.evolves (h.rows r hr).paid,
        hchange.unsettled (h.rows r hr).lifecycle⟩

/-- An operation keeps the invariant if it has its evidence for the rows it may change. -/
theorem Sound.perform (h : Sound cfg σ) {op : StoreOp}
    (hop : ∀ r ∈ σ.store.rows, ∀ r', RowChange op r r' → Supported cfg σ.log op r) :
    Sound cfg (σ.perform op) := by
  refine h.of_extends (extends_perform h op) ?_ rfl rfl rfl
  exact Store.forall_rows_apply h.rows SoundRow.preparedRow
    fun r r' hr hchange hsound => hsound.change hchange (hop r hr r' hchange)

/-- Most operations need no evidence. -/
theorem Sound.performs (h : Sound cfg σ) (op : StoreOp)
    (hop : ∀ log r, Supported cfg log op r) : Sound cfg (σ.perform op) :=
  h.perform fun r _ _ _ => hop σ.log r

theorem extends_observe (o : Observation) : Extends σ (σ.observe o) :=
  .of_same (List.suffix_cons _ _) rfl rfl rfl

theorem Sound.observe (h : Sound cfg σ) (o : Observation) : Sound cfg (σ.observe o) :=
  h.of_extends (extends_observe o) (fun r hr => (h.rows r hr).mono (List.suffix_cons _ _)) rfl rfl
    rfl

theorem extends_beginTurn (kind : WorkerKind) (id : SqlText) : Extends σ (σ.beginTurn kind id) :=
  .of_same (List.suffix_cons _ _) rfl rfl rfl

theorem Sound.beginTurn (h : Sound cfg σ) (kind : WorkerKind) (id : SqlText) :
    Sound cfg (σ.beginTurn kind id) :=
  h.of_extends (extends_beginTurn kind id)
    (fun r hr => (h.rows r hr).mono (List.suffix_cons _ _)) rfl rfl rfl

theorem extends_claimUnit (h : Sound cfg σ) (kind : WorkerKind) (now : ℤ) (id : SqlText)
    (claim : WorkClaim) : Extends σ (σ.claimUnit kind now id claim) := by
  have hclaimed := extends_perform h (.claimWorkUnit now id.val claim)
  unfold System.claimUnit
  split
  · exact hclaimed.trans (extends_beginTurn kind id)
  · exact hclaimed.trans (extends_observe _)
  · exact hclaimed

theorem Sound.claimUnit (h : Sound cfg σ) (kind : WorkerKind) (now : ℤ) (id : SqlText)
    (claim : WorkClaim) : Sound cfg (σ.claimUnit kind now id claim) := by
  have hclaimed := h.performs (.claimWorkUnit now id.val claim) fun _ _ => trivial
  unfold System.claimUnit
  split
  · exact hclaimed.beginTurn kind id
  · exact hclaimed.observe _
  · exact hclaimed

theorem extends_setSweep (i : ℕ) (sweep : Sweep) : Extends σ (σ.setSweep i sweep) :=
  .of_same (List.suffix_refl _) rfl rfl rfl

theorem Sound.setSweep (h : Sound cfg σ) {i : ℕ} {sweep : Sweep}
    (hsweep : SweepSound cfg σ sweep) : Sound cfg (σ.setSweep i sweep) := by
  have hext : Extends σ (σ.setSweep i sweep) := extends_setSweep i sweep
  refine h.of_poller hext rfl rfl rfl rfl ⟨fun ref href => (h.poller.objects ref href).mono hext,
    h.poller.sessions, h.poller.cache, fun j other hother => ?_⟩
  by_cases hj : j = i
  · subst hj
    have heq : sweep = other := by simpa [System.setSweep] using hother
    exact heq ▸ hsweep.mono hext
  · have hold : σ.poller.sweeps j = some other := by simpa [System.setSweep, hj] using hother
    exact (h.poller.sweeps j other hold).mono hext

theorem Sound.endSweep (h : Sound cfg σ) (i : ℕ) : Sound cfg (σ.endSweep i) := by
  have hext : Extends σ (σ.endSweep i) := .of_same (List.suffix_refl _) rfl rfl rfl
  refine h.of_poller hext rfl rfl rfl rfl ⟨fun ref href => (h.poller.objects ref href).mono hext,
    h.poller.sessions, h.poller.cache, fun j other hother => ?_⟩
  by_cases hj : j = i
  · subst hj
    simp [System.endSweep] at hother
  · have hold : σ.poller.sweeps j = some other := by simpa [System.endSweep, hj] using hother
    exact (h.poller.sweeps j other hold).mono hext

/-- Sessions may be dropped, and the counters of the poller may move. -/
theorem Sound.of_sessions (h : Sound cfg σ) {poller : Poller}
    (hsub : ∀ id ref, poller.sessions id = some ref → σ.poller.sessions id = some ref)
    (hobjects : poller.objects = σ.poller.objects) (hnext : poller.nextObject = σ.poller.nextObject)
    (hcache : poller.cache = σ.poller.cache) (hsweeps : poller.sweeps = σ.poller.sweeps) :
    Sound cfg { σ with poller := poller } := by
  have hext : Extends σ { σ with poller := poller } :=
    .of_same (List.suffix_refl _) rfl hobjects hnext
  refine h.of_poller hext rfl rfl rfl rfl ⟨?_, ?_, ?_, ?_⟩ <;> dsimp only
  · rw [hobjects, hnext]
    exact fun ref href => (h.poller.objects ref href).mono hext
  · rw [hobjects, hnext]
    exact fun id ref href => h.poller.sessions id ref (hsub id ref href)
  · rw [hcache]
    exact h.poller.cache
  · rw [hsweeps]
    exact fun i sweep hsweep => (h.poller.sweeps i sweep hsweep).mono hext

theorem extends_forgetSession (id : SqlText) : Extends σ (σ.forgetSession id) :=
  .of_same (List.suffix_refl _) rfl rfl rfl

theorem Sound.forgetSession (h : Sound cfg σ) (id : SqlText) :
    Sound cfg (σ.forgetSession id) := by
  refine h.of_sessions (fun id' ref href => ?_) rfl rfl rfl rfl
  by_cases hid : id' = id
  · subst hid
    simp at href
  · simpa [hid] using href

theorem Sound.pruneScanSessions (h : Sound cfg σ) : Sound cfg σ.pruneScanSessions :=
  h.of_sessions (fun _ _ href => (Option.filter_eq_some_iff.1 href).1) rfl rfl rfl rfl

theorem extends_retainSession (id : SqlText) (watch : Option WatchRow) :
    Extends σ (σ.retainSession id watch) := by
  unfold System.retainSession
  split
  · split
    · exact .refl σ
    · exact extends_forgetSession id
  · exact .refl σ

theorem Sound.retainSession (h : Sound cfg σ) (id : SqlText) (watch : Option WatchRow) :
    Sound cfg (σ.retainSession id watch) := by
  unfold System.retainSession
  split
  · split
    · exact h
    · exact h.forgetSession id
  · exact h

theorem extends_setCache (cache : HistoricalPageCache) : Extends σ (σ.setCache cache) :=
  .of_same (List.suffix_refl _) rfl rfl rfl

theorem Sound.setCache (h : Sound cfg σ) {cache : HistoricalPageCache}
    (hcache : ∀ query page, cache.Holds query page →
      Answered cfg.scanQueryVariant σ.log query page) :
    Sound cfg (σ.setCache cache) := by
  have hext : Extends σ (σ.setCache cache) := extends_setCache cache
  exact h.of_poller hext rfl rfl rfl rfl ⟨fun ref href => (h.poller.objects ref href).mono hext,
    h.poller.sessions, hcache, fun i sweep hsweep => (h.poller.sweeps i sweep hsweep).mono hext⟩

theorem extends_openSession (session : ScanSession) : Extends σ (σ.openSession session) := by
  refine ⟨List.suffix_refl _, fun r hr => ⟨r, hr, .refl r⟩, fun ref href => ?_⟩
  have hne : ref ≠ σ.poller.nextObject := Nat.ne_of_lt href
  simp only [System.openSession, Function.update_of_ne hne]
  exact ⟨Nat.lt_succ_of_lt href, trivial, trivial, trivial⟩

/-- A new session object starts at the first page of its window. -/
theorem Sound.openSession (h : Sound cfg σ) {session : ScanSession} {terms : WatchTerms}
    (htracked : Tracked σ.store session.watchId terms) (hstart : session.nextToken = none) :
    Sound cfg (σ.openSession session) := by
  have hext : Extends σ (σ.openSession session) := extends_openSession session
  refine h.of_poller hext rfl rfl rfl rfl ⟨fun ref href => ?_, fun id ref href => ?_,
    h.poller.cache, fun i sweep hsweep => (h.poller.sweeps i sweep hsweep).mono hext⟩
  · by_cases hnew : ref = σ.poller.nextObject
    · subst hnew
      simp only [System.openSession, Function.update_self]
      exact ⟨terms, htracked, by rw [hstart]; exact .start⟩
    · have hlt : ref < σ.poller.nextObject :=
        Nat.lt_of_le_of_ne (Nat.le_of_lt_succ href) hnew
      simp only [System.openSession, Function.update_of_ne hnew]
      exact (h.poller.objects ref hlt).mono hext
  · by_cases hid : id = session.watchId
    · subst hid
      simp only [System.openSession, Function.update_self, Option.some.injEq] at href
      subst href
      exact ⟨Nat.lt_succ_self _, by simp [System.openSession]⟩
    · simp only [System.openSession, Function.update_of_ne hid] at href
      obtain ⟨hlt, hwatch⟩ := h.poller.sessions id ref href
      refine ⟨Nat.lt_succ_of_lt hlt, ?_⟩
      simp only [System.openSession, Function.update_of_ne (Nat.ne_of_lt hlt)]
      exact hwatch

/-- A session object goes on behind a cleared token. -/
theorem Sound.continueSession (h : Sound cfg σ) {ref : ℕ} {token : JsString}
    {terms : WatchTerms} (htracked : Tracked σ.store (σ.poller.objects ref).watchId terms)
    (hcleared : Cleared cfg.scanQueryVariant σ.log terms (σ.poller.objects ref).minRound
      (σ.poller.objects ref).maxRound (some token)) :
    Sound cfg (σ.continueSession ref token) := by
  have hsame : ∀ ref', ((σ.continueSession ref token).poller.objects ref').watchId =
      (σ.poller.objects ref').watchId ∧
      ((σ.continueSession ref token).poller.objects ref').minRound =
        (σ.poller.objects ref').minRound ∧
      ((σ.continueSession ref token).poller.objects ref').maxRound =
        (σ.poller.objects ref').maxRound := by
    intro ref'
    by_cases href : ref' = ref
    · subst href
      simp [System.continueSession]
    · simp [System.continueSession, href]
  have hext : Extends σ (σ.continueSession ref token) :=
    ⟨List.suffix_refl _, fun r hr => ⟨r, hr, .refl r⟩, fun ref' h => ⟨h, hsame ref'⟩⟩
  refine h.of_poller hext rfl rfl rfl rfl ⟨fun ref' href' => ?_, fun id ref' href' => ?_,
    h.poller.cache, fun i sweep hsweep => (h.poller.sweeps i sweep hsweep).mono hext⟩
  · by_cases href : ref' = ref
    · subst href
      simp only [System.continueSession, Function.update_self]
      exact ⟨terms, htracked, hcleared⟩
    · simp only [System.continueSession, Function.update_of_ne href]
      exact (h.poller.objects ref' href').mono hext
  · obtain ⟨hlt, hwatch⟩ := h.poller.sessions id ref' href'
    exact ⟨hlt, (hsame ref').1.trans hwatch⟩

end RoundWatch
