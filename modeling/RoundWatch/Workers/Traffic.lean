import RoundWatch.Workers.Elsewhere
import RoundWatch.Indexer.Keys

/-!
# What the poller asks and hears

An invariant of every run, whatever the provider answers: every page request was built
for a watch of the store, a cached page covers its window, and an error that would end a
watch for good answers a query by the zero address only, in whatever sweep, turn or shared
page it is held.  A law of rows that the changes keep comes along.

* `Known` — a watch of the store, as a stretch of code has seen it;
* `TurnError.terminal`, `Spares` — the errors `classifyPollingFailure` leaves permanent;
* `RowLaw` — the laws of rows the invariant can carry;
* `Traffic` — the invariant, with one lemma for each way a `System` changes.
-/

namespace RoundWatch

open JsText

/-! ## Watches of the store -/

/-- What no operation rewrites is symmetric, being equality of columns. -/
theorem SameWatch.symm {r r' : WatchRow} (h : SameWatch r r') : SameWatch r' r where
  id := h.id.symm
  idempotencyKey := h.idempotencyKey.symm
  expectedSender := h.expectedSender.symm
  expectedReceiver := h.expectedReceiver.symm
  assetId := h.assetId.symm
  atomicAmount := h.atomicAmount.symm
  invoiceNote := h.invoiceNote.symm
  createdAt := h.createdAt.symm
  expiresAt := h.expiresAt.symm
  evidenceVersion := h.evidenceVersion.symm
  serviceReceiver := h.serviceReceiver.symm
  serviceAssetId := h.serviceAssetId.symm
  serviceAtomicAmount := h.serviceAtomicAmount.symm
  serviceFirstValid := h.serviceFirstValid.symm
  serviceLastValid := h.serviceLastValid.symm

/-- The store has the watch of this row. -/
def Known (s : Store) (w : WatchRow) : Prop := ∃ r ∈ s.rows, SameWatch w r

theorem Known.of_mem {s : Store} {r : WatchRow} (hr : r ∈ s.rows) : Known s r := ⟨r, hr, .refl r⟩

theorem Known.same {s : Store} {w w' : WatchRow} (h : Known s w) (hsame : SameWatch w w') :
    Known s w' := by
  obtain ⟨r, hr, hr'⟩ := h
  exact ⟨r, hr, hsame.symm.trans hr'⟩

/-- The row under the id of a watch the store has is that watch's. -/
theorem Known.sameWatch_of_mem {s : Store} {w r : WatchRow} (h : Known s w) (hr : r ∈ s.rows)
    (hid : r.id = w.id) : SameWatch w r := by
  obtain ⟨r', hr', hsame⟩ := h
  have heq : r = r' := Store.eq_of_id hr hr' (hid.trans hsame.id.symm)
  exact heq ▸ hsame

/-- A store that has every watch another one has. -/
def KeepsWatches (s s' : Store) : Prop := ∀ w, Known s w → Known s' w

theorem KeepsWatches.refl (s : Store) : KeepsWatches s s := fun _ h => h

theorem KeepsWatches.trans {s s' s'' : Store} (h : KeepsWatches s s') (h' : KeepsWatches s' s'') : KeepsWatches s s'' :=
  fun w hw => h' w (h w hw)

theorem keepsWatches_apply (s : Store) (op : StoreOp) : KeepsWatches s (s.apply op) := by
  rintro w ⟨r, hr, hsame⟩
  obtain ⟨r', hr', rfl | hchange⟩ := Store.exists_apply_of_mem hr op
  · exact ⟨r', hr', hsame⟩
  · exact ⟨r', hr', hsame.trans hchange.sameWatch⟩

theorem keepsWatches_run (s : Store) (ops : List StoreOp) : KeepsWatches s (s.run ops) :=
  Runs.run_relation KeepsWatches.refl KeepsWatches.trans keepsWatches_apply s ops

/-! ## Errors that end a watch -/

/-- The failure is taken for a permanent one of the watch. -/
def TurnError.terminal (e : TurnError) : Prop :=
  (classifyPollingFailure e).disposition = .permanent

/-- Only one answer to a scan is. -/
theorem TurnError.terminal_iff {e : TurnError} : e.terminal ↔
    ∃ status retryAfter,
      e = .http status .scanPage .zeroAddressSenderUnsupported .permanent retryAfter := by
  constructor
  · intro h
    cases e with
    | http status purpose code disposition retryAfter =>
        simp only [TurnError.terminal, classifyPollingFailure] at h
        split at h
        · cases h
        · rename_i hscoped
          subst h
          have hscoped : isWatchScopedPermanentIndexerFailure purpose code = true := by
            simpa using hscoped
          simp only [isWatchScopedPermanentIndexerFailure, Bool.and_eq_true, beq_iff_eq] at hscoped
          obtain ⟨rfl, rfl⟩ := hscoped
          exact ⟨status, retryAfter, rfl⟩
    | timeout => cases h
    | network => cases h
    | protocol message => cases h
    | shutdown => cases h
  · rintro ⟨status, retryAfter, rfl⟩
    rfl

/-- No error of the store is. -/
theorem TurnError.not_terminal_ofStore (e : StoreError) : ¬(TurnError.ofStore e).terminal := by
  rw [TurnError.terminal_iff]
  rintro ⟨_, _, h⟩
  cases e <;> cases h

theorem TurnError.not_terminal_protocol (message : String) : ¬(TurnError.protocol message).terminal :=
  fun h => by cases h

theorem TurnError.not_terminal_network : ¬TurnError.network.terminal := fun h => by cases h

theorem TurnError.not_terminal_shutdown : ¬TurnError.shutdown.terminal := fun h => by cases h

theorem not_terminal_of_spend {limit used : ℕ} {label : String} {e : TurnError}
    (h : spend limit label used = .error e) : ¬e.terminal := by
  unfold spend at h
  split at h
  · cases h
    exact TurnError.not_terminal_protocol _
  · cases h

/-- The provider can give that error to a query by the zero address only. -/
theorem zeroSender_of_received {α : Type} {purpose : IndexerRequestPurpose}
    {query : Option ScanQuery} {parse : Json → Except String α} {answer : Answer} {e : TurnError}
    (h : received purpose query parse answer = .error e) (hterminal : e.terminal) :
    purpose = .scanPage ∧ ∃ q, query = some q ∧ q.zeroSender = true := by
  obtain ⟨status, retryAfter, rfl⟩ := TurnError.terminal_iff.1 hterminal
  cases answer with
  | body value =>
      cases hparse : parse value <;> simp [received, hparse, Except.mapError] at h
  | status status message retryAfter =>
      simp only [received, Except.error.injEq, TurnError.http.injEq] at h
      obtain ⟨-, hpurpose, hcode, -⟩ := h
      refine ⟨hpurpose, ?_⟩
      unfold classifyIndexerHttpFailure at hcode
      split at hcode
      · rename_i hzero
        exact Option.any_eq_true _ _ |>.1 hzero.2.2
      · split_ifs at hcode
  | timeout => cases h
  | network => cases h
  | unreadable message => cases h
  | shutdown => cases h

theorem not_terminal_of_getCurrentRound {purpose : IndexerRequestPurpose} {answer : Answer}
    {e : TurnError} (h : getCurrentRound purpose answer = .error e) : ¬e.terminal := by
  intro hterminal
  obtain ⟨-, q, hq, -⟩ := zeroSender_of_received h hterminal
  cases hq

theorem not_terminal_of_getBlock {round : ℤ} {answer : Answer} {e : TurnError}
    (h : getBlock round answer = .error e) : ¬e.terminal := by
  intro hterminal
  obtain ⟨-, q, hq, -⟩ := zeroSender_of_received h hterminal
  cases hq

/-- A watch is scanned by the zero address only if it expects that sender. -/
theorem expectedSender_of_zeroSender {variant : ScanQueryVariant} {watch : WatchTerms}
    {minRound maxRound : ℤ} {token : Option JsString} {query : ScanQuery}
    (h : buildWatchSearchUrl variant watch minRound maxRound token = .ok query)
    (hzero : query.zeroSender = true) : watch.expectedSender.val = zeroAddress := by
  obtain ⟨amount, hbuilt⟩ := buildWatchSearchUrl_eq_ok h
  simp only [ScanQuery.zeroSender, Bool.and_eq_true, beq_iff_eq] at hzero
  obtain ⟨haddress, hrole⟩ := hzero
  rw [hbuilt.addressRole] at hrole
  have hD : variant ≠ .D := by
    rintro rfl
    simp [scanPlan] at hrole
  rw [hbuilt.address] at haddress
  simp only [scanPlan, if_neg hD] at haddress
  rw [← watch.expectedSender.wellFormed, haddress]

/-! ## The parts of the invariant -/

/-- The query is one of the watch's. -/
def AsksFor (variant : ScanQueryVariant) (watch : WatchTerms) (query : ScanQuery) : Prop :=
  ∃ minRound maxRound token, buildWatchSearchUrl variant watch minRound maxRound token = .ok query

section Results

variable {α : Type}

/-- A result ends the watch for good only if the watch expects the zero address. -/
def Spares (w : WatchRow) (result : Except TurnError α) : Prop :=
  ∀ e, result = .error e → e.terminal → w.expectedSender.val = zeroAddress

/-- A result that ends a watch for good was the answer to a query by the zero address. -/
def ZeroOnly (query : ScanQuery) (result : Except TurnError α) : Prop :=
  ∀ e, result = .error e → e.terminal → query.zeroSender = true

theorem Spares.ok (w : WatchRow) (a : α) : Spares w (.ok a) := fun _ h => by cases h

theorem Spares.of_not_terminal {w : WatchRow} {e : TurnError} (h : ¬e.terminal) :
    Spares (α := α) w (.error e) := by
  intro e' heq hterminal
  cases heq
  exact absurd hterminal h

end Results

/-- The watch of a turn is one the store has; at its page the turn waits for a query of that
watch. -/
structure TurnTraffic (cfg : WorkerConfig) (s : Store) (turn : PollTurn) : Prop where
  known : Known s turn.initial
  same : SameWatch turn.initial turn.watch.row
  page : ∀ ref query held, turn.point = .page ref query held →
    AsksFor cfg.scanQueryVariant turn.watch.row.terms query ∧
      ∀ result fresh, held = some (result, fresh) → ZeroOnly query result
  tip : ∀ e, turn.point = .sweepTip (some (.error e)) → ¬e.terminal

/-- What the loop of a sweep keeps: the watches to come, each once, the tip and the pages. -/
structure LoopTraffic (s : Store) (sweep : Sweep) : Prop where
  waiting : ∀ w ∈ sweep.waiting, Known s w
  distinct : (sweep.waiting.map (·.id)).Nodup
  tip : ∀ e, sweep.sharedTip = some (.error e) → ¬e.terminal
  pages : ∀ query result, (query, result) ∈ sweep.sharedPages → ZeroOnly query result

/-- The watch is not one of those to come. -/
def Sweep.Past (sweep : Sweep) (w : WatchRow) : Prop := w.id ∉ sweep.waiting.map (·.id)

structure SweepTraffic (cfg : WorkerConfig) (s : Store) (sweep : Sweep) : Prop extends
    LoopTraffic s sweep where
  serving : ∀ turn, sweep.phase = .serving turn →
    TurnTraffic cfg s turn ∧ sweep.Past turn.initial
  served : ∀ w result, sweep.phase = .served w result → Known s w ∧ Spares w result ∧ sweep.Past w

/-- A law of rows that every change keeps, if a permanent failure is recorded for watches
that expect the zero address only. -/
def RowLaw (P : WatchRow → Prop) : Prop :=
  ∀ op r r', RowChange op r r' → P r →
    (∀ now id failure, op = .recordPollingFailure now id failure →
      failure.disposition = .permanent → r.expectedSender.val = zeroAddress) → P r'

/-- **The invariant.** -/
structure Traffic (cfg : WorkerConfig) (P : WatchRow → Prop) (σ : System) : Prop where
  rows : ∀ r ∈ σ.store.rows, P r
  asked : ∀ fetcher query body, .scanned fetcher query body ∈ σ.log →
    (∃ w, Known σ.store w ∧ w.terms = fetcher) ∧ AsksFor cfg.scanQueryVariant fetcher query
  covers : ∀ query page, σ.poller.cache.Holds query page → query.maxRound ≤ page.currentRound
  sweeps : ∀ i sweep, σ.poller.sweeps i = some sweep → SweepTraffic cfg σ.store sweep

variable {cfg : WorkerConfig} {P : WatchRow → Prop} {σ σ' : System} {s s' : Store}

theorem TurnTraffic.mono {turn : PollTurn} (h : TurnTraffic cfg s turn) (hstore : KeepsWatches s s') :
    TurnTraffic cfg s' turn :=
  ⟨hstore _ h.known, h.same, h.page, h.tip⟩

theorem LoopTraffic.mono {sweep : Sweep} (h : LoopTraffic s sweep) (hstore : KeepsWatches s s') :
    LoopTraffic s' sweep :=
  ⟨fun w hw => hstore w (h.waiting w hw), h.distinct, h.tip, h.pages⟩

theorem SweepTraffic.mono {sweep : Sweep} (h : SweepTraffic cfg s sweep)
    (hstore : KeepsWatches s s') : SweepTraffic cfg s' sweep := by
  refine ⟨h.toLoopTraffic.mono hstore, fun turn hturn => ?_, fun w result hserved => ?_⟩
  · obtain ⟨htraffic, hpast⟩ := h.serving turn hturn
    exact ⟨htraffic.mono hstore, hpast⟩
  · obtain ⟨hknown, hspares, hpast⟩ := h.served w result hserved
    exact ⟨hstore w hknown, hspares, hpast⟩

/-! ## The ways a system changes -/

/-- A step that leaves the store, the history, the cache and the sweeps alone. -/
theorem Traffic.of_same (h : Traffic cfg P σ) (hstore : σ'.store = σ.store) (hlog : σ'.log = σ.log)
    (hcache : σ'.poller.cache = σ.poller.cache) (hsweeps : σ'.poller.sweeps = σ.poller.sweeps) :
    Traffic cfg P σ' := by
  refine ⟨?_, ?_, ?_, ?_⟩
  · rw [hstore]
    exact h.rows
  · rw [hstore, hlog]
    exact h.asked
  · rw [hcache]
    exact h.covers
  · rw [hstore, hsweeps]
    exact h.sweeps

/-- A step outside the poller's memory. -/
theorem Traffic.of_poller (h : Traffic cfg P σ) (hstore : KeepsWatches σ.store σ'.store)
    (hrows : ∀ r ∈ σ'.store.rows, P r) (hpoller : σ'.poller = σ.poller)
    (hlog : ∀ fetcher query body, .scanned fetcher query body ∈ σ'.log →
      .scanned fetcher query body ∈ σ.log) : Traffic cfg P σ' where
  rows := hrows
  asked fetcher query body hmem := by
    obtain ⟨⟨w, hknown, hterms⟩, hasks⟩ := h.asked fetcher query body (hlog fetcher query body hmem)
    exact ⟨⟨w, hstore w hknown, hterms⟩, hasks⟩
  covers := by
    rw [hpoller]
    exact h.covers
  sweeps i sweep hsweep := by
    rw [hpoller] at hsweep
    exact (h.sweeps i sweep hsweep).mono hstore

/-- What an operation other than `prepareWatch` makes of lawful rows. -/
theorem RowLaw.apply (hlaw : RowLaw P) {op : StoreOp} (hrows : ∀ r ∈ s.rows, P r)
    (hprepare : ∀ now id spec intent, op ≠ .prepareWatch now id spec intent)
    (hfailure : ∀ r ∈ s.rows, ∀ now id failure, op = .recordPollingFailure now id failure →
      r.id = bindText id → failure.disposition = .permanent →
        r.expectedSender.val = zeroAddress) : ∀ r ∈ (s.apply op).rows, P r := by
  intro r' hr'
  rcases s.apply_cases op with ⟨now, id, spec, intent, _, hop, -⟩ | hrewrites
  · exact absurd hop (hprepare now id spec intent)
  · obtain ⟨r, hr, heq | hchange⟩ := hrewrites.exists_of_mem_right hr'
    · exact heq ▸ hrows r hr
    · refine hlaw op r r' hchange (hrows r hr) fun now id failure hop hpermanent => ?_
      subst hop
      cases hchange with
      | recordFailure hid _ => exact hfailure r hr now id failure rfl hid hpermanent

theorem Traffic.perform (h : Traffic cfg P σ) (hlaw : RowLaw P) {op : StoreOp}
    (hprepare : ∀ now id spec intent, op ≠ .prepareWatch now id spec intent)
    (hfailure : ∀ r ∈ σ.store.rows, ∀ now id failure, op = .recordPollingFailure now id failure →
      r.id = bindText id → failure.disposition = .permanent →
        r.expectedSender.val = zeroAddress) : Traffic cfg P (σ.perform op) :=
  h.of_poller (keepsWatches_apply _ op) (hlaw.apply h.rows hprepare hfailure) rfl
    fun _ _ _ hmem => hmem

theorem Traffic.observe (h : Traffic cfg P σ) {o : Observation} (ho : o.isScan = false) :
    Traffic cfg P (σ.observe o) := by
  refine h.of_poller (.refl _) h.rows rfl fun fetcher query body hmem => ?_
  rcases List.mem_cons.1 hmem with rfl | hmem
  · cases ho
  · exact hmem

theorem Traffic.claimUnit (h : Traffic cfg P σ) (hlaw : RowLaw P) (kind : WorkerKind) (now : ℤ)
    (id : SqlText) (claim : WorkClaim) : Traffic cfg P (σ.claimUnit kind now id claim) := by
  have hclaimed : Traffic cfg P (σ.perform (.claimWorkUnit now id.val claim)) :=
    h.perform hlaw (by simp) (by simp)
  unfold System.claimUnit
  split
  · refine hclaimed.of_poller (.refl _) hclaimed.rows rfl fun fetcher query body hmem => ?_
    rcases List.mem_cons.1 hmem with heq | hmem
    · cases heq
    · exact hmem
  · exact hclaimed.observe rfl
  · exact hclaimed

theorem Traffic.setSweep (h : Traffic cfg P σ) {i : ℕ} {sweep : Sweep}
    (hsweep : SweepTraffic cfg σ.store sweep) : Traffic cfg P (σ.setSweep i sweep) := by
  refine ⟨h.rows, h.asked, h.covers, fun j other hother => ?_⟩
  by_cases hj : j = i
  · subst hj
    have heq : sweep = other := by simpa [System.setSweep] using hother
    exact heq ▸ hsweep
  · exact h.sweeps j other (by simpa [System.setSweep, hj] using hother)

theorem Traffic.endSweep (h : Traffic cfg P σ) (i : ℕ) : Traffic cfg P (σ.endSweep i) := by
  refine ⟨h.rows, h.asked, h.covers, fun j other hother => ?_⟩
  by_cases hj : j = i
  · subst hj
    simp [System.endSweep] at hother
  · exact h.sweeps j other (by simpa [System.endSweep, hj] using hother)

theorem Traffic.setCache (h : Traffic cfg P σ) {cache : HistoricalPageCache}
    (hcache : ∀ query page, cache.Holds query page → query.maxRound ≤ page.currentRound) :
    Traffic cfg P (σ.setCache cache) :=
  ⟨h.rows, h.asked, hcache, h.sweeps⟩

theorem Traffic.forgetSession (h : Traffic cfg P σ) (id : SqlText) :
    Traffic cfg P (σ.forgetSession id) :=
  h.of_same rfl rfl rfl rfl

theorem Traffic.retainSession (h : Traffic cfg P σ) (id : SqlText) (watch : Option WatchRow) :
    Traffic cfg P (σ.retainSession id watch) := by
  unfold System.retainSession
  split
  · split
    · exact h
    · exact h.forgetSession id
  · exact h

/-- A stretch outside the poller. -/
theorem Traffic.elsewhere (h : Traffic cfg P σ) (hlaw : RowLaw P) (hstretch : Elsewhere σ σ') :
    Traffic cfg P σ' := by
  obtain ⟨ops, hops, hsettles⟩ := hstretch.store
  obtain ⟨new, hnew, hscans⟩ := hstretch.log
  refine h.of_poller (hops ▸ keepsWatches_run _ ops) ?_ hstretch.poller fun fetcher query body hmem => ?_
  · rw [hops]
    have hadmissible : Runs.Admissible Store.apply (fun _ op => op.settles = true) σ.store ops :=
      Runs.admissible_of_forall hsettles
    refine Runs.run_invariant (I := fun s : Store => ∀ r ∈ s.rows, P r)
      (fun s op hop hrows => hlaw.apply hrows ?_ ?_) hadmissible h.rows
    · rintro now id spec intent rfl
      cases hop
    · rintro r - now id failure rfl
      cases hop
  · rw [hnew] at hmem
    rcases List.mem_append.1 hmem with hmem | hmem
    · exact absurd (hscans _ hmem) (by simp [Observation.isScan])
    · exact hmem

end RoundWatch
