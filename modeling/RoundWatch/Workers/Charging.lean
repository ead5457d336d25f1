import RoundWatch.Store.Lifecycle
import RoundWatch.Workers.Meter

/-!
# The process keeps its work budget

The invariant behind the budget: each row has been charged for the turns claimed for it,
the log is metered, and each turn in flight has been claimed, has its own number and has
counted every request it sent.

* `Charged`, `TurnOpen`, `Budgeted` — the invariant;
* `Budgeted.claimUnit`, `Budgeted.perform`, … — one lemma for each way a `System`
  changes.
-/

namespace RoundWatch

open JsText

/-! ## The invariant -/

/-- A row has been charged for the turns claimed for it. -/
structure Charged (log : List Observation) (r : WatchRow) : Prop where
  used : r.workUnitsUsed = (claimedTurns r.id log).length
  within : ∀ budget, r.workUnitBudget = some budget → r.workUnitsUsed ≤ budget
  unbudgeted : r.workUnitBudget = none → r.workUnitsUsed = 0
  /-- A row is exhausted once, with its budget used up. -/
  exhausted : exhaustions r.id log = 0 ∨ exhaustions r.id log = 1 ∧
    r.state = .indeterminate ∧ r.workUnitBudget = some r.workUnitsUsed

/-- A turn in flight has been claimed and has counted its requests. -/
structure TurnOpen (log : List Observation) (number : ℕ) (kind : WorkerKind) (id : SqlText)
    (used : ℕ) : Prop where
  claimed : .claimed number kind id ∈ log
  requests : requestsIn log number ≤ used

/-- The requests a polling turn can have counted at a point. -/
def PollPoint.spent : PollPoint → ℕ
  | .checkpointTip => 1
  | .checkpointBlock _ => 2
  | .sweepTip _ => 3
  | .page .. => 4

/-- The requests a reconciliation turn can have counted at a point. -/
def ReconcilePoint.spent : ReconcilePoint → ℕ
  | .lookup => 1
  | .tip => 2
  | .search _ => 3

/-- The polling turns in flight. -/
structure PollTurnsOpen (log : List Observation) (sweeps : ℕ → Option Sweep) : Prop where
  turn : ∀ i sweep turn, sweeps i = some sweep → sweep.phase = .serving turn →
    TurnOpen log turn.number .polling turn.initial.id turn.used ∧ turn.used ≤ turn.point.spent
  apart : ∀ i j sweep sweep' turn turn', sweeps i = some sweep → sweep.phase = .serving turn →
    sweeps j = some sweep' → sweep'.phase = .serving turn' → turn.number = turn'.number → i = j

/-- The reconciliation turn in flight. -/
def ReconcileTurnOpen (log : List Observation) (sweep : Option ReconcileSweep) : Prop :=
  ∀ s turn, sweep = some s → s.phase = .serving turn →
    TurnOpen log turn.number .reconciliation turn.watch.id turn.used ∧
      turn.used ≤ turn.point.spent

/-- **The invariant** of a process whose database started as `origin`. -/
structure Budgeted (origin : Store) (σ : System) : Prop where
  /-- What the process did to its database is a history of operations. -/
  history : ∃ ops, σ.store = origin.run ops
  rows : ∀ r ∈ σ.store.rows, Charged σ.log r
  /-- Work is only ever claimed for a watch. -/
  known : ∀ o ∈ σ.log, ∀ id, (o.claimedFor id).isSome ∨ o.exhausts id = true →
    ∃ r ∈ σ.store.rows, r.id = id
  log : Metered σ.log
  turns : σ.turns = turnCount σ.log
  polling : PollTurnsOpen σ.log σ.poller.sweeps
  reconciling : ReconcileTurnOpen σ.log σ.reconciler.sweep

/-! ## Rows -/

variable {origin : Store} {σ σ' : System} {log : List Observation}

theorem Charged.cons {r : WatchRow} (h : Charged log r) {o : Observation}
    (hclaim : o.claimedFor r.id = none) (hexhaust : o.exhausts r.id = false) :
    Charged (o :: log) r where
  used := by simp [hclaim, h.used]
  within := h.within
  unbudgeted := h.unbudgeted
  exhausted := by simpa [hexhaust] using h.exhausted

theorem Observation.not_about {o : Observation} (h : o.metered = false) (id : SqlText) :
    o.claimedFor id = none ∧ o.exhausts id = false := by
  cases o <;> first | exact ⟨rfl, rfl⟩ | cases h

/-- The operation that charges. -/
def StoreOp.charges : StoreOp → Bool
  | .claimWorkUnit .. => true
  | _ => false

/-- No other operation touches what a row was charged. -/
theorem Charged.change {op : StoreOp} {r r' : WatchRow} (h : Charged log r)
    (hop : op.charges = false) (hchange : RowChange op r r') : Charged log r' := by
  by_cases hfinished : r.finished = true
  · exact hchange.eq_of_finished hfinished ▸ h
  · have hnever : exhaustions r.id log = 0 := by
      rcases h.exhausted with hnever | ⟨-, hstate, -⟩
      · exact hnever
      · simp [WatchRow.finished, hstate] at hfinished
    cases hchange with
    | charge _ _ _ => cases hop
    | exhaust _ _ _ => cases hop
    | repairBudget _ hnone =>
        have hzero := h.unbudgeted hnone
        refine ⟨h.used, fun budget _ => ?_, fun hbudget => ?_, Or.inl hnever⟩
        · simp [WatchRow.repairBudget, hzero]
        · cases hbudget
    | _ => exact ⟨h.used, h.within, h.unbudgeted, Or.inl hnever⟩

/-- A new row has not been charged. -/
theorem Charged.preparedRow {config : StoreConfig} {id : JsString} {spec : WatchSpec}
    {intent : Option SettlementIntent} {now expiresAt : ℤ}
    (hnew : ∀ o ∈ log, o.claimedFor (bindText id) = none ∧ o.exhausts (bindText id) = false) :
    Charged log (preparedRow config id spec intent now expiresAt) := by
  have hclaims : claimedTurns (bindText id) log = [] :=
    List.filterMap_eq_nil_iff.2 fun o ho => (hnew o ho).1
  have hexhaustions : exhaustions (bindText id) log = 0 :=
    List.countP_eq_zero.2 fun o ho => by simp [(hnew o ho).2]
  refine ⟨?_, fun _ _ => Nat.zero_le _, fun _ => rfl, Or.inl hexhaustions⟩
  simp [RoundWatch.preparedRow, hclaims]

/-! ## Turns -/

theorem TurnOpen.cons {number used : ℕ} {kind : WorkerKind} {id : SqlText}
    (h : TurnOpen log number kind id used) {o : Observation}
    (ho : o.isRequestIn number = false) : TurnOpen (o :: log) number kind id used :=
  ⟨List.mem_cons_of_mem _ h.claimed, by simpa [ho] using h.requests⟩

/-- An observation that is no request leaves the turns in flight as they are. -/
theorem PollTurnsOpen.cons {sweeps : ℕ → Option Sweep} (h : PollTurnsOpen log sweeps)
    {o : Observation} (ho : ∀ number, o.isRequestIn number = false) :
    PollTurnsOpen (o :: log) sweeps :=
  ⟨fun i sweep turn hsweep hphase => ⟨(h.turn i sweep turn hsweep hphase).1.cons (ho _),
    (h.turn i sweep turn hsweep hphase).2⟩, h.apart⟩

theorem ReconcileTurnOpen.cons {sweep : Option ReconcileSweep} (h : ReconcileTurnOpen log sweep)
    {o : Observation} (ho : ∀ number, o.isRequestIn number = false) :
    ReconcileTurnOpen (o :: log) sweep :=
  fun s turn hs hphase => ⟨(h s turn hs hphase).1.cons (ho _), (h s turn hs hphase).2⟩

/-! ## The ways a system changes -/

/-- A step that moves nothing the budget is about. -/
theorem Budgeted.of_same (h : Budgeted origin σ) (hstore : σ'.store = σ.store) (hlog : σ'.log = σ.log)
    (hturns : σ'.turns = σ.turns) (hsweeps : σ'.poller.sweeps = σ.poller.sweeps)
    (hsweep : σ'.reconciler.sweep = σ.reconciler.sweep) : Budgeted origin σ' := by
  obtain ⟨hhistory, hrows, hknown, hmetered, hcount, hpolling, hreconciling⟩ := h
  constructor
  · rw [hstore]
    exact hhistory
  · rw [hstore, hlog]
    exact hrows
  · rw [hstore, hlog]
    exact hknown
  · rw [hlog]
    exact hmetered
  · rw [hturns, hlog]
    exact hcount
  · rw [hlog, hsweeps]
    exact hpolling
  · rw [hlog, hsweep]
    exact hreconciling

/-- Something that is not about work happens. -/
theorem Budgeted.observe (h : Budgeted origin σ) {o : Observation} (ho : o.metered = false) :
    Budgeted origin (σ.observe o) where
  history := h.history
  rows r hr := (h.rows r hr).cons (o.not_about ho r.id).1 (o.not_about ho r.id).2
  known o' ho' id habout := by
    rcases List.mem_cons.1 ho' with rfl | ho'
    · simp [o'.not_about ho id] at habout
    · exact h.known o' ho' id habout
  log := .other ho h.log
  turns := by
    have hclaim : o.isClaim = false := by cases o <;> first | rfl | cases ho
    simp [hclaim, h.turns]
  polling := h.polling.cons (Observation.isRequestIn_of_unmetered ho)
  reconciling := h.reconciling.cons (Observation.isRequestIn_of_unmetered ho)

theorem Budgeted.history_perform (h : Budgeted origin σ) (op : StoreOp) :
    ∃ ops, (σ.perform op).store = origin.run ops := by
  obtain ⟨ops, hops⟩ := h.history
  refine ⟨ops ++ [op], ?_⟩
  simp [Store.run, Runs.run_append, hops]

/-- A store operation that does not charge. -/
theorem Budgeted.perform (h : Budgeted origin σ) {op : StoreOp} (hop : op.charges = false) :
    Budgeted origin (σ.perform op) where
  history := h.history_perform op
  rows := by
    intro r' hr'
    rcases σ.store.apply_cases op with ⟨now, id, spec, intent, expiresAt, rfl, hcreated⟩ | hrewrites
    · have hrows : (σ.perform (.prepareWatch now id spec intent)).store.rows = σ.store.rows ++
          [preparedRow σ.store.config id spec intent now expiresAt] := hcreated.rows
      by_cases hold : ∃ r ∈ σ.store.rows, r.id = r'.id
      · -- a row under an id that is taken is the row that was there
        obtain ⟨r, hr, hid⟩ := hold
        have hmem : r ∈ (σ.perform (.prepareWatch now id spec intent)).store.rows :=
          hrows ▸ List.mem_append_left _ hr
        exact Store.eq_of_id hmem hr' hid ▸ h.rows r hr
      · rw [hrows, List.mem_append, List.mem_singleton] at hr'
        rcases hr' with hr' | rfl
        · exact h.rows r' hr'
        · refine .preparedRow fun o ho => ?_
          have hnew : ¬ ((o.claimedFor (bindText id)).isSome ∨ o.exhausts (bindText id) = true) :=
            fun habout => hold (h.known o ho _ habout)
          simpa using hnew
    · obtain ⟨r, hr, heq | hchange⟩ := hrewrites.exists_of_mem_right hr'
      · exact heq ▸ h.rows r hr
      · exact (h.rows r hr).change hop hchange
  known o ho id habout := by
    obtain ⟨r, hr, rfl⟩ := h.known o ho id habout
    obtain ⟨r', hr', rfl | hchange⟩ := Store.exists_apply_of_mem hr op
    · exact ⟨r', hr', rfl⟩
    · exact ⟨r', hr', hchange.sameWatch.id⟩
  log := h.log
  turns := h.turns
  polling := h.polling
  reconciling := h.reconciling

/-- A turn of the other worker sends a request. -/
theorem TurnOpen.cons_request {number number' used : ℕ} {kind kind' : WorkerKind}
    {id id' : SqlText} (h : TurnOpen log number kind id used) (hlog : Metered log)
    (hclaimed : .claimed number' kind' id' ∈ log) (hkind : kind ≠ kind') :
    TurnOpen (.requested number' id' :: log) number kind id used := by
  refine h.cons ?_
  have hne : number' ≠ number := by
    rintro rfl
    exact hkind (hlog.claimed_unique h.claimed hclaimed).1
  simpa [Observation.isRequestIn] using hne

/-- A request is sent in a turn that has one left. -/
theorem Budgeted.request (h : Budgeted origin σ) {number : ℕ} {kind : WorkerKind} {id : SqlText}
    (hclaimed : .claimed number kind id ∈ σ.log) (hlimit : requestsIn σ.log number < kind.limit)
    (hstore : σ'.store = σ.store) (hlog : σ'.log = .requested number id :: σ.log)
    (hturns : σ'.turns = σ.turns)
    (hpolling : PollTurnsOpen (.requested number id :: σ.log) σ'.poller.sweeps)
    (hreconciling : ReconcileTurnOpen (.requested number id :: σ.log) σ'.reconciler.sweep) :
    Budgeted origin σ' := by
  constructor
  · rw [hstore]
    exact h.history
  · rw [hstore, hlog]
    exact fun r hr => (h.rows r hr).cons rfl rfl
  · rw [hstore, hlog]
    intro o ho id' habout
    rcases List.mem_cons.1 ho with rfl | ho
    · simp [Observation.claimedFor, Observation.exhausts] at habout
    · exact h.known o ho id' habout
  · rw [hlog]
    exact .requested h.log hclaimed hlimit
  · rw [hturns, hlog]
    simpa [Observation.isClaim] using h.turns
  · rwa [hlog]
  · rwa [hlog]

/-- The poller moves on, apart from its sweeps. -/
theorem Budgeted.setCache (h : Budgeted origin σ) (cache : HistoricalPageCache) :
    Budgeted origin (σ.setCache cache) :=
  h.of_same rfl rfl rfl rfl rfl

theorem Budgeted.forgetSession (h : Budgeted origin σ) (id : SqlText) : Budgeted origin (σ.forgetSession id) :=
  h.of_same rfl rfl rfl rfl rfl

theorem Budgeted.retainSession (h : Budgeted origin σ) (id : SqlText) (watch : Option WatchRow) :
    Budgeted origin (σ.retainSession id watch) := by
  unfold System.retainSession
  split
  · split
    · exact h
    · exact h.forgetSession id
  · exact h

theorem Budgeted.openSession (h : Budgeted origin σ) (session : ScanSession) :
    Budgeted origin (σ.openSession session) :=
  h.of_same rfl rfl rfl rfl rfl

theorem Budgeted.continueSession (h : Budgeted origin σ) (ref : ℕ) (token : JsString) :
    Budgeted origin (σ.continueSession ref token) :=
  h.of_same rfl rfl rfl rfl rfl

theorem Budgeted.pruneScanSessions (h : Budgeted origin σ) : Budgeted origin σ.pruneScanSessions :=
  h.of_same rfl rfl rfl rfl rfl

theorem Budgeted.openSweep (h : Budgeted origin σ) (index : ℕ) : Budgeted origin (σ.openSweep index) :=
  h.of_same rfl rfl rfl rfl rfl

theorem Budgeted.endSweep (h : Budgeted origin σ) (i : ℕ) : Budgeted origin (σ.endSweep i) := by
  have hrest : ∀ j sweep, (σ.endSweep i).poller.sweeps j = some sweep →
      σ.poller.sweeps j = some sweep := by
    intro j sweep hsweep
    by_cases hj : j = i
    · subst hj
      simp [System.endSweep] at hsweep
    · simpa [System.endSweep, Function.update_of_ne hj] using hsweep
  exact { h with polling := ⟨fun j sweep turn hsweep => h.polling.turn j sweep turn (hrest _ _ hsweep),
    fun j k sweep sweep' turn turn' hsweep hphase hsweep' => h.polling.apart j k sweep sweep' turn
      turn' (hrest _ _ hsweep) hphase (hrest _ _ hsweep')⟩ }

/-! ## A claim -/

/-- The row that was charged. -/
theorem Charged.charge {r : WatchRow} (h : Charged log r) (hunit : Store.hasWorkUnit r)
    (hfinished : r.finished = false) (turn : ℕ) (kind : WorkerKind) :
    Charged (.claimed turn kind r.id :: log) r.charge where
  used := by simp [WatchRow.charge, Observation.claimedFor, h.used, Nat.add_comm]
  within budget hbudget := by
    have hbudget : r.workUnitBudget = some budget := hbudget
    have hlt : r.workUnitsUsed < budget := by simpa [Store.hasWorkUnit, hbudget] using hunit
    exact hlt
  unbudgeted hnone := by
    have hnone : r.workUnitBudget = none := hnone
    simp [Store.hasWorkUnit, hnone] at hunit
  exhausted := by
    rcases h.exhausted with hnever | ⟨-, hstate, -⟩
    · left
      simpa [WatchRow.charge, Observation.exhausts] using hnever
    · simp [WatchRow.finished, hstate] at hfinished

/-- The row that was exhausted. -/
theorem Charged.exhaust {r : WatchRow} (h : Charged log r) (hout : Store.outOfWork r)
    (hfinished : r.finished = false) : Charged (.exhausted r.id :: log) r.exhaust where
  used := by simp [WatchRow.exhaust, Observation.claimedFor, h.used]
  within := h.within
  unbudgeted := h.unbudgeted
  exhausted := by
    obtain ⟨budget, hbudget, hle⟩ := (Option.any_eq_true ..).1 hout
    have hwithin := h.within budget hbudget
    have hle : budget ≤ r.workUnitsUsed := by simpa using hle
    rcases h.exhausted with hnever | ⟨-, hstate, -⟩
    · right
      refine ⟨?_, rfl, ?_⟩
      · simpa [WatchRow.exhaust, Observation.exhausts] using hnever
      · simp only [WatchRow.exhaust, hbudget, Option.some.injEq]
        exact Nat.le_antisymm hle hwithin
    · simp [WatchRow.finished, hstate] at hfinished

/-- One row is updated, and what is noted is about its watch alone. -/
theorem Charged.update {s : Store} {p : WatchRow → Bool} {f : WatchRow → WatchRow}
    {hf : ∀ r, (f r).indexed = r.indexed} {r : WatchRow} {o : Observation}
    (hall : ∀ r ∈ s.rows, Charged log r) (hr : r ∈ s.rows) (hp : p r = true)
    (hself : Charged (o :: log) (f r))
    (hother : ∀ id, id ≠ r.id → o.claimedFor id = none ∧ o.exhausts id = false)
    (hselects : ∀ r', p r' = true → r'.id = r.id) :
    ∀ r' ∈ (s.update p f hf).rows, Charged (o :: log) r' := by
  intro r' hr'
  obtain ⟨r₀, hr₀, rfl⟩ := List.mem_map.1 hr'
  by_cases hp₀ : p r₀ = true
  · rw [if_pos hp₀, Store.eq_of_id hr₀ hr (hselects r₀ hp₀)]
    exact hself
  · rw [if_neg hp₀]
    have hne : r₀.id ≠ r.id := fun hid => hp₀ (Store.eq_of_id hr₀ hr hid ▸ hp)
    exact (hall r₀ hr₀).cons (hother _ hne).1 (hother _ hne).2

/-- What is noted about a watch stays about a watch. -/
theorem Budgeted.known_perform (h : Budgeted origin σ) (op : StoreOp) {r : WatchRow}
    (hr : r ∈ σ.store.rows) {o : Observation}
    (hother : ∀ id, id ≠ r.id → o.claimedFor id = none ∧ o.exhausts id = false) :
    ∀ o' ∈ o :: σ.log, ∀ id, (o'.claimedFor id).isSome ∨ o'.exhausts id = true →
      ∃ r' ∈ (σ.perform op).store.rows, r'.id = id := by
  intro o' ho' id habout
  have hknown : ∃ r ∈ σ.store.rows, r.id = id := by
    rcases List.mem_cons.1 ho' with rfl | ho'
    · by_cases hid : id = r.id
      · exact ⟨r, hr, hid.symm⟩
      · simp [hother id hid] at habout
    · exact h.known o' ho' id habout
  obtain ⟨r₀, hr₀, rfl⟩ := hknown
  obtain ⟨r', hr', rfl | hchange⟩ := Store.exists_apply_of_mem hr₀ op
  · exact ⟨r', hr', rfl⟩
  · exact ⟨r', hr', hchange.sameWatch.id⟩

/-- **A claim is charged.** -/
theorem Budgeted.claimUnit (h : Budgeted origin σ) (kind : WorkerKind) (now : ℤ) (id : SqlText)
    (claim : WorkClaim) : Budgeted origin (σ.claimUnit kind now id claim) := by
  have hstore : (σ.perform (.claimWorkUnit now id.val claim)).store =
      (σ.store.claimWorkUnit now id.val claim).1 := rfl
  rcases σ.store.claimWorkUnit_cases now id.val claim with heq | ⟨r, hr, hclaim, heq⟩ |
    ⟨r, hr, hexhaust, heq⟩ | heq
  · simp only [System.claimUnit, heq]
    exact h.of_same (by rw [hstore, heq]) rfl rfl rfl rfl
  · have hp := hclaim
    simp only [Store.claimable, Bool.and_eq_true, Store.hasId_iff, bindText_val] at hclaim
    obtain ⟨⟨rfl, heligible⟩, hunit⟩ := hclaim
    have hother : ∀ id, id ≠ r.id → (Observation.claimed σ.turns kind r.id).claimedFor id = none ∧
        (Observation.claimed σ.turns kind r.id).exhausts id = false :=
      fun id hid => ⟨by simp [Observation.claimedFor, Ne.symm hid], rfl⟩
    simp only [System.claimUnit, heq]
    constructor
    · exact h.history_perform (.claimWorkUnit now r.id.val claim)
    · simp only [System.beginTurn_store, hstore, heq]
      refine Charged.update h.rows hr hp
        ((h.rows r hr).charge hunit (WatchRow.not_finished_of_eligible heligible) σ.turns kind)
        hother fun r' hr' => ?_
      simpa using Store.hasId_iff.1 (Store.hasId_of_claimable hr')
    · exact h.known_perform _ hr hother
    · have hlog := Metered.claimed kind r.id h.log
      rw [← h.turns] at hlog
      exact hlog
    · simp [h.turns, Observation.isClaim]
    · exact h.polling.cons fun _ => rfl
    · exact h.reconciling.cons fun _ => rfl
  · have hp := hexhaust
    simp only [Store.exhaustible, Bool.and_eq_true, Store.hasId_iff, bindText_val] at hexhaust
    obtain ⟨⟨rfl, heligible⟩, hout⟩ := hexhaust
    have hother : ∀ id, id ≠ r.id → (Observation.exhausted r.id).claimedFor id = none ∧
        (Observation.exhausted r.id).exhausts id = false :=
      fun id hid => ⟨rfl, by simp [Observation.exhausts, Ne.symm hid]⟩
    simp only [System.claimUnit, heq]
    constructor
    · exact h.history_perform (.claimWorkUnit now r.id.val claim)
    · simp only [System.observe_store, hstore, heq]
      refine Charged.update h.rows hr hp
        ((h.rows r hr).exhaust hout (WatchRow.not_finished_of_eligible heligible)) hother
        fun r' hr' => ?_
      simpa using Store.hasId_iff.1 (Store.hasId_of_exhaustible hr')
    · exact h.known_perform _ hr hother
    · exact .exhausted r.id h.log
    · simp [h.turns, Observation.isClaim]
    · exact h.polling.cons fun _ => rfl
    · exact h.reconciling.cons fun _ => rfl
  · simp only [System.claimUnit, heq]
    exact h.of_same (by rw [hstore, heq]) rfl rfl rfl rfl

/-- A claimed unit opens a turn that has requested nothing. -/
theorem Budgeted.turnOpen (h : Budgeted origin σ) {kind : WorkerKind} {now : ℤ} {id : SqlText}
    {claim : WorkClaim} (hclaimed : (σ.store.claimWorkUnit now id.val claim).2 = .ok .claimed) :
    TurnOpen (σ.claimUnit kind now id claim).log σ.turns kind id 0 := by
  simp only [System.claimUnit, hclaimed]
  refine ⟨List.mem_cons_self .., ?_⟩
  have hnone := h.log.requestsIn_eq_zero (Nat.le_of_eq h.turns.symm)
  simp [Observation.isRequestIn, hnone]

end RoundWatch
