import RoundWatch.Workers.Accounting
import RoundWatch.Workers.Apart
import RoundWatch.Workers.Elsewhere

/-!
# The books of a run

Every sweep of a run, with the candidates it was given and the turns its loop has settled.
The books are read off the events and the states they meet; that the loop of the process
is the loop of `Accounting` over these turns is proved here, and with it what every sweep
that returns has counted.

* `SweepLedger`, `Books` — the books, and `Books.step`, which keeps them next to the process;
* `System.pollReturn?`, `System.reconcileReturn?` — the stretches in which a sweep returns;
* `InTurn`, `InReconcile` — a stretch inside a turn leaves the loop where it stands, and
  the outcome it ends in is one of its type;
* `SweepLedger.Ready`, `Books.Kept` — the invariant;
* `sweep_accounting` — every sweep that returns is accepted by the health tracker.
-/

namespace RoundWatch

open JsText

/-! ## Books -/

/-- One sweep: what it was given, the order it goes through it in, and the turns its loop
has settled. -/
structure SweepLedger where
  candidates : List WatchRow
  order : List WatchRow
  turns : List (WatchRow × SweepTurn)

namespace SweepLedger

def blank : SweepLedger := ⟨[], [], []⟩

/-- A turn is settled. -/
def enter (l : SweepLedger) (watch : WatchRow) (turn : SweepTurn) : SweepLedger :=
  { l with turns := l.turns ++ [(watch, turn)] }

end SweepLedger

namespace System

/-- What the turn of a watch came to, and what `persistPollingFailure` would do about it. -/
def pollingTurn (cfg : WorkerConfig) (σ : System) (clock : Clock) (watch : WatchRow)
    (result : Except TurnError CustomerTurnOutcome) : PollingTurn where
  acquisitionOpen := true
  serviceWatch := result
  clearPollingFailure := .ok ()
  persistPollingFailure := fun failure =>
    (σ.store.recordPollingFailure clock.record watch.id.val
      (persistedFailure cfg clock watch failure)).2.mapError .ofStore

/-- The same of the reconciler, with its `defer`. -/
def reconcilingTurn (cfg : WorkerConfig) (σ : System) (clock : Clock) (watch : WatchRow)
    (result : Except TurnError CustomerTurnOutcome) : ReconcilingTurn where
  schedulingOpen := true
  reconcileWatch := result
  defer := (σ.deferWatch cfg watch clock).2

/-- The sweep of the poller that comes to the end of its loop in a stretch, and the outcome
it returns. -/
def pollReturn? (cfg : WorkerConfig) (σ : System) : Event → Option (ℕ × WorkerCycleOutcome)
  | .poll clock =>
      if σ.poller.schedulingStopped then none
      else
        match σ.store.listPollingCandidates clock.list with
        | .ok [] => some (σ.poller.nextSweep, .zero)
        | _ => none
  | .resumePoll i _ clock =>
      match σ.poller.sweeps i with
      | some ⟨_, _, _, [], outcome, .served watch result⟩ =>
          ((σ.pollingTurn cfg clock watch result).result.count outcome).toOption.map (i, ·)
      | _ => none
  | _ => none

/-- What `reconcileOnce` returns in a stretch: while a sweep runs, another one returns at
once. -/
def reconcileReturn? (cfg : WorkerConfig) (σ : System) : Event → Option WorkerCycleOutcome
  | .reconcile clock =>
      if σ.reconciler.shutdownStarted then none
      else if σ.reconciler.sweep.isSome then some .zero
      else
        match σ.store.listSettlementReconciliationCandidates clock.list with
        | .ok [] => some .zero
        | _ => none
  | .resumeReconcile _ clock =>
      match σ.reconciler.sweep with
      | some ⟨⟨_, [], outcome⟩, .served watch result⟩ =>
          ((σ.reconcilingTurn cfg clock watch result).result.count outcome).toOption
      | _ => none
  | _ => none

end System

/-- The process with its books: the sweeps of the poller by number, and the latest sweep
of the reconciler. -/
structure Books where
  system : System
  polling : ℕ → SweepLedger
  reconciling : SweepLedger

namespace Books

def boot (config : StoreConfig) : Books := ⟨.boot (.empty config), fun _ => .blank, .blank⟩

/-- A sweep of the poller opens a ledger when it has its candidates, and enters each turn
its loop settles. -/
def keepPolling (cfg : WorkerConfig) (b : Books) : Event → ℕ → SweepLedger
  | .poll clock =>
      if b.system.poller.schedulingStopped then b.polling
      else
        match b.system.store.listPollingCandidates clock.list with
        | .ok watches =>
            Function.update b.polling b.system.poller.nextSweep
              ⟨watches, System.rotated b.system.poller.nextWatchIndex watches, []⟩
        | .error _ => b.polling
  | .resumePoll i _ clock =>
      match b.system.poller.sweeps i with
      | some ⟨_, _, _, _, _, .served watch result⟩ =>
          Function.update b.polling i
            ((b.polling i).enter watch (b.system.pollingTurn cfg clock watch result).result)
      | _ => b.polling
  | _ => b.polling

def keepReconciling (cfg : WorkerConfig) (b : Books) : Event → SweepLedger
  | .reconcile clock =>
      if b.system.reconciler.shutdownStarted ∨ b.system.reconciler.sweep.isSome then b.reconciling
      else
        match b.system.store.listSettlementReconciliationCandidates clock.list with
        | .ok watches => ⟨watches, watches, []⟩
        | .error _ => b.reconciling
  | .resumeReconcile _ clock =>
      match b.system.reconciler.sweep with
      | some ⟨_, .served watch result⟩ =>
          b.reconciling.enter watch (b.system.reconcilingTurn cfg clock watch result).result
      | _ => b.reconciling
  | _ => b.reconciling

/-- One stretch of code, and what it leaves in the books. -/
def step (cfg : WorkerConfig) (b : Books) (e : Event) : Books where
  system := b.system.step cfg e
  polling := b.keepPolling cfg e
  reconciling := b.keepReconciling cfg e

abbrev run (cfg : WorkerConfig) (b : Books) (es : List Event) : Books := Runs.run (step cfg) b es

/-- The books change nothing about the process. -/
theorem system_run (cfg : WorkerConfig) (b : Books) (es : List Event) :
    (b.run cfg es).system = b.system.run cfg es := by
  induction es generalizing b with
  | nil => rfl
  | cons e es ih => exact ih (b.step cfg e)

end Books

/-! ## Inside a turn of the poller -/

/-- The watch whose turn it is. -/
def SweepPhase.watch? : SweepPhase → Option WatchRow
  | .serving turn => some turn.initial
  | .served watch _ => some watch
  | .swept => none

/-- The outcome of a turn that has ended is one of its type. -/
def SweepPhase.Typed : SweepPhase → Prop
  | .served _ result => ∀ turn, result = .ok turn → turn.Typed
  | _ => True

/-- Sweep `i` is left in the turn of a watch, with what is waiting behind it and with its
counters as they stood. -/
def InTurn (σ σ' : System) (i : ℕ) (waiting : List WatchRow) (outcome : WorkerCycleOutcome)
    (watch : WatchRow) : Prop :=
  ∃ s : Sweep, σ'.poller.sweeps = Function.update σ.poller.sweeps i (some s) ∧
    s.waiting = waiting ∧ s.outcome = outcome ∧ s.phase.watch? = some watch ∧ s.phase.Typed

section Poller

variable {cfg : WorkerConfig} {σ σ' σ'' : System} {i : ℕ} {sweep : Sweep} {turn : PollTurn}
  {waiting : List WatchRow} {outcome : WorkerCycleOutcome} {watch : WatchRow}

/-- What comes in front of the stretch may do anything but move a sweep. -/
theorem InTurn.of_same (h : InTurn σ' σ'' i waiting outcome watch)
    (hsweeps : σ'.poller.sweeps = σ.poller.sweeps) : InTurn σ σ'' i waiting outcome watch := by
  obtain ⟨s, hs, hrest⟩ := h
  exact ⟨s, hsweeps ▸ hs, hrest⟩

theorem inTurn_served (σ : System) (i : ℕ) (sweep : Sweep) (watch : WatchRow)
    {turn : CustomerTurnOutcome} (hturn : turn.Typed) :
    InTurn σ (σ.served i sweep watch (.ok turn)) i sweep.waiting sweep.outcome watch := by
  refine ⟨_, rfl, rfl, rfl, rfl, ?_⟩
  rintro _ ⟨⟩
  exact hturn

theorem inTurn_failed (σ : System) (i : ℕ) (sweep : Sweep) (watch : WatchRow) (e : TurnError) :
    InTurn σ (σ.served i sweep watch (.error e)) i sweep.waiting sweep.outcome watch := by
  refine ⟨_, rfl, rfl, rfl, rfl, ?_⟩
  rintro _ ⟨⟩

theorem inTurn_awaitAt (σ : System) (i : ℕ) (sweep : Sweep) (turn : PollTurn) :
    InTurn σ (σ.awaitAt i sweep turn) i sweep.waiting sweep.outcome turn.initial :=
  ⟨_, rfl, rfl, rfl, rfl, trivial⟩

theorem inTurn_sendRequest (σ : System) (i : ℕ) (sweep : Sweep) (turn : PollTurn) :
    InTurn σ (σ.sendRequest i sweep turn) i sweep.waiting sweep.outcome turn.initial := by
  unfold System.sendRequest
  split
  · exact inTurn_failed _ _ _ _ _
  · exact (inTurn_awaitAt _ _ _ _).of_same rfl

theorem inTurn_withRequest (σ : System) (i : ℕ) (sweep : Sweep) (turn : PollTurn)
    {operation : PollTurn → System}
    (hop : ∀ turn', turn'.initial = turn.initial →
      InTurn σ (operation turn') i sweep.waiting sweep.outcome turn.initial) :
    InTurn σ (σ.withRequest i sweep turn operation) i sweep.waiting sweep.outcome
      turn.initial := by
  unfold System.withRequest
  split
  · exact (inTurn_failed _ _ _ _ _).of_same rfl
  · exact hop _ rfl

theorem inTurn_requestPage (σ : System) (i : ℕ) (sweep : Sweep) (turn : PollTurn) (ref : ℕ) :
    InTurn σ (σ.requestPage cfg i sweep turn ref) i sweep.waiting sweep.outcome turn.initial := by
  refine inTurn_withRequest _ _ _ _ fun turn' hinitial => ?_
  rw [← hinitial]
  dsimp only
  split
  · exact inTurn_failed _ _ _ _ _
  · split
    · exact (inTurn_awaitAt _ _ _ _).of_same rfl
    · split
      · exact inTurn_awaitAt _ _ _ _
      · exact inTurn_sendRequest _ _ _ _

theorem inTurn_requestTip (σ : System) (i : ℕ) (sweep : Sweep) (turn : PollTurn) :
    InTurn σ (σ.requestTip i sweep turn) i sweep.waiting sweep.outcome turn.initial := by
  refine inTurn_withRequest _ _ _ _ fun turn' hinitial => ?_
  rw [← hinitial]
  split
  · exact inTurn_awaitAt _ _ _ _
  · exact inTurn_sendRequest _ _ _ _

theorem inTurn_scan (σ : System) (i : ℕ) (sweep : Sweep) (turn : PollTurn) :
    InTurn σ (σ.scan cfg i sweep turn) i sweep.waiting sweep.outcome turn.initial := by
  unfold System.scan
  split
  · exact (inTurn_served _ _ _ _ (by decide)).of_same rfl
  · dsimp only
    split
    · exact (inTurn_requestPage _ _ _ _ _).of_same (by simp)
    · exact (inTurn_requestTip _ _ _ _).of_same (by simp)

theorem inTurn_serveClaimed (σ : System) (i : ℕ) (sweep : Sweep) (number : ℕ)
    (initial : WatchRow) (watch : ScanWatch) (clock : Clock) :
    InTurn σ (σ.serveClaimed cfg i sweep number initial watch clock) i sweep.waiting sweep.outcome
      initial := by
  unfold System.serveClaimed
  dsimp only
  split
  · refine inTurn_withRequest σ i sweep ⟨number, initial, watch, 0, .checkpointTip⟩
      fun turn' hinitial => ?_
    rw [← hinitial]
    exact inTurn_sendRequest _ _ _ _
  · exact inTurn_scan σ i sweep ⟨number, initial, watch, 0, .checkpointTip⟩

theorem inTurn_serviceWatch (σ : System) (i : ℕ) (sweep : Sweep) (initial : WatchRow)
    (clock : Clock) :
    InTurn σ (σ.serviceWatch cfg i sweep initial clock) i sweep.waiting sweep.outcome
      initial := by
  unfold System.serviceWatch
  split
  · exact inTurn_served _ _ _ _ (by decide)
  · split
    · exact inTurn_served _ _ _ _ (by decide)
    · dsimp only
      split
      · exact (inTurn_failed _ _ _ _ _).of_same (by simp)
      · refine (inTurn_served _ _ _ _ (by decide)).of_same ?_
        simp [System.forgetSession]
      · exact (inTurn_served _ _ _ _ (by decide)).of_same (by simp)
      · exact (inTurn_serveClaimed _ _ _ _ _ _ _).of_same (by simp)

theorem inTurn_closeAtTip (σ : System) (i : ℕ) (sweep : Sweep) (turn : PollTurn)
    (answer : Answer) :
    InTurn σ (σ.closeAtTip i sweep turn answer) i sweep.waiting sweep.outcome turn.initial := by
  unfold System.closeAtTip
  split
  · exact inTurn_failed _ _ _ _ _
  · refine inTurn_withRequest _ _ _ _ fun turn' hinitial => ?_
    rw [← hinitial]
    exact inTurn_sendRequest σ i sweep { turn' with point := _ }

theorem inTurn_closeAtBlock (σ : System) (i : ℕ) (sweep : Sweep) (turn : PollTurn) (tip : ℤ)
    (answer : Answer) :
    InTurn σ (σ.closeAtBlock cfg i sweep turn tip answer) i sweep.waiting sweep.outcome
      turn.initial := by
  unfold System.closeAtBlock
  dsimp only
  split
  · exact (inTurn_failed _ _ _ _ _).of_same (by simp)
  · split
    · split
      · rename_i watch _
        exact (inTurn_scan _ i sweep { turn with watch := watch }).of_same (by simp)
      · exact (inTurn_failed _ _ _ _ _).of_same (by simp)
    · exact (inTurn_scan _ _ _ _).of_same (by simp)

theorem inTurn_scanTo (σ : System) (i : ℕ) (sweep : Sweep) (turn : PollTurn)
    (tip : Except TurnError ℤ) :
    InTurn σ (σ.scanTo cfg i sweep turn tip) i sweep.waiting sweep.outcome turn.initial := by
  unfold System.scanTo
  split
  · exact inTurn_failed _ _ _ _ _
  · dsimp only
    split
    · exact inTurn_served _ _ _ _ (by decide)
    · exact (inTurn_requestPage _ _ _ _ _).of_same rfl

/-- Evidence that moved nothing is evidence alone, or nothing. -/
theorem typed_of_fresh (fresh : Bool) :
    (if fresh then ⟨.providerEvidenceOnly, true⟩ else .nothing : CustomerTurnOutcome).Typed := by
  cases fresh <;> decide

theorem typed_progressed (fresh : Bool) : CustomerTurnOutcome.Typed ⟨.progressed, fresh⟩ :=
  ⟨fun h => (TurnKind.noConfusion h), fun h => (TurnKind.noConfusion h)⟩

theorem inTurn_finishWindow (σ : System) (i : ℕ) (sweep : Sweep) (turn : PollTurn)
    (maxRound : ℤ) (fresh : Bool) :
    InTurn σ (σ.finishWindow i sweep turn maxRound fresh) i sweep.waiting sweep.outcome
      turn.initial := by
  unfold System.finishWindow
  dsimp only
  split
  · exact (inTurn_served _ _ _ _ (typed_of_fresh fresh)).of_same rfl
  · refine (inTurn_served _ _ _ _ (typed_progressed fresh)).of_same ?_
    split
    · split
      · split <;> rfl
      · rfl
    · rfl

theorem inTurn_consumePage (σ : System) (i : ℕ) (sweep : Sweep) (turn : PollTurn) (ref : ℕ)
    (result : Except TurnError TransactionPage) (fresh : Bool) :
    InTurn σ (σ.consumePage i sweep turn ref result fresh) i sweep.waiting sweep.outcome
      turn.initial := by
  unfold System.consumePage
  split
  · exact inTurn_failed _ _ _ _ _
  · dsimp only
    split
    · exact inTurn_failed _ _ _ _ _
    · split
      · exact (inTurn_served _ _ _ _ (typed_progressed fresh)).of_same rfl
      · split
        · split
          · exact inTurn_failed _ _ _ _ _
          · exact (inTurn_served _ _ _ _ (typed_of_fresh fresh)).of_same rfl
        · exact inTurn_finishWindow _ _ _ _ _ _

theorem inTurn_receivePage (σ : System) (i : ℕ) (sweep : Sweep) (turn : PollTurn) (ref : ℕ)
    (query : ScanQuery) (answer : Answer) :
    InTurn σ (σ.receivePage cfg i sweep turn ref query answer) i sweep.waiting sweep.outcome
      turn.initial := by
  unfold System.receivePage
  dsimp only
  refine (inTurn_consumePage _ i { sweep with sharedPages := _ } turn ref _ true).of_same ?_
  split
  · split
    · simp [System.setCache]
    · simp
  · simp

/-- A sweep that goes on inside its turn. -/
theorem inTurn_resumePoll (cfg : WorkerConfig) {sweep : Sweep} {turn : PollTurn}
    (hsweep : σ.poller.sweeps i = some sweep)
    (hphase : sweep.phase = .serving turn) (answer : Answer) (clock : Clock) :
    InTurn σ (σ.resumePoll cfg i answer clock) i sweep.waiting sweep.outcome turn.initial := by
  unfold System.resumePoll
  rw [hsweep]
  dsimp only
  rw [hphase]
  dsimp only
  split
  · exact inTurn_closeAtTip _ _ _ _ _
  · exact inTurn_closeAtBlock _ _ _ _ _ _
  · exact inTurn_scanTo _ _ _ _ _
  · exact inTurn_scanTo _ i { sweep with sharedTip := _ } _ _
  · exact inTurn_consumePage _ _ _ _ _ _ _
  · exact inTurn_receivePage _ _ _ _ _ _ _

end Poller

/-! ## Inside a turn of the reconciler -/

def ReconcilePhase.watch? : ReconcilePhase → Option WatchRow
  | .serving turn => some turn.watch
  | .served watch _ => some watch

def ReconcilePhase.Typed : ReconcilePhase → Prop
  | .served _ result => ∀ turn, result = .ok turn → turn.Typed
  | _ => True

/-- The sweep of the reconciler is left in the turn of a watch. -/
def InReconcile (σ : System) (waiting : List WatchRow) (outcome : WorkerCycleOutcome)
    (watch : WatchRow) : Prop :=
  ∃ s : ReconcileSweep, σ.reconciler.sweep = some s ∧ s.waiting = waiting ∧
    s.outcome = outcome ∧ s.phase.watch? = some watch ∧ s.phase.Typed

section Reconciler

variable {cfg : WorkerConfig}

theorem inReconcile_reconciled (σ : System) (loop : ReconcileLoop) (watch : WatchRow)
    {result : Except TurnError CustomerTurnOutcome}
    (hresult : ∀ turn, result = .ok turn → turn.Typed) :
    InReconcile (σ.reconciled loop watch result) loop.waiting loop.outcome watch :=
  ⟨_, rfl, rfl, rfl, rfl, hresult⟩

theorem inReconcile_failed (σ : System) (loop : ReconcileLoop) (watch : WatchRow)
    (e : TurnError) :
    InReconcile (σ.reconciled loop watch (.error e)) loop.waiting loop.outcome watch :=
  inReconcile_reconciled _ _ _ fun _ hturn => by cases hturn

theorem inReconcile_ok (σ : System) (loop : ReconcileLoop) (watch : WatchRow)
    {turn : CustomerTurnOutcome} (hturn : turn.Typed) :
    InReconcile (σ.reconciled loop watch (.ok turn)) loop.waiting loop.outcome watch :=
  inReconcile_reconciled _ _ _ fun _ h => by
    cases h
    exact hturn

/-- A turn that ends in what the store says ends in an error or in its own outcome. -/
theorem inReconcile_map (σ : System) (loop : ReconcileLoop) (watch : WatchRow) {α : Type}
    (stored : Except TurnError α) {turn : CustomerTurnOutcome} (hturn : turn.Typed) :
    InReconcile (σ.reconciled loop watch (stored.map fun _ => turn)) loop.waiting loop.outcome
      watch := by
  refine inReconcile_reconciled _ _ _ fun turn' h => ?_
  obtain ⟨_, -, rfl⟩ := Checks.map_eq_ok.1 h
  exact hturn

theorem inReconcile_deferred (σ : System) (loop : ReconcileLoop) (watch : WatchRow)
    (clock : Clock) {turn : CustomerTurnOutcome} (hturn : turn.Typed) :
    InReconcile (σ.deferred cfg loop watch clock turn) loop.waiting loop.outcome watch :=
  inReconcile_map _ _ _ _ hturn

theorem inReconcile_requestReconcile (σ : System) (loop : ReconcileLoop) (turn : ReconcileTurn)
    (canonical : Bool) :
    InReconcile (σ.requestReconcile loop turn canonical) loop.waiting loop.outcome
      turn.watch := by
  unfold System.requestReconcile
  split
  · exact inReconcile_failed _ _ _ _
  · split
    · exact inReconcile_failed _ _ _ _
    · split
      · exact ⟨_, rfl, rfl, rfl, rfl, trivial⟩
      · exact inReconcile_failed _ _ _ _

theorem inReconcile_reconcileClaimed (σ : System) (loop : ReconcileLoop) (number : ℕ)
    (watch : WatchRow) (clock : Clock) :
    InReconcile (σ.reconcileClaimed cfg loop number watch clock) loop.waiting loop.outcome
      watch := by
  unfold System.reconcileClaimed
  split
  · exact inReconcile_deferred _ _ _ _ (by decide)
  · rename_i terms _
    dsimp only
    split
    · exact inReconcile_requestReconcile _ loop ⟨number, watch, terms, 0, .search _⟩ _
    · exact inReconcile_requestReconcile _ loop ⟨number, watch, terms, 0, .lookup⟩ _

theorem inReconcile_reconcileWatch (σ : System) (loop : ReconcileLoop) (watch : WatchRow)
    (clock : Clock) :
    InReconcile (σ.reconcileWatch cfg loop watch clock) loop.waiting loop.outcome watch := by
  unfold System.reconcileWatch
  split
  · exact inReconcile_ok _ _ _ (by decide)
  · dsimp only
    split
    · exact inReconcile_failed _ _ _ _
    · exact inReconcile_ok _ _ _ (by decide)
    · exact inReconcile_ok _ _ _ (by decide)
    · exact inReconcile_reconcileClaimed _ _ _ _ _

theorem inReconcile_applyConfirmed (σ : System) (loop : ReconcileLoop) (turn : ReconcileTurn)
    (transfer : IndexedAssetTransfer) (clock : Clock) :
    InReconcile (σ.applyConfirmed cfg loop turn transfer clock) loop.waiting loop.outcome
      turn.watch := by
  unfold System.applyConfirmed
  dsimp only
  split
  · exact inReconcile_map _ _ _ _ (by decide)
  · exact inReconcile_ok _ _ _ (by decide)

theorem inReconcile_afterLookup (σ : System) (loop : ReconcileLoop) (turn : ReconcileTurn)
    (answer : Answer) (clock : Clock) :
    InReconcile (σ.afterLookup cfg loop turn answer clock) loop.waiting loop.outcome
      turn.watch := by
  unfold System.afterLookup
  dsimp only
  split
  · exact inReconcile_failed _ _ _ _
  · exact inReconcile_applyConfirmed _ _ _ _ _
  · exact inReconcile_requestReconcile _ loop { turn with point := .tip } true

theorem inReconcile_afterTip (σ : System) (loop : ReconcileLoop) (turn : ReconcileTurn)
    (answer : Answer) (clock : Clock) :
    InReconcile (σ.afterTip cfg loop turn answer clock) loop.waiting loop.outcome
      turn.watch := by
  unfold System.afterTip
  split
  · exact inReconcile_failed _ _ _ _
  · split
    · exact inReconcile_deferred _ _ _ _ (by decide)
    · exact inReconcile_requestReconcile _ loop { turn with point := .search _ } _

theorem inReconcile_afterSearch (σ : System) (loop : ReconcileLoop) (turn : ReconcileTurn)
    (session : AbsenceProofSession) (answer : Answer) (clock : Clock) :
    InReconcile (σ.afterSearch cfg loop turn session answer clock) loop.waiting loop.outcome
      turn.watch := by
  unfold System.afterSearch
  dsimp only
  split
  · exact inReconcile_failed _ _ _ _
  · split
    · exact inReconcile_applyConfirmed _ _ _ _ _
    · split
      · split
        · exact inReconcile_failed _ _ _ _
        · exact inReconcile_deferred _ _ _ _ (by decide)
      · split
        · exact inReconcile_failed _ _ _ _
        · exact inReconcile_ok _ _ _ (by decide)

/-- A sweep that goes on inside its turn. -/
theorem inReconcile_resumeReconcile {σ : System} {loop : ReconcileLoop} {turn : ReconcileTurn}
    (hsweep : σ.reconciler.sweep = some ⟨loop, .serving turn⟩) (answer : Answer) (clock : Clock) :
    InReconcile (σ.resumeReconcile cfg answer clock) loop.waiting loop.outcome turn.watch := by
  unfold System.resumeReconcile
  rw [hsweep]
  dsimp only
  split
  · exact inReconcile_afterLookup _ _ _ _ _
  · exact inReconcile_afterTip _ _ _ _ _
  · exact inReconcile_afterSearch _ _ _ _ _ _

end Reconciler

/-! ## The loops of the process -/

/-- A sweep of the poller that left its loop with an outcome, or began its next turn. -/
def PollLoop (σ σ' : System) (i : ℕ) (waiting : List WatchRow) (outcome : WorkerCycleOutcome) :
    Prop :=
  (∃ s : Sweep, σ'.poller.sweeps = Function.update σ.poller.sweeps i (some s) ∧
    s.phase = .swept ∧ s.outcome = outcome) ∨
  ∃ watch rest, waiting = watch :: rest ∧
    InTurn σ σ' i rest { outcome with attempted := outcome.attempted + 1 } watch

/-- The reconciler, likewise. -/
def ReconcilerLoop (σ : System) (waiting : List WatchRow) (outcome : WorkerCycleOutcome) : Prop :=
  σ.reconciler.sweep = none ∨
  ∃ watch rest, waiting = watch :: rest ∧
    InReconcile σ rest { outcome with attempted := outcome.attempted + 1 } watch

section Loops

variable {cfg : WorkerConfig} {σ σ' σ'' : System} {i : ℕ} {waiting : List WatchRow}
  {outcome : WorkerCycleOutcome}

theorem PollLoop.of_same (h : PollLoop σ' σ'' i waiting outcome)
    (hsweeps : σ'.poller.sweeps = σ.poller.sweeps) : PollLoop σ σ'' i waiting outcome := by
  rcases h with ⟨s, hs, hswept⟩ | ⟨watch, rest, hwaiting, hturn⟩
  · exact .inl ⟨s, hsweeps ▸ hs, hswept⟩
  · exact .inr ⟨watch, rest, hwaiting, hturn.of_same hsweeps⟩

theorem pollLoop_nextTurn (σ : System) (i : ℕ) (sweep : Sweep) (clock : Clock) :
    PollLoop σ (σ.nextTurn cfg i sweep clock) i sweep.waiting sweep.outcome := by
  unfold System.nextTurn
  split
  · exact .inl ⟨_, rfl, rfl, rfl⟩
  · rename_i watch rest hwaiting
    split
    · exact .inl ⟨_, rfl, rfl, rfl⟩
    · exact .inr ⟨watch, rest, hwaiting, inTurn_serviceWatch _ _ _ _ _⟩

theorem sweep_finishReconcile (σ : System) (loop : ReconcileLoop) :
    (σ.finishReconcile loop).reconciler.sweep = none := by
  unfold System.finishReconcile
  dsimp only
  split <;> rfl

theorem reconcilerLoop_nextReconcileTurn (σ : System) (loop : ReconcileLoop) (clock : Clock) :
    ReconcilerLoop (σ.nextReconcileTurn cfg loop clock) loop.waiting loop.outcome := by
  unfold System.nextReconcileTurn
  split
  · exact .inl (sweep_finishReconcile _ _)
  · rename_i watch rest hwaiting
    split
    · exact .inl (sweep_finishReconcile _ _)
    · exact .inr ⟨watch, rest, hwaiting, inReconcile_reconcileWatch _ _ _ _⟩

theorem System.pollLoop_runOnce (cfg : WorkerConfig) {clock : Clock} {watches : List WatchRow}
    (hopen : ¬ σ.poller.schedulingStopped = true)
    (hlist : σ.store.listPollingCandidates clock.list = .ok watches) :
    PollLoop σ (σ.runOnce cfg clock) σ.poller.nextSweep
      (System.rotated σ.poller.nextWatchIndex watches) .zero := by
  have hlist' : σ.pruneScanSessions.store.listPollingCandidates clock.list = .ok watches := hlist
  unfold System.runOnce
  rw [if_neg hopen]
  dsimp only
  rw [hlist']
  exact (pollLoop_nextTurn _ _ ⟨_, _, _, _, _, _⟩ clock).of_same rfl

theorem System.runOnce_of_error {clock : Clock} {e : StoreError}
    (hopen : ¬ σ.poller.schedulingStopped = true)
    (hlist : σ.store.listPollingCandidates clock.list = .error e) :
    ∃ s : Sweep, (σ.runOnce cfg clock).poller.sweeps =
      Function.update σ.poller.sweeps σ.poller.nextSweep (some s) ∧ s.phase = .swept := by
  have hlist' : σ.pruneScanSessions.store.listPollingCandidates clock.list = .error e := hlist
  unfold System.runOnce
  rw [if_neg hopen]
  dsimp only
  rw [hlist']
  exact ⟨_, rfl, rfl⟩

theorem System.reconcilerLoop_reconcileOnce (cfg : WorkerConfig) (clock : Clock)
    (hopen : ¬ σ.reconciler.shutdownStarted = true) (hidle : ¬ σ.reconciler.sweep.isSome = true) :
    match σ.store.listSettlementReconciliationCandidates clock.list with
    | .ok watches => ReconcilerLoop (σ.reconcileOnce cfg clock) watches .zero
    | .error _ => (σ.reconcileOnce cfg clock).reconciler.sweep = none := by
  have hlist : σ.pruneAbsenceProofSessions.store.listSettlementReconciliationCandidates
      clock.list = σ.store.listSettlementReconciliationCandidates clock.list := rfl
  unfold System.reconcileOnce
  rw [if_neg hopen, if_neg hidle]
  dsimp only
  rw [hlist]
  cases σ.store.listSettlementReconciliationCandidates clock.list with
  | ok watches => exact reconcilerLoop_nextReconcileTurn _ ⟨_, _, _⟩ clock
  | error e => exact sweep_finishReconcile _ _

/-- The store does not fail to clear a failure, so the `try` is `serviceWatch`. -/
@[simp] theorem System.tried_pollingTurn (σ : System) (clock : Clock) (watch : WatchRow)
    (result : Except TurnError CustomerTurnOutcome) :
    (σ.pollingTurn cfg clock watch result).tried = result := by
  cases result with
  | error e => rfl
  | ok turn =>
      simp only [PollingTurn.tried, System.pollingTurn, Except.bind]
      split <;> rfl

theorem System.typed_pollingTurn (σ : System) (clock : Clock) (watch : WatchRow)
    {result : Except TurnError CustomerTurnOutcome}
    (hresult : ∀ turn, result = .ok turn → turn.Typed) :
    (σ.pollingTurn cfg clock watch result).Typed := hresult

theorem System.typed_reconcilingTurn (σ : System) (clock : Clock) (watch : WatchRow)
    {result : Except TurnError CustomerTurnOutcome}
    (hresult : ∀ turn, result = .ok turn → turn.Typed) :
    (σ.reconcilingTurn cfg clock watch result).Typed := hresult

theorem SweepTurn.count_failed {t : SweepTurn} {e : TurnError} (htried : t.tried = .error e)
    (he : e ≠ .shutdown) (o : WorkerCycleOutcome) :
    t.count o = t.caught.map fun isolated =>
      { o with
        failed := o.failed + 1
        isolatedFailures := o.isolatedFailures + if isolated then 1 else 0 } := by
  unfold SweepTurn.count
  rw [htried]
  cases e <;> first | rfl | exact absurd rfl he

theorem System.settleTurn_failed (σ : System) (i : ℕ) (sweep : Sweep) (watch : WatchRow)
    {e : TurnError} (he : e ≠ .shutdown) (clock : Clock) :
    σ.settleTurn cfg i sweep watch (.error e) clock = σ.failTurn cfg i sweep watch e clock := by
  cases e <;> first | rfl | exact absurd rfl he

/-- The reconciler treats every other error alike. -/
theorem System.settleReconcile_failed (σ : System) (loop : ReconcileLoop) (watch : WatchRow)
    {e : TurnError} (he : e ≠ .shutdown) (clock : Clock) :
    σ.settleReconcile cfg loop watch (.error e) clock =
      σ.settleReconcile cfg loop watch (.error .network) clock := by
  cases e <;> first | rfl | exact absurd rfl he

/-- What the poller's loop makes of a settled turn: what `SweepTurn.count` makes of it.  It
goes on with that outcome, or is left. -/
theorem pollLoop_settleTurn (σ : System) (i : ℕ) (sweep : Sweep) (watch : WatchRow)
    (result : Except TurnError CustomerTurnOutcome) (clock : Clock) :
    (∃ outcome, (σ.pollingTurn cfg clock watch result).result.count sweep.outcome = .ok outcome ∧
      PollLoop σ (σ.settleTurn cfg i sweep watch result clock) i sweep.waiting outcome) ∨
    (∃ e, (σ.pollingTurn cfg clock watch result).result.count sweep.outcome = .error e) ∧
      ∃ s : Sweep, (σ.settleTurn cfg i sweep watch result clock).poller.sweeps =
        Function.update σ.poller.sweeps i (some s) ∧ s.phase = .swept := by
  have htried : (σ.pollingTurn cfg clock watch result).result.tried = result :=
    σ.tried_pollingTurn clock watch result
  cases result with
  | ok turn =>
      refine .inl ⟨sweep.outcome.count turn, by simp [SweepTurn.count, htried], ?_⟩
      refine (pollLoop_nextTurn _ i { sweep with outcome := sweep.outcome.count turn }
        clock).of_same ?_
      split <;> rfl
  | error e =>
      by_cases he : e = .shutdown
      · subst he
        exact .inr ⟨⟨.shutdown, by simp [SweepTurn.count, htried]⟩, _, rfl, rfl⟩
      · rw [SweepTurn.count_failed htried he, σ.settleTurn_failed i sweep watch he]
        have hcaught : (σ.pollingTurn cfg clock watch (.error e)).result.caught =
            ((σ.store.recordPollingFailure clock.record watch.id.val
              (persistedFailure cfg clock watch (classifyPollingFailure e))).2.mapError
                TurnError.ofStore).map (·.any (·.state == .indeterminate)) := rfl
        rw [hcaught]
        unfold System.failTurn
        dsimp only
        split
        · rename_i e' hrecorded
          rw [hrecorded]
          exact .inr ⟨⟨_, rfl⟩, _, rfl, rfl⟩
        · rename_i persisted hrecorded
          rw [hrecorded]
          exact .inl ⟨_, rfl, (pollLoop_nextTurn _ i { sweep with outcome := _ } clock).of_same rfl⟩

theorem reconcilerLoop_settleReconcile (σ : System) (loop : ReconcileLoop) (watch : WatchRow)
    (result : Except TurnError CustomerTurnOutcome) (clock : Clock) :
    (∃ outcome,
      (σ.reconcilingTurn cfg clock watch result).result.count loop.outcome = .ok outcome ∧
      ReconcilerLoop (σ.settleReconcile cfg loop watch result clock) loop.waiting outcome) ∨
    (∃ e, (σ.reconcilingTurn cfg clock watch result).result.count loop.outcome = .error e) ∧
      (σ.settleReconcile cfg loop watch result clock).reconciler.sweep = none := by
  have htried : (σ.reconcilingTurn cfg clock watch result).result.tried = result := rfl
  cases result with
  | ok turn =>
      refine .inl ⟨loop.outcome.count turn, by simp [SweepTurn.count, htried], ?_⟩
      exact reconcilerLoop_nextReconcileTurn _ { loop with outcome := _ } _
  | error e =>
      by_cases he : e = .shutdown
      · subst he
        exact .inr ⟨⟨.shutdown, by simp [SweepTurn.count, htried]⟩, sweep_finishReconcile _ _⟩
      · have hcaught : (σ.reconcilingTurn cfg clock watch (.error e)).result.caught =
            (σ.deferWatch cfg watch clock).2.map fun _ => false := rfl
        have hdefer : ((σ.setAbsenceSession watch.id none).deferWatch cfg watch clock).2 =
            (σ.deferWatch cfg watch clock).2 := rfl
        rw [SweepTurn.count_failed htried he, σ.settleReconcile_failed loop watch he, hcaught]
        unfold System.settleReconcile
        dsimp only
        rw [hdefer]
        split
        · rename_i e' hdeferred
          rw [hdeferred]
          exact .inr ⟨⟨_, rfl⟩, sweep_finishReconcile _ _⟩
        · rename_i hdeferred
          rw [hdeferred]
          exact .inl ⟨_, rfl, reconcilerLoop_nextReconcileTurn _ { loop with outcome := _ } _⟩

end Loops

/-! ## The invariant -/

namespace SweepLedger

/-- Between two turns: the turns so far were counted, and the rest of the order waits. -/
structure Ready (l : SweepLedger) (waiting : List WatchRow) (outcome : WorkerCycleOutcome) :
    Prop where
  perm : l.order.Perm l.candidates
  order : l.order = l.turns.map Prod.fst ++ waiting
  typed : ∀ turn ∈ l.turns, turn.2.Typed
  counted : ∃ r, sweepTurns l.turns = .ok r ∧ r.outcome = outcome

/-- Inside the turn of a watch, which was counted as attempted. -/
def Follows (l : SweepLedger) (waiting : List WatchRow) (outcome : WorkerCycleOutcome)
    (watch : WatchRow) : Prop :=
  ∃ o : WorkerCycleOutcome, l.Ready (watch :: waiting) o ∧
    outcome = { o with attempted := o.attempted + 1 }

theorem ready_open {candidates order : List WatchRow} (hperm : order.Perm candidates) :
    Ready ⟨candidates, order, []⟩ order .zero :=
  ⟨hperm, rfl, by simp, SweepReport.empty, rfl, rfl⟩

/-- **A turn is settled**, and entered with what it came to. -/
theorem Follows.enter {l : SweepLedger} {waiting : List WatchRow}
    {outcome outcome' : WorkerCycleOutcome} {watch : WatchRow}
    (h : l.Follows waiting outcome watch) {turn : SweepTurn}
    (hadmitted : turn.admitted = true) (hturn : turn.Typed)
    (hcount : turn.count outcome = .ok outcome') : (l.enter watch turn).Ready waiting outcome' := by
  obtain ⟨o, hready, rfl⟩ := h
  obtain ⟨r, hr, rfl⟩ := hready.counted
  refine ⟨hready.perm, ?_, ?_, ⟨outcome', r.attempts ++ [watch]⟩, ?_, rfl⟩
  · show l.order = (l.turns ++ [(watch, turn)]).map Prod.fst ++ waiting
    rw [hready.order]
    simp
  · intro t ht
    rcases List.mem_append.1 ht with ht | ht
    · exact hready.typed t ht
    · rw [List.mem_singleton.1 ht]
      exact hturn
  · show sweepTurns (l.turns ++ [(watch, turn)]) = _
    rw [sweepTurns_append, hr]
    show r.attempt (watch, turn) = _
    rw [SweepReport.attempt, if_pos hadmitted, hcount]
    rfl

/-- A ledger in which nothing waits is that of a sweep that has returned. -/
structure Settled (l : SweepLedger) (outcome : WorkerCycleOutcome) : Prop where
  accepted : TrackerAccepts outcome
  /-- Its loop, over the turns that were settled. -/
  loop : sweepTurns l.turns = .ok ⟨outcome, l.turns.map Prod.fst⟩
  /-- Each candidate had one turn. -/
  attempts : (l.turns.map Prod.fst).Perm l.candidates
  attempted : outcome.attempted = l.candidates.length

theorem Ready.settled {l : SweepLedger} {outcome : WorkerCycleOutcome} (h : l.Ready [] outcome) :
    l.Settled outcome := by
  obtain ⟨r, hr, rfl⟩ := h.counted
  have haccounts := accounts_of_sweepTurns h.typed hr
  have hperm : (l.turns.map Prod.fst).Perm l.candidates := by
    have horder := h.order
    rw [List.append_nil] at horder
    exact horder ▸ h.perm
  refine ⟨haccounts.balanced.taken, ?_, hperm, ?_⟩
  · rw [hr, ← haccounts.attempts]
  · rw [haccounts.attempted, hperm.length_eq]

end SweepLedger

/-- The ledger of a sweep that runs. -/
def SweepLedger.Tracks (l : SweepLedger) (s : Sweep) : Prop :=
  s.phase.Typed ∧ ∀ watch, s.phase.watch? = some watch → l.Follows s.waiting s.outcome watch

def SweepLedger.TracksReconcile (l : SweepLedger) (s : ReconcileSweep) : Prop :=
  s.phase.Typed ∧ ∀ watch, s.phase.watch? = some watch → l.Follows s.waiting s.outcome watch

section Kept

variable {cfg : WorkerConfig} {σ σ' : System} {i : ℕ} {waiting : List WatchRow}
  {outcome : WorkerCycleOutcome} {watch : WatchRow} {l : SweepLedger} {b : Books}

theorem InTurn.tracks (h : InTurn σ σ' i waiting outcome watch)
    (hl : l.Follows waiting outcome watch) :
    ∃ s : Sweep, σ'.poller.sweeps = Function.update σ.poller.sweeps i (some s) ∧ l.Tracks s := by
  obtain ⟨s, hs, rfl, rfl, hwatch, htyped⟩ := h
  refine ⟨s, hs, htyped, fun watch' hwatch' => ?_⟩
  cases hwatch.symm.trans hwatch'
  exact hl

theorem tracks_swept {s : Sweep} (h : s.phase = .swept) : l.Tracks s := by
  rw [SweepLedger.Tracks, h]
  exact ⟨trivial, fun _ hwatch => by cases hwatch⟩

theorem PollLoop.tracks (h : PollLoop σ σ' i waiting outcome) (hl : l.Ready waiting outcome) :
    ∃ s : Sweep, σ'.poller.sweeps = Function.update σ.poller.sweeps i (some s) ∧ l.Tracks s := by
  rcases h with ⟨s, hs, hswept, -⟩ | ⟨watch, rest, rfl, hturn⟩
  · exact ⟨s, hs, tracks_swept hswept⟩
  · exact hturn.tracks ⟨outcome, hl, rfl⟩

theorem InReconcile.tracks (h : InReconcile σ waiting outcome watch)
    (hl : l.Follows waiting outcome watch) {s : ReconcileSweep}
    (hs : σ.reconciler.sweep = some s) : l.TracksReconcile s := by
  obtain ⟨s', hs', rfl, rfl, hwatch, htyped⟩ := h
  cases hs.symm.trans hs'
  refine ⟨htyped, fun watch' hwatch' => ?_⟩
  cases hwatch.symm.trans hwatch'
  exact hl

theorem ReconcilerLoop.tracks (h : ReconcilerLoop σ waiting outcome) (hl : l.Ready waiting outcome)
    {s : ReconcileSweep} (hs : σ.reconciler.sweep = some s) : l.TracksReconcile s := by
  rcases h with hnone | ⟨watch, rest, rfl, hturn⟩
  · cases hnone.symm.trans hs
  · exact hturn.tracks ⟨outcome, hl, rfl⟩ hs

/-- The books of a run are right. -/
structure Books.Kept (b : Books) : Prop where
  polling : ∀ i s, b.system.poller.sweeps i = some s → (b.polling i).Tracks s
  reconciling : ∀ s, b.system.reconciler.sweep = some s → b.reconciling.TracksReconcile s

namespace Books.Kept

/-- One sweep of the poller moved, and its ledger with it. -/
theorem tracks_update (h : b.Kept) {sweeps : ℕ → Option Sweep} {polling : ℕ → SweepLedger}
    (hmoved : ∃ s, sweeps = Function.update b.system.poller.sweeps i (some s) ∧
      (polling i).Tracks s)
    (hothers : ∀ j, j ≠ i → polling j = b.polling j) (j : ℕ) (s : Sweep)
    (hs : sweeps j = some s) : (polling j).Tracks s := by
  obtain ⟨s', rfl, htracks⟩ := hmoved
  by_cases hj : j = i
  · subst hj
    rw [Function.update_self] at hs
    cases hs
    exact htracks
  · rw [Function.update_of_ne hj] at hs
    rw [hothers j hj]
    exact h.polling j s hs

theorem tracks_poll (h : b.Kept) (clock : Clock) (j : ℕ) (s : Sweep)
    (hs : (b.system.runOnce cfg clock).poller.sweeps j = some s) :
    (b.keepPolling cfg (.poll clock) j).Tracks s := by
  by_cases hstopped : b.system.poller.schedulingStopped = true
  · rw [System.runOnce, if_pos hstopped] at hs
    rw [keepPolling, if_pos hstopped]
    exact h.polling j s hs
  · cases hlist : b.system.store.listPollingCandidates clock.list with
    | error e =>
        obtain ⟨s', hsweeps, hswept⟩ := System.runOnce_of_error hstopped hlist
        refine h.tracks_update ⟨s', hsweeps, tracks_swept hswept⟩ (fun j _ => ?_) j s hs
        rw [keepPolling, if_neg hstopped, hlist]
    | ok watches =>
        have hkept : b.keepPolling cfg (.poll clock) =
            Function.update b.polling b.system.poller.nextSweep
              ⟨watches, System.rotated b.system.poller.nextWatchIndex watches, []⟩ := by
          rw [keepPolling, if_neg hstopped, hlist]
        have hloop := System.pollLoop_runOnce cfg hstopped hlist
        rw [hkept]
        refine h.tracks_update (hloop.tracks ?_) (fun j hj => Function.update_of_ne hj _ _) j s hs
        rw [Function.update_self]
        exact SweepLedger.ready_open (System.perm_rotated _ _)

theorem tracks_resumePoll (h : b.Kept) (answer : Answer) (clock : Clock) (j : ℕ) (s : Sweep)
    (hs : (b.system.resumePoll cfg i answer clock).poller.sweeps j = some s) :
    (b.keepPolling cfg (.resumePoll i answer clock) j).Tracks s := by
  cases hsweep : b.system.poller.sweeps i with
  | none =>
      rw [System.resumePoll, hsweep] at hs
      rw [keepPolling, hsweep]
      exact h.polling j s hs
  | some sweep =>
      have htracks := h.polling i sweep hsweep
      obtain ⟨generation, tip, pages, waiting, outcome, phase⟩ := sweep
      cases phase with
      | serving turn =>
          have hkept : b.keepPolling cfg (.resumePoll i answer clock) = b.polling := by
            simp only [keepPolling, hsweep]
          have hturn := inTurn_resumePoll cfg hsweep rfl answer clock
          rw [hkept]
          exact h.tracks_update (hturn.tracks (htracks.2 turn.initial rfl)) (fun _ _ => rfl) j s hs
      | served watch result =>
          have hkept : b.keepPolling cfg (.resumePoll i answer clock) =
              Function.update b.polling i ((b.polling i).enter watch
                (b.system.pollingTurn cfg clock watch result).result) := by
            simp only [keepPolling, hsweep]
          have hresume : b.system.resumePoll cfg i answer clock =
              b.system.settleTurn cfg i
                ⟨generation, tip, pages, waiting, outcome, .served watch result⟩ watch result
                clock := by
            simp only [System.resumePoll, hsweep]
          rw [hkept]
          rw [hresume] at hs
          refine h.tracks_update ?_ (fun j hj => Function.update_of_ne hj _ _) j s hs
          rw [Function.update_self]
          rcases pollLoop_settleTurn b.system i _ watch result clock with
            ⟨outcome', hcount, hloop⟩ | ⟨-, s', hsweeps, hswept⟩
          · exact hloop.tracks ((htracks.2 watch rfl).enter rfl
              (b.system.typed_pollingTurn clock watch htracks.1).result hcount)
          · exact ⟨s', hsweeps, tracks_swept hswept⟩
      | swept =>
          have hkept : b.keepPolling cfg (.resumePoll i answer clock) = b.polling := by
            simp only [keepPolling, hsweep]
          have hsweeps : (b.system.resumePoll cfg i answer clock).poller.sweeps =
              Function.update b.system.poller.sweeps i none := by
            simp only [System.resumePoll, hsweep, System.finishSweep]
            split <;> rfl
          rw [hkept]
          rw [hsweeps] at hs
          by_cases hj : j = i
          · rw [hj, Function.update_self] at hs
            cases hs
          · rw [Function.update_of_ne hj] at hs
            exact h.polling j s hs

/-! The reconciler has one sweep at a time. -/

theorem tracks_reconcile (h : b.Kept) (clock : Clock) (s : ReconcileSweep)
    (hs : (b.system.reconcileOnce cfg clock).reconciler.sweep = some s) :
    (b.keepReconciling cfg (.reconcile clock)).TracksReconcile s := by
  by_cases hstopped : b.system.reconciler.shutdownStarted = true
  · rw [System.reconcileOnce, if_pos hstopped] at hs
    rw [keepReconciling, if_pos (.inl hstopped)]
    exact h.reconciling s hs
  · by_cases hbusy : b.system.reconciler.sweep.isSome = true
    · rw [System.reconcileOnce, if_neg hstopped, if_pos hbusy] at hs
      rw [keepReconciling, if_pos (.inr hbusy)]
      exact h.reconciling s hs
    · have hneither : ¬ (b.system.reconciler.shutdownStarted = true ∨
          b.system.reconciler.sweep.isSome = true) := by
        simp [hstopped, hbusy]
      have hloop := System.reconcilerLoop_reconcileOnce cfg clock hstopped hbusy
      rw [keepReconciling, if_neg hneither]
      cases hlist : b.system.store.listSettlementReconciliationCandidates clock.list with
      | error e =>
          rw [hlist] at hloop
          cases hloop.symm.trans hs
      | ok watches =>
          rw [hlist] at hloop
          exact hloop.tracks (SweepLedger.ready_open (List.Perm.refl _)) hs

theorem tracks_resumeReconcile (h : b.Kept) (answer : Answer) (clock : Clock)
    (s : ReconcileSweep)
    (hs : (b.system.resumeReconcile cfg answer clock).reconciler.sweep = some s) :
    (b.keepReconciling cfg (.resumeReconcile answer clock)).TracksReconcile s := by
  cases hsweep : b.system.reconciler.sweep with
  | none =>
      rw [System.resumeReconcile, hsweep] at hs
      cases hsweep.symm.trans hs
  | some sweep =>
      have htracks := h.reconciling sweep hsweep
      obtain ⟨loop, phase⟩ := sweep
      cases phase with
      | serving turn =>
          have hkept : b.keepReconciling cfg (.resumeReconcile answer clock) = b.reconciling := by
            simp only [keepReconciling, hsweep]
          rw [hkept]
          exact (inReconcile_resumeReconcile hsweep answer clock).tracks
            (htracks.2 turn.watch rfl) hs
      | served watch result =>
          have hkept : b.keepReconciling cfg (.resumeReconcile answer clock) =
              b.reconciling.enter watch
                (b.system.reconcilingTurn cfg clock watch result).result := by
            simp only [keepReconciling, hsweep]
          have hresume : b.system.resumeReconcile cfg answer clock =
              b.system.settleReconcile cfg loop watch result clock := by
            simp only [System.resumeReconcile, hsweep]
          rw [hkept]
          rw [hresume] at hs
          rcases reconcilerLoop_settleReconcile b.system loop watch result clock with
            ⟨outcome', hcount, hloop⟩ | ⟨-, hnone⟩
          · exact hloop.tracks ((htracks.2 watch rfl).enter rfl
              (b.system.typed_reconcilingTurn clock watch htracks.1).result hcount) hs
          · cases hnone.symm.trans hs

theorem step (h : b.Kept) (e : Event) : (b.step cfg e).Kept := by
  have hpoller : ∀ {σ' : System}, σ'.poller.sweeps = b.system.poller.sweeps →
      ∀ i s, σ'.poller.sweeps i = some s → (b.polling i).Tracks s :=
    fun hsame i s hs => h.polling i s (hsame ▸ hs)
  have hreconciler : ∀ {σ' : System}, σ'.reconciler.sweep = b.system.reconciler.sweep →
      ∀ s, σ'.reconciler.sweep = some s → b.reconciling.TracksReconcile s :=
    fun hsame s hs => h.reconciling s (hsame ▸ hs)
  cases e with
  | call op => exact ⟨hpoller rfl, hreconciler rfl⟩
  | poll clock =>
      refine ⟨h.tracks_poll clock, hreconciler ?_⟩
      exact congrArg Reconciler.sweep (apart_runOnce b.system clock).reconciler
  | resumePoll i answer clock =>
      refine ⟨h.tracks_resumePoll answer clock, hreconciler ?_⟩
      exact congrArg Reconciler.sweep (apart_resumePoll b.system i answer clock).reconciler
  | turnPoller => exact ⟨hpoller rfl, hreconciler rfl⟩
  | stopPolling =>
      refine ⟨hpoller ?_, hreconciler ?_⟩
      · show (if b.system.poller.schedulingStopped then b.system
          else b.system.stopPolling).poller.sweeps = _
        split <;> rfl
      · show (if b.system.poller.schedulingStopped then b.system
          else b.system.stopPolling).reconciler.sweep = _
        split <;> rfl
  | reconcile clock =>
      refine ⟨hpoller ?_, h.tracks_reconcile clock⟩
      exact congrArg Poller.sweeps (elsewhere_reconcileOnce b.system clock).poller
  | resumeReconcile answer clock =>
      refine ⟨hpoller ?_, h.tracks_resumeReconcile answer clock⟩
      exact congrArg Poller.sweeps (elsewhere_resumeReconcile b.system answer clock).poller
  | turnReconciler => exact ⟨hpoller rfl, hreconciler rfl⟩
  | stopReconciling =>
      refine ⟨hpoller ?_, hreconciler ?_⟩
      · show (if b.system.reconciler.shutdownStarted then b.system
          else b.system.stopReconciling).poller.sweeps = _
        split <;> rfl
      · show (if b.system.reconciler.shutdownStarted then b.system
          else b.system.stopReconciling).reconciler.sweep = _
        split <;> rfl
  | settle watchId evidence =>
      refine ⟨hpoller ?_, hreconciler ?_⟩
      · exact congrArg Poller.sweeps (elsewhere_afterSettle b.system watchId evidence).poller
      · exact congrArg Reconciler.sweep (reconciler_afterSettle b.system watchId evidence)
  | resumeHook k answer clock =>
      refine ⟨hpoller ?_, hreconciler ?_⟩
      · exact congrArg Poller.sweeps (elsewhere_resumeHook b.system k answer clock).poller
      · exact congrArg Reconciler.sweep (reconciler_resumeHook b.system k answer clock)
  | restart config =>
      refine ⟨fun i s hs => ?_, fun s hs => ?_⟩
      · cases hs
      · cases hs

end Books.Kept

/-! ## Sweeps that return -/

/-- Where a sweep of the poller returns: at its candidates, when there are none, or behind
the turn of the last one. -/
theorem System.pollReturn_cases {e : Event} (h : σ.pollReturn? cfg e = some (i, outcome)) :
    (∃ clock, e = .poll clock ∧ ¬ σ.poller.schedulingStopped = true ∧
      σ.store.listPollingCandidates clock.list = .ok [] ∧ i = σ.poller.nextSweep ∧
      outcome = .zero) ∨
    ∃ answer clock generation tip pages counted watch result, e = .resumePoll i answer clock ∧
      σ.poller.sweeps i = some ⟨generation, tip, pages, [], counted, .served watch result⟩ ∧
      (σ.pollingTurn cfg clock watch result).result.count counted = .ok outcome := by
  unfold System.pollReturn? at h
  split at h
  · rename_i clock
    split at h
    · cases h
    · rename_i hopen
      split at h
      · rename_i hlist
        cases h
        exact .inl ⟨clock, rfl, hopen, hlist, rfl, rfl⟩
      · cases h
  · rename_i j answer clock
    split at h
    · rename_i generation tip pages counted watch result hsweep
      cases hcount : (σ.pollingTurn cfg clock watch result).result.count counted with
      | error e =>
          rw [hcount] at h
          cases h
      | ok counted' =>
          rw [hcount] at h
          cases h
          exact .inr ⟨answer, clock, generation, tip, pages, counted, watch, result, rfl, hsweep,
            hcount⟩
    · cases h
  · cases h

/-- Where a call of `reconcileOnce` returns. -/
theorem System.reconcileReturn_cases {e : Event}
    (h : σ.reconcileReturn? cfg e = some outcome) :
    (outcome = .zero ∧ σ.reconciler.sweep.isSome = true) ∨
    (∃ clock, e = .reconcile clock ∧ ¬ σ.reconciler.shutdownStarted = true ∧
      ¬ σ.reconciler.sweep.isSome = true ∧
      σ.store.listSettlementReconciliationCandidates clock.list = .ok [] ∧ outcome = .zero) ∨
    ∃ answer clock generation counted watch result, e = .resumeReconcile answer clock ∧
      σ.reconciler.sweep = some ⟨⟨generation, [], counted⟩, .served watch result⟩ ∧
      (σ.reconcilingTurn cfg clock watch result).result.count counted = .ok outcome := by
  unfold System.reconcileReturn? at h
  split at h
  · rename_i clock
    split at h
    · cases h
    · rename_i hopen
      split at h
      · rename_i hbusy
        cases h
        exact .inl ⟨rfl, hbusy⟩
      · rename_i hidle
        split at h
        · rename_i hlist
          cases h
          exact .inr (.inl ⟨clock, rfl, hopen, hidle, hlist, rfl⟩)
        · cases h
  · rename_i answer clock
    split at h
    · rename_i generation counted watch result hsweep
      cases hcount : (σ.reconcilingTurn cfg clock watch result).result.count counted with
      | error e =>
          rw [hcount] at h
          cases h
      | ok counted' =>
          rw [hcount] at h
          cases h
          exact .inr (.inr ⟨answer, clock, generation, counted, watch, result, rfl, hsweep, hcount⟩)
    · cases h
  · cases h

/-- The sweep is then behind its loop, with that outcome. -/
theorem System.swept_of_pollReturn {e : Event} (h : σ.pollReturn? cfg e = some (i, outcome)) :
    ∃ s : Sweep, (σ.step cfg e).poller.sweeps i = some s ∧ s.phase = .swept ∧
      s.outcome = outcome := by
  have hloop : PollLoop σ (σ.step cfg e) i [] outcome := by
    rcases System.pollReturn_cases h with ⟨clock, rfl, hopen, hlist, rfl, rfl⟩ |
      ⟨answer, clock, generation, tip, pages, counted, watch, result, rfl, hsweep, hcount⟩
    · have hloop := System.pollLoop_runOnce cfg hopen hlist
      rwa [List.perm_nil.1 (System.perm_rotated _ [])] at hloop
    · have hresume : σ.step cfg (.resumePoll i answer clock) =
          σ.settleTurn cfg i ⟨generation, tip, pages, [], counted, .served watch result⟩ watch
            result clock := by
        simp only [System.step, System.resumePoll, hsweep]
      rcases pollLoop_settleTurn σ i
          ⟨generation, tip, pages, [], counted, .served watch result⟩ watch result clock with
        ⟨outcome', hcount', hloop⟩ | ⟨⟨_, herror⟩, -⟩
      · cases hcount.symm.trans hcount'
        exact hresume ▸ hloop
      · cases hcount.symm.trans herror
  rcases hloop with ⟨s, hs, hswept, houtcome⟩ | ⟨_, _, hwaiting, -⟩
  · exact ⟨s, by rw [hs, Function.update_self], hswept, houtcome⟩
  · cases hwaiting

namespace Books

/-- A sweep of the poller that returns has settled a turn for each of its candidates. -/
theorem Kept.settled_of_pollReturn (h : b.Kept) {e : Event}
    (hreturn : b.system.pollReturn? cfg e = some (i, outcome)) :
    ((b.step cfg e).polling i).Settled outcome := by
  rcases System.pollReturn_cases hreturn with ⟨clock, rfl, hopen, hlist, rfl, rfl⟩ |
    ⟨answer, clock, _, _, _, counted, watch, result, rfl, hsweep, hcount⟩
  · have hledger : (b.step cfg (.poll clock)).polling b.system.poller.nextSweep =
        ⟨[], System.rotated b.system.poller.nextWatchIndex [], []⟩ := by
      simp [Books.step, keepPolling, hopen, hlist]
    rw [hledger, List.perm_nil.1 (System.perm_rotated _ [])]
    exact (SweepLedger.ready_open (List.Perm.refl [])).settled
  · have htracks := h.polling i _ hsweep
    have hledger : (b.step cfg (.resumePoll i answer clock)).polling i =
        (b.polling i).enter watch (b.system.pollingTurn cfg clock watch result).result := by
      simp [Books.step, keepPolling, hsweep]
    rw [hledger]
    exact ((htracks.2 watch rfl).enter rfl
      (b.system.typed_pollingTurn clock watch htracks.1).result hcount).settled

/-- So has a sweep of the reconciler, unless another one runs. -/
theorem Kept.settled_of_reconcileReturn (h : b.Kept) {e : Event}
    (hreturn : b.system.reconcileReturn? cfg e = some outcome) :
    (outcome = .zero ∧ b.system.reconciler.sweep.isSome = true) ∨
      (b.step cfg e).reconciling.Settled outcome := by
  rcases System.reconcileReturn_cases hreturn with hbusy |
    ⟨clock, rfl, hopen, hidle, hlist, rfl⟩ |
    ⟨answer, clock, _, counted, watch, result, rfl, hsweep, hcount⟩
  · exact .inl hbusy
  · have hledger : (b.step cfg (.reconcile clock)).reconciling = ⟨[], [], []⟩ := by
      simp [Books.step, keepReconciling, hopen, hidle, hlist]
    rw [hledger]
    exact .inr (SweepLedger.ready_open (List.Perm.refl [])).settled
  · have htracks := h.reconciling _ hsweep
    have hledger : (b.step cfg (.resumeReconcile answer clock)).reconciling =
        b.reconciling.enter watch (b.system.reconcilingTurn cfg clock watch result).result := by
      simp [Books.step, keepReconciling, hsweep]
    rw [hledger]
    exact .inr ((htracks.2 watch rfl).enter rfl
      (b.system.typed_reconcilingTurn clock watch htracks.1).result hcount).settled

theorem kept_boot (config : StoreConfig) : (boot config).Kept := by
  constructor
  · intro i s hs
    cases hs
  · intro s hs
    cases hs

theorem kept_run (cfg : WorkerConfig) (config : StoreConfig) (es : List Event) :
    ((boot config).run cfg es).Kept :=
  Runs.run_invariant' (fun _ e h => h.step e) es (kept_boot config)

end Books

end Kept

/-- **Sweep accounting.**  Whatever the candidates, the rotation and the turns come to, a
sweep that returns has attempted each candidate once, and the health tracker takes its
outcome; it returns when no shutdown interrupts its turns and what they tell the store goes
through; and so it is with the sweeps of the process, in every run and with every answer:
their loop is this loop over the turns in the books. -/
theorem sweep_accounting :
    (∀ index watches turns,
      ((∀ n < watches.length, (turns n).1.Ends) → ∃ r, runPollingSweep index watches turns = .ok r) ∧
      ∀ r, runPollingSweep index watches turns = .ok r → TrackerAccepts r.outcome ∧
        r.attempts.Perm watches ∧ r.outcome.attempted = watches.length) ∧
    (∀ watches turns,
      ((∀ n < watches.length, (turns n).1.Ends) → ∃ r, reconcileSweep watches turns = .ok r) ∧
      ∀ r, reconcileSweep watches turns = .ok r → TrackerAccepts r.outcome ∧
        r.attempts.Perm watches ∧ r.outcome.attempted = watches.length) ∧
    ∀ (cfg : WorkerConfig) (config : StoreConfig) (es : List Event) (e : Event),
      (∀ i outcome, ((Books.boot config).run cfg es).system.pollReturn? cfg e = some (i, outcome) →
        (((Books.boot config).run cfg (es ++ [e])).polling i).Settled outcome ∧
          ∃ s, ((Books.boot config).run cfg (es ++ [e])).system.poller.sweeps i = some s ∧
            s.phase = .swept ∧ s.outcome = outcome) ∧
      ∀ outcome, ((Books.boot config).run cfg es).system.reconcileReturn? cfg e = some outcome →
        TrackerAccepts outcome ∧
          (((Books.boot config).run cfg es).system.reconciler.sweep.isSome = true ∨
            ((Books.boot config).run cfg (es ++ [e])).reconciling.Settled outcome) := by
  have hafter : ∀ (cfg : WorkerConfig) (config : StoreConfig) (es : List Event) (e : Event),
      (Books.boot config).run cfg (es ++ [e]) = ((Books.boot config).run cfg es).step cfg e :=
    fun cfg config es e => Runs.run_append (Books.step cfg) _ es [e]
  refine ⟨fun index watches turns => ⟨runPollingSweep_returns, fun r h => ?_⟩,
    fun watches turns => ⟨reconcileSweep_returns, fun r h => ?_⟩,
    fun cfg config es e => ⟨fun i outcome h => ?_, fun outcome h => ?_⟩⟩
  · have haccounts := accounts_of_runPollingSweep h
    have hperm := System.perm_rotated index watches
    exact ⟨haccounts.balanced.taken, haccounts.attempts ▸ hperm,
      haccounts.attempted.trans hperm.length_eq⟩
  · have haccounts := accounts_of_reconcileSweep h
    exact ⟨haccounts.balanced.taken, by rw [haccounts.attempts], haccounts.attempted⟩
  · rw [hafter]
    exact ⟨(Books.kept_run cfg config es).settled_of_pollReturn h, System.swept_of_pollReturn h⟩
  · rw [hafter]
    rcases (Books.kept_run cfg config es).settled_of_reconcileReturn h with ⟨rfl, hbusy⟩ | hsettled
    · exact ⟨Balanced.zero.taken, .inl hbusy⟩
    · exact ⟨hsettled.accepted, .inr hsettled⟩

/-- One watch, and a health request that is answered with a 500. -/
def unavailableHistory : List Event :=
  activeOpening ++ [.poll (.at 2), .resumePoll 0 (.status 500 false none) (.at 3)]

/-- A candidate. -/
def candidateRow : WatchRow := preparedRow .default (js "w") sampleSpec none 0 100

/-- Every polling turn makes progress but the second, which fails and is put on record. -/
def mixedTurns (n : ℕ) : {t : PollingTurn // t.Typed} :=
  ⟨{ acquisitionOpen := true
     serviceWatch := if n = 1 then .error .network else .ok ⟨.progressed, true⟩
     clearPollingFailure := .ok ()
     persistPollingFailure := fun _ => .ok none }, by
    intro turn hturn
    dsimp only at hturn
    split at hturn
    · cases hturn
    · cases hturn
      exact ⟨nofun, nofun⟩⟩

/-- Every reconciliation turn is deferred. -/
def deferredTurns (_ : ℕ) : {t : ReconcilingTurn // t.Typed} :=
  ⟨{ schedulingOpen := true, reconcileWatch := .error .timeout, defer := .ok () }, nofun⟩

theorem sweep_accounting_unavailable :
    (∃ r, runPollingSweep 1 [candidateRow, candidateRow, candidateRow] mixedTurns = .ok r ∧
      TrackerAccepts r.outcome ∧ r.outcome.attempted = 3) ∧
    (∃ r, reconcileSweep [candidateRow, candidateRow] deferredTurns = .ok r ∧
      TrackerAccepts r.outcome ∧ r.outcome.attempted = 2) ∧
    (((Books.boot .default).run sampleWorker
      (unavailableHistory ++ [.resumePoll 0 .timeout (.at 4)])).polling 0).Settled
        ⟨1, 0, 1, 0, 0, 0, 0⟩ := by
  obtain ⟨hpolling, hreconciling, hruns⟩ := sweep_accounting
  refine ⟨?_, ?_, ?_⟩
  · obtain ⟨hreturns, haccounts⟩ :=
      hpolling 1 [candidateRow, candidateRow, candidateRow] mixedTurns
    obtain ⟨r, hr⟩ := hreturns fun n _ => ⟨rfl, by
      show (if n = 1 then _ else _) ≠ _
      split <;> nofun, rfl, fun _ => ⟨none, rfl⟩⟩
    obtain ⟨htaken, -, hattempted⟩ := haccounts r hr
    exact ⟨r, hr, htaken, hattempted⟩
  · obtain ⟨hreturns, haccounts⟩ := hreconciling [candidateRow, candidateRow] deferredTurns
    obtain ⟨r, hr⟩ := hreturns fun _ _ => ⟨rfl, nofun, rfl⟩
    obtain ⟨htaken, -, hattempted⟩ := haccounts r hr
    exact ⟨r, hr, htaken, hattempted⟩
  · have hreturn : ((Books.boot .default).run sampleWorker unavailableHistory).system.pollReturn?
        sampleWorker (.resumePoll 0 .timeout (.at 4)) = some (0, ⟨1, 0, 1, 0, 0, 0, 0⟩) := by
      decide +kernel
    exact ((hruns sampleWorker .default unavailableHistory _).1 0 _ hreturn).1

end RoundWatch
