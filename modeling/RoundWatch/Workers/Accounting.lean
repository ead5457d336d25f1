import RoundWatch.Readiness.Evidence
import RoundWatch.Workers.Reconciler

/-!
# What a sweep counts

The loops of `runPollingSweep` and `reconcileSweep` over turns that may come to anything:
a turn is what its `try` comes to and, behind an error, what its `catch` comes to.  The
callback behind the counters notes the time of the progress and throws nothing.

* `SweepTurn`, `SweepTurn.count` — one turn as the loop counts it, on both sides of the
  `catch`;
* `PollingTurn`, `ReconcilingTurn` — the pieces the two loops build a turn from;
* `sweepTurns`, `runPollingSweep`, `reconcileSweep` — the loops;
* `Balanced`, `TrackerAccepts` — the counts add up, and the health tracker takes them;
* `PollingTurn.Ends`, `ReconcilingTurn.Ends` — the turns behind which a loop goes on.
-/

namespace RoundWatch

/-! ## Turns -/

/-- What the union type of a turn's outcome admits: evidence alone is evidence, and a turn
that did nothing has none. -/
def CustomerTurnOutcome.Typed (turn : CustomerTurnOutcome) : Prop :=
  (turn.kind = .noOp → turn.providerEvidence = false) ∧
    (turn.kind = .providerEvidenceOnly → turn.providerEvidence = true)

instance (turn : CustomerTurnOutcome) : Decidable turn.Typed :=
  inferInstanceAs (Decidable (_ ∧ _))

/-- One turn of a sweep, as far as its loop can tell. -/
structure SweepTurn where
  /-- The fence in front of the turn is open. -/
  admitted : Bool
  /-- What the `try` comes to, before it counts. -/
  tried : Except TurnError CustomerTurnOutcome
  /-- What the `catch` comes to behind an error: whether the failure is an isolated one,
  or the error it throws itself. -/
  caught : Except TurnError Bool

namespace SweepTurn

def Typed (t : SweepTurn) : Prop := ∀ turn, t.tried = .ok turn → turn.Typed

/-- The counters behind a turn that was attempted; an interruption, and an error of the
`catch`, end the sweep. -/
def count (t : SweepTurn) (o : WorkerCycleOutcome) : Except TurnError WorkerCycleOutcome :=
  match t.tried with
  | .ok turn => .ok (o.count turn)
  | .error .shutdown => .error .shutdown
  | .error _ => t.caught.map fun isolated =>
      { o with
        failed := o.failed + 1
        isolatedFailures := o.isolatedFailures + if isolated then 1 else 0 }

end SweepTurn

/-- What a polling turn meets, in the order it meets it. -/
structure PollingTurn where
  acquisitionOpen : Bool
  serviceWatch : Except TurnError CustomerTurnOutcome
  clearPollingFailure : Except TurnError Unit
  /-- The row that was marked; `none` when it was lost to a race. -/
  persistPollingFailure : ClassifiedPollingFailure → Except TurnError (Option WatchRow)

namespace PollingTurn

def Typed (t : PollingTurn) : Prop := ∀ turn, t.serviceWatch = .ok turn → turn.Typed

/-- The `try` of `runPollingSweep`. -/
def tried (t : PollingTurn) : Except TurnError CustomerTurnOutcome :=
  t.serviceWatch.bind fun turn =>
    if turn.kind = .noOp then .ok turn else t.clearPollingFailure.map fun _ => turn

/-- The `catch` of `runPollingSweep`. -/
def caught (t : PollingTurn) (e : TurnError) : Except TurnError Bool :=
  (t.persistPollingFailure (classifyPollingFailure e)).map (·.any (·.state == .indeterminate))

def result (t : PollingTurn) : SweepTurn where
  admitted := t.acquisitionOpen
  tried := t.tried
  caught := match t.tried with
    | .ok _ => .ok false
    | .error e => t.caught e

end PollingTurn

/-- What a reconciliation turn meets. -/
structure ReconcilingTurn where
  schedulingOpen : Bool
  reconcileWatch : Except TurnError CustomerTurnOutcome
  defer : Except TurnError Unit

namespace ReconcilingTurn

def Typed (t : ReconcilingTurn) : Prop := ∀ turn, t.reconcileWatch = .ok turn → turn.Typed

/-- Nothing in `reconcileSweep` counts an isolated failure. -/
def result (t : ReconcilingTurn) : SweepTurn where
  admitted := t.schedulingOpen
  tried := t.reconcileWatch
  caught := t.defer.map fun _ => false

end ReconcilingTurn

theorem PollingTurn.Typed.result {t : PollingTurn} (h : t.Typed) : t.result.Typed := by
  intro turn hturn
  change t.tried = .ok turn at hturn
  obtain ⟨turn', hserved, hcleared⟩ := Checks.bind_eq_ok.1 hturn
  split at hcleared
  · cases hcleared
    exact h turn hserved
  · obtain ⟨_, -, rfl⟩ := Checks.map_eq_ok.1 hcleared
    exact h turn' hserved

theorem ReconcilingTurn.Typed.result {t : ReconcilingTurn} (h : t.Typed) : t.result.Typed := h

/-! ## The loops -/

/-- What a loop has so far: the counters, and the watches it has counted as attempted. -/
structure SweepReport where
  outcome : WorkerCycleOutcome
  attempts : List WatchRow

namespace SweepReport

def empty : SweepReport := ⟨.zero, []⟩

/-- The body of the loop. -/
def attempt (r : SweepReport) (turn : WatchRow × SweepTurn) : Except TurnError SweepReport :=
  if turn.2.admitted then
    (turn.2.count { r.outcome with attempted := r.outcome.attempted + 1 }).map
      fun outcome => ⟨outcome, r.attempts ++ [turn.1]⟩
  else .error .shutdown

end SweepReport

/-- The loop over the candidates, each with its turn. -/
def sweepTurns (turns : List (WatchRow × SweepTurn)) : Except TurnError SweepReport :=
  turns.foldlM SweepReport.attempt .empty

/-- `runPollingSweep`; the `n`-th turn of the sweep meets `turns n`. -/
def runPollingSweep (nextWatchIndex : ℕ) (watches : List WatchRow)
    (turns : ℕ → {t : PollingTurn // t.Typed}) : Except TurnError SweepReport :=
  if watches.length = 0 then .ok .empty
  else
    sweepTurns ((System.rotated nextWatchIndex watches).zipIdx.map
      fun (watch, n) => (watch, (turns n).1.result))

/-- `reconcileSweep`, where no other sweep runs. -/
def reconcileSweep (watches : List WatchRow) (turns : ℕ → {t : ReconcilingTurn // t.Typed}) :
    Except TurnError SweepReport :=
  sweepTurns (watches.zipIdx.map fun (watch, n) => (watch, (turns n).1.result))

/-! ## The counts add up -/

/-- What `validateOutcome` asks for. -/
structure Balanced (o : WorkerCycleOutcome) : Prop where
  turns : o.succeeded + o.failed + o.noOp + o.providerEvidenceOnly = o.attempted
  evidence : o.providerEvidence ≤ o.succeeded + o.providerEvidenceOnly
  isolated : o.isolatedFailures ≤ o.failed

theorem validOutcome_iff {o : WorkerCycleOutcome} : validOutcome o = true ↔ Balanced o := by
  simp only [validOutcome, Bool.and_eq_true, beq_iff_eq, decide_eq_true_eq]
  constructor
  · rintro ⟨⟨hturns, hevidence⟩, hisolated⟩
    exact ⟨hturns, hevidence, hisolated⟩
  · intro h
    exact ⟨⟨h.turns, h.evidence⟩, h.isolated⟩

namespace Balanced

theorem zero : Balanced .zero := ⟨rfl, Nat.le_refl 0, Nat.le_refl 0⟩

/-- A turn that returned counts once, and its evidence is that of a turn that did
something. -/
theorem returned {o : WorkerCycleOutcome} (h : Balanced o) {turn : CustomerTurnOutcome}
    (hturn : turn.Typed) :
    Balanced (({ o with attempted := o.attempted + 1 } : WorkerCycleOutcome).count turn) := by
  obtain ⟨hturns, hevidence, hisolated⟩ := h
  obtain ⟨kind, evidence⟩ := turn
  cases kind with
  | progressed =>
      refine ⟨?_, ?_, hisolated⟩
      · simp only [WorkerCycleOutcome.count, reduceCtorEq, if_false, if_true]
        omega
      · cases evidence <;> simp only [WorkerCycleOutcome.count, reduceCtorEq, if_false, if_true] <;>
          omega
  | providerEvidenceOnly =>
      have hshown : evidence = true := hturn.2 rfl
      subst hshown
      refine ⟨?_, ?_, hisolated⟩
      · simp only [WorkerCycleOutcome.count, reduceCtorEq, if_false, if_true]
        omega
      · simp only [WorkerCycleOutcome.count, reduceCtorEq, if_false, if_true]
        omega
  | noOp =>
      have hnone : evidence = false := hturn.1 rfl
      subst hnone
      refine ⟨?_, ?_, hisolated⟩
      · simp only [WorkerCycleOutcome.count, reduceCtorEq, if_false, if_true]
        omega
      · simp only [WorkerCycleOutcome.count, reduceCtorEq, if_false]
        omega

/-- A turn that failed counts once, and is isolated at most once. -/
theorem failed {o : WorkerCycleOutcome} (h : Balanced o) (isolated : Bool) :
    Balanced
      { o with
        attempted := o.attempted + 1
        failed := o.failed + 1
        isolatedFailures := o.isolatedFailures + if isolated then 1 else 0 } := by
  obtain ⟨hturns, hevidence, hisolated⟩ := h
  refine ⟨?_, hevidence, ?_⟩
  · show o.succeeded + (o.failed + 1) + o.noOp + o.providerEvidenceOnly = o.attempted + 1
    omega
  · cases isolated
    · exact Nat.le_succ_of_le hisolated
    · exact Nat.succ_le_succ hisolated

/-- **One turn.**  Whatever a turn comes to, counting it keeps the balance. -/
theorem count {o o' : WorkerCycleOutcome} (h : Balanced o) {t : SweepTurn} (ht : t.Typed)
    (hcount : t.count { o with attempted := o.attempted + 1 } = .ok o') :
    Balanced o' ∧ o'.attempted = o.attempted + 1 := by
  unfold SweepTurn.count at hcount
  split at hcount
  · rename_i turn hturn
    cases hcount
    exact ⟨h.returned (ht turn hturn), rfl⟩
  · cases hcount
  · obtain ⟨isolated, -, rfl⟩ := Checks.map_eq_ok.1 hcount
    exact ⟨h.failed isolated, rfl⟩

end Balanced

/-- What a loop that has come through these turns says about them. -/
structure SweepReport.Accounts (r : SweepReport) (watches : List WatchRow) : Prop where
  balanced : Balanced r.outcome
  attempts : r.attempts = watches
  attempted : r.outcome.attempted = watches.length

theorem SweepReport.Accounts.attempt {r r' : SweepReport} {watches : List WatchRow}
    (h : r.Accounts watches) {turn : WatchRow × SweepTurn} (hturn : turn.2.Typed)
    (hattempt : r.attempt turn = .ok r') : r'.Accounts (watches ++ [turn.1]) := by
  unfold SweepReport.attempt at hattempt
  split at hattempt
  · obtain ⟨outcome, hcount, rfl⟩ := Checks.map_eq_ok.1 hattempt
    obtain ⟨hbalanced, hattempted⟩ := h.balanced.count hturn hcount
    refine ⟨hbalanced, by rw [h.attempts], ?_⟩
    rw [hattempted, h.attempted, List.length_append, List.length_singleton]
  · cases hattempt

theorem sweepTurns_append (turns : List (WatchRow × SweepTurn)) (turn : WatchRow × SweepTurn) :
    sweepTurns (turns ++ [turn]) = (sweepTurns turns).bind (·.attempt turn) := by
  unfold sweepTurns
  rw [List.foldlM_append]
  refine bind_congr fun r => ?_
  simp

/-- **A loop.**  By induction on the turns, the last one first. -/
theorem accounts_of_sweepTurns {turns : List (WatchRow × SweepTurn)}
    (hturns : ∀ turn ∈ turns, turn.2.Typed) {r : SweepReport} (h : sweepTurns turns = .ok r) :
    r.Accounts (turns.map Prod.fst) := by
  induction turns using List.reverseRecOn generalizing r with
  | nil =>
      cases h
      exact ⟨.zero, rfl, rfl⟩
  | append_singleton turns turn ih =>
      rw [sweepTurns_append] at h
      obtain ⟨r', hr', hattempt⟩ := Checks.bind_eq_ok.1 h
      rw [List.map_append]
      refine (ih (fun t ht => hturns t ?_) hr').attempt (hturns turn ?_) hattempt
      · exact List.mem_append_left _ ht
      · simp

theorem accounts_of_indexed {order : List WatchRow} {turn : ℕ → SweepTurn}
    (hturn : ∀ n, (turn n).Typed) {r : SweepReport}
    (h : sweepTurns (order.zipIdx.map fun (watch, n) => (watch, turn n)) = .ok r) :
    r.Accounts order := by
  have hwatches : (order.zipIdx.map fun (watch, n) => (watch, turn n)).map Prod.fst = order := by
    rw [List.map_map]
    exact List.zipIdx_map_fst 0 order
  have haccounts := accounts_of_sweepTurns (fun t ht => ?_) h
  · rwa [hwatches] at haccounts
  · obtain ⟨⟨watch, n⟩, -, rfl⟩ := List.mem_map.1 ht
    exact hturn n

/-- A polling sweep that returns has attempted every candidate once. -/
theorem accounts_of_runPollingSweep {index : ℕ} {watches : List WatchRow}
    {turns : ℕ → {t : PollingTurn // t.Typed}} {r : SweepReport}
    (h : runPollingSweep index watches turns = .ok r) :
    r.Accounts (System.rotated index watches) := by
  unfold runPollingSweep at h
  split at h
  · rename_i hnone
    cases h
    rw [List.length_eq_zero_iff] at hnone
    subst hnone
    exact ⟨.zero, (List.perm_nil.1 (System.perm_rotated index [])).symm,
      (System.perm_rotated index []).length_eq.symm⟩
  · exact accounts_of_indexed (fun n => (turns n).2.result) h

theorem accounts_of_reconcileSweep {watches : List WatchRow}
    {turns : ℕ → {t : ReconcilingTurn // t.Typed}} {r : SweepReport}
    (h : reconcileSweep watches turns = .ok r) : r.Accounts watches :=
  accounts_of_indexed (fun n => (turns n).2.result) h

/-! ## Sweeps that return -/

/-- The loop goes on behind the turn. -/
structure SweepTurn.Ends (t : SweepTurn) : Prop where
  admitted : t.admitted = true
  counts : ∀ o, ∃ o', t.count o = .ok o'

theorem SweepTurn.ends_of {t : SweepTurn} (hadmitted : t.admitted = true)
    (huninterrupted : t.tried ≠ .error .shutdown) (hcaught : ∃ isolated, t.caught = .ok isolated) :
    t.Ends := by
  refine ⟨hadmitted, fun o => ?_⟩
  obtain ⟨isolated, hcaught⟩ := hcaught
  unfold count
  split
  · exact ⟨_, rfl⟩
  · rename_i htried
    exact absurd htried huninterrupted
  · rw [hcaught]
    exact ⟨_, rfl⟩

/-- No shutdown interrupts the turn, and what it tells the store goes through. -/
structure PollingTurn.Ends (t : PollingTurn) : Prop where
  acquisitionOpen : t.acquisitionOpen = true
  uninterrupted : t.serviceWatch ≠ .error .shutdown
  cleared : t.clearPollingFailure = .ok ()
  persisted : ∀ failure, ∃ row, t.persistPollingFailure failure = .ok row

theorem PollingTurn.Ends.result {t : PollingTurn} (h : t.Ends) : t.result.Ends := by
  obtain ⟨hopen, huninterrupted, hcleared, hpersisted⟩ := h
  refine SweepTurn.ends_of hopen ?_ ?_
  · show t.tried ≠ .error .shutdown
    unfold tried
    cases hserved : t.serviceWatch with
    | error e => exact fun h => huninterrupted (hserved.trans h)
    | ok turn =>
        rw [Except.bind, hcleared]
        split <;> simp [Except.map]
  · unfold PollingTurn.result
    dsimp only
    split
    · exact ⟨_, rfl⟩
    · rename_i e _
      obtain ⟨row, hrow⟩ := hpersisted (classifyPollingFailure e)
      rw [caught, hrow]
      exact ⟨_, rfl⟩

/-- The same of a reconciliation turn. -/
structure ReconcilingTurn.Ends (t : ReconcilingTurn) : Prop where
  schedulingOpen : t.schedulingOpen = true
  uninterrupted : t.reconcileWatch ≠ .error .shutdown
  deferred : t.defer = .ok ()

theorem ReconcilingTurn.Ends.result {t : ReconcilingTurn} (h : t.Ends) : t.result.Ends := by
  refine SweepTurn.ends_of h.schedulingOpen h.uninterrupted ⟨false, ?_⟩
  show t.defer.map _ = _
  rw [h.deferred]
  rfl

/-- **A loop returns** when it goes on behind every turn. -/
theorem exists_sweepTurns {turns : List (WatchRow × SweepTurn)}
    (hturns : ∀ turn ∈ turns, turn.2.Ends) : ∃ r, sweepTurns turns = .ok r := by
  induction turns using List.reverseRecOn with
  | nil => exact ⟨_, rfl⟩
  | append_singleton turns turn ih =>
      obtain ⟨r, hr⟩ := ih fun t ht => hturns t (List.mem_append_left _ ht)
      have hturn : turn.2.Ends := hturns turn (by simp)
      obtain ⟨o, ho⟩ := hturn.counts { r.outcome with attempted := r.outcome.attempted + 1 }
      refine ⟨⟨o, r.attempts ++ [turn.1]⟩, ?_⟩
      rw [sweepTurns_append, hr]
      show r.attempt turn = _
      rw [SweepReport.attempt, if_pos hturn.admitted, ho]
      rfl

theorem exists_indexed {order : List WatchRow} {turn : ℕ → SweepTurn}
    (hturn : ∀ n < order.length, (turn n).Ends) :
    ∃ r, sweepTurns (order.zipIdx.map fun (watch, n) => (watch, turn n)) = .ok r := by
  refine exists_sweepTurns fun t ht => ?_
  obtain ⟨⟨watch, n⟩, hmem, rfl⟩ := List.mem_map.1 ht
  exact hturn n (List.snd_lt_of_mem_zipIdx hmem)

theorem runPollingSweep_returns {index : ℕ} {watches : List WatchRow}
    {turns : ℕ → {t : PollingTurn // t.Typed}} (h : ∀ n < watches.length, (turns n).1.Ends) :
    ∃ r, runPollingSweep index watches turns = .ok r := by
  unfold runPollingSweep
  split
  · exact ⟨_, rfl⟩
  · refine exists_indexed fun n hn => (h n ?_).result
    rwa [(System.perm_rotated index watches).length_eq] at hn

theorem reconcileSweep_returns {watches : List WatchRow}
    {turns : ℕ → {t : ReconcilingTurn // t.Typed}} (h : ∀ n < watches.length, (turns n).1.Ends) :
    ∃ r, reconcileSweep watches turns = .ok r :=
  exists_indexed fun n hn => (h n hn).result

/-! ## What the tracker is handed -/

/-- The object a sweep returns: a counter that may be left out is there once it was
counted. -/
def WorkerCycleOutcome.report (o : WorkerCycleOutcome) : CycleReport :=
  let counted (n : ℕ) : Option (Option ℤ) := if n = 0 then none else some (some n)
  { attempted := some o.attempted
    succeeded := some o.succeeded
    failed := some o.failed
    isolatedFailures := counted o.isolatedFailures
    noOp := counted o.noOp
    providerEvidenceOnly := counted o.providerEvidenceOnly
    providerEvidence := counted o.providerEvidence }

namespace CycleReport

theorem count_natCast {n : ℕ} (h : (n : ℤ) ≤ Json.maxSafeInteger) : count (some n) = some n := by
  have hsafe : Json.isSafeInteger n = true := by
    have hlow : -Json.maxSafeInteger ≤ (n : ℤ) := by
      simp only [Json.maxSafeInteger]
      omega
    simp [Json.isSafeInteger, h, hlow]
  simp [count, hsafe]

theorem countOrZero_counted {n : ℕ} (h : (n : ℤ) ≤ Json.maxSafeInteger) :
    countOrZero (if n = 0 then none else some (some (n : ℤ))) = some n := by
  split
  · rename_i hzero
    rw [hzero]
    rfl
  · exact count_natCast h

end CycleReport

/-- `validateOutcome` takes a balanced outcome as it is, as long as its numbers are
exact. -/
theorem Balanced.accepted {o : WorkerCycleOutcome} (h : Balanced o)
    (hsafe : (o.attempted : ℤ) ≤ Json.maxSafeInteger) : o.report.accepted = some o := by
  obtain ⟨hturns, hevidence, hisolated⟩ := h
  have hvalid : validOutcome o = true := validOutcome_iff.2 ⟨hturns, hevidence, hisolated⟩
  have hle : ∀ n ≤ o.attempted, (n : ℤ) ≤ Json.maxSafeInteger := fun n hn => by omega
  simp [CycleReport.accepted, WorkerCycleOutcome.report, CycleReport.countOrZero_counted,
    CycleReport.count_natCast, hle, hvalid, show o.succeeded ≤ o.attempted by omega,
    show o.failed ≤ o.attempted by omega, show o.isolatedFailures ≤ o.attempted by omega,
    show o.noOp ≤ o.attempted by omega, show o.providerEvidenceOnly ≤ o.attempted by omega,
    show o.providerEvidence ≤ o.attempted by omega]

/-- The health tracker takes an outcome: `validateOutcome` throws neither at the counts nor
at the object they come in. -/
structure TrackerAccepts (o : WorkerCycleOutcome) : Prop where
  balanced : Balanced o
  valid : validOutcome o = true
  report : (o.attempted : ℤ) ≤ Json.maxSafeInteger → o.report.accepted = some o
  completed : ∀ (t : WorkerHealthTracker) (now : ℤ), (t.markCycleCompleted o now).isSome = true

theorem Balanced.taken {o : WorkerCycleOutcome} (h : Balanced o) : TrackerAccepts o := by
  have hvalid : validOutcome o = true := validOutcome_iff.2 h
  refine ⟨h, hvalid, h.accepted, fun t now => ?_⟩
  unfold WorkerHealthTracker.markCycleCompleted
  rw [if_pos hvalid]
  dsimp only
  split
  · rfl
  · split <;> rfl

end RoundWatch
