import RoundWatch.Lifetimes.Drain
import RoundWatch.Readiness.HealthProbe

/-!
# The application and the probe as owners

* `ApplicationLifetime` — promises that outlive their sockets, counted;
* `ProbeLifetime` — `IndexerHealthProbe` with its drain: one slot instead of a counter.

Each with its step on synchronous stretches of code.  A callback into user code ends a
stretch, so what the user code calls comes as further events.
-/

namespace RoundWatch

/-! ## The application -/

/-- An `ApplicationLifetime`; behind `drainPromise`, the call stack, then history. -/
structure ApplicationLifetime where
  stopped : Bool
  pending : ℤ
  drainPromise : DrainPromise
  /-- The operations that have not returned, the innermost first. -/
  calling : List ℕ
  /-- The operations whose completion has not been released. -/
  owned : List ℕ
  nextOperation : ℕ
  /-- Latest first. -/
  begun : List ℕ
  deriving DecidableEq, Repr

namespace ApplicationLifetime

def fresh : ApplicationLifetime := ⟨false, 0, .absent, [], [], 0, []⟩

/-- `stopAdmission`. -/
def stopAdmission (a : ApplicationLifetime) : ApplicationLifetime := { a with stopped := true }

/-- `track`, up to the call of its operation. -/
def track (a : ApplicationLifetime) : ApplicationLifetime :=
  if a.stopped then a
  else
    { a with
      pending := a.pending + 1
      calling := a.nextOperation :: a.calling
      owned := a.nextOperation :: a.owned
      nextOperation := a.nextOperation + 1
      begun := a.nextOperation :: a.begun }

/-- The innermost operation returns or throws. -/
def leave (a : ApplicationLifetime) : ApplicationLifetime := { a with calling := a.calling.tail }

/-- `release`, when the completion of an operation settles. -/
def release (a : ApplicationLifetime) (operation : ℕ) : ApplicationLifetime :=
  let pending := a.pending - 1
  { a with
    pending := pending
    drainPromise := a.drainPromise.resolveIf (pending = 0)
    owned := a.owned.erase operation }

/-- `drain`. -/
def drain (a : ApplicationLifetime) : ApplicationLifetime :=
  let a := a.stopAdmission
  { a with drainPromise := a.drainPromise.create.resolveIf (a.pending = 0) }

inductive Event where
  | track
  | leave
  /-- The completion of an operation settles, either way. -/
  | settle (operation : ℕ)
  | stopAdmission
  | drain
  deriving DecidableEq, Repr

def step (a : ApplicationLifetime) : Event → ApplicationLifetime
  | .track => a.track
  | .leave => a.leave
  | .settle operation =>
      if a.calling = [] ∧ operation ∈ a.owned then a.release operation else a
  | .stopAdmission => a.stopAdmission
  | .drain => a.drain

/-- The fence calls of an event. -/
def Event.calls : Event → List FenceCall
  | .stopAdmission => [.stop]
  | .drain => [.drain]
  | _ => []

/-- The application owns the operations it has not released. -/
def owner : Owner ApplicationLifetime Event ℕ where
  initial := fresh
  step := step
  closed := stopped
  promise := drainPromise
  counter a := some a.pending
  work := owned
  begun := begun
  calls _ event := event.calls

/-- The counter counts, and the drain joins. -/
structure Sound (a : ApplicationLifetime) : Prop where
  pending_eq : a.pending = a.owned.length
  joins : Joins a.stopped a.drainPromise a.owned

theorem sound_step {a : ApplicationLifetime} (h : Sound a) (event : Event) :
    Sound (a.step event) := by
  have hpending := h.pending_eq
  have hidle : a.pending = 0 ↔ a.owned = [] := by
    rw [hpending, ← List.length_eq_zero_iff]
    omega
  cases event with
  | track =>
      simp only [step, track]
      split
      · exact h
      · rename_i hopen
        refine ⟨?_, h.joins.acquire (by simpa using hopen)⟩
        simp only [List.length_cons]
        omega
  | leave => exact { h with }
  | settle operation =>
      simp only [step]
      split
      · rename_i hsettle
        have hlength := List.length_erase_of_mem hsettle.2
        have hpos := List.length_pos_of_mem hsettle.2
        refine ⟨?_, h.joins.release ?_ fun hempty => ?_⟩
        · simp only [release]
          omega
        · change a.pending - 1 = 0 ↔ a.owned.erase operation = []
          rw [← List.length_eq_zero_iff]
          omega
        · rw [hempty] at hpos
          cases hpos
      · exact h
  | stopAdmission => exact ⟨hpending, h.joins.close⟩
  | drain => exact ⟨hpending, h.joins.close.ask hidle⟩

end ApplicationLifetime

/-! ## The probe -/

/-- An `IndexerHealthProbe` with the promise of its drain. -/
structure ProbeLifetime where
  probe : IndexerHealthProbe
  drainPromise : DrainPromise
  /-- The revisions of the probes that were started, latest first. -/
  begun : List ℕ

namespace ProbeLifetime

def fresh : ProbeLifetime := ⟨.fresh, .absent, []⟩

/-- `stopScheduling`. -/
def stopScheduling (p : ProbeLifetime) : ProbeLifetime :=
  { p with probe := p.probe.stopScheduling }

/-- `drain`: the promise of the pending probe, whatever it settles with, or one that has
resolved. -/
def drain (p : ProbeLifetime) : ProbeLifetime :=
  let p := p.stopScheduling
  if p.drainPromise = .absent then
    { p with drainPromise := p.drainPromise.create.resolveIf (p.probe.pending.isNone = true) }
  else p

/-- What the clock of the probe does besides returning a number. -/
def clockCall (p : ProbeLifetime) (stops drains : Bool) : ProbeLifetime :=
  if drains then p.drain else if stops then p.stopScheduling else p

/-- `runIfDue`, up to the call of the source. -/
def runIfDue (cfg : ProbeConfig) (p : ProbeLifetime) (maximumEvidenceAgeMs : ℕ) (now : ℚ)
    (stops drains : Bool) : ProbeLifetime :=
  if p.probe.schedulingStopped then p
  else
    match assertMaximumEvidenceAge cfg maximumEvidenceAgeMs with
    | .error _ => p
    | .ok () =>
        if p.probe.pending.isSome then p
        else
          -- The clock is read between the two looks at the fence.
          let p := p.clockCall stops drains
          match p.probe.due cfg maximumEvidenceAgeMs now with
          | some _ => p
          | none =>
              { p with
                probe := p.probe.start maximumEvidenceAgeMs now
                begun := (p.probe.revision + 1) :: p.begun }

/-- The source answers. -/
def answer (cfg : ProbeConfig) (p : ProbeLifetime) (answer : ProbeAnswer) (now : ℚ) :
    ProbeLifetime :=
  match p.probe.pending with
  | none => p
  | some probe =>
      if probe.outcome.isSome then p
      else { p with probe := p.probe.answer cfg probe answer now }

/-- The `finally` of the pending promise, which settles with it. -/
def finish (p : ProbeLifetime) : ProbeLifetime :=
  match p.probe.pending with
  | none => p
  | some probe =>
      match probe.outcome with
      | none => p
      | some outcome =>
          { p with
            probe := p.probe.finish probe.revision outcome
            drainPromise := p.drainPromise.resolve }

inductive Event where
  | runIfDue (maximumEvidenceAgeMs : ℕ) (now : ℚ) (stops drains : Bool)
  | answer (answer : ProbeAnswer) (now : ℚ)
  | finish
  | invalidateForProviderFailure
  | stopScheduling
  | drain

def step (cfg : ProbeConfig) (p : ProbeLifetime) : Event → ProbeLifetime
  | .runIfDue maximumEvidenceAgeMs now stops drains =>
      p.runIfDue cfg maximumEvidenceAgeMs now stops drains
  | .answer answer now => p.answer cfg answer now
  | .finish => p.finish
  | .invalidateForProviderFailure =>
      { p with probe := p.probe.invalidateForProviderFailure }
  | .stopScheduling => p.stopScheduling
  | .drain => p.drain

/-- `runIfDue` comes to its clock. -/
def readsClock (cfg : ProbeConfig) (p : ProbeLifetime) (maximumEvidenceAgeMs : ℕ) : Bool :=
  !p.probe.schedulingStopped && (assertMaximumEvidenceAge cfg maximumEvidenceAgeMs).isOk &&
    p.probe.pending.isNone

/-- The fence calls of an event, those of the clock included. -/
def calls (cfg : ProbeConfig) (p : ProbeLifetime) : Event → List FenceCall
  | .runIfDue maximumEvidenceAgeMs _ stops drains =>
      if p.readsClock cfg maximumEvidenceAgeMs then
        if drains then [.drain] else if stops then [.stop] else []
      else []
  | .stopScheduling => [.stop]
  | .drain => [.drain]
  | _ => []

/-- The probe owns what its slot holds. -/
def owner (cfg : ProbeConfig) : Owner ProbeLifetime Event ℕ where
  initial := fresh
  step := step cfg
  closed p := p.probe.schedulingStopped
  promise := drainPromise
  counter _ := none
  work p := (p.probe.pending.map PendingProbe.revision).toList
  begun := begun
  calls := calls cfg

/-- The slot is what the drain joins. -/
abbrev Sound (p : ProbeLifetime) : Prop :=
  Joins p.probe.schedulingStopped p.drainPromise
    ((p.probe.pending.map PendingProbe.revision).toList)

theorem sound_stopScheduling {p : ProbeLifetime} (h : Sound p) : Sound p.stopScheduling := h.close

theorem sound_drain {p : ProbeLifetime} (h : Sound p) : Sound p.drain := by
  rw [drain]
  split
  · refine h.close.ask ?_
    change p.probe.pending.isNone = true ↔ (p.probe.pending.map PendingProbe.revision).toList = []
    cases p.probe.pending <;> simp
  · exact h.close

theorem sound_clockCall {p : ProbeLifetime} (h : Sound p) (stops drains : Bool) :
    Sound (p.clockCall stops drains) := by
  rw [clockCall]
  split
  · exact sound_drain h
  · split
    · exact sound_stopScheduling h
    · exact h

/-- A probe is due in front of the fence only. -/
theorem open_of_due {cfg : ProbeConfig} {probe : IndexerHealthProbe} {maximumEvidenceAgeMs : ℕ}
    {now : ℚ} (hdue : probe.due cfg maximumEvidenceAgeMs now = none) :
    probe.schedulingStopped = false := by
  by_contra hstopped
  rw [IndexerHealthProbe.due, if_pos (by simpa using hstopped)] at hdue
  cases hdue

theorem sound_runIfDue {cfg : ProbeConfig} {p : ProbeLifetime} (h : Sound p)
    (maximumEvidenceAgeMs : ℕ) (now : ℚ) (stops drains : Bool) :
    Sound (p.runIfDue cfg maximumEvidenceAgeMs now stops drains) := by
  rw [runIfDue]
  split
  · exact h
  · split
    · exact h
    · split
      · exact h
      · have hclock := sound_clockCall h stops drains
        simp only
        split
        · exact hclock
        · rename_i hdue
          exact hclock.acquire (open_of_due hdue)

theorem sound_step {cfg : ProbeConfig} {p : ProbeLifetime} (h : Sound p) (event : Event) :
    Sound (p.step cfg event) := by
  cases event with
  | runIfDue maximumEvidenceAgeMs now stops drains =>
      exact sound_runIfDue h maximumEvidenceAgeMs now stops drains
  | answer answer now =>
      simp only [step, ProbeLifetime.answer]
      split
      · exact h
      · rename_i probe hpending
        split
        · exact h
        · rw [Sound, hpending] at h
          simp only [Sound, IndexerHealthProbe.answer]
          split
          · exact h
          · exact h
  | finish =>
      simp only [step, finish]
      split
      · exact h
      · split
        · exact h
        · exact h.release_last
  | invalidateForProviderFailure => exact h
  | stopScheduling => exact sound_stopScheduling h
  | drain => exact sound_drain h

theorem drain_stopped (p : ProbeLifetime) : p.drain.probe.schedulingStopped = true := by
  rw [drain]
  split <;> rfl

end ProbeLifetime

end RoundWatch
