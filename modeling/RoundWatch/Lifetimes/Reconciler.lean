import RoundWatch.Lifetimes.Poller

/-!
# The reconciler as an owner

The lifecycle of `SettlementReconciler`: direct calls of `reconcileOnce`, the wrapper an
interval starts, pauses and the terminal fence.

* `ReconcilerLifetime` — the fields of the object that decide what may begin, then what
  the event loop and the promises hold of it, then history;
* `reconcileOnce`, `run`, `start`, `drain`, … — up to the next callback or `await`;
* `Sound` — the counter counts sweeps and wrappers, a wrapper until the end of its
  `ownWork`.
-/

namespace RoundWatch

structure ReconcilerLifetime where
  timer : Option ℕ
  scheduledRunning : Bool
  shutdownStarted : Bool
  ownedWork : ℤ
  drainPromise : DrainPromise
  generation : ℕ
  /-- The intervals the event loop still runs. -/
  armed : List ℕ
  nextTimer : ℕ
  /-- The calls of `start` that are inside `run`. -/
  starting : ℕ
  /-- The calls of `reconcileOnce` that have not come to the `finally` of `ownWork`. -/
  sweeps : List ℕ
  nextSweep : ℕ
  /-- The sweep that has set `running`. -/
  running : Option ℕ
  wrapper : Option Wrapper
  /-- The wrappers that have only the `finally` of `ownWork` in front of them. -/
  ending : ℕ
  /-- Latest first. -/
  begun : List BackgroundWork

namespace ReconcilerLifetime

def fresh : ReconcilerLifetime where
  timer := none
  scheduledRunning := false
  shutdownStarted := false
  ownedWork := 0
  drainPromise := .absent
  generation := 0
  armed := []
  nextTimer := 0
  starting := 0
  sweeps := []
  nextSweep := 0
  running := none
  wrapper := none
  ending := 0
  begun := []

/-- `stop`. -/
def stop (r : ReconcilerLifetime) : ReconcilerLifetime :=
  { r with
    generation := r.generation + 1
    timer := none
    armed := r.armed.filter fun handle => r.timer ≠ some handle }

/-- `stopScheduling`. -/
def stopScheduling (r : ReconcilerLifetime) : ReconcilerLifetime :=
  if r.shutdownStarted then r else stop { r with shutdownStarted := true }

/-- `drain`: a promise that has resolved, or one with a resolver. -/
def drain (r : ReconcilerLifetime) : ReconcilerLifetime :=
  let r := r.stopScheduling
  if r.drainPromise = .absent then
    { r with drainPromise := r.drainPromise.create.resolveIf (r.ownedWork = 0) }
  else r

/-- `reconcileOnce`, up to the first callback of its sweep. -/
def reconcileOnce (r : ReconcilerLifetime) : ReconcilerLifetime :=
  if r.shutdownStarted then r
  else
    { r with
      ownedWork := r.ownedWork + 1
      sweeps := r.nextSweep :: r.sweeps
      nextSweep := r.nextSweep + 1
      running := r.running.or (some r.nextSweep)
      begun := .sweep r.nextSweep :: r.begun }

/-- The function of the interval, up to the first callback of its sweep. -/
def run (r : ReconcilerLifetime) : ReconcilerLifetime :=
  if r.shutdownStarted ∨ r.scheduledRunning then r
  else
    reconcileOnce
      { r with
        scheduledRunning := true
        ownedWork := r.ownedWork + 1
        wrapper := some ⟨r.generation, .sweeping r.nextSweep⟩
        begun := .wrapper :: r.begun }

/-- `start`, up to the first callback inside `run`. -/
def start (r : ReconcilerLifetime) : ReconcilerLifetime :=
  if r.shutdownStarted ∨ r.timer.isSome then r
  else run { r with generation := r.generation + 1, starting := r.starting + 1 }

/-- `start` behind `run`. -/
def arm (r : ReconcilerLifetime) : ReconcilerLifetime :=
  let r := { r with starting := r.starting - 1 }
  if r.shutdownStarted then r
  else
    { r with
      timer := some r.nextTimer
      armed := r.nextTimer :: r.armed
      nextTimer := r.nextTimer + 1 }

/-- `assertSchedulingOpen`, then a request. -/
def request (r : ReconcilerLifetime) (sweep : ℕ) : ReconcilerLifetime :=
  if r.shutdownStarted then r else { r with begun := .request sweep :: r.begun }

/-- The `finally` of `ownWork`, behind the counter. -/
def resolveDrainIfIdle (r : ReconcilerLifetime) : ReconcilerLifetime :=
  { r with drainPromise := r.drainPromise.resolveIf (r.ownedWork = 0) }

/-- The `finally` of the `ownWork` of a sweep. -/
def endSweep (r : ReconcilerLifetime) (sweep : ℕ) (result : Option WorkerCycleOutcome) :
    ReconcilerLifetime :=
  resolveDrainIfIdle
    { r with
      ownedWork := r.ownedWork - 1
      sweeps := r.sweeps.erase sweep
      running := r.running.filter (· ≠ sweep)
      wrapper := r.wrapper.map (·.hear sweep result) }

/-- `.finally(() => { this.scheduledRunning = false; })`. -/
def leaveWrapper (r : ReconcilerLifetime) : ReconcilerLifetime :=
  { r with scheduledRunning := false, wrapper := none, ending := r.ending + 1 }

/-- The wrapper behind its sweep, up to the probe. -/
def resumeWrapper (hasProbe : Bool) (r : ReconcilerLifetime) : ReconcilerLifetime :=
  match r.wrapper with
  | some ⟨generation, .swept (some outcome)⟩ =>
      if generation ≠ r.generation then r.leaveWrapper
      else if hasProbe && Service.wantsProbe .reconciliation outcome then
        { r with wrapper := some ⟨generation, .probing⟩, begun := .probe :: r.begun }
      else r.leaveWrapper
  | some ⟨_, .swept none⟩ => r.leaveWrapper
  | _ => r

/-- The wrapper behind its probe. -/
def endProbe (r : ReconcilerLifetime) : ReconcilerLifetime :=
  match r.wrapper with
  | some ⟨_, .probing⟩ => r.leaveWrapper
  | _ => r

/-- The `finally` of the `ownWork` of a wrapper. -/
def endWrapper (r : ReconcilerLifetime) : ReconcilerLifetime :=
  resolveDrainIfIdle { r with ownedWork := r.ownedWork - 1, ending := r.ending - 1 }

inductive Event where
  | start
  /-- A call of `start` comes back from `run`. -/
  | arm
  | stop
  | stopScheduling
  | drain
  | reconcileOnce
  /-- The sweep comes to an Indexer request. -/
  | request (sweep : ℕ)
  | endSweep (sweep : ℕ) (result : Option WorkerCycleOutcome)
  | resumeWrapper
  | endProbe
  | endWrapper
  /-- The event loop runs an interval. -/
  | fire (handle : ℕ)

def step (hasProbe : Bool) (r : ReconcilerLifetime) : Event → ReconcilerLifetime
  | .start => r.start
  | .arm => if 0 < r.starting then r.arm else r
  | .stop => r.stop
  | .stopScheduling => r.stopScheduling
  | .drain => r.drain
  | .reconcileOnce => r.reconcileOnce
  | .request sweep => if r.running = some sweep then r.request sweep else r
  | .endSweep sweep result => if sweep ∈ r.sweeps then r.endSweep sweep result else r
  | .resumeWrapper => r.resumeWrapper hasProbe
  | .endProbe => r.endProbe
  | .endWrapper => if 0 < r.ending then r.endWrapper else r
  | .fire handle => if handle ∈ r.armed then r.run else r

/-- The calls of `reconcileOnce` and the wrappers, with the probe inside them. -/
def work (r : ReconcilerLifetime) : List BackgroundWork :=
  r.wrapper.toList.map (fun _ => .wrapper) ++ List.replicate r.ending .wrapper ++
    r.sweeps.map .sweep

/-- The fence calls of an event. -/
def Event.calls : Event → List FenceCall
  | .stopScheduling => [.stop]
  | .drain => [.drain]
  | _ => []

/-- The reconciler, with or without a probe. -/
def owner (hasProbe : Bool) : Owner ReconcilerLifetime Event BackgroundWork where
  initial := fresh
  step := step hasProbe
  closed := shutdownStarted
  promise := drainPromise
  counter r := some r.ownedWork
  work := work
  begun := begun
  calls _ event := event.calls

structure Sound (r : ReconcilerLifetime) : Prop where
  owned_eq : r.ownedWork = r.work.length
  scheduled_eq : r.scheduledRunning = r.wrapper.isSome
  generation_le : ∀ wrapper, r.wrapper = some wrapper → wrapper.generation ≤ r.generation
  /-- Raising the fence began a generation. -/
  generation_lt : r.shutdownStarted = true →
    ∀ wrapper, r.wrapper = some wrapper → wrapper.generation < r.generation
  joins : Joins r.shutdownStarted r.drainPromise r.work

variable {r : ReconcilerLifetime}

/-- What the counter counts. -/
theorem length_work (r : ReconcilerLifetime) :
    r.work.length = r.wrapper.toList.length + r.ending + r.sweeps.length := by
  simp only [work, List.length_append, List.length_map, List.length_replicate]

theorem Sound.idle_iff (h : Sound r) : r.ownedWork = 0 ↔ r.work = [] := by
  rw [h.owned_eq, ← List.length_eq_zero_iff]
  omega

theorem sound_stop (h : Sound r) : Sound r.stop :=
  { h with
    generation_le := fun wrapper hwrapper => Nat.le_succ_of_le (h.generation_le wrapper hwrapper)
    generation_lt := fun _ wrapper hwrapper =>
      Nat.lt_succ_of_le (h.generation_le wrapper hwrapper) }

theorem sound_stopScheduling (h : Sound r) : Sound r.stopScheduling := by
  rw [stopScheduling]
  split
  · exact h
  · exact { h with
      generation_le := fun wrapper hwrapper =>
        Nat.le_succ_of_le (h.generation_le wrapper hwrapper)
      generation_lt := fun _ wrapper hwrapper =>
        Nat.lt_succ_of_le (h.generation_le wrapper hwrapper)
      joins := h.joins.close }

theorem stopScheduling_stopped (r : ReconcilerLifetime) :
    r.stopScheduling.shutdownStarted = true := by
  rw [stopScheduling]
  split
  · assumption
  · rfl

theorem sound_drain (h : Sound r) : Sound r.drain := by
  have hfence := sound_stopScheduling h
  have hjoins := hfence.joins
  rw [r.stopScheduling_stopped] at hjoins
  rw [drain]
  split
  · exact { hfence with
      joins := by
        simp only [r.stopScheduling_stopped]
        exact hjoins.ask hfence.idle_iff }
  · exact hfence

theorem sound_reconcileOnce (h : Sound r) : Sound r.reconcileOnce := by
  rw [reconcileOnce]
  split
  · exact h
  · rename_i hopen
    exact { h with
      owned_eq := by
        have howned := h.owned_eq
        simp only [length_work, List.length_cons] at howned ⊢
        omega
      joins := h.joins.acquire (by simpa using hopen) }

/-- A wrapper begins where none is scheduled. -/
theorem sound_run (h : Sound r) : Sound r.run := by
  rw [run]
  split
  · exact h
  · rename_i hcond
    obtain ⟨hopen, hidle⟩ := not_or.mp hcond
    have hopen' : r.shutdownStarted = false := by simpa using hopen
    have hnone : r.wrapper = none := by
      rw [h.scheduled_eq] at hidle
      simpa using hidle
    refine sound_reconcileOnce
      { owned_eq := ?_
        scheduled_eq := rfl
        generation_le := fun wrapper hwrapper => by
          cases hwrapper
          exact le_refl _
        generation_lt := fun hstopped => by
          simp only [hopen'] at hstopped
          cases hstopped
        joins := h.joins.acquire hopen' }
    have howned := h.owned_eq
    simp only [length_work, hnone, Option.toList_none, Option.toList_some, List.length_nil,
      List.length_cons] at howned ⊢
    omega

theorem sound_start (h : Sound r) : Sound r.start := by
  rw [start]
  split
  · exact h
  · exact sound_run
      { h with
        generation_le := fun wrapper hwrapper =>
          Nat.le_succ_of_le (h.generation_le wrapper hwrapper)
        generation_lt := fun _ wrapper hwrapper =>
          Nat.lt_succ_of_le (h.generation_le wrapper hwrapper) }

theorem sound_arm (h : Sound r) : Sound r.arm := by
  rw [arm]
  split
  · exact { h with }
  · exact { h with }

theorem sound_endSweep (h : Sound r) {sweep : ℕ} (hmem : sweep ∈ r.sweeps)
    (result : Option WorkerCycleOutcome) : Sound (r.endSweep sweep result) := by
  have hlength := List.length_erase_of_mem hmem
  have hpos := List.length_pos_of_mem hmem
  have howned := h.owned_eq
  have howned' : r.ownedWork - 1 = ((r.endSweep sweep result).work.length : ℤ) := by
    have hwrapper : (r.endSweep sweep result).wrapper.toList.length = r.wrapper.toList.length := by
      simp only [endSweep, resolveDrainIfIdle]
      cases r.wrapper <;> rfl
    rw [length_work] at howned ⊢
    rw [hwrapper]
    simp only [endSweep, resolveDrainIfIdle]
    omega
  have hgeneration : ∀ wrapper, (r.endSweep sweep result).wrapper = some wrapper →
      ∃ before, r.wrapper = some before ∧ before.generation = wrapper.generation := by
    intro wrapper hwrapper
    obtain ⟨before, hbefore, rfl⟩ := Option.map_eq_some_iff.mp hwrapper
    exact ⟨before, hbefore, (Wrapper.generation_hear before sweep result).symm⟩
  exact
    { owned_eq := howned'
      scheduled_eq := by
        simp only [endSweep, resolveDrainIfIdle, Option.isSome_map]
        exact h.scheduled_eq
      generation_le := fun wrapper hwrapper => by
        obtain ⟨before, hbefore, hsame⟩ := hgeneration wrapper hwrapper
        rw [← hsame]
        exact h.generation_le before hbefore
      generation_lt := fun hstopped wrapper hwrapper => by
        obtain ⟨before, hbefore, hsame⟩ := hgeneration wrapper hwrapper
        rw [← hsame]
        exact h.generation_lt hstopped before hbefore
      joins := by
        refine h.joins.release ?_ fun hempty => ?_
        · change r.ownedWork - 1 = 0 ↔ _
          rw [← List.length_eq_zero_iff]
          omega
        · have hzero := congrArg List.length hempty
          rw [length_work, List.length_nil] at hzero
          omega }

/-- The wrapper passes from the flag to the end of its `ownWork`. -/
theorem sound_leaveWrapper (h : Sound r) {wrapper : Wrapper} (hwrapper : r.wrapper = some wrapper) :
    Sound r.leaveWrapper := by
  have hlength : r.leaveWrapper.work.length = r.work.length := by
    simp only [length_work, leaveWrapper, hwrapper, Option.toList_none, Option.toList_some,
      List.length_nil, List.length_cons]
    omega
  have hempty : r.work = [] ↔ r.leaveWrapper.work = [] := by
    rw [← List.length_eq_zero_iff, ← List.length_eq_zero_iff, hlength]
  exact
    { owned_eq := by
        rw [hlength]
        exact h.owned_eq
      scheduled_eq := rfl
      generation_le := fun _ hnone => by cases hnone
      generation_lt := fun _ _ hnone => by cases hnone
      joins :=
        ⟨h.joins.closed_of_asked, fun hresolved => hempty.mp (h.joins.idle_of_resolved hresolved),
          fun hasked hidle => h.joins.resolved_of_idle hasked (hempty.mpr hidle)⟩ }

theorem sound_resumeWrapper (h : Sound r) (hasProbe : Bool) :
    Sound (r.resumeWrapper hasProbe) := by
  rw [resumeWrapper]
  split
  · rename_i generation outcome hwrapper
    split
    · exact sound_leaveWrapper h hwrapper
    · rename_i hgeneration
      split
      · have hle := h.generation_le _ hwrapper
        have hopen : r.shutdownStarted = false := by
          by_contra hstopped
          have hlt := h.generation_lt (by simpa using hstopped) _ hwrapper
          exact hgeneration (by simp only at hlt; omega)
        exact
          { owned_eq := by
              have howned := h.owned_eq
              simp only [work, hwrapper] at howned ⊢
              exact howned
            scheduled_eq := by
              rw [h.scheduled_eq, hwrapper]
              rfl
            generation_le := fun wrapper hsome => by
              cases hsome
              exact hle
            generation_lt := fun hstopped => by
              rw [hopen] at hstopped
              cases hstopped
            joins := h.joins.acquire hopen }
      · exact sound_leaveWrapper h hwrapper
  · rename_i hwrapper
    exact sound_leaveWrapper h hwrapper
  · exact h

theorem sound_endProbe (h : Sound r) : Sound r.endProbe := by
  rw [endProbe]
  split
  · rename_i hwrapper
    exact sound_leaveWrapper h hwrapper
  · exact h

theorem sound_endWrapper (h : Sound r) (hending : 0 < r.ending) : Sound r.endWrapper := by
  have howned := h.owned_eq
  have howned' : r.ownedWork - 1 = (r.endWrapper.work.length : ℤ) := by
    rw [length_work] at howned ⊢
    simp only [endWrapper, resolveDrainIfIdle]
    omega
  exact { h with
    owned_eq := howned'
    joins := by
      refine h.joins.release ?_ fun hempty => ?_
      · change r.ownedWork - 1 = 0 ↔ _
        rw [← List.length_eq_zero_iff]
        omega
      · have hzero := congrArg List.length hempty
        rw [length_work, List.length_nil] at hzero
        omega }

theorem sound_step (h : Sound r) (hasProbe : Bool) (event : Event) :
    Sound (r.step hasProbe event) := by
  cases event with
  | start => exact sound_start h
  | arm =>
      simp only [step]
      split
      · exact sound_arm h
      · exact h
  | stop => exact sound_stop h
  | stopScheduling => exact sound_stopScheduling h
  | drain => exact sound_drain h
  | reconcileOnce => exact sound_reconcileOnce h
  | request sweep =>
      simp only [step, request]
      split
      · split
        · exact h
        · exact { h with }
      · exact h
  | endSweep sweep result =>
      simp only [step]
      split
      · rename_i hmem
        exact sound_endSweep h hmem result
      · exact h
  | resumeWrapper => exact sound_resumeWrapper h hasProbe
  | endProbe => exact sound_endProbe h
  | endWrapper =>
      simp only [step]
      split
      · rename_i hending
        exact sound_endWrapper h hending
      · exact h
  | fire handle =>
      simp only [step]
      split
      · exact sound_run h
      · exact h

/-! ## Behind the fence -/

/-- What stays as it is behind the fence. -/
structure Behind (r r' : ReconcilerLifetime) : Prop where
  stopped : r'.shutdownStarted = true
  begun : r'.begun = r.begun
  asked : r.drainPromise ≠ .absent → r'.drainPromise ≠ .absent

theorem Behind.refl (hstopped : r.shutdownStarted = true) : Behind r r := ⟨hstopped, rfl, id⟩

theorem drain_stopped (r : ReconcilerLifetime) : r.drain.shutdownStarted = true := by
  rw [drain]
  split
  · exact r.stopScheduling_stopped
  · exact r.stopScheduling_stopped

end ReconcilerLifetime

end RoundWatch
