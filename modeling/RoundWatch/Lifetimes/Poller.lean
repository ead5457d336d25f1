import RoundWatch.Lifetimes.Drain
import RoundWatch.Readiness.Service

/-!
# The poller as an owner

The lifecycle of `RoundWatchPoller`: direct calls of `runOnce`, the scheduled wrapper
`tick` with the sweep and the probe inside it, pauses and the terminal fence.

* `PollerLifetime` — the fields of the object that decide what may begin, then what the
  event loop and the promises hold of it, then history;
* `runOnce`, `tick`, `start`, `stop`, `drain`, … — up to the next callback or `await`, so
  that whatever a callback calls comes as further events;
* `Sound` — the counter counts sweeps and wrappers, and a wrapper from in front of the
  fence belongs to a generation that is over.
-/

namespace RoundWatch

/-- What a background worker admits. -/
inductive BackgroundWork where
  /-- A call of `runOnce` or `reconcileOnce`. -/
  | sweep (sweep : ℕ)
  /-- A scheduled wrapper. -/
  | wrapper
  /-- The probe behind a sweep. -/
  | probe
  /-- An Indexer request of a sweep. -/
  | request (sweep : ℕ)
  deriving DecidableEq, Repr

/-- Where a scheduled wrapper waits. -/
inductive WrapperPhase where
  | sweeping (sweep : ℕ)
  /-- Its sweep has returned, or thrown. -/
  | swept (result : Option WorkerCycleOutcome)
  | probing

/-- A scheduled wrapper, with the generation it captured. -/
structure Wrapper where
  generation : ℕ
  phase : WrapperPhase

/-- A sweep ends; the wrapper that awaits it learns how. -/
def Wrapper.hear (wrapper : Wrapper) (sweep : ℕ) (result : Option WorkerCycleOutcome) : Wrapper :=
  match wrapper.phase with
  | .sweeping awaited =>
      if awaited = sweep then { wrapper with phase := .swept result } else wrapper
  | _ => wrapper

@[simp] theorem Wrapper.generation_hear (wrapper : Wrapper) (sweep : ℕ)
    (result : Option WorkerCycleOutcome) : (wrapper.hear sweep result).generation =
      wrapper.generation := by
  unfold hear
  split
  · split <;> rfl
  · rfl

structure PollerLifetime where
  running : Bool
  started : Bool
  schedulingStopped : Bool
  ownedLifecycles : ℤ
  drainPromise : DrainPromise
  generation : ℕ
  timer : Option ℕ
  /-- The timers the event loop will still run. -/
  armed : List ℕ
  nextTimer : ℕ
  /-- The calls of `runOnce` that have not come to their `finally`. -/
  sweeps : List ℕ
  nextSweep : ℕ
  wrapper : Option Wrapper
  /-- Latest first. -/
  begun : List BackgroundWork

namespace PollerLifetime

def fresh : PollerLifetime where
  running := false
  started := false
  schedulingStopped := false
  ownedLifecycles := 0
  drainPromise := .absent
  generation := 0
  timer := none
  armed := []
  nextTimer := 0
  sweeps := []
  nextSweep := 0
  wrapper := none
  begun := []

/-- `resolveDrainIfIdle`. -/
def resolveDrainIfIdle (p : PollerLifetime) : PollerLifetime :=
  { p with drainPromise := p.drainPromise.resolveIf (p.ownedLifecycles = 0) }

/-- `stop`. -/
def stop (p : PollerLifetime) : PollerLifetime :=
  { p with
    started := false
    generation := p.generation + 1
    timer := none
    armed := p.armed.filter fun handle => p.timer ≠ some handle }

/-- `stopScheduling`. -/
def stopScheduling (p : PollerLifetime) : PollerLifetime :=
  if p.schedulingStopped then p else stop { p with schedulingStopped := true }

/-- `drain`. -/
def drain (p : PollerLifetime) : PollerLifetime :=
  let p := p.stopScheduling
  resolveDrainIfIdle { p with drainPromise := p.drainPromise.create }

/-- `runOnce`, up to the first callback of its sweep. -/
def runOnce (p : PollerLifetime) : PollerLifetime :=
  if p.schedulingStopped then p
  else
    { p with
      ownedLifecycles := p.ownedLifecycles + 1
      sweeps := p.nextSweep :: p.sweeps
      nextSweep := p.nextSweep + 1
      begun := .sweep p.nextSweep :: p.begun }

/-- `tick`, up to the first callback of its sweep. -/
def tick (p : PollerLifetime) : PollerLifetime :=
  if p.schedulingStopped ∨ ¬ p.started ∨ p.running then p
  else
    runOnce
      { p with
        running := true
        ownedLifecycles := p.ownedLifecycles + 1
        wrapper := some ⟨p.generation, .sweeping p.nextSweep⟩
        begun := .wrapper :: p.begun }

/-- `start`. -/
def start (p : PollerLifetime) : PollerLifetime :=
  if p.schedulingStopped ∨ p.started then p
  else tick { p with started := true, generation := p.generation + 1 }

/-- `assertAcquisitionOpen`, then a request. -/
def request (p : PollerLifetime) (sweep : ℕ) : PollerLifetime :=
  if p.schedulingStopped then p else { p with begun := .request sweep :: p.begun }

/-- The `finally` of `runOnce`. -/
def endSweep (p : PollerLifetime) (sweep : ℕ) (result : Option WorkerCycleOutcome) :
    PollerLifetime :=
  resolveDrainIfIdle
    { p with
      ownedLifecycles := p.ownedLifecycles - 1
      sweeps := p.sweeps.erase sweep
      wrapper := p.wrapper.map (·.hear sweep result) }

/-- The end of the `finally` of `tick`: the next timer, unless it is paused. -/
def rearm (p : PollerLifetime) : PollerLifetime :=
  if p.started ∧ ¬ p.schedulingStopped then
    { p with
      timer := some p.nextTimer
      armed := p.nextTimer :: p.armed
      nextTimer := p.nextTimer + 1 }
  else p

/-- The `finally` of `tick`. -/
def endTick (p : PollerLifetime) : PollerLifetime :=
  let p := rearm { p with running := false }
  resolveDrainIfIdle { p with ownedLifecycles := p.ownedLifecycles - 1, wrapper := none }

/-- `tick` behind its sweep, up to the probe. -/
def resumeTick (hasProbe : Bool) (p : PollerLifetime) : PollerLifetime :=
  match p.wrapper with
  | some ⟨generation, .swept (some outcome)⟩ =>
      if generation ≠ p.generation then p.endTick
      else if hasProbe && Service.wantsProbe .polling outcome then
        { p with wrapper := some ⟨generation, .probing⟩, begun := .probe :: p.begun }
      else p.endTick
  | some ⟨_, .swept none⟩ => p.endTick
  | _ => p

/-- `tick` behind its probe. -/
def endProbe (p : PollerLifetime) : PollerLifetime :=
  match p.wrapper with
  | some ⟨_, .probing⟩ => p.endTick
  | _ => p

inductive Event where
  | start
  | stop
  | stopScheduling
  | drain
  | runOnce
  /-- A sweep comes to an Indexer request. -/
  | request (sweep : ℕ)
  | endSweep (sweep : ℕ) (result : Option WorkerCycleOutcome)
  | resumeTick
  | endProbe
  /-- The event loop runs a timer. -/
  | fire (handle : ℕ)

def step (hasProbe : Bool) (p : PollerLifetime) : Event → PollerLifetime
  | .start => p.start
  | .stop => p.stop
  | .stopScheduling => p.stopScheduling
  | .drain => p.drain
  | .runOnce => p.runOnce
  | .request sweep => if sweep ∈ p.sweeps then p.request sweep else p
  | .endSweep sweep result => if sweep ∈ p.sweeps then p.endSweep sweep result else p
  | .resumeTick => p.resumeTick hasProbe
  | .endProbe => p.endProbe
  | .fire handle =>
      if handle ∈ p.armed then tick { p with armed := p.armed.filter (· ≠ handle) } else p

/-- The calls of `runOnce` and the wrapper, with the probe inside it. -/
def work (p : PollerLifetime) : List BackgroundWork :=
  p.wrapper.toList.map (fun _ => .wrapper) ++ p.sweeps.map .sweep

/-- The fence calls of an event. -/
def Event.calls : Event → List FenceCall
  | .stopScheduling => [.stop]
  | .drain => [.drain]
  | _ => []

/-- The poller, with or without a probe. -/
def owner (hasProbe : Bool) : Owner PollerLifetime Event BackgroundWork where
  initial := fresh
  step := step hasProbe
  closed := schedulingStopped
  promise := drainPromise
  counter p := some p.ownedLifecycles
  work := work
  begun := begun
  calls _ event := event.calls

structure Sound (p : PollerLifetime) : Prop where
  owned_eq : p.ownedLifecycles = p.work.length
  running_eq : p.running = p.wrapper.isSome
  generation_le : ∀ wrapper, p.wrapper = some wrapper → wrapper.generation ≤ p.generation
  /-- Raising the fence began a generation. -/
  generation_lt : p.schedulingStopped = true →
    ∀ wrapper, p.wrapper = some wrapper → wrapper.generation < p.generation
  joins : Joins p.schedulingStopped p.drainPromise p.work

variable {p : PollerLifetime}

theorem Sound.idle_iff (h : Sound p) : p.ownedLifecycles = 0 ↔ p.work = [] := by
  rw [h.owned_eq, ← List.length_eq_zero_iff]
  omega

theorem sound_stop (h : Sound p) : Sound p.stop :=
  { h with
    generation_le := fun wrapper hwrapper => Nat.le_succ_of_le (h.generation_le wrapper hwrapper)
    generation_lt := fun _ wrapper hwrapper =>
      Nat.lt_succ_of_le (h.generation_le wrapper hwrapper) }

theorem sound_stopScheduling (h : Sound p) : Sound p.stopScheduling := by
  rw [stopScheduling]
  split
  · exact h
  · exact { h with
      generation_le := fun wrapper hwrapper =>
        Nat.le_succ_of_le (h.generation_le wrapper hwrapper)
      generation_lt := fun _ wrapper hwrapper =>
        Nat.lt_succ_of_le (h.generation_le wrapper hwrapper)
      joins := h.joins.close }

theorem stopScheduling_stopped (p : PollerLifetime) :
    p.stopScheduling.schedulingStopped = true := by
  rw [stopScheduling]
  split
  · assumption
  · rfl

theorem sound_drain (h : Sound p) : Sound p.drain := by
  have hfence := sound_stopScheduling h
  have hjoins := hfence.joins
  rw [p.stopScheduling_stopped] at hjoins
  exact { hfence with
    joins := by
      simp only [drain, resolveDrainIfIdle, p.stopScheduling_stopped]
      exact hjoins.ask hfence.idle_iff }

theorem sound_runOnce (h : Sound p) : Sound p.runOnce := by
  rw [runOnce]
  split
  · exact h
  · rename_i hopen
    exact { h with
      owned_eq := by
        have howned := h.owned_eq
        simp only [work, List.length_append, List.length_map, List.length_cons] at howned ⊢
        omega
      joins := h.joins.acquire (by simpa using hopen) }

/-- A wrapper begins where none runs. -/
theorem sound_tick (h : Sound p) : Sound p.tick := by
  rw [tick]
  split
  · exact h
  · rename_i hcond
    obtain ⟨hopen, -, hidle⟩ := not_or.mp hcond |>.imp id not_or.mp
    have hopen' : p.schedulingStopped = false := by simpa using hopen
    have hnone : p.wrapper = none := by
      rw [h.running_eq] at hidle
      simpa using hidle
    refine sound_runOnce
      { owned_eq := ?_
        running_eq := rfl
        generation_le := fun wrapper hwrapper => by
          cases hwrapper
          exact le_refl _
        generation_lt := fun hstopped => by
          simp only [hopen'] at hstopped
          cases hstopped
        joins := h.joins.acquire hopen' }
    have howned := h.owned_eq
    simp only [work, hnone, Option.toList_none, Option.toList_some, List.map_nil, List.map_cons,
      List.nil_append, List.cons_append, List.length_cons] at howned ⊢
    omega

theorem sound_start (h : Sound p) : Sound p.start := by
  rw [start]
  split
  · exact h
  · rename_i hcond
    refine sound_tick
      { h with
        generation_le := fun wrapper hwrapper =>
          Nat.le_succ_of_le (h.generation_le wrapper hwrapper)
        generation_lt := fun _ wrapper hwrapper =>
          Nat.lt_succ_of_le (h.generation_le wrapper hwrapper) }

theorem sound_endSweep (h : Sound p) {sweep : ℕ} (hmem : sweep ∈ p.sweeps)
    (result : Option WorkerCycleOutcome) : Sound (p.endSweep sweep result) := by
  have hlength := List.length_erase_of_mem hmem
  have hpos := List.length_pos_of_mem hmem
  have howned := h.owned_eq
  have hwork : (p.endSweep sweep result).work =
      p.wrapper.toList.map (fun _ => BackgroundWork.wrapper) ++
        (p.sweeps.erase sweep).map BackgroundWork.sweep := by
    simp only [work, endSweep, resolveDrainIfIdle]
    cases p.wrapper <;> rfl
  have howned' : p.ownedLifecycles - 1 = ((p.endSweep sweep result).work.length : ℤ) := by
    rw [hwork]
    simp only [work, List.length_append, List.length_map] at howned ⊢
    omega
  have hgeneration : ∀ wrapper, (p.endSweep sweep result).wrapper = some wrapper →
      ∃ before, p.wrapper = some before ∧ before.generation = wrapper.generation := by
    intro wrapper hwrapper
    obtain ⟨before, hbefore, rfl⟩ := Option.map_eq_some_iff.mp hwrapper
    exact ⟨before, hbefore, (Wrapper.generation_hear before sweep result).symm⟩
  exact
    { owned_eq := howned'
      running_eq := by
        simp only [endSweep, resolveDrainIfIdle, Option.isSome_map]
        exact h.running_eq
      generation_le := fun wrapper hwrapper => by
        obtain ⟨before, hbefore, hsame⟩ := hgeneration wrapper hwrapper
        rw [← hsame]
        exact h.generation_le before hbefore
      generation_lt := fun hstopped wrapper hwrapper => by
        obtain ⟨before, hbefore, hsame⟩ := hgeneration wrapper hwrapper
        rw [← hsame]
        exact h.generation_lt hstopped before hbefore
      joins := by
        refine h.joins.release ?_ fun hempty => ?_
        · change p.ownedLifecycles - 1 = 0 ↔ _
          rw [← List.length_eq_zero_iff]
          omega
        · rw [work, List.append_eq_nil_iff, List.map_eq_nil_iff, List.map_eq_nil_iff] at hempty
          rw [hempty.2] at hmem
          cases hmem }

/-- Only timers are touched. -/
theorem rearm_eq (p : PollerLifetime) :
    p.rearm = { p with
      timer := p.rearm.timer
      armed := p.rearm.armed
      nextTimer := p.rearm.nextTimer } := by
  rw [rearm]
  split <;> rfl

/-- The wrapper ends last. -/
theorem sound_endTick (h : Sound p) {wrapper : Wrapper} (hwrapper : p.wrapper = some wrapper) :
    Sound p.endTick := by
  have howned := h.owned_eq
  have hlength : p.work.length = p.sweeps.length + 1 := by
    simp only [work, hwrapper, Option.toList_some, List.map_cons, List.map_nil, List.length_append,
      List.length_cons, List.length_nil, List.length_map]
    omega
  rw [endTick, rearm_eq]
  refine
    { owned_eq := ?_
      running_eq := rfl
      generation_le := fun _ hnone => by cases hnone
      generation_lt := fun _ _ hnone => by cases hnone
      joins := h.joins.release ?_ fun hempty => ?_ }
  · simp only [resolveDrainIfIdle, work, Option.toList_none, List.map_nil, List.nil_append,
      List.length_map]
    omega
  · change p.ownedLifecycles - 1 = 0 ↔ p.sweeps.map BackgroundWork.sweep = []
    rw [← List.length_eq_zero_iff, List.length_map]
    omega
  · rw [hempty] at hlength
    cases hlength

theorem sound_resumeTick (h : Sound p) (hasProbe : Bool) : Sound (p.resumeTick hasProbe) := by
  rw [resumeTick]
  split
  · rename_i generation outcome hwrapper
    split
    · exact sound_endTick h hwrapper
    · rename_i hgeneration
      split
      · have hle := h.generation_le _ hwrapper
        have hopen : p.schedulingStopped = false := by
          by_contra hstopped
          have hlt := h.generation_lt (by simpa using hstopped) _ hwrapper
          exact hgeneration (by simp only at hlt; omega)
        exact
          { owned_eq := by
              have howned := h.owned_eq
              simp only [work, hwrapper] at howned ⊢
              exact howned
            running_eq := by
              rw [h.running_eq, hwrapper]
              rfl
            generation_le := fun wrapper hsome => by
              cases hsome
              exact hle
            generation_lt := fun hstopped => by
              rw [hopen] at hstopped
              cases hstopped
            joins := h.joins.acquire hopen }
      · exact sound_endTick h hwrapper
  · rename_i hwrapper
    exact sound_endTick h hwrapper
  · exact h

theorem sound_endProbe (h : Sound p) : Sound p.endProbe := by
  rw [endProbe]
  split
  · rename_i hwrapper
    exact sound_endTick h hwrapper
  · exact h

theorem sound_step (h : Sound p) (hasProbe : Bool) (event : Event) :
    Sound (p.step hasProbe event) := by
  cases event with
  | start => exact sound_start h
  | stop => exact sound_stop h
  | stopScheduling => exact sound_stopScheduling h
  | drain => exact sound_drain h
  | runOnce => exact sound_runOnce h
  | request sweep =>
      simp only [step, request]
      split
      · split
        · exact h
        · exact { h with }
      · exact h
  | endSweep sweep result =>
      simp only [step]
      split
      · rename_i hmem
        exact sound_endSweep h hmem result
      · exact h
  | resumeTick => exact sound_resumeTick h hasProbe
  | endProbe => exact sound_endProbe h
  | fire handle =>
      simp only [step]
      split
      · exact sound_tick { h with }
      · exact h

/-! ## Behind the fence -/

/-- What stays as it is behind the fence. -/
structure Behind (p p' : PollerLifetime) : Prop where
  stopped : p'.schedulingStopped = true
  begun : p'.begun = p.begun
  asked : p.drainPromise ≠ .absent → p'.drainPromise ≠ .absent

theorem Behind.refl (hstopped : p.schedulingStopped = true) : Behind p p := ⟨hstopped, rfl, id⟩

theorem drain_stopped (p : PollerLifetime) : p.drain.schedulingStopped = true :=
  p.stopScheduling_stopped

end PollerLifetime

end RoundWatch
