import RoundWatch.Lifetimes.Shutdown

/-!
# Startup beside shutdown

The process: its resources are made, `startProductionRuntime` starts one thing after the
other, and signals, the server and every failure go to the one shutdown coordinator.

* `Process` — the coordinator, where the startup is, and what it has started, in order;
* `begin` — a start, which the code asks `isStopping` for;
* `Event`, `step` — what can happen next: a callback of the startup ends, the server
  listens or fails, the coordinator moves, the result of the shutdown is reported;
* `startup_fenced` — **nothing is started once the shutdown has begun**, and when the store
  is closed everything that was started is at rest.

The schedule is freer than the event loop: the coordinator may move while the startup is
inside a callback.
-/

namespace RoundWatch

variable {ε : Type}

/-- What is started, in order. -/
inductive Start where
  | initializePayments
  | createServer
  | listen
  | reconciler
  | poller
  | runtimeSampler
  | onListening
  deriving DecidableEq, Repr

/-- The order of the starts. -/
def startOrder : List Start :=
  [.initializePayments, .createServer, .listen, .reconciler, .poller, .runtimeSampler, .onListening]

/-- What is registered with the coordinator, in order. -/
def owners : List ShutdownOwner := [.dispatcher, .healthProbe, .poller, .reconciler]

/-- Where the startup is. -/
inductive StartupPoint where
  /-- It makes an owner, with the ones behind it. -/
  | constructing (owner : ShutdownOwner) (rest : List ShutdownOwner)
  /-- It makes what is left to make. -/
  | preparing
  /-- Inside the callback of a start; for the payments, until their promise settles. -/
  | within (start : Start)
  /-- Behind `server.listen`. -/
  | awaitingListening
  | ended
  deriving DecidableEq, Repr

structure Process (ε : Type) where
  coordinator : Coordinator ε
  startup : StartupPoint
  /-- `background`. -/
  registered : List ShutdownOwner
  /-- `server` is set. -/
  server : Bool
  /-- Whether it was when `closeServer` was called. -/
  closeSaw : Option Bool
  starts : List Start
  /-- `process.exitCode`. -/
  exitCode : Option ℕ

namespace Process

/-- The process when the coordinator has been made. -/
def create : Process ε where
  coordinator := .create
  startup := .constructing .dispatcher [.healthProbe, .poller, .reconciler]
  registered := []
  server := false
  closeSaw := none
  starts := []
  exitCode := none

/-- `coordinator.isStopping()`. -/
def isStopping (p : Process ε) : Bool := p.coordinator.point != .idle

/-- The coordinator moves; `closeServer` reads `server`. -/
def turn (p : Process ε) (e : Coordinator.Event ε) : Process ε :=
  let coordinator := p.coordinator.step e
  { p with
    coordinator := coordinator
    closeSaw :=
      if coordinator.point = .closing ∧ p.coordinator.point ≠ .closing then some p.server
      else p.closeSaw }

/-- A start, unless the process is stopping. -/
def begin (p : Process ε) (s : Start) : Process ε :=
  if p.isStopping then { p with startup := .ended }
  else { p with starts := p.starts ++ [s], startup := .within s }

/-- The `catch` of the startup. -/
def fail (p : Process ε) (error : ShutdownError ε) : Process ε :=
  { p.turn (.shutdown (some error)) with startup := .ended }

/-- An owner is made and registered. -/
def register (p : Process ε) (owner : ShutdownOwner) (rest : List ShutdownOwner) : Process ε :=
  { p with
    registered := p.registered ++ [owner]
    startup :=
      match rest with
      | [] => .preparing
      | next :: rest => .constructing next rest }

/-- The callback that the startup is in returns. -/
def returned (p : Process ε) : Process ε :=
  match p.startup with
  | .constructing owner rest => p.register owner rest
  | .preparing => p.begin .initializePayments
  | .within .initializePayments => p.begin .createServer
  | .within .createServer => { p with server := true }.begin .listen
  | .within .listen => { p with startup := .awaitingListening }
  | .within .reconciler => p.begin .poller
  | .within .poller => p.begin .runtimeSampler
  | .within .runtimeSampler => p.begin .onListening
  | .within .onListening => { p with startup := .ended }
  | .awaitingListening => p
  | .ended => p

/-- It throws, or the promise of the payments is rejected. -/
def threw (p : Process ε) (error : ShutdownError ε) : Process ε :=
  match p.startup with
  | .awaitingListening => p
  | .ended => p
  | _ => p.fail error

/-- The result of a shutdown. -/
def resultOf : Happening ε → Option (ShutdownResult ε)
  | .resolved result => some result
  | _ => none

inductive Event (ε : Type) where
  /-- The coordinator moves: a signal, a callback of it, a lifetime, the deadline. -/
  | coordinator (e : Coordinator.Event ε)
  | returned
  | threw (error : ShutdownError ε)
  /-- The server emits `listening`. -/
  | listening
  /-- The server emits `error`. -/
  | serverError (error : ShutdownError ε)
  /-- The callback behind a call of `shutdown`: `setExitCode(result.exitCode)`. -/
  | report

def step (p : Process ε) : Event ε → Process ε
  | .coordinator e => p.turn e
  | .returned => p.returned
  | .threw error => p.threw error
  | .listening => if p.startup = .awaitingListening then p.begin .reconciler else p
  | .serverError error => if p.server then p.turn (.shutdown (some error)) else p
  | .report =>
      match p.coordinator.log.findSome? resultOf with
      | none => p
      | some result => { p with exitCode := some result.exitCode }

/-- The process after a list of events. -/
def after (es : List (Event ε)) : Process ε := Runs.run step create es

/-! ## The coordinator -/

variable {c : Coordinator ε} {p : Process ε}

/-- A later state of a coordinator: what happened has happened, and it is not idle again. -/
def Succeeds (c c' : Coordinator ε) : Prop :=
  (c.point ≠ .idle → c'.point ≠ .idle) ∧ ∀ h ∈ c.log, h ∈ c'.log

theorem Succeeds.refl (c : Coordinator ε) : Succeeds c c := ⟨id, fun _ => id⟩

theorem Succeeds.trans {c₁ c₂ c₃ : Coordinator ε} (h : Succeeds c₁ c₂) (h' : Succeeds c₂ c₃) :
    Succeeds c₁ c₃ :=
  ⟨fun hpoint => h'.1 (h.1 hpoint), fun x hx => h'.2 x (h.2 x hx)⟩

theorem Succeeds.goTo {c' : Coordinator ε} (h : Succeeds c c') {point : Point}
    (hpoint : point ≠ .idle) : Succeeds c (c'.goTo point) :=
  ⟨fun _ => hpoint, h.2⟩

theorem Succeeds.note {c' : Coordinator ε} (h : Succeeds c c') (x : Happening ε) :
    Succeeds c (c'.note x) :=
  ⟨h.1, fun y hy => List.mem_cons_of_mem _ (h.2 y hy)⟩

theorem succeeds_recordThrown (c : Coordinator ε) (thrown : Option (ShutdownError ε)) :
    Succeeds c (c.recordThrown thrown) := by
  cases thrown with
  | none => exact .refl c
  | some error => exact (Succeeds.refl c).note _

theorem succeeds_endFence (c : Coordinator ε) (fence : AdmissionFence)
    (thrown : Option (ShutdownError ε)) : Succeeds c (c.endFence fence thrown) := by
  cases thrown with
  | none => exact (Succeeds.refl c).note _
  | some error => exact ⟨id, fun x hx => List.mem_cons_of_mem _ (List.mem_cons_of_mem _ hx)⟩

theorem succeeds_own (c : Coordinator ε) (owner : ShutdownOwner)
    (thrown : Option (ShutdownError ε)) : Succeeds c (c.own owner thrown) := by
  cases thrown <;> exact ⟨id, fun x hx => List.mem_cons_of_mem _ hx⟩

theorem succeeds_install (c : Coordinator ε) (thrown : Option (ShutdownError ε)) :
    Succeeds c (c.install thrown) := by
  cases thrown with
  | none => exact ⟨id, fun _ => id⟩
  | some error => exact ⟨id, fun x hx => List.mem_cons_of_mem _ hx⟩

theorem succeeds_terminate (c : Coordinator ε) (status : ShutdownStatus) :
    Succeeds c (c.terminate status) := by
  rw [Coordinator.terminate]
  split
  · exact (Succeeds.refl c).goTo (by simp)
  · exact ⟨fun _ => by simp, fun _ => id⟩

theorem succeeds_finishShutdown (c : Coordinator ε) : Succeeds c c.finishShutdown := by
  rw [Coordinator.finishShutdown]
  split
  · exact succeeds_terminate c _
  · exact (Succeeds.refl c).goTo (by simp)

theorem succeeds_closeOrTerminate (c : Coordinator ε) : Succeeds c c.closeOrTerminate := by
  rw [Coordinator.closeOrTerminate]
  split
  · exact succeeds_terminate c _
  · exact ((Succeeds.refl c).note _).goTo (by simp)

theorem succeeds_finishDrained (c : Coordinator ε) : Succeeds c c.finishDrained :=
  ((Succeeds.refl c).note _).goTo (by simp)

theorem succeeds_endCloseStore (c : Coordinator ε) (thrown : Option (ShutdownError ε)) :
    Succeeds c (c.endCloseStore thrown) := by
  have hrecorded := succeeds_recordThrown c thrown
  have hcompleted : Succeeds c { c.recordThrown thrown with completed := true } := hrecorded
  rw [Coordinator.endCloseStore]
  split
  · exact hcompleted.goTo (by simp)
  · exact hcompleted.trans (succeeds_finishDrained _)

theorem succeeds_resume (c : Coordinator ε) (thrown : Option (ShutdownError ε)) :
    Succeeds c (c.resume thrown) := by
  rw [Coordinator.resume.eq_def]
  split
  · exact .refl c
  · exact (succeeds_endFence c _ thrown).goTo (by simp)
  · exact (succeeds_endFence c _ thrown).goTo (by simp)
  · exact (succeeds_own c _ thrown).goTo (by simp)
  · exact (succeeds_install c thrown).goTo (by simp)
  · exact (succeeds_own c _ thrown).goTo (by simp)
  · exact (succeeds_own c _ thrown).trans (succeeds_finishShutdown _)
  · exact .refl c
  · cases thrown with
    | none => exact succeeds_closeOrTerminate { c with armed := false }
    | some error =>
        exact ((Succeeds.refl c).note _).trans (succeeds_closeOrTerminate (c.record error))
  · exact succeeds_endCloseStore c thrown
  · exact (succeeds_recordThrown c thrown).trans (succeeds_finishDrained _)
  · exact (((succeeds_recordThrown c thrown).note _).note _).goTo (by simp)
  · cases thrown <;> exact (Succeeds.refl c).goTo (by simp)
  · exact (succeeds_recordThrown c thrown).goTo (by simp)

theorem succeeds_shutdown (c : Coordinator ε) (error : Option (ShutdownError ε)) :
    Succeeds c (c.shutdown error) := by
  rw [Coordinator.shutdown.eq_def]
  split
  · exact ⟨fun _ => by simp, (succeeds_recordThrown c error).2⟩
  · cases error with
    | none => exact .refl c
    | some error =>
        dsimp only
        split
        · exact .refl c
        · exact succeeds_recordThrown c (some error)

theorem succeeds_settle (c : Coordinator ε) (owner : ShutdownOwner) (how : LifetimeEnd ε) :
    Succeeds c (c.settle owner how) := by
  cases how with
  | fulfilled => exact ⟨id, fun x hx => List.mem_cons_of_mem _ hx⟩
  | rejected error => exact ⟨id, fun x hx => List.mem_cons_of_mem _ (List.mem_cons_of_mem _ hx)⟩

theorem succeeds_join (c : Coordinator ε) : Succeeds c c.join := by
  have hjoined : Succeeds c { c with joined := true } := .refl c
  rw [Coordinator.join]
  split
  · exact hjoined
  · split
    · exact hjoined.goTo (by simp)
    · exact hjoined.trans (succeeds_closeOrTerminate _)

/-- **The step lemma of the coordinator.** -/
theorem succeeds_step (c : Coordinator ε) (e : Coordinator.Event ε) : Succeeds c (c.step e) := by
  cases e with
  | shutdown error => exact succeeds_shutdown c error
  | resume thrown =>
      rw [Coordinator.step]
      split
      · exact succeeds_resume c thrown
      · exact .refl c
  | endReport thrown =>
      rw [Coordinator.step]
      split
      · exact succeeds_recordThrown c thrown
      · exact .refl c
  | settle owner how =>
      rw [Coordinator.step]
      split
      · split
        · exact succeeds_settle c owner how
        · exact succeeds_settle c owner _
        · exact .refl c
      · exact .refl c
  | join =>
      rw [Coordinator.step]
      split
      · exact succeeds_join c
      · exact .refl c
  | fireDeadline =>
      rw [Coordinator.step]
      split
      · exact (((Succeeds.refl c).note .deadlineFired).trans
          (succeeds_terminate (({ c with armed := false } : Coordinator ε).note _) _))
      · exact .refl c

/-- Where `closeServer` has not been called. -/
def beforeClose : Point → Bool
  | .idle => true
  | .fencing .. => true
  | _ => false

/-- `closeServer` is what comes behind the fences. -/
theorem beforeClose_step (h : beforeClose c.point = true) (e : Coordinator.Event ε) :
    beforeClose (c.step e).point = true ∨ (c.step e).point = .closing := by
  have hbusy : ¬ c.quiescent := fun hquiet => by
    rw [hquiet.1] at h
    cases h
  have hrecorded : ∀ thrown, (c.recordThrown thrown).point = c.point := fun thrown => by
    cases thrown <;> rfl
  cases e with
  | shutdown error =>
      refine Or.inl ?_
      rw [Coordinator.step, Coordinator.shutdown.eq_def]
      split
      · rfl
      · cases error with
        | none => exact h
        | some error =>
            dsimp only
            split <;> exact h
  | resume thrown =>
      rw [Coordinator.step]
      split
      · cases hpoint : c.point with
        | idle =>
            rw [Coordinator.resume.eq_def, hpoint]
            exact Or.inl h
        | fencing fence rest =>
            rw [Coordinator.resume.eq_def, hpoint]
            cases rest with
            | nil => exact Or.inr rfl
            | cons next rest => exact Or.inl rfl
        | _ =>
            rw [hpoint] at h
            cases h
      · exact Or.inl h
  | endReport thrown =>
      refine Or.inl ?_
      rw [Coordinator.step]
      split
      · show beforeClose (c.recordThrown thrown).point = true
        rw [hrecorded]
        exact h
      · exact h
  | settle owner how =>
      rw [Coordinator.step, if_neg hbusy]
      exact Or.inl h
  | join =>
      rw [Coordinator.step, if_neg fun hready => hbusy hready.1]
      exact Or.inl h
  | fireDeadline =>
      rw [Coordinator.step, if_neg fun hready => hbusy hready.1]
      exact Or.inl h

/-! ## The startup -/

/-- What has been registered and started, by where the startup is. -/
def Reached : StartupPoint → List ShutdownOwner → List Start → Prop
  | .constructing owner rest, registered, starts =>
      registered ++ owner :: rest = owners ∧ starts = []
  | .preparing, registered, starts => registered = owners ∧ starts = []
  | .within start, registered, starts =>
      registered = owners ∧ starts = startOrder.take (startOrder.idxOf start + 1)
  | .awaitingListening, registered, starts =>
      registered = owners ∧ starts = startOrder.take (startOrder.idxOf .listen + 1)
  | .ended, registered, starts => starts <+: startOrder ∧ (starts ≠ [] → registered = owners)

/-- Wherever the startup is, it may end. -/
theorem Reached.ended {startup : StartupPoint} {registered : List ShutdownOwner}
    {starts : List Start} (h : Reached startup registered starts) :
    Reached .ended registered starts := by
  cases startup with
  | constructing owner rest =>
      rw [h.2]
      exact ⟨List.nil_prefix, fun hne => absurd rfl hne⟩
  | preparing => exact ⟨h.2 ▸ List.nil_prefix, fun _ => h.1⟩
  | within start => exact ⟨h.2 ▸ List.take_prefix _ _, fun _ => h.1⟩
  | awaitingListening => exact ⟨h.2 ▸ List.take_prefix _ _, fun _ => h.1⟩
  | ended => exact h

/-- The invariant of the process. -/
structure Staged (p : Process ε) : Prop where
  placed : p.coordinator.Placed
  reached : Reached p.startup p.registered p.starts
  server : .listen ∈ p.starts → p.server = true
  unclosed : p.closeSaw = none → beforeClose p.coordinator.point = true
  stopping : p.closeSaw ≠ none → p.isStopping = true
  closed : p.closeSaw = some false → .listen ∉ p.starts
  exit : ∀ code, p.exitCode = some code →
    ∃ result, .resolved result ∈ p.coordinator.log ∧ code = result.exitCode

theorem staged_create : Staged (create : Process ε) where
  placed := Coordinator.placed_create
  reached := ⟨rfl, rfl⟩
  server := nofun
  unclosed _ := rfl
  stopping h := absurd rfl h
  closed := nofun
  exit := nofun

theorem isStopping_iff : p.isStopping = true ↔ p.coordinator.point ≠ .idle := by
  simp [isStopping]

/-- Stopping is for good. -/
theorem isStopping_turn (h : p.isStopping = true) (e : Coordinator.Event ε) :
    (p.turn e).isStopping = true :=
  isStopping_iff.mpr ((succeeds_step p.coordinator e).1 (isStopping_iff.mp h))

theorem staged_turn (h : Staged p) (e : Coordinator.Event ε) : Staged (p.turn e) := by
  have hclosing : ∀ b, (p.turn e).closeSaw = some b →
      p.closeSaw = some b ∨ ((p.turn e).coordinator.point = .closing ∧ p.server = b) := by
    intro b hsaw
    by_cases hnow : (p.coordinator.step e).point = .closing ∧ p.coordinator.point ≠ .closing
    · exact Or.inr ⟨hnow.1, by simpa [turn, hnow] using hsaw⟩
    · exact Or.inl (by simpa [turn, hnow] using hsaw)
  refine
    { placed := Coordinator.placed_step p.coordinator e h.placed
      reached := h.reached
      server := h.server
      unclosed := fun hnone => ?_
      stopping := fun hsome => ?_
      closed := fun hsaw hlisten => ?_
      exit := fun code hcode => ?_ }
  · by_cases hnow : (p.coordinator.step e).point = .closing ∧ p.coordinator.point ≠ .closing
    · simp [turn, hnow] at hnone
    · have hbefore := h.unclosed (by simpa [turn, hnow] using hnone)
      rcases beforeClose_step hbefore e with hbefore' | hclose
      · exact hbefore'
      · refine absurd ⟨hclose, fun hsame => ?_⟩ hnow
        rw [hsame] at hbefore
        cases hbefore
  · obtain ⟨b, hsaw⟩ := Option.ne_none_iff_exists'.mp hsome
    rcases hclosing b hsaw with hbefore | ⟨hpoint, -⟩
    · exact isStopping_turn (h.stopping (by simp [hbefore])) e
    · rw [isStopping_iff, hpoint]
      exact nofun
  · rcases hclosing false hsaw with hbefore | ⟨-, hserver⟩
    · exact h.closed hbefore hlisten
    · rw [h.server hlisten] at hserver
      cases hserver
  · obtain ⟨result, hmem, heq⟩ := h.exit code hcode
    exact ⟨result, (succeeds_step p.coordinator e).2 _ hmem, heq⟩

theorem staged_ended (h : Staged p) : Staged { p with startup := .ended } :=
  { h with reached := h.reached.ended }

/-- A start that follows the ones before it. -/
theorem staged_begin (h : Staged p) {s : Start} (hregistered : p.registered = owners)
    (hstarts : p.starts ++ [s] = startOrder.take (startOrder.idxOf s + 1))
    (hserver : s = .listen → p.server = true) : Staged (p.begin s) := by
  rw [begin]
  split
  · exact staged_ended h
  · rename_i hgoing
    have hunclosed : p.closeSaw = none := by
      by_contra hsome
      exact hgoing (h.stopping hsome)
    exact
      { h with
        reached := ⟨hregistered, hstarts⟩
        server := fun hlisten => by
          rcases List.mem_append.mp hlisten with hbefore | hnow
          · exact h.server hbefore
          · exact hserver (List.mem_singleton.mp hnow).symm
        closed := fun hsaw => by
          rw [show p.closeSaw = some false from hsaw] at hunclosed
          cases hunclosed }

/-- One start follows the other. -/
theorem staged_next (h : Staged p) {s next : Start} (hpoint : p.startup = .within s)
    (hnext : startOrder.take (startOrder.idxOf s + 1) ++ [next] =
      startOrder.take (startOrder.idxOf next + 1))
    (hserver : next = .listen → p.server = true) : Staged (p.begin next) := by
  have hreached := h.reached
  rw [hpoint] at hreached
  exact staged_begin h hreached.1 (hreached.2 ▸ hnext) hserver

theorem staged_register (h : Staged p) {owner : ShutdownOwner} {rest : List ShutdownOwner}
    (hpoint : p.startup = .constructing owner rest) : Staged (p.register owner rest) := by
  have hreached := h.reached
  rw [hpoint] at hreached
  obtain ⟨hregistered, hnone⟩ := hreached
  refine { h with reached := ?_ }
  cases rest with
  | nil => exact ⟨hregistered, hnone⟩
  | cons next rest => exact ⟨(List.append_assoc ..).trans hregistered, hnone⟩

theorem staged_fail (h : Staged p) (error : ShutdownError ε) : Staged (p.fail error) :=
  staged_ended (staged_turn h _)

theorem staged_returned (h : Staged p) : Staged p.returned := by
  rw [returned.eq_def]
  split
  next owner rest hpoint => exact staged_register h hpoint
  next hpoint =>
    have hreached := h.reached
    rw [hpoint] at hreached
    refine staged_begin h hreached.1 ?_ nofun
    rw [hreached.2]
    rfl
  next hpoint => exact staged_next h hpoint rfl nofun
  next hpoint =>
    have hcreated : Staged { p with server := true } := { h with server := fun _ => rfl }
    exact staged_next hcreated hpoint rfl fun _ => rfl
  next hpoint =>
    have hreached := h.reached
    rw [hpoint] at hreached
    exact { h with reached := hreached }
  next hpoint => exact staged_next h hpoint rfl nofun
  next hpoint => exact staged_next h hpoint rfl nofun
  next hpoint => exact staged_next h hpoint rfl nofun
  next => exact staged_ended h
  next => exact h
  next => exact h

/-- **The step lemma.** -/
theorem staged_step (p : Process ε) (e : Event ε) (h : Staged p) : Staged (step p e) := by
  cases e with
  | coordinator e => exact staged_turn h e
  | returned => exact staged_returned h
  | threw error =>
      rw [step, threw.eq_def]
      split
      · exact h
      · exact h
      · exact staged_fail h error
  | listening =>
      rw [step]
      split
      next hpoint =>
        have hreached := h.reached
        rw [hpoint] at hreached
        exact staged_begin h hreached.1 (hreached.2 ▸ rfl) nofun
      next => exact h
  | serverError error =>
      rw [step]
      split
      · exact staged_turn h _
      · exact h
  | report =>
      rw [step]
      split
      next => exact h
      next result hfound =>
        refine { h with exit := fun code hcode => ⟨result, ?_, ?_⟩ }
        · obtain ⟨x, hmem, hx⟩ := List.exists_of_findSome?_eq_some hfound
          cases x with
          | resolved result' =>
              rw [← Option.some.inj hx]
              exact hmem
          | _ => cases hx
        · exact (Option.some.inj hcode).symm

/-- **The run lemma.** -/
theorem staged_after (es : List (Event ε)) : Staged (after es) :=
  Runs.run_invariant' staged_step es staged_create

/-! ## Nothing starts behind the shutdown -/

/-- The same starts, and stopping. -/
def StoppedWith (starts : List Start) (p : Process ε) : Prop :=
  p.isStopping = true ∧ p.starts = starts

theorem stopped_begin {starts : List Start} (h : StoppedWith starts p) (s : Start) :
    StoppedWith starts (p.begin s) := by
  rw [begin, if_pos h.1]
  exact h

theorem stopped_turn {starts : List Start} (h : StoppedWith starts p)
    (e : Coordinator.Event ε) : StoppedWith starts (p.turn e) :=
  ⟨isStopping_turn h.1 e, h.2⟩

theorem stopped_returned {starts : List Start} (h : StoppedWith starts p) :
    StoppedWith starts p.returned := by
  have hserver : StoppedWith starts { p with server := true } := h
  rw [returned.eq_def]
  split <;> first | exact stopped_begin h _ | exact stopped_begin hserver _ | exact h

/-- A stopping process starts nothing. -/
theorem stopped_step {starts : List Start} (p : Process ε) (e : Event ε)
    (h : StoppedWith starts p) : StoppedWith starts (step p e) := by
  cases e with
  | coordinator e => exact stopped_turn h e
  | returned => exact stopped_returned h
  | threw error =>
      rw [step, threw.eq_def]
      split
      · exact h
      · exact h
      · exact stopped_turn h _
  | listening =>
      rw [step]
      split
      · exact stopped_begin h _
      · exact h
  | serverError error =>
      rw [step]
      split
      · exact stopped_turn h _
      · exact h
  | report =>
      rw [step]
      split <;> exact h

/-- Behind the close of the store `closeServer` has been called. -/
theorem Staged.closeSaw_of_storeClosed (h : Staged p)
    (hclosed : .storeClosed ∈ p.coordinator.log) (hlisten : .listen ∈ p.starts) :
    p.closeSaw = some true := by
  have hends : .storeClosed ∈ p.coordinator.ends := (mem_ends rfl).mp hclosed
  cases hsaw : p.closeSaw with
  | none =>
      have hbefore := h.unclosed hsaw
      have hearly : p.coordinator.point.early = true := by
        cases hpoint : p.coordinator.point <;> rw [hpoint] at hbefore <;>
          first | rfl | cases hbefore
      rw [(h.placed.ends.of_early hearly).2] at hends
      cases hends
  | some b =>
      cases b with
      | true => rfl
      | false => exact absurd hlisten (h.closed hsaw)

/-- **Nothing is started behind the shutdown.**  Whatever fails, and whenever a signal comes,
what has been started is the first part of one fixed order, with every owner registered
first; once the process is stopping, nothing more is started, whatever callback of the
startup still returns.  When the store is closed, all fences have returned and all owners
have settled, and if the server was told to listen then it was that server that was closed.
The exit code is the one of the result of the shutdown. -/
theorem startup_fenced (es es' : List (Event ε)) :
    let p := after es
    p.starts <+: startOrder ∧ (p.starts ≠ [] → p.registered = owners) ∧
      (p.isStopping = true → (after (es ++ es')).starts = p.starts) ∧
      (∀ later earlier, p.coordinator.log = later ++ .storeClosed :: earlier →
        MayClose earlier ∧ (.listen ∈ p.starts → p.closeSaw = some true)) ∧
      ∀ code, p.exitCode = some code →
        ∃ result, .resolved result ∈ p.coordinator.log ∧ code = result.exitCode := by
  intro p
  have hstaged : Staged p := staged_after es
  obtain ⟨hfirst, hregistered⟩ := hstaged.reached.ended
  refine ⟨hfirst, hregistered, fun hstop => ?_, fun later earlier hlog => ⟨?_, ?_⟩,
    hstaged.exit⟩
  · have hlater : StoppedWith p.starts (Runs.run step p es') :=
      Runs.run_invariant' stopped_step es' ⟨hstop, rfl⟩
    rw [after, Runs.run_append]
    exact hlater.2
  · exact hstaged.placed.history later _ earlier hlog
  · refine hstaged.closeSaw_of_storeClosed ?_
    rw [hlog]
    exact List.mem_append_right _ (List.mem_cons_self ..)

/-- A signal while the poller starts: the sampler is not started. -/
example :
    (after (List.replicate 8 .returned ++
      [.listening, .returned, .coordinator (.shutdown none), .returned]) : Process ℕ).starts =
      startOrder.take 5 := by
  decide

end Process

end RoundWatch
