import RoundWatch.Foundation.Runs

/-!
# The shutdown coordinator

`createShutdownCoordinator`: one terminal fence and one join for all owners, with a
deadline.  Everything it calls may throw or call `shutdown` again, so `Point` is where
the code is inside a callback, and the environment says how the callback ends.

* `Coordinator` — the variables of the closure, where control is, what the owners handed
  over, and `log`, what has happened (latest first);
* `shutdown`, `resume`, `settle`, `join`, `fireDeadline` — the stretches of code from one
  callback to the next;
* `closeNodeServer` — how the promise of the server's close settles;
* `Event`, `step` — what can happen next.
-/

namespace RoundWatch

/-- What is fenced, in order; a deployment without a sampler has nothing to stop there. -/
inductive AdmissionFence where
  | application
  | facilitator
  | poller
  | reconciler
  | healthProbe
  | dispatcher
  | runtimeSampler
  deriving DecidableEq, Repr

/-- What is joined, in order. -/
inductive ShutdownOwner where
  | server
  | application
  | facilitator
  | poller
  | reconciler
  | healthProbe
  | dispatcher
  deriving DecidableEq, Repr

/-- What is thrown or rejected with. -/
inductive ShutdownError (ε : Type) where
  /-- `IncompleteServerClose`. -/
  | incompleteServerClose (cause : ε)
  | other (error : ε)
  deriving DecidableEq, Repr

/-- `error instanceof IncompleteServerClose`. -/
def ShutdownError.isIncompleteServerClose {ε : Type} : ShutdownError ε → Bool
  | .incompleteServerClose _ => true
  | .other _ => false

/-- How a lifetime settles. -/
inductive LifetimeEnd (ε : Type) where
  | fulfilled
  | rejected (error : ShutdownError ε)
  deriving DecidableEq, Repr

/-- What `server.close` does first: it throws, or it calls back, with an error if there is
one; an error can be `ERR_SERVER_NOT_RUNNING`. -/
inductive NodeServerClose (ε : Type) where
  | throws (notRunning : Bool) (error : ε)
  | callsBack (error : Option (Bool × ε))
  deriving DecidableEq, Repr

/-- `closeNodeServer`. -/
def closeNodeServer {ε : Type} : NodeServerClose ε → LifetimeEnd ε
  | .throws true _ => .fulfilled
  | .throws false error => .rejected (.incompleteServerClose error)
  | .callsBack none => .fulfilled
  | .callsBack (some (true, _)) => .fulfilled
  | .callsBack (some (false, error)) => .rejected (.other error)

/-- What `own` holds of an owner. -/
inductive Lifetime (ε : Type) where
  | unasked
  /-- The promise the owner handed over. -/
  | running
  /-- `Promise.reject(ownerError)`, where the owner threw. -/
  | withheld (error : ShutdownError ε)
  | settled
  deriving DecidableEq, Repr

def Lifetime.isSettled {ε : Type} : Lifetime ε → Bool
  | .settled => true
  | _ => false

inductive ShutdownStatus where
  | drained
  | deadlineExceeded
  | ownershipFailed
  deriving DecidableEq, Repr

structure ShutdownResult (ε : Type) where
  status : ShutdownStatus
  exitCode : ℕ
  errors : List (ShutdownError ε)
  deriving DecidableEq, Repr

/-- Where control is. -/
inductive Point where
  /-- `shutdown` has not been called. -/
  | idle
  /-- Inside the callback of a fence, with the ones behind it. -/
  | fencing (fence : AdmissionFence) (rest : List AdmissionFence)
  /-- Inside `closeServer`. -/
  | closing
  /-- Inside `timers.setTimeout`. -/
  | installing
  /-- Inside the `drain` of an owner, with the ones behind it. -/
  | draining (owner : ShutdownOwner) (rest : List ShutdownOwner)
  /-- Nothing of the coordinator is on the call stack. -/
  | waiting
  /-- Inside `timers.clearTimeout`. -/
  | clearing
  /-- Inside `closeStore`. -/
  | closingStore
  /-- Inside the `report` in front of a drained result. -/
  | reportingErrors
  /-- Inside the `report` in front of a termination. -/
  | reportingTermination (status : ShutdownStatus)
  /-- Inside `dependencies.terminate`. -/
  | terminating
  /-- Inside the `report` of a termination that threw. -/
  | reportingFailure
  deriving DecidableEq, Repr

/-- One thing that happened. -/
inductive Happening (ε : Type) where
  /-- A fence returned. -/
  | fenced (fence : AdmissionFence)
  | fenceFailed (fence : AdmissionFence)
  /-- `closeServer` or `drain` returned a promise. -/
  | handedOver (owner : ShutdownOwner)
  /-- It threw. -/
  | withheld (owner : ShutdownOwner)
  | settled (owner : ShutdownOwner) (how : LifetimeEnd ε)
  | deadlineFired
  /-- `errors.push`. -/
  | recorded (error : ShutdownError ε)
  /-- `closeStore` was called. -/
  | storeClosed
  /-- `dependencies.terminate` was called. -/
  | terminated
  /-- `resolveShutdown` was called. -/
  | resolved (result : ShutdownResult ε)
  deriving DecidableEq, Repr

structure Coordinator (ε : Type) where
  errors : List (ShutdownError ε)
  completed : Bool
  pending : List ShutdownOwner
  ownershipUnproven : Bool
  deadlineInstalled : Bool
  deadlineInstallationFailed : Bool
  point : Point
  /-- The calls of `report` on the call stack for a `shutdown` that was called again. -/
  reports : ℕ
  /-- The event loop will still run the deadline. -/
  armed : Bool
  lifetimes : ShutdownOwner → Lifetime ε
  /-- The callback of `allSettled` has run. -/
  joined : Bool
  log : List (Happening ε)

namespace Coordinator

variable {ε : Type}

/-- `createShutdownCoordinator`. -/
def create : Coordinator ε where
  errors := []
  completed := false
  pending := []
  ownershipUnproven := false
  deadlineInstalled := false
  deadlineInstallationFailed := false
  point := .idle
  reports := 0
  armed := false
  lifetimes := fun _ => .unasked
  joined := false
  log := []

def goTo (c : Coordinator ε) (point : Point) : Coordinator ε := { c with point := point }

def note (c : Coordinator ε) (h : Happening ε) : Coordinator ε := { c with log := h :: c.log }

/-- `errors.push`. -/
def record (c : Coordinator ε) (error : ShutdownError ε) : Coordinator ε :=
  { c with errors := c.errors ++ [error], log := .recorded error :: c.log }

/-- The end of `report`: what the sink throws is recorded. -/
def recordThrown (c : Coordinator ε) : Option (ShutdownError ε) → Coordinator ε
  | none => c
  | some error => c.record error

/-! ## The two ends -/

/-- `resolveShutdown`. -/
def resolveShutdown (c : Coordinator ε) (status : ShutdownStatus) (exitCode : ℕ) :
    Coordinator ε :=
  c.note (.resolved ⟨status, exitCode, c.errors⟩)

/-- `terminate`, up to its `report`. -/
def terminate (c : Coordinator ε) (status : ShutdownStatus) : Coordinator ε :=
  if c.completed then c.goTo .waiting
  else { c with completed := true, point := .reportingTermination status }

/-- `terminate` behind its `report`, up to the call of `dependencies.terminate`. -/
def callTerminate (c : Coordinator ε) (status : ShutdownStatus) : Coordinator ε :=
  ((c.resolveShutdown status 1).note .terminated).goTo .terminating

/-- The callback of `allSettled` behind `closeStore`. -/
def finishDrained (c : Coordinator ε) : Coordinator ε :=
  (c.resolveShutdown .drained (if 0 < c.errors.length then 1 else 0)).goTo .waiting

/-! ## `shutdown` -/

/-- The fences in order. -/
def fences : List AdmissionFence :=
  [.facilitator, .poller, .reconciler, .healthProbe, .dispatcher, .runtimeSampler]

/-- The owners whose `drain` is called, in order. -/
def drains : List ShutdownOwner :=
  [.facilitator, .poller, .reconciler, .healthProbe, .dispatcher]

/-- A call of `shutdown`, with its error if it has one: the first one goes to the first
fence, another one to its `report`. -/
def shutdown (c : Coordinator ε) (error : Option (ShutdownError ε)) : Coordinator ε :=
  match c.point with
  | .idle =>
      { c.recordThrown error with
        pending := .server :: .application :: drains
        point := .fencing .application fences }
  | _ =>
      match error with
      | none => c
      | some error =>
          if c.completed then c
          else
            let c := c.record error
            { c with reports := c.reports + 1 }

/-- The `report` of a `shutdown` that was called again ends. -/
def endReport (c : Coordinator ε) (thrown : Option (ShutdownError ε)) : Coordinator ε :=
  { c.recordThrown thrown with reports := c.reports - 1 }

/-- The end of `fence`. -/
def endFence (c : Coordinator ε) (fence : AdmissionFence) :
    Option (ShutdownError ε) → Coordinator ε
  | none => c.note (.fenced fence)
  | some error => ({ c with ownershipUnproven := true }.record error).note (.fenceFailed fence)

/-- `own`, behind the call of its operation. -/
def own (c : Coordinator ε) (owner : ShutdownOwner) : Option (ShutdownError ε) → Coordinator ε
  | none =>
      { c with
        lifetimes := fun o => if o = owner then .running else c.lifetimes o
        log := .handedOver owner :: c.log }
  | some error =>
      { c with
        ownershipUnproven := true
        lifetimes := fun o => if o = owner then .withheld error else c.lifetimes o
        log := .withheld owner :: c.log }

/-- The `try` around `timers.setTimeout`. -/
def install (c : Coordinator ε) : Option (ShutdownError ε) → Coordinator ε
  | none => { c with armed := true, deadlineInstalled := true }
  | some error => { c.record error with deadlineInstallationFailed := true }

/-- The end of `shutdown`. -/
def finishShutdown (c : Coordinator ε) : Coordinator ε :=
  if c.deadlineInstallationFailed then c.terminate .ownershipFailed else c.goTo .waiting

/-! ## The callback of `allSettled` -/

/-- The callback behind `clearTimeout`, up to `closeStore`. -/
def closeOrTerminate (c : Coordinator ε) : Coordinator ε :=
  if c.ownershipUnproven then c.terminate .ownershipFailed
  else (c.note .storeClosed).goTo .closingStore

/-- The callback, up to `clearTimeout`. -/
def join (c : Coordinator ε) : Coordinator ε :=
  let c := { c with joined := true }
  if c.completed then c
  else if c.deadlineInstalled then c.goTo .clearing
  else c.closeOrTerminate

/-- The end of `closeStore`, up to the next callback. -/
def endCloseStore (c : Coordinator ε) (thrown : Option (ShutdownError ε)) : Coordinator ε :=
  let c := { c.recordThrown thrown with completed := true }
  if 0 < c.errors.length then c.goTo .reportingErrors else c.finishDrained

/-! ## Stretches -/

/-- The callback control is in returns, or throws. -/
def resume (c : Coordinator ε) (thrown : Option (ShutdownError ε)) : Coordinator ε :=
  match c.point with
  | .idle => c
  | .fencing fence (next :: rest) => (c.endFence fence thrown).goTo (.fencing next rest)
  | .fencing fence [] => (c.endFence fence thrown).goTo .closing
  | .closing => (c.own .server thrown).goTo .installing
  | .installing => (c.install thrown).goTo (.draining .application drains)
  | .draining owner (next :: rest) => (c.own owner thrown).goTo (.draining next rest)
  | .draining owner [] => (c.own owner thrown).finishShutdown
  | .waiting => c
  | .clearing =>
      match thrown with
      | none => { c with armed := false }.closeOrTerminate
      | some error => (c.record error).closeOrTerminate
  | .closingStore => c.endCloseStore thrown
  | .reportingErrors => (c.recordThrown thrown).finishDrained
  | .reportingTermination status => (c.recordThrown thrown).callTerminate status
  | .terminating =>
      match thrown with
      | none => c.goTo .waiting
      | some _ => c.goTo .reportingFailure
  | .reportingFailure => (c.recordThrown thrown).goTo .waiting

/-- The callbacks `own` has attached to a lifetime. -/
def settle (c : Coordinator ε) (owner : ShutdownOwner) (how : LifetimeEnd ε) : Coordinator ε :=
  let c : Coordinator ε :=
    { c with
      pending := c.pending.erase owner
      lifetimes := fun o => if o = owner then .settled else c.lifetimes o
      log := .settled owner how :: c.log }
  match how with
  | .fulfilled => c
  | .rejected error =>
      { c with ownershipUnproven := c.ownershipUnproven || error.isIncompleteServerClose }.record
        error

/-- The event loop runs the deadline. -/
def fireDeadline (c : Coordinator ε) : Coordinator ε :=
  ({ c with armed := false }.note .deadlineFired).terminate .deadlineExceeded

/-- The event loop or the queue of promise callbacks has control. -/
def quiescent (c : Coordinator ε) : Prop := c.point = .waiting ∧ c.reports = 0

instance (c : Coordinator ε) : Decidable c.quiescent := inferInstanceAs (Decidable (_ ∧ _))

/-- Every join has settled. -/
def allSettled (c : Coordinator ε) : Bool :=
  (.server :: .application :: drains).all fun owner => (c.lifetimes owner).isSettled

inductive Event (ε : Type) where
  /-- A call of `shutdown`, from anywhere. -/
  | shutdown (error : Option (ShutdownError ε))
  /-- The callback control is in ends. -/
  | resume (thrown : Option (ShutdownError ε))
  /-- The innermost `report` of a `shutdown` that was called again ends. -/
  | endReport (thrown : Option (ShutdownError ε))
  /-- A lifetime settles; one that stands for an owner that threw, with its error. -/
  | settle (owner : ShutdownOwner) (how : LifetimeEnd ε)
  | join
  | fireDeadline
  deriving DecidableEq, Repr

def step (c : Coordinator ε) : Event ε → Coordinator ε
  | .shutdown error => c.shutdown error
  | .resume thrown => if c.reports = 0 then c.resume thrown else c
  | .endReport thrown => if 0 < c.reports then c.endReport thrown else c
  | .settle owner how =>
      if c.quiescent then
        match c.lifetimes owner with
        | .running => c.settle owner how
        | .withheld error => c.settle owner (.rejected error)
        | _ => c
      else c
  | .join => if c.quiescent ∧ ¬ c.joined ∧ c.allSettled then c.join else c
  | .fireDeadline => if c.quiescent ∧ c.armed then c.fireDeadline else c

/-- The coordinator after a list of events. -/
def after (events : List (Event ε)) : Coordinator ε := Runs.run step create events

end Coordinator

end RoundWatch
