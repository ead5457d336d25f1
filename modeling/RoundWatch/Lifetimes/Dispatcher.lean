import RoundWatch.Foundation.Runs
import RoundWatch.Indexer.Client
import RoundWatch.Lifetimes.Drain
import Mathlib.Algebra.Order.Field.Rat
import Mathlib.Data.Rat.Floor

/-!
# The Indexer request dispatcher

`IndexerRequestDispatcher`: a token bucket and a first-in, first-out gate every Indexer
request goes through.

* `IndexerRequestDispatcher` — the fields of the object; then what the event loop and the
  call stack hold of it; then ghost fields no code reads, the history of its requests;
* `safeNow`, `refill`, `pump`, `loop`, `stopScheduling`, `drain`, … — its methods.  `pump`
  calls operations inside its loop, so it is cut into turns: `Pump` is one activation of
  it on the call stack, `loop` one evaluation of the condition;
* `Event`, `step` — one synchronous stretch of code.  What cannot happen in a state
  leaves the state as it is.

Token arithmetic is exact.
-/

namespace RoundWatch

/-- The options the constructor accepts. -/
structure IndexerDispatcherOptions where
  requestsPerSecond : ℚ
  burst : ℕ
  concurrency : ℕ
  requestsPerSecond_pos : 0 < requestsPerSecond
  burst_pos : 0 < burst
  concurrency_pos : 0 < concurrency

/-- `DEFAULT_INDEXER_REQUESTS_PER_SECOND`, `DEFAULT_INDEXER_BURST` and
`DEFAULT_INDEXER_CONCURRENCY`. -/
def IndexerDispatcherOptions.default : IndexerDispatcherOptions :=
  ⟨4, 4, 2, by norm_num, by norm_num, by norm_num⟩

/-- What a callback may do to the dispatcher before it returns. -/
inductive ClockCall where
  | stopScheduling
  | drain
  deriving DecidableEq, Repr

/-- One call of the supplied clock. -/
structure ClockReading where
  /-- The number it returns; `none` when it throws or returns no finite number. -/
  value : Option ℚ
  call : Option ClockCall
  deriving DecidableEq, Repr

/-- How the promise of an operation settles. -/
inductive Completion (α ε : Type) where
  | value (value : α)
  /-- A `ShutdownInterrupted` of the operation's own. -/
  | interrupted
  /-- An error `isTimeout` accepts. -/
  | timedOut (error : ε)
  | failed (error : ε)
  deriving DecidableEq, Repr

/-- How the promise `dispatch` returned settles. -/
inductive Settlement (α ε : Type) where
  | result (completion : Completion α ε)
  /-- The `ShutdownInterrupted` of the dispatcher. -/
  | interrupted
  deriving DecidableEq, Repr

/-- A queued request, by the number of its `dispatch` call. -/
structure PendingRequest where
  request : ℕ
  purpose : IndexerRequestPurpose
  deriving DecidableEq, Repr

/-- What `setTimeout` returned, with the delay it was given. -/
structure DispatchTimer where
  handle : ℕ
  delay : ℕ
  deriving DecidableEq, Repr

/-- An activation of `pump` on the call stack. -/
inductive Pump where
  /-- It comes to the condition of its loop next. -/
  | looping
  /-- It is inside `pending.operation()`. -/
  | calling (request : ℕ)
  deriving DecidableEq, Repr

/-- An `IndexerRequestDispatcher`. -/
structure IndexerRequestDispatcher (α ε : Type) where
  queue : List PendingRequest
  tokens : ℚ
  lastRefill : ℚ
  inFlight : ℤ
  timer : Option DispatchTimer
  schedulingStopped : Bool
  drainPromise : DrainPromise
  requestCounts : IndexerRequestPurpose → ℕ
  successes : ℕ
  failures : ℕ
  timeouts : ℕ
  /-- The timers the event loop will still run. -/
  armed : List ℕ
  nextTimer : ℕ
  /-- The activations of `pump`, the innermost first. -/
  pumps : List Pump
  /-- The completion whose observer is running, below all of them. -/
  observing : Option (ℕ × Completion α ε)
  /-- The started requests whose `finally` is still to come. -/
  owned : List ℕ
  nextRequest : ℕ
  /-- Latest first, as all that follows. -/
  started : List ℕ
  completed : List (ℕ × Completion α ε)
  settled : List (ℕ × Settlement α ε)
  /-- The largest number the clock has returned. -/
  largest : ℚ

namespace IndexerRequestDispatcher

variable {α ε : Type} (options : IndexerDispatcherOptions)

/-- The constructor, with the finite number its clock returned. -/
def create (first : ℚ) : IndexerRequestDispatcher α ε where
  queue := []
  tokens := options.burst
  lastRefill := first
  inFlight := 0
  timer := none
  schedulingStopped := false
  drainPromise := .absent
  requestCounts := fun _ => 0
  successes := 0
  failures := 0
  timeouts := 0
  armed := []
  nextTimer := 0
  pumps := []
  observing := none
  owned := []
  nextRequest := 0
  started := []
  completed := []
  settled := []
  largest := first

/-! ## The fence -/

/-- `finishDrainIfIdle`. -/
def finishDrainIfIdle (d : IndexerRequestDispatcher α ε) : IndexerRequestDispatcher α ε :=
  { d with drainPromise :=
      d.drainPromise.resolveIf (d.inFlight = 0 ∧ d.queue.length = 0 ∧ d.timer.isNone) }

/-- `clearTimeout(this.timer); this.timer = undefined`, if there is one. -/
def clearTimer (d : IndexerRequestDispatcher α ε) : IndexerRequestDispatcher α ε :=
  match d.timer with
  | some timer => { d with timer := none, armed := d.armed.filter (· ≠ timer.handle) }
  | none => d

/-- `for (const pending of this.queue.splice(0)) pending.reject(new ShutdownInterrupted())`. -/
def rejectQueued (d : IndexerRequestDispatcher α ε) : IndexerRequestDispatcher α ε :=
  { d with
    queue := []
    settled := (d.queue.map fun pending => (pending.request, .interrupted)).reverse ++ d.settled }

/-- `stopScheduling`. -/
def stopScheduling (d : IndexerRequestDispatcher α ε) : IndexerRequestDispatcher α ε :=
  if d.schedulingStopped then d
  else (clearTimer { d with schedulingStopped := true }).rejectQueued.finishDrainIfIdle

/-- `drain`. -/
def drain (d : IndexerRequestDispatcher α ε) : IndexerRequestDispatcher α ε :=
  let d := d.stopScheduling
  if d.drainPromise = .absent then
    finishDrainIfIdle { d with drainPromise := d.drainPromise.create }
  else d

/-! ## The clock and the bucket -/

/-- What the clock does besides returning a number. -/
def clockCall (d : IndexerRequestDispatcher α ε) : Option ClockCall → IndexerRequestDispatcher α ε
  | none => d
  | some .stopScheduling => d.stopScheduling
  | some .drain => d.drain

/-- `safeNow`: the dispatcher after the call. -/
def safeNow (d : IndexerRequestDispatcher α ε) (reading : ClockReading) :
    IndexerRequestDispatcher α ε :=
  let d := d.clockCall reading.call
  { d with largest := max d.largest (reading.value.getD d.largest) }

/-- `safeNow`: the number it returns. -/
def now (d : IndexerRequestDispatcher α ε) (reading : ClockReading) : ℚ :=
  reading.value.getD d.lastRefill

/-- `refill`. -/
def refill (d : IndexerRequestDispatcher α ε) (reading : ClockReading) :
    IndexerRequestDispatcher α ε :=
  let current := d.now reading
  let d := d.safeNow reading
  if current ≤ d.lastRefill then d
  else
    let elapsed := current - d.lastRefill
    { d with
      lastRefill := current
      tokens := min options.burst (d.tokens + elapsed * options.requestsPerSecond / 1000) }

/-! ## The pump -/

/-- `pump`, up to its loop. -/
def pump (d : IndexerRequestDispatcher α ε) (reading : ClockReading) :
    IndexerRequestDispatcher α ε :=
  if d.schedulingStopped then d
  else
    (clearTimer { d with pumps := .looping :: d.pumps }).refill options reading

/-- The activation on top returns. -/
def leavePump (d : IndexerRequestDispatcher α ε) : IndexerRequestDispatcher α ε :=
  { d with pumps := d.pumps.tail }

/-- The condition of the loop. -/
def mayStart (d : IndexerRequestDispatcher α ε) : Prop :=
  d.schedulingStopped = false ∧ 0 < d.queue.length ∧ d.inFlight < options.concurrency ∧
    1 ≤ d.tokens

instance (d : IndexerRequestDispatcher α ε) : Decidable (d.mayStart options) :=
  inferInstanceAs (Decidable (_ ∧ _))

/-- The milliseconds until the bucket holds a token. -/
def delay (d : IndexerRequestDispatcher α ε) : ℕ :=
  max 1 ⌈max 0 (1 - d.tokens) * 1000 / options.requestsPerSecond⌉₊

/-- The end of `pump`: `this.timer = setTimeout(() => this.pump(), delay)`. -/
def armTimer (d : IndexerRequestDispatcher α ε) : IndexerRequestDispatcher α ε :=
  if d.schedulingStopped = false ∧ 0 < d.queue.length ∧ d.inFlight < options.concurrency then
    { d with
      timer := some ⟨d.nextTimer, d.delay options⟩
      armed := d.nextTimer :: d.armed
      nextTimer := d.nextTimer + 1 }
  else d

/-- `this.queue.shift()` and what is done with the request, up to the call of its
operation. -/
def startNext (d : IndexerRequestDispatcher α ε) : IndexerRequestDispatcher α ε :=
  match d.queue with
  | pending :: rest =>
      { d with
        queue := rest
        tokens := d.tokens - 1
        inFlight := d.inFlight + 1
        requestCounts := fun purpose =>
          d.requestCounts purpose + if purpose = pending.purpose then 1 else 0
        pumps := .calling pending.request :: d.pumps.tail
        owned := pending.request :: d.owned
        started := pending.request :: d.started }
  | [] => d

/-- One evaluation of the condition of the loop, and what follows it. -/
def loop (d : IndexerRequestDispatcher α ε) (reading : ClockReading) :
    IndexerRequestDispatcher α ε :=
  if d.mayStart options then
    let d := d.safeNow reading
    if d.schedulingStopped then d.leavePump else d.startNext
  else (d.armTimer options).leavePump

/-! ## What the outside does -/

/-- `Promise.reject(new ShutdownInterrupted())`. -/
def refuse (d : IndexerRequestDispatcher α ε) : IndexerRequestDispatcher α ε :=
  { d with
    nextRequest := d.nextRequest + 1
    settled := (d.nextRequest, .interrupted) :: d.settled }

/-- `this.queue.push`. -/
def enqueue (d : IndexerRequestDispatcher α ε) (purpose : IndexerRequestPurpose) :
    IndexerRequestDispatcher α ε :=
  { d with
    nextRequest := d.nextRequest + 1
    queue := d.queue ++ [⟨d.nextRequest, purpose⟩] }

/-- `dispatch`, up to the loop of its `pump`, with the two readings it takes. -/
def dispatch (d : IndexerRequestDispatcher α ε) (purpose : IndexerRequestPurpose)
    (enqueuing refilling : ClockReading) : IndexerRequestDispatcher α ε :=
  if d.schedulingStopped then d.refuse
  else
    let d := d.safeNow enqueuing
    if d.schedulingStopped then d.refuse else (d.enqueue purpose).pump options refilling

/-- What the completion callback counts. -/
def count (d : IndexerRequestDispatcher α ε) :
    Completion α ε → IndexerRequestDispatcher α ε
  | .value _ => { d with successes := d.successes + 1 }
  | .interrupted => d
  | .timedOut _ => { d with failures := d.failures + 1, timeouts := d.timeouts + 1 }
  | .failed _ => { d with failures := d.failures + 1 }

/-- The promise of an operation settles: the completion callback, up to the end of
`notifyObserver`'s arguments. -/
def complete (d : IndexerRequestDispatcher α ε) (request : ℕ) (completion : Completion α ε)
    (reading : ClockReading) : IndexerRequestDispatcher α ε :=
  let d := d.count completion
  let d := { d with completed := (request, completion) :: d.completed }
  match completion with
  | .interrupted => { d with settled := (request, .result completion) :: d.settled }
  | _ => safeNow { d with observing := some (request, completion) } reading

/-- The `finally` callback, up to the loop of its `pump`. -/
def finish (d : IndexerRequestDispatcher α ε) (request : ℕ) (reading : ClockReading) :
    IndexerRequestDispatcher α ε :=
  let d := { d with inFlight := d.inFlight - 1, owned := d.owned.erase request }
  if d.schedulingStopped then d.finishDrainIfIdle else d.pump options reading

/-- An operation or an observer returns. -/
def leave (d : IndexerRequestDispatcher α ε) : IndexerRequestDispatcher α ε :=
  match d.pumps, d.observing with
  | .calling _ :: below, _ => { d with pumps := .looping :: below }
  | [], some (request, completion) =>
      { d with
        observing := none
        settled := (request, .result completion) :: d.settled }
  | _, _ => d

/-- The code outside is running: the event loop, an operation or an observer. -/
def outside (d : IndexerRequestDispatcher α ε) : Prop := d.pumps.head? ≠ some .looping

/-- Nothing is on the call stack: the event loop picks what runs next. -/
def quiescent (d : IndexerRequestDispatcher α ε) : Prop := d.pumps = [] ∧ d.observing.isNone

instance (d : IndexerRequestDispatcher α ε) : Decidable d.outside :=
  inferInstanceAs (Decidable (_ ≠ _))

instance (d : IndexerRequestDispatcher α ε) : Decidable d.quiescent :=
  inferInstanceAs (Decidable (_ ∧ _))

/-- The operation of a request is running. -/
def running (d : IndexerRequestDispatcher α ε) (request : ℕ) : Prop :=
  request ∈ d.owned ∧ request ∉ d.completed.map Prod.fst

/-- Its promise has been settled with what its operation gave, and `finally` is next. -/
def finishing (d : IndexerRequestDispatcher α ε) (request : ℕ) : Prop :=
  request ∈ d.owned ∧ request ∈ d.settled.map Prod.fst

instance (d : IndexerRequestDispatcher α ε) (request : ℕ) : Decidable (d.running request) :=
  inferInstanceAs (Decidable (_ ∧ _))

instance (d : IndexerRequestDispatcher α ε) (request : ℕ) : Decidable (d.finishing request) :=
  inferInstanceAs (Decidable (_ ∧ _))

/-- One synchronous stretch of code. -/
inductive Event (α ε : Type) where
  /-- A call of `dispatch`. -/
  | dispatch (purpose : IndexerRequestPurpose) (enqueuing refilling : ClockReading)
  /-- The innermost `pump` comes to its condition. -/
  | loop (reading : ClockReading)
  /-- The operation or the observer that is running returns. -/
  | leave
  | stopScheduling
  | drain
  /-- The event loop runs a timer. -/
  | fire (handle : ℕ) (reading : ClockReading)
  /-- The promise of an operation settles. -/
  | complete (request : ℕ) (completion : Completion α ε) (reading : ClockReading)
  /-- The `finally` callback of a request. -/
  | finish (request : ℕ) (reading : ClockReading)
  deriving DecidableEq, Repr

/-- The dispatcher after an event. -/
def step (d : IndexerRequestDispatcher α ε) : Event α ε → IndexerRequestDispatcher α ε
  | .dispatch purpose enqueuing refilling =>
      if d.outside then d.dispatch options purpose enqueuing refilling else d
  | .loop reading => if d.outside then d else d.loop options reading
  | .leave => d.leave
  | .stopScheduling => if d.outside then d.stopScheduling else d
  | .drain => if d.outside then d.drain else d
  | .fire handle reading =>
      if d.quiescent ∧ handle ∈ d.armed then
        pump options { d with armed := d.armed.filter (· ≠ handle) } reading
      else d
  | .complete request completion reading =>
      if d.quiescent ∧ d.running request then d.complete request completion reading else d
  | .finish request reading =>
      if d.quiescent ∧ d.finishing request then d.finish options request reading else d

/-- The dispatcher after a list of events, from the constructor on. -/
def after (first : ℚ) (events : List (Event α ε)) : IndexerRequestDispatcher α ε :=
  Runs.run (step options) (create options first) events

end IndexerRequestDispatcher

end RoundWatch
