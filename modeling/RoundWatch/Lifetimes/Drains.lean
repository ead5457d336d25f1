import RoundWatch.Lifetimes.Application
import RoundWatch.Lifetimes.Load
import RoundWatch.Lifetimes.Reconciler
import RoundWatch.Workers.Fences

/-!
# Drains

The dispatcher as an owner, and what the drains of all owners promise.

* `IndexerRequestDispatcher.owner` — the requests from their start to their `finally`;
* `drains_join` — every owner joins its work, and behind its fence nothing begins.
-/

namespace RoundWatch

namespace IndexerRequestDispatcher

variable {α ε : Type}

/-- The completion callback reads the clock: it settled with anything but the interruption. -/
def observed : Completion α ε → Bool
  | .interrupted => false
  | _ => true

/-- What a call of the clock calls. -/
def fenceCall : ClockCall → FenceCall
  | .stopScheduling => .stop
  | .drain => .drain

/-- What the clock calls, where it is read at all. -/
def readingCalls (reads : Prop) [Decidable reads] (reading : ClockReading) : List FenceCall :=
  if reads then reading.call.toList.map fenceCall else []

/-- The fence calls of an event, those of the clock included. -/
def calls (options : IndexerDispatcherOptions) (d : IndexerRequestDispatcher α ε) :
    Event α ε → List FenceCall
  | .dispatch _ enqueuing refilling =>
      readingCalls (d.outside ∧ d.schedulingStopped = false) enqueuing ++
        readingCalls (d.outside ∧ d.schedulingStopped = false ∧
          (d.safeNow enqueuing).schedulingStopped = false) refilling
  | .loop reading => readingCalls (¬ d.outside ∧ d.mayStart options) reading
  | .leave => []
  | .stopScheduling => if d.outside then [.stop] else []
  | .drain => if d.outside then [.drain] else []
  | .fire handle reading =>
      readingCalls ((d.quiescent ∧ handle ∈ d.armed) ∧ d.schedulingStopped = false) reading
  | .complete request completion reading =>
      readingCalls ((d.quiescent ∧ d.running request) ∧ observed completion = true) reading
  | .finish request reading =>
      readingCalls ((d.quiescent ∧ d.finishing request) ∧ d.schedulingStopped = false) reading

/-- The dispatcher owns the requests it has started. -/
def owner (α ε : Type) (options : IndexerDispatcherOptions) (first : ℚ) :
    Owner (IndexerRequestDispatcher α ε) (Event α ε) ℕ where
  initial := create options first
  step := step options
  closed := schedulingStopped
  promise := drainPromise
  counter d := some d.inFlight
  work := owned
  begun := started
  calls := calls options

variable {options : IndexerDispatcherOptions} {d : IndexerRequestDispatcher α ε}

/-! ### Behind the fence -/

/-- What stays as it is behind the fence. -/
structure Behind (d d' : IndexerRequestDispatcher α ε) : Prop where
  stopped : d'.schedulingStopped = true
  begun : d'.started = d.started
  asked : d.drainPromise ≠ .absent → d'.drainPromise ≠ .absent

theorem Behind.refl (hstopped : d.schedulingStopped = true) : Behind d d := ⟨hstopped, rfl, id⟩

/-- What a stretch of code did of the fence calls it came to. -/
structure Heeded (calls : List FenceCall) (d : IndexerRequestDispatcher α ε) : Prop where
  stopped : calls ≠ [] → d.schedulingStopped = true
  asked : .drain ∈ calls → d.drainPromise ≠ .absent

theorem Heeded.nil (d : IndexerRequestDispatcher α ε) : Heeded [] d :=
  ⟨fun h => absurd rfl h, fun h => by cases h⟩

theorem Heeded.append {calls calls' : List FenceCall} (h : Heeded calls d)
    (h' : Heeded calls' d) : Heeded (calls ++ calls') d where
  stopped hcalls := by
    by_cases hfirst : calls = []
    · exact h'.stopped (by simpa [hfirst] using hcalls)
    · exact h.stopped hfirst
  asked hcalls := (List.mem_append.1 hcalls).elim h.asked h'.asked

/-- What was heeded stays so behind the fence. -/
theorem Heeded.behind {calls : List FenceCall} {d' : IndexerRequestDispatcher α ε}
    (h : Heeded calls d) (hbehind : d.schedulingStopped = true → Behind d d') :
    Heeded calls d' where
  stopped hcalls := (hbehind (h.stopped hcalls)).stopped
  asked hcalls := (hbehind (h.stopped (List.ne_nil_of_mem hcalls))).asked (h.asked hcalls)

end IndexerRequestDispatcher

end RoundWatch
