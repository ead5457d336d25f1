import RoundWatch.Indexer.Client
import RoundWatch.Store.Basic
import Mathlib.Logic.Function.Basic

/-!
# What a watch cost

The work counted on one entry of the economics accumulator of `roundwatch-metrics.ts`, from
`emptyWatchWork` through the record methods to `snapshotWatch`.

* `WatchWork` — the entry.
* `Observation.apply` — what a call leaves on it, also one that throws half-way.
* `WatchWork.total` — what a list of calls comes to, column by column, and `total_concat`,
  by which recording one call after the other comes to that.
* `balanced_total` — attempts are successes and failures, and timeouts are failures.
-/

namespace RoundWatch.Metrics

/-- The numbers of the runtime, as far as they are computed with here.  Nothing is assumed of
the operations: a sum of doubles depends on its order. -/
class JsArithmetic (ν : Type) extends Zero ν, Add ν, Sub ν where
  /-- `Math.max`. -/
  max : ν → ν → ν
  /-- `a < b`. -/
  lt : ν → ν → Bool
  isSafeInteger : ν → Bool
  isFinite : ν → Bool

variable {ν : Type} [JsArithmetic ν]

/-! ## Checks -/

def isCount (value : ν) : Bool := JsArithmetic.isSafeInteger value && !JsArithmetic.lt value 0

def isDuration (value : ν) : Bool := JsArithmetic.isFinite value && !JsArithmetic.lt value 0

def nonNegativeInteger (value : ν) (name : String) : Except String ν :=
  if !JsArithmetic.isSafeInteger value || JsArithmetic.lt value 0 then
    .error (name ++ " must be a non-negative safe integer")
  else .ok value

def nonNegativeNumber (value : ν) (name : String) : Except String ν :=
  if !JsArithmetic.isFinite value || JsArithmetic.lt value 0 then
    .error (name ++ " must be a finite non-negative number")
  else .ok value

theorem nonNegativeInteger_of_count {value : ν} (h : isCount value = true) (name : String) :
    nonNegativeInteger value name = .ok value := by
  simp only [isCount, Bool.and_eq_true, Bool.not_eq_true'] at h
  simp [nonNegativeInteger, h]

theorem nonNegativeInteger_of_not_count {value : ν} (h : isCount value = false)
    (name : String) :
    nonNegativeInteger value name = .error (name ++ " must be a non-negative safe integer") := by
  rw [nonNegativeInteger, if_pos]
  rw [isCount, Bool.and_eq_false_iff, Bool.not_eq_false'] at h
  simpa using h

theorem nonNegativeNumber_of_duration {value : ν} (h : isDuration value = true)
    (name : String) : nonNegativeNumber value name = .ok value := by
  simp only [isDuration, Bool.and_eq_true, Bool.not_eq_true'] at h
  simp [nonNegativeNumber, h]

theorem nonNegativeNumber_of_not_duration {value : ν} (h : isDuration value = false)
    (name : String) :
    nonNegativeNumber value name = .error (name ++ " must be a finite non-negative number") := by
  rw [nonNegativeNumber, if_pos]
  rw [isDuration, Bool.and_eq_false_iff, Bool.not_eq_false'] at h
  simpa using h

/-! ## Observations -/

inductive IndexerRequestOutcome where
  | success
  | failure
  | timeout
  deriving DecidableEq, Repr

structure IndexerRequestObservation (ν : Type) where
  outcome : IndexerRequestOutcome
  responseBytes : Option ν
  queueWaitMs : Option ν
  wallTimeMs : Option ν

structure ScanPageObservation (ν : Type) where
  transactionsReturned : ν
  transactionsExamined : ν

structure WatchLifecycleObservation (ν : Type) where
  activeDurationMs : Option ν
  timeToTerminalMs : Option ν
  finalState : Option WatchState

/-- A call of a record method. -/
inductive Observation (ν : Type) where
  | indexerRequest (purpose : IndexerRequestPurpose) (observation : IndexerRequestObservation ν)
  | scanPage (observation : ScanPageObservation ν)
  | coverage (roundsCovered : ν)
  | reconciliationAttempt
  | closingRequest
  | workUnit
  | lifecycle (observation : WatchLifecycleObservation ν)

/-! ## The entry -/

structure TimingMetric (ν : Type) where
  samples : ℕ
  totalMs : ν
  maxMs : ν

/-- The counters go up one by one: they are exact up to 2^53 calls. -/
structure IndexerPurposeMetric (ν : Type) where
  attempts : ℕ
  successes : ℕ
  failures : ℕ
  timeouts : ℕ
  responseBytes : ν
  queueWait : TimingMetric ν
  wallTime : TimingMetric ν

structure WatchWork (ν : Type) where
  indexer : IndexerRequestPurpose → IndexerPurposeMetric ν
  scanPages : ℕ
  transactionsReturned : ν
  transactionsExamined : ν
  roundsCovered : ν
  reconciliationAttempts : ℕ
  closingRequests : ℕ
  workUnitsClaimed : ℕ
  activeDurationMs : Option ν
  timeToTerminalMs : Option ν
  finalState : Option WatchState

def emptyTiming : TimingMetric ν := { samples := 0, totalMs := 0, maxMs := 0 }

def emptyIndexerPurposeMetric : IndexerPurposeMetric ν where
  attempts := 0
  successes := 0
  failures := 0
  timeouts := 0
  responseBytes := 0
  queueWait := emptyTiming
  wallTime := emptyTiming

def emptyWatchWork : WatchWork ν where
  indexer _ := emptyIndexerPurposeMetric
  scanPages := 0
  transactionsReturned := 0
  transactionsExamined := 0
  roundsCovered := 0
  reconciliationAttempts := 0
  closingRequests := 0
  workUnitsClaimed := 0
  activeDurationMs := none
  timeToTerminalMs := none
  finalState := none

def snapshotTiming {ν : Type} (metric : TimingMetric ν) : TimingMetric ν where
  samples := metric.samples
  totalMs := metric.totalMs
  maxMs := metric.maxMs

/-- A copy of the entry, which later calls do not reach. -/
def snapshotWatch {ν : Type} (metric : WatchWork ν) : WatchWork ν where
  indexer purpose :=
    { metric.indexer purpose with
      queueWait := snapshotTiming (metric.indexer purpose).queueWait
      wallTime := snapshotTiming (metric.indexer purpose).wallTime }
  scanPages := metric.scanPages
  transactionsReturned := metric.transactionsReturned
  transactionsExamined := metric.transactionsExamined
  roundsCovered := metric.roundsCovered
  reconciliationAttempts := metric.reconciliationAttempts
  closingRequests := metric.closingRequests
  workUnitsClaimed := metric.workUnitsClaimed
  activeDurationMs := metric.activeDurationMs
  timeToTerminalMs := metric.timeToTerminalMs
  finalState := metric.finalState

/-- A snapshot leaves nothing out. -/
@[simp] theorem snapshotWatch_eq {ν : Type} (metric : WatchWork ν) :
    snapshotWatch metric = metric := rfl

/-! ## Recording on an entry -/

/-- Throws before it counts anything. -/
def recordTiming (metric : TimingMetric ν) (value : ν) (name : String) :
    Except String (TimingMetric ν) :=
  (nonNegativeNumber value name).map fun milliseconds =>
    { samples := metric.samples + 1
      totalMs := metric.totalMs + milliseconds
      maxMs := JsArithmetic.max metric.maxMs milliseconds }

/-- The attempt and its outcome, which are counted before anything is checked. -/
def IndexerPurposeMetric.count (outcome : IndexerRequestOutcome)
    (metric : IndexerPurposeMetric ν) : IndexerPurposeMetric ν :=
  let metric := { metric with attempts := metric.attempts + 1 }
  match outcome with
  | .success => { metric with successes := metric.successes + 1 }
  | .failure => { metric with failures := metric.failures + 1 }
  | .timeout =>
      { metric with failures := metric.failures + 1, timeouts := metric.timeouts + 1 }

/-- The body of `recordIndexerRequest`, with what stays counted when a check throws. -/
def IndexerPurposeMetric.record (observation : IndexerRequestObservation ν)
    (metric : IndexerPurposeMetric ν) : IndexerPurposeMetric ν × Except String Unit :=
  let metric := metric.count observation.outcome
  match nonNegativeInteger (observation.responseBytes.getD 0) "responseBytes" with
  | .error error => (metric, .error error)
  | .ok bytes =>
      let metric := { metric with responseBytes := metric.responseBytes + bytes }
      match observation.queueWaitMs.elim (.ok metric.queueWait)
          fun value => recordTiming metric.queueWait value "queueWaitMs" with
      | .error error => (metric, .error error)
      | .ok queueWait =>
          let metric := { metric with queueWait := queueWait }
          match observation.wallTimeMs.elim (.ok metric.wallTime)
              fun value => recordTiming metric.wallTime value "wallTimeMs" with
          | .error error => (metric, .error error)
          | .ok wallTime => ({ metric with wallTime := wallTime }, .ok ())

def WatchWork.recordIndexerRequest (purpose : IndexerRequestPurpose)
    (observation : IndexerRequestObservation ν) (metric : WatchWork ν) :
    WatchWork ν × Except String Unit :=
  let (counted, result) := (metric.indexer purpose).record observation
  ({ metric with indexer := Function.update metric.indexer purpose counted }, result)

/-- The checks of `recordScanPage`, which come before it looks for its entry. -/
def checkScanPage (observation : ScanPageObservation ν) : Except String (ν × ν) :=
  match nonNegativeInteger observation.transactionsReturned "transactionsReturned" with
  | .error error => .error error
  | .ok returned =>
      match nonNegativeInteger observation.transactionsExamined "transactionsExamined" with
      | .error error => .error error
      | .ok examined =>
          if JsArithmetic.lt returned examined then
            .error "transactionsExamined cannot exceed transactionsReturned"
          else .ok (returned, examined)

def WatchWork.recordScanPage (page : ν × ν) (metric : WatchWork ν) : WatchWork ν :=
  { metric with
    scanPages := metric.scanPages + 1
    transactionsReturned := metric.transactionsReturned + page.1
    transactionsExamined := metric.transactionsExamined + page.2 }

def WatchWork.recordCoverage (roundsCovered : ν) (metric : WatchWork ν) :
    WatchWork ν × Except String Unit :=
  match nonNegativeInteger roundsCovered "roundsCovered" with
  | .error error => (metric, .error error)
  | .ok rounds => ({ metric with roundsCovered := metric.roundsCovered + rounds }, .ok ())

def WatchWork.recordReconciliationAttempt (metric : WatchWork ν) : WatchWork ν :=
  { metric with reconciliationAttempts := metric.reconciliationAttempts + 1 }

def WatchWork.recordClosingRequest (metric : WatchWork ν) : WatchWork ν :=
  { metric with closingRequests := metric.closingRequests + 1 }

def WatchWork.recordWorkUnit (metric : WatchWork ν) : WatchWork ν :=
  { metric with workUnitsClaimed := metric.workUnitsClaimed + 1 }

def WatchWork.recordLifecycle (observation : WatchLifecycleObservation ν)
    (metric : WatchWork ν) : WatchWork ν × Except String Unit :=
  match observation.activeDurationMs.elim (.ok metric.activeDurationMs)
      fun value => (nonNegativeNumber value "activeDurationMs").map some with
  | .error error => (metric, .error error)
  | .ok activeDurationMs =>
      let metric := { metric with activeDurationMs := activeDurationMs }
      match observation.timeToTerminalMs.elim (.ok metric.timeToTerminalMs)
          fun value => (nonNegativeNumber value "timeToTerminalMs").map some with
      | .error error => (metric, .error error)
      | .ok timeToTerminalMs =>
          ({ metric with
              timeToTerminalMs := timeToTerminalMs
              finalState := observation.finalState.or metric.finalState }, .ok ())

/-- What a call leaves on its entry. -/
def Observation.apply : Observation ν → WatchWork ν → WatchWork ν
  | .indexerRequest purpose observation, metric =>
      (metric.recordIndexerRequest purpose observation).1
  | .scanPage observation, metric =>
      match checkScanPage observation with
      | .error _ => metric
      | .ok page => metric.recordScanPage page
  | .coverage roundsCovered, metric => (metric.recordCoverage roundsCovered).1
  | .reconciliationAttempt, metric => metric.recordReconciliationAttempt
  | .closingRequest, metric => metric.recordClosingRequest
  | .workUnit, metric => metric.recordWorkUnit
  | .lifecycle observation, metric => (metric.recordLifecycle observation).1

/-! ## What a list of calls comes to -/

namespace IndexerRequestObservation

variable (o : IndexerRequestObservation ν)

/-- The bytes that are added, if they are a count. -/
def countedBytes : Option ν :=
  if isCount (o.responseBytes.getD 0) then some (o.responseBytes.getD 0) else none

/-- The wait that is timed: only a call whose bytes were counted gets to it. -/
def timedQueueWait : Option ν :=
  if isCount (o.responseBytes.getD 0) then o.queueWaitMs.filter isDuration else none

/-- The time that is timed: a wait that is no duration is in its way, too. -/
def timedWallTime : Option ν :=
  if isCount (o.responseBytes.getD 0) && o.queueWaitMs.all isDuration then
    o.wallTimeMs.filter isDuration
  else none

end IndexerRequestObservation

namespace WatchLifecycleObservation

variable (o : WatchLifecycleObservation ν)

def keptActiveDuration : Option ν := o.activeDurationMs.filter isDuration

def keptTimeToTerminal : Option ν :=
  if o.activeDurationMs.all isDuration then o.timeToTerminalMs.filter isDuration else none

/-- Neither duration is in the way of what comes after it. -/
def accepted : Bool := o.activeDurationMs.all isDuration && o.timeToTerminalMs.all isDuration

def keptFinalState : Option WatchState := if o.accepted then o.finalState else none

end WatchLifecycleObservation

namespace Observation

/-- The request of a call, if it is one for this purpose. -/
def request? (purpose : IndexerRequestPurpose) :
    Observation ν → Option (IndexerRequestObservation ν)
  | .indexerRequest p observation => if p = purpose then some observation else none
  | _ => none

/-- The page of a call, if it passes the checks. -/
def page? : Observation ν → Option (ν × ν)
  | .scanPage observation => (checkScanPage observation).toOption
  | _ => none

def rounds? : Observation ν → Option ν
  | .coverage roundsCovered => if isCount roundsCovered then some roundsCovered else none
  | _ => none

def lifecycle? : Observation ν → Option (WatchLifecycleObservation ν)
  | .lifecycle observation => some observation
  | _ => none

def isReconciliationAttempt : Observation ν → Bool
  | .reconciliationAttempt => true
  | _ => false

def isClosingRequest : Observation ν → Bool
  | .closingRequest => true
  | _ => false

def isWorkUnit : Observation ν → Bool
  | .workUnit => true
  | _ => false

end Observation

/-- The sum of a list, from its first item to its last. -/
def sum (l : List ν) : ν := l.foldl (· + ·) 0

def TimingMetric.total (l : List ν) : TimingMetric ν where
  samples := l.length
  totalMs := sum l
  maxMs := l.foldl JsArithmetic.max 0

def IndexerPurposeMetric.total (l : List (IndexerRequestObservation ν)) :
    IndexerPurposeMetric ν where
  attempts := l.length
  successes := l.countP (·.outcome == .success)
  failures := l.countP (·.outcome != .success)
  timeouts := l.countP (·.outcome == .timeout)
  responseBytes := sum (l.filterMap (·.countedBytes))
  queueWait := .total (l.filterMap (·.timedQueueWait))
  wallTime := .total (l.filterMap (·.timedWallTime))

/-- What a list of calls comes to.  Of a state and a duration the last one counts. -/
def WatchWork.total (l : List (Observation ν)) : WatchWork ν where
  indexer purpose := .total (l.filterMap (Observation.request? purpose))
  scanPages := (l.filterMap Observation.page?).length
  transactionsReturned := sum ((l.filterMap Observation.page?).map Prod.fst)
  transactionsExamined := sum ((l.filterMap Observation.page?).map Prod.snd)
  roundsCovered := sum (l.filterMap Observation.rounds?)
  reconciliationAttempts := l.countP Observation.isReconciliationAttempt
  closingRequests := l.countP Observation.isClosingRequest
  workUnitsClaimed := l.countP Observation.isWorkUnit
  activeDurationMs :=
    ((l.filterMap Observation.lifecycle?).filterMap (·.keptActiveDuration)).getLast?
  timeToTerminalMs :=
    ((l.filterMap Observation.lifecycle?).filterMap (·.keptTimeToTerminal)).getLast?
  finalState := ((l.filterMap Observation.lifecycle?).filterMap (·.keptFinalState)).getLast?

@[simp] theorem sum_concat (l : List ν) (value : ν) : sum (l ++ [value]) = sum l + value := by
  simp [sum]

/-- One more sample, or none. -/
def TimingMetric.add (sample : Option ν) (metric : TimingMetric ν) : TimingMetric ν :=
  match sample with
  | none => metric
  | some value =>
      { samples := metric.samples + 1
        totalMs := metric.totalMs + value
        maxMs := JsArithmetic.max metric.maxMs value }

theorem TimingMetric.total_append (l : List ν) (sample : Option ν) :
    TimingMetric.total (l ++ sample.toList) = (TimingMetric.total l).add sample := by
  cases sample with
  | none => simp [add]
  | some value => simp [total, add]

/-! ### One call more -/

theorem filterMap_concat {α β : Type} (f : α → Option β) (l : List α) (a : α) :
    (l ++ [a]).filterMap f = l.filterMap f ++ (f a).toList := by
  rw [List.filterMap_append]
  cases hfa : f a with
  | none => simp [hfa]
  | some b => simp [hfa]

theorem getLast?_append_toList {α : Type} (l : List α) (x : Option α) :
    (l ++ x.toList).getLast? = x.or l.getLast? := by
  cases x with
  | none => simp
  | some a => simp

/-- A time that is no duration throws, any other is one sample more. -/
theorem recordTiming_eq (metric : TimingMetric ν) (value : Option ν) (name : String) :
    (value.elim (.ok metric) fun v => recordTiming metric v name) =
      if value.all isDuration then .ok (metric.add (value.filter isDuration))
      else .error (name ++ " must be a finite non-negative number") := by
  cases value with
  | none => rfl
  | some v =>
      cases hv : isDuration v with
      | true => simp [recordTiming, nonNegativeNumber_of_duration hv, hv, TimingMetric.add,
          Except.map, Option.filter]
      | false => simp [recordTiming, nonNegativeNumber_of_not_duration hv, hv, Except.map]

theorem filter_of_refused {value : Option ν} (h : value.all isDuration = false) :
    value.filter isDuration = none := by
  cases value with
  | none => rfl
  | some v =>
      have hv : isDuration v = false := h
      simp [Option.filter_some, hv]

/-- What is left of a request, column by column. -/
theorem IndexerPurposeMetric.record_fst (o : IndexerRequestObservation ν)
    (metric : IndexerPurposeMetric ν) :
    (metric.record o).1 =
      { metric.count o.outcome with
        responseBytes := o.countedBytes.elim metric.responseBytes (metric.responseBytes + ·)
        queueWait := metric.queueWait.add o.timedQueueWait
        wallTime := metric.wallTime.add o.timedWallTime } := by
  have hcount : (metric.count o.outcome).responseBytes = metric.responseBytes ∧
      (metric.count o.outcome).queueWait = metric.queueWait ∧
      (metric.count o.outcome).wallTime = metric.wallTime := by
    cases o.outcome <;> exact ⟨rfl, rfl, rfl⟩
  obtain ⟨hbytes, hqueue, hwall⟩ := hcount
  rw [← hbytes, ← hqueue, ← hwall, IndexerRequestObservation.countedBytes,
    IndexerRequestObservation.timedQueueWait, IndexerRequestObservation.timedWallTime]
  cases hvalid : isCount (o.responseBytes.getD 0) with
  | false => simp [record, nonNegativeInteger_of_not_count hvalid, TimingMetric.add]
  | true =>
      simp only [record, nonNegativeInteger_of_count hvalid, recordTiming_eq]
      cases hwait : o.queueWaitMs.all isDuration with
      | false =>
          simp [filter_of_refused hwait, TimingMetric.add]
      | true =>
          cases htime : o.wallTimeMs.all isDuration with
          | false => simp [filter_of_refused htime, TimingMetric.add]
          | true => simp

theorem IndexerPurposeMetric.total_concat (l : List (IndexerRequestObservation ν))
    (o : IndexerRequestObservation ν) :
    IndexerPurposeMetric.total (l ++ [o]) = ((IndexerPurposeMetric.total l).record o).1 := by
  have hbytes : sum ((l ++ [o]).filterMap (·.countedBytes)) =
      o.countedBytes.elim (sum (l.filterMap (·.countedBytes)))
        (sum (l.filterMap (·.countedBytes)) + ·) := by
    rw [filterMap_concat]
    cases o.countedBytes with
    | none => simp
    | some bytes => simp
  rw [record_fst, total, hbytes, filterMap_concat, filterMap_concat, TimingMetric.total_append,
    TimingMetric.total_append]
  cases houtcome : o.outcome <;> simp [total, count, houtcome]

/-- A duration that is given and is none throws, any other is kept. -/
theorem nonNegativeNumber_elim (value kept : Option ν) (name : String) :
    (value.elim (.ok kept) fun v => (nonNegativeNumber v name).map some) =
      if value.all isDuration then .ok ((value.filter isDuration).or kept)
      else .error (name ++ " must be a finite non-negative number") := by
  cases value with
  | none => rfl
  | some v =>
      cases hv : isDuration v with
      | true => simp [nonNegativeNumber_of_duration hv, hv, Option.filter_some, Except.map]
      | false => simp [nonNegativeNumber_of_not_duration hv, hv, Except.map]

/-- What is left of a lifecycle, column by column. -/
theorem WatchWork.recordLifecycle_fst (o : WatchLifecycleObservation ν) (metric : WatchWork ν) :
    (metric.recordLifecycle o).1 =
      { metric with
        activeDurationMs := o.keptActiveDuration.or metric.activeDurationMs
        timeToTerminalMs := o.keptTimeToTerminal.or metric.timeToTerminalMs
        finalState := o.keptFinalState.or metric.finalState } := by
  rw [WatchLifecycleObservation.keptActiveDuration, WatchLifecycleObservation.keptTimeToTerminal,
    WatchLifecycleObservation.keptFinalState, WatchLifecycleObservation.accepted,
    recordLifecycle]
  simp only [nonNegativeNumber_elim]
  cases hactive : o.activeDurationMs.all isDuration with
  | false => simp [filter_of_refused hactive]
  | true =>
      cases hterminal : o.timeToTerminalMs.all isDuration with
      | false => simp [filter_of_refused hterminal]
      | true => simp

theorem WatchWork.recordLifecycle_ok_iff (o : WatchLifecycleObservation ν)
    (metric : WatchWork ν) : (metric.recordLifecycle o).2 = .ok () ↔ o.accepted = true := by
  rw [WatchLifecycleObservation.accepted, recordLifecycle]
  simp only [nonNegativeNumber_elim]
  cases hactive : o.activeDurationMs.all isDuration with
  | false => simp
  | true =>
      cases hterminal : o.timeToTerminalMs.all isDuration with
      | false => simp
      | true => simp

theorem sum_append_toList (l : List ν) (x : Option ν) :
    sum (l ++ x.toList) = x.elim (sum l) (sum l + ·) := by
  cases x with
  | none => simp
  | some value => simp

/-- What one call more adds, column by column. -/
theorem WatchWork.total_append (l : List (Observation ν)) (o : Observation ν) :
    WatchWork.total (l ++ [o]) =
      { indexer := fun purpose => (o.request? purpose).elim ((total l).indexer purpose)
          fun request => (((total l).indexer purpose).record request).1
        scanPages := (total l).scanPages + o.page?.toList.length
        transactionsReturned := (o.page?.map Prod.fst).elim (total l).transactionsReturned
          ((total l).transactionsReturned + ·)
        transactionsExamined := (o.page?.map Prod.snd).elim (total l).transactionsExamined
          ((total l).transactionsExamined + ·)
        roundsCovered := o.rounds?.elim (total l).roundsCovered ((total l).roundsCovered + ·)
        reconciliationAttempts :=
          (total l).reconciliationAttempts + o.isReconciliationAttempt.toNat
        closingRequests := (total l).closingRequests + o.isClosingRequest.toNat
        workUnitsClaimed := (total l).workUnitsClaimed + o.isWorkUnit.toNat
        activeDurationMs :=
          (o.lifecycle?.bind (·.keptActiveDuration)).or (total l).activeDurationMs
        timeToTerminalMs :=
          (o.lifecycle?.bind (·.keptTimeToTerminal)).or (total l).timeToTerminalMs
        finalState := (o.lifecycle?.bind (·.keptFinalState)).or (total l).finalState } := by
  have hcount : ∀ p : Observation ν → Bool, (l ++ [o]).countP p = l.countP p + (p o).toNat := by
    intro p
    rw [List.countP_append, List.countP_singleton]
    cases p o <;> rfl
  have hlast : ∀ {β : Type} (f : WatchLifecycleObservation ν → Option β),
      (((l ++ [o]).filterMap Observation.lifecycle?).filterMap f).getLast? =
        (o.lifecycle?.bind f).or
          ((l.filterMap Observation.lifecycle?).filterMap f).getLast? := by
    intro β f
    rw [filterMap_concat, List.filterMap_append, ← getLast?_append_toList]
    cases o.lifecycle? with
    | none => rfl
    | some lifecycle => rw [Option.toList_some, ← List.nil_append [lifecycle],
        filterMap_concat, List.filterMap_nil, List.nil_append, Option.bind_some]
  have hpages : ∀ f : ν × ν → ν,
      sum (((l ++ [o]).filterMap Observation.page?).map f) =
        (o.page?.map f).elim (sum ((l.filterMap Observation.page?).map f))
          (sum ((l.filterMap Observation.page?).map f) + ·) := by
    intro f
    rw [filterMap_concat, List.map_append, ← sum_append_toList, Option.toList_map]
  have hindexer : ∀ purpose,
      IndexerPurposeMetric.total ((l ++ [o]).filterMap (Observation.request? purpose)) =
        (o.request? purpose).elim ((total l).indexer purpose)
          fun request => (((total l).indexer purpose).record request).1 := by
    intro purpose
    rw [filterMap_concat]
    cases o.request? purpose with
    | none => rw [Option.toList_none, List.append_nil]; rfl
    | some request => exact IndexerPurposeMetric.total_concat _ request
  rw [total, hcount, hcount, hcount, hlast, hlast, hlast, hpages, hpages, filterMap_concat,
    filterMap_concat, sum_append_toList, List.length_append]
  simp only [hindexer]
  rfl

/-- **One call after the other comes to the total.** -/
theorem WatchWork.total_concat (l : List (Observation ν)) (o : Observation ν) :
    WatchWork.total (l ++ [o]) = o.apply (WatchWork.total l) := by
  rw [total_append]
  cases o with
  | indexerRequest purpose observation =>
      have hindexer : (fun p => ((Observation.indexerRequest purpose observation).request? p).elim
            ((total l).indexer p) fun request => (((total l).indexer p).record request).1) =
          Function.update (total l).indexer purpose
            (((total l).indexer purpose).record observation).1 := by
        funext p
        by_cases hp : p = purpose
        · subst hp
          simp [Observation.request?]
        · simp [Observation.request?, Ne.symm hp, hp]
      rw [hindexer]
      rfl
  | scanPage observation =>
      rw [Observation.apply, Observation.page?]
      cases checkScanPage observation with
      | error error => rfl
      | ok page => rfl
  | coverage roundsCovered =>
      rw [Observation.apply, Observation.rounds?, recordCoverage]
      cases hrounds : isCount roundsCovered with
      | false =>
          rw [nonNegativeInteger_of_not_count hrounds]
          rfl
      | true =>
          rw [nonNegativeInteger_of_count hrounds]
          rfl
  | reconciliationAttempt => rfl
  | closingRequest => rfl
  | workUnit => rfl
  | lifecycle observation =>
      rw [Observation.apply, recordLifecycle_fst]
      rfl

/-- **The books of every purpose balance.** -/
theorem IndexerPurposeMetric.balanced_total (l : List (IndexerRequestObservation ν)) :
    (IndexerPurposeMetric.total l).attempts =
        (IndexerPurposeMetric.total l).successes + (IndexerPurposeMetric.total l).failures ∧
      (IndexerPurposeMetric.total l).timeouts ≤ (IndexerPurposeMetric.total l).failures := by
  constructor
  · have hother : ∀ o : IndexerRequestObservation ν,
        (decide ¬(o.outcome == .success) = true) = (o.outcome != .success) := by
      intro o
      cases o.outcome <;> rfl
    have hlength := List.length_eq_countP_add_countP
      (fun o : IndexerRequestObservation ν => o.outcome == .success) (l := l)
    simp only [hother] at hlength
    exact hlength
  · refine List.countP_mono_left fun o _ htimeout => ?_
    rw [beq_iff_eq] at htimeout
    rw [htimeout]
    rfl

end RoundWatch.Metrics
