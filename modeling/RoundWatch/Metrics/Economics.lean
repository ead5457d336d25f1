import RoundWatch.Metrics.Work
import RoundWatch.Foundation.Registry
import RoundWatch.Foundation.Runs
import RoundWatch.Foundation.Text

/-!
# The economics accumulator

`RoundWatchEconomicsMetrics` of `roundwatch-metrics.ts`, from `captureWatch` through the
record methods to `finishWatch`, the turns of the workers on top of it, and the process
around it.

* `RoundWatchEconomicsMetrics` — the map of the class, to entries with an identity.
* `recordBy`, `finishBy`, `releaseBy` — what the closures do that were handed out.
* `captureWatchEconomicsTurn`, `finishWatchEconomicsTurn`.
* `Process`, `Event`, `Process.step` — everybody who holds a closure, and one call of any of
  them.  A call is synchronous, so calls interleave and nothing finer does.
-/

namespace RoundWatch.Metrics

open JsText Registry

variable {ν : Type} [JsArithmetic ν]

/-! ## The class -/

structure RoundWatchEconomicsMetrics (ν : Type) where
  watches : Registry JsString (WatchWork ν)

/-- What the closures of a recorder have closed over: `watchId` and `metric`. -/
abbrev WatchEconomicsRecorder := Handle JsString

/-- And those of a release. -/
abbrev WatchRelease := Handle JsString

namespace RoundWatchEconomicsMetrics

def new : RoundWatchEconomicsMetrics ν := ⟨Registry.empty emptyWatchWork⟩

/-- The private `watch`. -/
def watch (watchId : JsString) (metrics : RoundWatchEconomicsMetrics ν) :
    Except String (RoundWatchEconomicsMetrics ν × ℕ) :=
  if watchId = [] then .error "watchId must not be empty"
  else .ok (⟨(metrics.watches.enter emptyWatchWork watchId).1⟩,
    (metrics.watches.enter emptyWatchWork watchId).2)

/-- `operation` on the entry `watch` finds or makes. -/
def onWatch (watchId : JsString) (operation : WatchWork ν → WatchWork ν × Except String Unit)
    (metrics : RoundWatchEconomicsMetrics ν) :
    RoundWatchEconomicsMetrics ν × Except String Unit :=
  match metrics.watch watchId with
  | .error error => (metrics, .error error)
  | .ok (metrics, metric) =>
      (⟨metrics.watches.write metric (operation (metrics.watches.objects metric)).1⟩,
        (operation (metrics.watches.objects metric)).2)

def recordIndexerRequest (watchId : JsString) (purpose : IndexerRequestPurpose)
    (observation : IndexerRequestObservation ν) (metrics : RoundWatchEconomicsMetrics ν) :
    RoundWatchEconomicsMetrics ν × Except String Unit :=
  metrics.onWatch watchId (·.recordIndexerRequest purpose observation)

/-- The page is checked before there is an entry. -/
def recordScanPage (watchId : JsString) (observation : ScanPageObservation ν)
    (metrics : RoundWatchEconomicsMetrics ν) :
    RoundWatchEconomicsMetrics ν × Except String Unit :=
  match checkScanPage observation with
  | .error error => (metrics, .error error)
  | .ok page => metrics.onWatch watchId fun metric => (metric.recordScanPage page, .ok ())

def recordCoverage (watchId : JsString) (roundsCovered : ν)
    (metrics : RoundWatchEconomicsMetrics ν) :
    RoundWatchEconomicsMetrics ν × Except String Unit :=
  metrics.onWatch watchId (·.recordCoverage roundsCovered)

def recordReconciliationAttempt (watchId : JsString) (metrics : RoundWatchEconomicsMetrics ν) :
    RoundWatchEconomicsMetrics ν × Except String Unit :=
  metrics.onWatch watchId fun metric => (metric.recordReconciliationAttempt, .ok ())

def recordClosingRequest (watchId : JsString) (metrics : RoundWatchEconomicsMetrics ν) :
    RoundWatchEconomicsMetrics ν × Except String Unit :=
  metrics.onWatch watchId fun metric => (metric.recordClosingRequest, .ok ())

def recordWorkUnit (watchId : JsString) (metrics : RoundWatchEconomicsMetrics ν) :
    RoundWatchEconomicsMetrics ν × Except String Unit :=
  metrics.onWatch watchId fun metric => (metric.recordWorkUnit, .ok ())

def recordLifecycle (watchId : JsString) (observation : WatchLifecycleObservation ν)
    (metrics : RoundWatchEconomicsMetrics ν) :
    RoundWatchEconomicsMetrics ν × Except String Unit :=
  metrics.onWatch watchId (·.recordLifecycle observation)

/-- The record method a call is a call of. -/
def record (watchId : JsString) (metrics : RoundWatchEconomicsMetrics ν) :
    Observation ν → RoundWatchEconomicsMetrics ν × Except String Unit
  | .indexerRequest purpose observation =>
      metrics.recordIndexerRequest watchId purpose observation
  | .scanPage observation => metrics.recordScanPage watchId observation
  | .coverage roundsCovered => metrics.recordCoverage watchId roundsCovered
  | .reconciliationAttempt => metrics.recordReconciliationAttempt watchId
  | .closingRequest => metrics.recordClosingRequest watchId
  | .workUnit => metrics.recordWorkUnit watchId
  | .lifecycle observation => metrics.recordLifecycle watchId observation

def captureWatch (watchId : JsString) (metrics : RoundWatchEconomicsMetrics ν) :
    Except String (RoundWatchEconomicsMetrics ν × WatchEconomicsRecorder) :=
  (metrics.watch watchId).map fun found => (found.1, ⟨watchId, found.2⟩)

def captureExistingWatch (watchId : JsString) (metrics : RoundWatchEconomicsMetrics ν) :
    Option WatchEconomicsRecorder :=
  (metrics.watches.get watchId).map fun metric => ⟨watchId, metric⟩

def bindWatchRelease (watchId : JsString) (metrics : RoundWatchEconomicsMetrics ν) :
    Option WatchRelease :=
  (metrics.watches.get watchId).map fun metric => ⟨watchId, metric⟩

def snapshotWatch (watchId : JsString) (metrics : RoundWatchEconomicsMetrics ν) :
    Option (WatchWork ν) :=
  (metrics.watches.get watchId).map fun metric =>
    Metrics.snapshotWatch (metrics.watches.objects metric)

def finishWatch (watchId : JsString) (metrics : RoundWatchEconomicsMetrics ν) :
    RoundWatchEconomicsMetrics ν × Option (WatchWork ν) :=
  (⟨metrics.watches.remove watchId⟩, metrics.snapshotWatch watchId)

def activeWatchMetricCount (metrics : RoundWatchEconomicsMetrics ν) : ℕ :=
  metrics.watches.held.keys.card

/-! ### The closures -/

/-- A record method of a recorder: nothing happens once its entry is gone. -/
def recordBy (recorder : WatchEconomicsRecorder) (observation : Observation ν)
    (metrics : RoundWatchEconomicsMetrics ν) :
    RoundWatchEconomicsMetrics ν × Except String Unit :=
  if recorder.current metrics.watches then metrics.record recorder.key observation
  else (metrics, .ok ())

/-- `finishWatch` of a recorder. -/
def finishBy (recorder : WatchEconomicsRecorder) (metrics : RoundWatchEconomicsMetrics ν) :
    RoundWatchEconomicsMetrics ν × Option (WatchWork ν) :=
  if recorder.current metrics.watches then metrics.finishWatch recorder.key
  else (metrics, none)

/-- What `bindWatchRelease` returns. -/
def releaseBy (release : WatchRelease) (metrics : RoundWatchEconomicsMetrics ν) :
    RoundWatchEconomicsMetrics ν :=
  if release.current metrics.watches then ⟨metrics.watches.remove release.key⟩ else metrics

end RoundWatchEconomicsMetrics

/-! ## Turns -/

/-- The recorder is `none` for the inert one. -/
structure WatchEconomicsTurn where
  recorder : Option WatchEconomicsRecorder
  release : Option WatchRelease

/-- A release is bound before the capture, and after it when there was nothing to bind. -/
def captureWatchEconomicsTurn (metrics : Option (RoundWatchEconomicsMetrics ν))
    (watchId : JsString) (existingOnly : Bool) :
    Option (RoundWatchEconomicsMetrics ν × WatchEconomicsTurn) :=
  metrics.map fun metrics =>
    let release := metrics.bindWatchRelease watchId
    -- what `captureWatch` throws is logged, and the recorder stays inert
    let (metrics, recorder) :=
      if existingOnly then (metrics, metrics.captureExistingWatch watchId)
      else match metrics.captureWatch watchId with
        | .error _ => (metrics, none)
        | .ok (metrics, recorder) => (metrics, some recorder)
    (metrics, { recorder := recorder, release := release.or (metrics.bindWatchRelease watchId) })

/-- What the end of a turn reads of a `WatchRecord`, its times as `Date.parse` reads them. -/
structure PersistedWatch (ν : Type) where
  state : WatchState
  settlementReconciliationTerminal : Bool
  createdAt : ν
  activatedAt : Option ν

namespace PersistedWatch

def terminal (watch : PersistedWatch ν) : Bool :=
  watch.state == .matched || watch.state == .expired || watch.state == .indeterminate ||
    (watch.state == .settlementUnknown && watch.settlementReconciliationTerminal)

/-- The time since then, if there was a then. -/
def since (timestamp time : ν) : Option ν :=
  if JsArithmetic.isFinite time then some (JsArithmetic.max 0 (timestamp - time)) else none

def lifecycle (timestamp : ν) (watch : PersistedWatch ν) : WatchLifecycleObservation ν where
  activeDurationMs := watch.activatedAt.bind (since timestamp)
  timeToTerminalMs := since timestamp watch.createdAt
  finalState := some watch.state

end PersistedWatch

/-- The last observation of a turn and what its recorder finished with.  A clock that throws
is `none`; a throw leaves the entry to the release. -/
def finishRecorded (recorder : WatchEconomicsRecorder) (watch : PersistedWatch ν)
    (now : Option ν) (metrics : RoundWatchEconomicsMetrics ν) :
    RoundWatchEconomicsMetrics ν × Option (WatchWork ν) :=
  match now with
  | none => (metrics, none)
  | some timestamp =>
      match metrics.recordBy recorder (.lifecycle (watch.lifecycle timestamp)) with
      | (metrics, .error _) => (metrics, none)
      | (metrics, .ok ()) => metrics.finishBy recorder

/-- With the snapshot that is logged. -/
def finishWatchEconomicsTurn (turn : Option WatchEconomicsTurn)
    (watch : Option (PersistedWatch ν)) (now : Option ν)
    (metrics : RoundWatchEconomicsMetrics ν) :
    RoundWatchEconomicsMetrics ν × Option (WatchWork ν) :=
  match turn with
  | none => (metrics, none)
  | some turn =>
      match watch with
      | none => (metrics, none)
      | some watch =>
          if watch.terminal then
            let (metrics, snapshot) := turn.recorder.elim (metrics, none)
              fun recorder => finishRecorded recorder watch now metrics
            (turn.release.elim metrics metrics.releaseBy, snapshot)
          else (metrics, none)

/-! ## Everybody who calls -/

/-- What was handed out so far. -/
structure Handles where
  recorders : List WatchEconomicsRecorder
  releases : List WatchRelease
  turns : List WatchEconomicsTurn

namespace Handles

def none : Handles := ⟨[], [], []⟩

def addRecorder (recorder : Option WatchEconomicsRecorder) (handles : Handles) : Handles :=
  { handles with recorders := handles.recorders ++ recorder.toList }

def addRelease (release : Option WatchRelease) (handles : Handles) : Handles :=
  { handles with releases := handles.releases ++ release.toList }

/-- The recorder and the release of a turn can be called on their own, too. -/
def addTurn (turn : WatchEconomicsTurn) (handles : Handles) : Handles where
  recorders := handles.recorders ++ turn.recorder.toList
  releases := handles.releases ++ turn.release.toList
  turns := handles.turns ++ [turn]

end Handles

/-- A call.  A closure is called by its number. -/
inductive Event (ν : Type) where
  | captureWatch (watchId : JsString)
  | captureExistingWatch (watchId : JsString)
  | bindWatchRelease (watchId : JsString)
  | record (watchId : JsString) (observation : Observation ν)
  | recordBy (recorder : ℕ) (observation : Observation ν)
  | finishBy (recorder : ℕ)
  | finishWatch (watchId : JsString)
  | release (release : ℕ)
  | captureTurn (watchId : JsString) (existingOnly : Bool)
  | finishTurn (turn : ℕ) (watch : Option (PersistedWatch ν)) (now : Option ν)

/-- A throw, or the snapshot that was returned. -/
abbrev Reply (ν : Type) := Except String (Option (WatchWork ν))

structure Process (ν : Type) where
  metrics : RoundWatchEconomicsMetrics ν
  handles : Handles

namespace Process

def start : Process ν := ⟨.new, .none⟩

/-- One call.  A closure that was never handed out is not called. -/
def step (p : Process ν) : Event ν → Process ν × Reply ν
  | .captureWatch watchId =>
      match p.metrics.captureWatch watchId with
      | .error error => (p, .error error)
      | .ok (metrics, recorder) => (⟨metrics, p.handles.addRecorder recorder⟩, .ok none)
  | .captureExistingWatch watchId =>
      (⟨p.metrics, p.handles.addRecorder (p.metrics.captureExistingWatch watchId)⟩, .ok none)
  | .bindWatchRelease watchId =>
      (⟨p.metrics, p.handles.addRelease (p.metrics.bindWatchRelease watchId)⟩, .ok none)
  | .record watchId observation =>
      (⟨(p.metrics.record watchId observation).1, p.handles⟩,
        (p.metrics.record watchId observation).2.map fun _ => none)
  | .recordBy recorder observation =>
      match p.handles.recorders[recorder]? with
      | none => (p, .ok none)
      | some recorder =>
          (⟨(p.metrics.recordBy recorder observation).1, p.handles⟩,
            (p.metrics.recordBy recorder observation).2.map fun _ => none)
  | .finishBy recorder =>
      match p.handles.recorders[recorder]? with
      | none => (p, .ok none)
      | some recorder =>
          (⟨(p.metrics.finishBy recorder).1, p.handles⟩, .ok (p.metrics.finishBy recorder).2)
  | .finishWatch watchId =>
      (⟨(p.metrics.finishWatch watchId).1, p.handles⟩, .ok (p.metrics.finishWatch watchId).2)
  | .release release =>
      match p.handles.releases[release]? with
      | none => (p, .ok none)
      | some release => (⟨p.metrics.releaseBy release, p.handles⟩, .ok none)
  | .captureTurn watchId existingOnly =>
      match captureWatchEconomicsTurn (some p.metrics) watchId existingOnly with
      | none => (p, .ok none)
      | some (metrics, turn) => (⟨metrics, p.handles.addTurn turn⟩, .ok none)
  | .finishTurn turn watch now =>
      (⟨(finishWatchEconomicsTurn p.handles.turns[turn]? watch now p.metrics).1, p.handles⟩,
        .ok (finishWatchEconomicsTurn p.handles.turns[turn]? watch now p.metrics).2)

/-- The process after a list of calls, in any order. -/
def after (events : List (Event ν)) : Process ν :=
  Runs.run (fun p event => (step p event).1) start events

end Process

end RoundWatch.Metrics
