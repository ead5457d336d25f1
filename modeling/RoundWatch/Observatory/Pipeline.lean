import RoundWatch.Foundation.Runs
import RoundWatch.Observatory.Runtime

/-!
# The pipeline

The samplers and the readiness check call the producers whenever they are done, and a reader
builds a snapshot whenever it is asked for one.

* `Producers`, `ObservatoryEvent`, `Producers.step` — what is retained, and the calls;
* `Producers.Sound` — the invariant: `sound_run`;
* `Kept` — the retained data are those of the last call that was understood: `kept_run`;
* `ReadOutcomes.of` — a read whose retained getters are those of the producers;
* `observatory_pipeline` — every snapshot has a text that gives it back.
-/

namespace RoundWatch.Observatory

open JsText

/-! ## The producers -/

structure Producers where
  sample : RetainedRuntimeSample
  readiness : RetainedReadiness

/-- The calls, with what the clock does in each. -/
inductive ObservatoryEvent where
  | sampleCompleted (source cpu : Plain) (now : Outcome)
  | sampleFailed (now : Outcome)
  | outcomeCompleted (outcome supplied : Plain) (now failureNow : Outcome)
  | readinessFailed (now : Outcome)

namespace ObservatoryEvent

/-- The sample that is understood. -/
def sample? : ObservatoryEvent → Option (JsString × Plain × Plain)
  | .sampleCompleted source cpu _ => sampleOf source cpu
  | _ => none

/-- The outcome that is understood. -/
def outcome? : ObservatoryEvent → Option (JsString × Plain)
  | .outcomeCompleted outcome supplied now _ => RetainedReadiness.outcomeOf outcome supplied now
  | _ => none

end ObservatoryEvent

namespace Producers

def initial : Producers := ⟨.initial, emptyObservation .notYetSampled⟩

def step (σ : Producers) : ObservatoryEvent → Producers
  | .sampleCompleted source cpu now => { σ with sample := σ.sample.sampleCompleted source cpu now }
  | .sampleFailed now => { σ with sample := σ.sample.collectionFailed now }
  | .outcomeCompleted outcome supplied now failureNow =>
      { σ with readiness := σ.readiness.outcomeCompleted outcome supplied now failureNow }
  | .readinessFailed now => { σ with readiness := σ.readiness.collectionFailed now }

/-- After a list of calls. -/
def after (es : List ObservatoryEvent) : Producers := Runs.run step initial es

/-! ## The invariant -/

/-- The readers understand what is retained. -/
structure Sound (σ : Producers) : Prop where
  sample : σ.sample.Sound
  readiness : RetainedReadiness.Sound σ.readiness

theorem Sound.step {σ : Producers} (h : σ.Sound) (e : ObservatoryEvent) : (σ.step e).Sound := by
  cases e with
  | sampleCompleted source cpu now => exact ⟨h.sample.sampleCompleted source cpu now, h.readiness⟩
  | sampleFailed now => exact ⟨h.sample.collectionFailed now, h.readiness⟩
  | outcomeCompleted outcome supplied now failureNow =>
    exact ⟨h.sample, h.readiness.outcomeCompleted outcome supplied now failureNow⟩
  | readinessFailed now => exact ⟨h.sample, h.readiness.collectionFailed now⟩

theorem sound_after (es : List ObservatoryEvent) : (after es).Sound := by
  have hinitial : Sound initial :=
    ⟨RetainedRuntimeSample.sound_initial, RetainedReadiness.sound_initial⟩
  have hstep : ∀ σ e, Sound σ → Sound (σ.step e) := fun _ e h => h.step e
  exact Runs.run_invariant' hstep es hinitial

/-! ## What is kept -/

/-- The last call that was understood. -/
def last {α : Type} (accepted : ObservatoryEvent → Option α) (es : List ObservatoryEvent) :
    Option α :=
  es.reverse.findSome? accepted

theorem last_append {α : Type} (accepted : ObservatoryEvent → Option α)
    (es : List ObservatoryEvent) (e : ObservatoryEvent) :
    last accepted (es ++ [e]) = (accepted e).or (last accepted es) := by
  rw [last, List.reverse_append, List.reverse_singleton, List.singleton_append,
    List.findSome?_cons]
  cases accepted e <;> rfl

/-- The data and the times that are retained are those of a sample and of an outcome. -/
structure Kept (sample : Option (JsString × Plain × Plain)) (outcome : Option (JsString × Plain))
    (σ : Producers) : Prop where
  capacity : σ.sample.capacity.data = sample.map fun s => s.2.1
  resources : σ.sample.resources.data = sample.map fun s => s.2.2
  sampledAt : σ.sample.capacity.observedAt = sample.map Prod.fst ∧
    σ.sample.resources.observedAt = sample.map Prod.fst
  readiness : σ.readiness.data = outcome.map Prod.snd
  readinessAt : σ.readiness.observedAt = outcome.map Prod.fst

/-- **A call that is not understood leaves all data and times in place**, and one that is
puts its own there. -/
theorem Kept.step {sample : Option (JsString × Plain × Plain)} {outcome : Option (JsString × Plain)}
    {σ : Producers} (h : σ.Kept sample outcome) (e : ObservatoryEvent) :
    (σ.step e).Kept (e.sample?.or sample) (e.outcome?.or outcome) := by
  have hfailedSample (now : Outcome) :
      Kept sample outcome { σ with sample := σ.sample.collectionFailed now } := by
    obtain ⟨hcapacity, hcapacityAt, hresources, hresourcesAt⟩ :=
      RetainedRuntimeSample.collectionFailed_keeps σ.sample now
    exact ⟨hcapacity.trans h.capacity, hresources.trans h.resources,
      ⟨hcapacityAt.trans h.sampledAt.1, hresourcesAt.trans h.sampledAt.2⟩, h.readiness,
      h.readinessAt⟩
  have hfailedReadiness (now : Outcome) :
      Kept sample outcome { σ with readiness := σ.readiness.collectionFailed now } := by
    obtain ⟨hdata, hobservedAt⟩ := RetainedReadiness.collectionFailed_keeps σ.readiness now
    exact ⟨h.capacity, h.resources, h.sampledAt, hdata.trans h.readiness,
      hobservedAt.trans h.readinessAt⟩
  cases e with
  | sampleCompleted source cpu now =>
    cases hsample : sampleOf source cpu with
    | none =>
      simpa [Producers.step, ObservatoryEvent.sample?, ObservatoryEvent.outcome?, hsample,
        RetainedRuntimeSample.sampleCompleted] using hfailedSample now
    | some s =>
      have hstep : (σ.step (.sampleCompleted source cpu now)).sample =
          ⟨⟨.available, some s.1, σ.sample.capacity.lastCollectionFailureAt, some s.2.1⟩,
            ⟨.available, some s.1, σ.sample.capacity.lastCollectionFailureAt, some s.2.2⟩⟩ := by
        simp [Producers.step, RetainedRuntimeSample.sampleCompleted, hsample]
      simp only [ObservatoryEvent.sample?, ObservatoryEvent.outcome?, hsample, Option.some_or,
        Option.none_or]
      exact ⟨by rw [hstep]; rfl, by rw [hstep]; rfl, by rw [hstep]; exact ⟨rfl, rfl⟩, h.readiness,
        h.readinessAt⟩
  | sampleFailed now => exact hfailedSample now
  | outcomeCompleted outcome' supplied now failureNow =>
    cases houtcome : RetainedReadiness.outcomeOf outcome' supplied now with
    | none =>
      simpa [Producers.step, ObservatoryEvent.sample?, ObservatoryEvent.outcome?, houtcome,
        RetainedReadiness.outcomeCompleted] using hfailedReadiness failureNow
    | some o =>
      have hstep : (σ.step (.outcomeCompleted outcome' supplied now failureNow)).readiness =
          ⟨.available, some o.1, σ.readiness.lastCollectionFailureAt, some o.2⟩ := by
        simp [Producers.step, RetainedReadiness.outcomeCompleted, houtcome]
      simp only [ObservatoryEvent.sample?, ObservatoryEvent.outcome?, houtcome, Option.some_or,
        Option.none_or]
      exact ⟨h.capacity, h.resources, h.sampledAt, by rw [hstep]; rfl, by rw [hstep]; rfl⟩
  | readinessFailed now => exact hfailedReadiness now

/-- Whatever was called, the last sample and the last outcome that were understood are kept. -/
theorem kept_after (es : List ObservatoryEvent) :
    (after es).Kept (last ObservatoryEvent.sample? es) (last ObservatoryEvent.outcome? es) := by
  induction es using List.reverseRecOn with
  | nil => exact ⟨rfl, rfl, ⟨rfl, rfl⟩, rfl, rfl⟩
  | append_singleton es e ih =>
    have hrun : after (es ++ [e]) = (after es).step e := Runs.run_append step initial es [e]
    rw [hrun, last_append, last_append]
    exact ih.step e

end Producers

/-! ## The readers -/

/-- A read whose retained getters are those of the producers. -/
def ReadOutcomes.of (reads : ReadOutcomes) (σ : Producers) : ReadOutcomes :=
  { reads with
    retainedRuntimeSample := some (some σ.sample.toPlain)
    retainedPublicReadiness := some (some (Observation.toPlain σ.readiness)) }

/-- The clock of the read has a time that a date can be. -/
def ReadOutcomes.ClockValid (reads : ReadOutcomes) : Prop :=
  ∃ n : JsNumber, reads.epochMilliseconds = some (.number n) ∧ n.isFinite = true ∧
    n.trunc.natAbs ≤ Dates.maxTime.natAbs

theorem buildSnapshot_of_clock {reads : ReadOutcomes} (h : reads.ClockValid)
    (sources : ObservatoryRuntimeSources) (processEpoch : Option JsString) :
    ∃ snapshot, buildSnapshot sources processEpoch reads = some snapshot := by
  obtain ⟨n, hclock, hfinite, hrange⟩ := h
  have htime : reads.epochMilliseconds.bind epochToIsoUtc = some (Dates.toIsoText n.trunc) := by
    rw [hclock, Option.bind_some, epochToIsoUtc, if_pos]
    simp [hfinite, hrange]
  exact ⟨_, by rw [buildSnapshot, htime, Option.map_some]⟩

/-- What a snapshot reports of the retained observations. -/
theorem retained_of_buildSnapshot {σ : Producers} (h : σ.Sound) {reads : ReadOutcomes}
    {sources : ObservatoryRuntimeSources} {processEpoch : Option JsString}
    {snapshot : ObservatoryRuntime}
    (hbuild : buildSnapshot sources processEpoch (reads.of σ) = some snapshot) :
    snapshot.readiness = σ.readiness ∧
      (sources.economicsMetricsEnabled = true →
        snapshot.capacity = σ.sample.capacity ∧ snapshot.resources = σ.sample.resources) := by
  obtain ⟨observedAt, -, rfl⟩ := Option.map_eq_some_iff.1 hbuild
  refine ⟨readRetainedPublicReadiness_retained h.readiness, ?_⟩
  intro henabled
  have hread := readRetainedRuntimeSample_retained h.sample
  simp only [ReadOutcomes.of, henabled, hread, and_self]

/-- Every snapshot pairs the sampled observations. -/
theorem paired_of_buildSnapshot {reads : ReadOutcomes} {sources : ObservatoryRuntimeSources}
    {processEpoch : Option JsString} {snapshot : ObservatoryRuntime}
    (hbuild : buildSnapshot sources processEpoch reads = some snapshot) :
    Paired snapshot.capacity snapshot.resources := by
  obtain ⟨observedAt, -, rfl⟩ := Option.map_eq_some_iff.1 hbuild
  exact (readRetainedRuntimeSample_spec reads.retainedRuntimeSample
    sources.economicsMetricsEnabled).2.2

/-- What is wanted of a snapshot that was built after some calls. -/
structure Reports (sources : ObservatoryRuntimeSources) (es : List ObservatoryEvent)
    (snapshot : ObservatoryRuntime) : Prop where
  text : ∃ text, serializeObservatoryRuntime snapshot.toPlain = some text ∧
    Plain.parse text = some snapshot.toPlain.unsignZeros
  paired : Paired snapshot.capacity snapshot.resources
  readiness : snapshot.readiness = (Producers.after es).readiness
  sampled : sources.economicsMetricsEnabled = true →
    snapshot.capacity = (Producers.after es).sample.capacity ∧
      snapshot.resources = (Producers.after es).sample.resources

/-- **After every sequence of calls, a read has a snapshot, and the snapshot a text that gives
it back.**  The sampled observations agree with each other, and the retained data and times are
those of the last sample and the last outcome that were understood. -/
theorem observatory_pipeline {sources : ObservatoryRuntimeSources} {processEpoch : Option JsString}
    (h : sources.Valid processEpoch) (es : List ObservatoryEvent) {reads : ReadOutcomes}
    (hclock : reads.ClockValid) :
    (∃ snapshot,
        buildSnapshot sources processEpoch (reads.of (Producers.after es)) = some snapshot ∧
        Reports sources es snapshot) ∧
      Paired (Producers.after es).sample.capacity (Producers.after es).sample.resources ∧
      (Producers.after es).Kept (Producers.last ObservatoryEvent.sample? es)
        (Producers.last ObservatoryEvent.outcome? es) ∧
      ∀ e, (Producers.after (es ++ [e])).Kept
        (e.sample?.or (Producers.last ObservatoryEvent.sample? es))
        (e.outcome?.or (Producers.last ObservatoryEvent.outcome? es)) := by
  have hsound := Producers.sound_after es
  have hwired : (reads.of (Producers.after es)).ClockValid := hclock
  obtain ⟨snapshot, hbuild⟩ := buildSnapshot_of_clock hwired sources processEpoch
  obtain ⟨hreadiness, hsampled⟩ := retained_of_buildSnapshot hsound hbuild
  refine ⟨⟨snapshot, hbuild, ?_⟩, hsound.sample.paired, Producers.kept_after es, ?_⟩
  · exact ⟨exists_serialized (buildSnapshot_serializable h hbuild), paired_of_buildSnapshot hbuild,
      hreadiness, hsampled⟩
  · intro e
    have hafter := Producers.kept_after (es ++ [e])
    rwa [Producers.last_append, Producers.last_append] at hafter

/-! ## A read -/

/-- A service on the test network. -/
def testnetSources : ObservatoryRuntimeSources := ⟨.testnet, js "10458941", true⟩

theorem testnetSources_valid : testnetSources.Valid (some (js "epoch")) where
  assetId := by decide
  processEpoch := by rintro s ⟨⟩; decide

/-- A worker that never failed, and whose count of failures is `-0`. -/
def freshWorker : Plain :=
  .object
    [(js "started", .bool true), (js "running", .bool true), (js "ready", .bool true),
      (js "cycleNotStalled", .bool true), (js "providerHealth", .string (js "healthy")),
      (js "consecutiveFailures", .number (.finite true 0))]

/-- `1e12`. -/
def trillion : Decimals.Decimal where
  digits := [49]
  point := 13
  isDigit := by
    intro u hu
    rw [List.mem_singleton.1 hu]
    rfl
  first := by decide
  last := by decide
  zero := by rintro ⟨⟩

/-- A read at `1e12`, with a worker and no other getter. -/
def freshReads : ReadOutcomes :=
  let now : Outcome := some (.number (.finite false trillion))
  { pollerHealthSnapshot := some freshWorker
    pollerNow := now
    reconcilerHealthSnapshot := none
    reconcilerNow := now
    dispatcherSnapshot := none
    dispatcherNow := now
    processMonotonicMilliseconds := none
    cachedIndexerTip := none
    pollCycleSnapshot := none
    retainedRuntimeSample := none
    epochMilliseconds := now
    retainedPublicReadiness := none }

theorem freshReads_clockValid : freshReads.ClockValid := ⟨_, rfl, by decide, by decide⟩

/-- When the sampler and the readiness check were done. -/
def doneAt : JsString := js "2024-05-01T00:00:00.000Z"

/-- A sample of an idle service. -/
def idleSample : Plain :=
  let zero : Plain := .number (.finite false 0)
  .object
    [(js "capacity", .object
      [(js "unfinishedWatches", zero), (js "activeWatches", zero),
        (js "settlementPendingWatches", zero), (js "unresolvedSettlementUnknownWatches", zero),
        (js "activeWatchesMissingScanBaseline", zero),
        (js "watchesPastDeadlineAwaitingCoverage", zero), (js "oldestActiveWatchAgeMs", .null),
        (js "scanLagRounds", .null), (js "currentIndexerRound", .null),
        (js "currentIndexerRoundObservedAt", .null)]),
      (js "resources", .object
        [(js "sampledAt", .string doneAt), (js "rssBytes", .number (.finite false trillion)),
          (js "heapUsedBytes", zero), (js "heapTotalBytes", zero), (js "externalBytes", zero),
          (js "sqliteBytes", .null), (js "walBytes", .null)])]

/-- A failed check, a sample, an outcome, and a sample that is not understood. -/
def idleHistory : List ObservatoryEvent :=
  [.readinessFailed none, .sampleCompleted idleSample .null none,
    .outcomeCompleted
      (readinessOf true (normalReadinessChecks.map fun name => (js name, .bool true)))
      (.string doneAt) none none,
    .sampleCompleted .null .null none]

/-- The sample and the outcome that were understood are reported. -/
theorem observatory_pipeline_fresh :
    ∃ snapshot,
      buildSnapshot testnetSources (some (js "epoch"))
        (freshReads.of (Producers.after idleHistory)) = some snapshot ∧
      Reports testnetSources idleHistory snapshot ∧
      snapshot.capacity.observedAt = some doneAt ∧ snapshot.readiness.observedAt = some doneAt := by
  obtain ⟨⟨snapshot, hbuild, hreports⟩, -, hkept, -⟩ :=
    observatory_pipeline testnetSources_valid idleHistory freshReads_clockValid
  refine ⟨snapshot, hbuild, hreports, ?_, ?_⟩
  · rw [(hreports.sampled rfl).1, hkept.sampledAt.1]
    rfl
  · rw [hreports.readiness, hkept.readinessAt]
    rfl

/-- The count of failures that a snapshot reports of the poller. -/
def consecutiveFailuresOf (snapshot : Plain) : Plain :=
  (((snapshot.field "workers").field "poller").field "data").field "consecutiveFailures"

/-- **The text does not give the snapshot back** where it holds a `-0`: the text has `0`. -/
theorem parse_serialized_ne :
    ∃ snapshot text,
      buildSnapshot testnetSources (some (js "epoch")) (freshReads.of (Producers.after [])) =
        some snapshot ∧
      serializeObservatoryRuntime snapshot.toPlain = some text ∧
      Plain.parse text ≠ some snapshot.toPlain := by
  obtain ⟨snapshot, hbuild⟩ := @buildSnapshot_of_clock (freshReads.of (Producers.after []))
    freshReads_clockValid testnetSources (some (js "epoch"))
  obtain ⟨text, htext, hparse⟩ :=
    exists_serialized (buildSnapshot_serializable testnetSources_valid hbuild)
  refine ⟨snapshot, text, hbuild, htext, ?_⟩
  rw [hparse]
  intro heq
  have hcount := congrArg consecutiveFailuresOf (Option.some.inj heq)
  cases hbuild
  cases hcount

end RoundWatch.Observatory
