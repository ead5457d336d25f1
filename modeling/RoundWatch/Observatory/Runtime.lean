import RoundWatch.Observatory.PublicReadiness

/-!
# The snapshot builder

`createObservatoryRuntimeSnapshotBuilder` reads its sources one after another.  A getter that
throws, or returns something else than it should, costs its own section only.

* `directObservation`, `cachedRoundObservation`, `completedPollCycleObservation` — the sections;
* `ReadOutcomes` — what the getters and clocks of one read do;
* `buildSnapshot` — the snapshot;
* `buildSnapshot_serializable` — the serializer accepts every snapshot.
-/

namespace RoundWatch.Observatory

open JsText Dates

/-! ## Projections -/

/-- `epochToIsoUtc`. -/
def epochToIsoUtc : Plain → Option JsString
  | .number n =>
      if n.isFinite && decide (n.trunc.natAbs ≤ maxTime.natAbs) then some (toIsoText n.trunc)
      else none
  | _ => none

/-- `optionalEpochToIsoUtc`. -/
def optionalEpochToIsoUtc (v : Plain) : Outcome :=
  if v.isUndefined || v.isNull then some .null else (epochToIsoUtc v).map .string

def projectWorker (source : Plain) : Outcome :=
  literalOf
    [("started", (source.get "started").bind boolean),
      ("running", (source.get "running").bind boolean),
      ("ready", (source.get "ready").bind boolean),
      ("cycleNotStalled", (source.get "cycleNotStalled").bind boolean),
      ("providerHealth",
        (source.get "providerHealth").bind (enumeration ["unknown", "healthy", "unhealthy"])),
      ("consecutiveFailures", (source.get "consecutiveFailures").bind count),
      ("lastCycleStartedAt", (source.get "lastCycleStartedAtMs").bind optionalEpochToIsoUtc),
      ("lastProgressAt", (source.get "lastProgressAtMs").bind optionalEpochToIsoUtc),
      ("lastProviderEvidenceAt",
        (source.get "lastProviderEvidenceAtMs").bind optionalEpochToIsoUtc),
      ("lastErrorAt", (source.get "lastErrorAtMs").bind optionalEpochToIsoUtc)]

/-- `purposeCount`: a purpose without a counter has none. -/
def purposeCount (requests : Plain) (key : String) : Outcome :=
  if requests.hasOwn key then count (requests.field key) else some (.number (.finite false 0))

def projectRequests (requests : Plain) : Outcome :=
  literalOf
    [("activation", purposeCount requests "activation"),
      ("reconciliation", purposeCount requests "reconciliation"),
      ("absence-proof", purposeCount requests "absence-proof"),
      ("scan-page", purposeCount requests "scan-page"),
      ("checkpoint", purposeCount requests "checkpoint"), ("health", purposeCount requests "health")]

def projectDispatcher (source : Plain) : Outcome :=
  (source.get "requests").bind fun requests =>
  if !requests.isObject then none
  else
    ((source.get "failures").bind count).bind fun failures =>
    ((source.get "timeouts").bind count).bind fun timeouts =>
    if failures.countValue < timeouts.countValue then none
    else
      literalOf
        [("queued", (source.get "queued").bind count),
          ("inFlight", (source.get "inFlight").bind count), ("requests", projectRequests requests),
          ("successes", (source.get "successes").bind count), ("failures", some failures),
          ("timeouts", some timeouts)]

/-! ## Sections -/

/-- `directObservation`. -/
def directObservation (getter : Outcome) (project : Plain → Outcome) (now : Outcome) : Observation :=
  (getter.bind fun source =>
    (now.bind epochToIsoUtc).bind fun observedAt =>
    (project source).map fun data => availableObservation data observedAt).getD
      (emptyObservation .unavailable)

def cachedRoundObservation (getter : Outcome) : Observation :=
  match getter with
  | none => emptyObservation .unavailable
  | some source =>
      let round := source.field "currentIndexerRound"
      let observedAt := source.field "currentIndexerRoundObservedAt"
      if !source.isObject then emptyObservation .unavailable
      else if round.isUndefined && observedAt.isUndefined then emptyObservation .notYetSampled
      else
        ((timestampText observedAt).bind fun observedAt =>
          (count round).map fun round =>
            availableObservation (.object [(js "round", round)]) observedAt).getD
          (emptyObservation .unavailable)

/-- The observation of a cycle that was read, or a throw. -/
def pollCycleOf (source : Plain) : Option Observation :=
  (source.get "lastCycleCompletedAt").bind fun observedAt =>
  (source.get "lastCycleDurationMs").bind fun durationMs =>
  ((source.get "watchesAttemptedLastCycle").bind count).bind fun attempted =>
  ((source.get "watchesSucceededLastCycle").bind count).bind fun progressed =>
  ((source.get "watchesFailedLastCycle").bind count).bind fun failed =>
  if observedAt.isUndefined && durationMs.isUndefined && attempted.isZero && progressed.isZero &&
      failed.isZero then
    some (emptyObservation .notYetSampled)
  else
    (timestampText observedAt).bind fun observedAt =>
    (milliseconds durationMs).map fun durationMs =>
      availableObservation
        (.object
          [(js "durationMs", durationMs), (js "attempted", attempted), (js "progressed", progressed),
            (js "failed", failed)]) observedAt

def completedPollCycleObservation (getter : Option Outcome) : Observation :=
  match getter with
  | none => emptyObservation .unavailable
  | some outcome => (outcome.bind pollCycleOf).getD (emptyObservation .unavailable)

/-- `monotonicObservation`. -/
def monotonicObservation : Outcome → Option JsNumber
  | some (.number n) => if n.isFinite && n.nonnegative then some n else none
  | _ => none

/-! ## The builder -/

/-- The scalars that a builder is made with. -/
structure ObservatoryRuntimeSources where
  network : NetworkName
  assetId : JsString
  economicsMetricsEnabled : Bool

/-- What the getters and clocks do in one read.  A getter that is not wired is `none`; the
clock is asked once for every direct section, and once for the snapshot. -/
structure ReadOutcomes where
  pollerHealthSnapshot : Outcome
  pollerNow : Outcome
  reconcilerHealthSnapshot : Outcome
  reconcilerNow : Outcome
  dispatcherSnapshot : Outcome
  dispatcherNow : Outcome
  processMonotonicMilliseconds : Outcome
  cachedIndexerTip : Outcome
  pollCycleSnapshot : Option Outcome
  retainedRuntimeSample : Option Outcome
  epochMilliseconds : Outcome
  retainedPublicReadiness : Option Outcome

/-- One read of the builder, with the epoch that it was made with; it throws when its own
clock has no valid time. -/
def buildSnapshot (sources : ObservatoryRuntimeSources) (processEpoch : Option JsString)
    (reads : ReadOutcomes) : Option ObservatoryRuntime :=
  (reads.epochMilliseconds.bind epochToIsoUtc).map fun observedAt =>
    let dispatcher := directObservation reads.dispatcherSnapshot projectDispatcher reads.dispatcherNow
    let sampled :=
      readRetainedRuntimeSample reads.retainedRuntimeSample sources.economicsMetricsEnabled
    { observedAt := observedAt
      network := sources.network
      assetId := sources.assetId
      economicsMetricsEnabled := sources.economicsMetricsEnabled
      processEpoch := processEpoch
      processMonotonicMs :=
        if processEpoch.isNone || decide (dispatcher.availability ≠ .available) then none
        else monotonicObservation reads.processMonotonicMilliseconds
      poller := directObservation reads.pollerHealthSnapshot projectWorker reads.pollerNow
      reconciler := directObservation reads.reconcilerHealthSnapshot projectWorker reads.reconcilerNow
      dispatcher := dispatcher
      observedRound := cachedRoundObservation reads.cachedIndexerTip
      pollCycle := completedPollCycleObservation reads.pollCycleSnapshot
      readiness := readRetainedPublicReadiness reads.retainedPublicReadiness
      capacity := sampled.capacity
      resources := sampled.resources }

/-! ## What the sections hold -/

theorem isIsoUtc_of_epochToIsoUtc {v : Plain} {s : JsString} (h : epochToIsoUtc v = some s) :
    isIsoUtc s = true := by
  unfold epochToIsoUtc at h
  split at h
  · next n =>
    split at h
    · next hn =>
      cases h
      rw [Bool.and_eq_true, decide_eq_true_eq] at hn
      exact isIsoUtc_toIsoText hn.2
    · cases h
  · cases h

theorem isIsoUtc_of_bind {now : Outcome} {s : JsString} (h : now.bind epochToIsoUtc = some s) :
    isIsoUtc s = true := by
  obtain ⟨v, -, hv⟩ := Option.bind_eq_some_iff.1 h
  exact isIsoUtc_of_epochToIsoUtc hv

/-- Every field of the literal passes the check of the shape. -/
def LiteralFits (fields : List (String × Outcome)) (shape : Shape) : Prop :=
  List.Forall₂ (fun p q => p.1 = q.1 ∧ ∀ v, p.2 = some v → q.2 v = some v) fields shape

theorem accepts_of_literal {fields : List (String × Outcome)} {shape : Shape}
    (h : LiteralFits fields shape) {v : Plain} (hv : literalOf fields = some v) :
    ∃ values, v = .object values ∧ shape.Accepts values := by
  obtain ⟨values, hvalues, rfl⟩ := Option.map_eq_some_iff.1 hv
  refine ⟨values, rfl, ?_⟩
  clear hv
  induction h generalizing values with
  | nil => cases hvalues; exact .nil
  | @cons p q fields shape hp _ ih =>
    rw [List.mapM_cons] at hvalues
    obtain ⟨first, hfirst, hvalues⟩ := Option.bind_eq_some_iff.1 hvalues
    obtain ⟨rest, hrest, hvalues⟩ := Option.bind_eq_some_iff.1 hvalues
    obtain ⟨w, hw, rfl⟩ := Option.map_eq_some_iff.1 hfirst
    cases hvalues
    exact .cons ⟨by rw [hp.1], hp.2 w hw⟩ (ih rest hrest)

/-- What a check let through, it lets through again. -/
theorem again_of_bind {check check' : Check} (h : Feeds check check') {read : Outcome} :
    ∀ v, read.bind check = some v → check' v = some v := by
  intro v hv
  obtain ⟨u, -, hu⟩ := Option.bind_eq_some_iff.1 hv
  exact h u v hu

theorem feeds_enumeration (values : List String) :
    Feeds (enumeration values) (enumeration values) := by
  intro v w h
  cases v with
  | string s =>
    simp only [enumeration] at h
    split at h
    · next hs => cases h; exact if_pos hs
    · cases h
  | _ => cases h

theorem feeds_optionalEpoch : Feeds optionalEpochToIsoUtc (nullable isoUtc) := by
  intro v w h
  unfold optionalEpochToIsoUtc at h
  split at h
  · cases h
    rfl
  · obtain ⟨s, hs, rfl⟩ := Option.map_eq_some_iff.1 h
    exact isoUtc_of_isIsoUtc (isIsoUtc_of_epochToIsoUtc hs)

/-- What is projected is an object that the schema accepts. -/
def Fits (project : Plain → Outcome) (shape : Shape) : Prop :=
  ∀ v w, project v = some w → object shape w = some w ∧ w.isNull = false

theorem fits_of_literal {fields : List (String × Outcome)} {shape : Shape}
    (h : LiteralFits fields shape) (hnodup : shape.names.Nodup) {w : Plain}
    (hw : literalOf fields = some w) : object shape w = some w ∧ w.isNull = false := by
  obtain ⟨values, rfl, hvalues⟩ := accepts_of_literal h hw
  exact ⟨object_accepted hvalues hnodup, rfl⟩

theorem fits_worker : Fits projectWorker workerShape := by
  intro v w hw
  refine fits_of_literal ?_ (by decide) hw
  have hboolean (read : Outcome) : ∀ u, read.bind boolean = some u → boolean u = some u :=
    again_of_bind feeds_boolean
  have hepoch (read : Outcome) :
      ∀ u, read.bind optionalEpochToIsoUtc = some u → nullable isoUtc u = some u :=
    again_of_bind feeds_optionalEpoch
  exact .cons ⟨rfl, hboolean _⟩ (.cons ⟨rfl, hboolean _⟩ (.cons ⟨rfl, hboolean _⟩
    (.cons ⟨rfl, hboolean _⟩ (.cons ⟨rfl, again_of_bind (feeds_enumeration _)⟩
    (.cons ⟨rfl, again_of_bind feeds_count⟩ (.cons ⟨rfl, hepoch _⟩ (.cons ⟨rfl, hepoch _⟩
    (.cons ⟨rfl, hepoch _⟩ (.cons ⟨rfl, hepoch _⟩ .nil)))))))))

theorem purposeCount_again {requests : Plain} {key : String} :
    ∀ v, purposeCount requests key = some v → count v = some v := by
  intro v h
  unfold purposeCount at h
  split at h
  · exact feeds_count _ _ h
  · cases h
    rfl

theorem fits_requests : Fits projectRequests requestsShape := by
  intro v w hw
  refine fits_of_literal ?_ (by decide) hw
  exact .cons ⟨rfl, purposeCount_again⟩ (.cons ⟨rfl, purposeCount_again⟩
    (.cons ⟨rfl, purposeCount_again⟩ (.cons ⟨rfl, purposeCount_again⟩
    (.cons ⟨rfl, purposeCount_again⟩ (.cons ⟨rfl, purposeCount_again⟩ .nil)))))

theorem fits_dispatcher : Fits projectDispatcher dispatcherShape := by
  intro v w hw
  obtain ⟨requests, -, hw⟩ := Option.bind_eq_some_iff.1 hw
  split at hw
  · cases hw
  obtain ⟨failures, hfailures, hw⟩ := Option.bind_eq_some_iff.1 hw
  obtain ⟨timeouts, htimeouts, hw⟩ := Option.bind_eq_some_iff.1 hw
  split at hw
  · cases hw
  have hcount (read : Outcome) : ∀ u, read.bind count = some u → count u = some u :=
    again_of_bind feeds_count
  refine fits_of_literal ?_ (by decide) hw
  refine .cons ⟨rfl, hcount _⟩ (.cons ⟨rfl, hcount _⟩ (.cons ⟨rfl, ?_⟩ (.cons ⟨rfl, hcount _⟩
    (.cons ⟨rfl, ?_⟩ (.cons ⟨rfl, ?_⟩ .nil)))))
  · intro u hu
    exact (fits_requests _ _ hu).1
  · rintro u ⟨⟩
    exact hcount _ _ hfailures
  · rintro u ⟨⟩
    exact hcount _ _ htimeouts

/-- An available observation with data that the schema accepts. -/
theorem serializable_available {codec : Check} {w : Plain} {s : JsString} (hs : isIsoUtc s = true)
    (hw : codec w = some w ∧ w.isNull = false) :
    (availableObservation w s).Serializable codec false where
  observedAt := by rintro t ⟨⟩; exact hs
  failure := by rintro t ⟨⟩
  data := by rintro w' ⟨⟩; exact hw
  present := rfl
  available _ := rfl
  failed := by rintro ⟨⟩
  empty havailable := absurd rfl havailable
  sampled := by rintro ⟨⟩

theorem serializable_unavailable (codec : Check) :
    (emptyObservation .unavailable).Serializable codec false :=
  Observation.serializable_empty (by decide)

theorem directObservation_serializable {project : Plain → Outcome} {shape : Shape}
    (h : Fits project shape) (getter now : Outcome) :
    (directObservation getter project now).Serializable (object shape) false := by
  unfold directObservation
  cases hread : getter.bind fun source => (now.bind epochToIsoUtc).bind fun observedAt =>
      (project source).map fun data => availableObservation data observedAt with
  | none => exact serializable_unavailable _
  | some o =>
    obtain ⟨source, -, hread⟩ := Option.bind_eq_some_iff.1 hread
    obtain ⟨observedAt, hnow, hread⟩ := Option.bind_eq_some_iff.1 hread
    obtain ⟨data, hdata, rfl⟩ := Option.map_eq_some_iff.1 hread
    exact serializable_available (isIsoUtc_of_bind hnow) (h source data hdata)

theorem cachedRoundObservation_serializable (getter : Outcome) :
    (cachedRoundObservation getter).Serializable (object roundShape) false := by
  cases getter with
  | none => exact serializable_unavailable _
  | some source =>
    simp only [cachedRoundObservation]
    split
    · exact serializable_unavailable _
    split
    · exact Observation.serializable_empty (by decide)
    cases hread : (timestampText (source.field "currentIndexerRoundObservedAt")).bind
        fun observedAt => (count (source.field "currentIndexerRound")).map fun round =>
          availableObservation (.object [(js "round", round)]) observedAt with
    | none => exact serializable_unavailable _
    | some o =>
      obtain ⟨observedAt, htime, hread⟩ := Option.bind_eq_some_iff.1 hread
      obtain ⟨round, hround, rfl⟩ := Option.map_eq_some_iff.1 hread
      have hfields : roundShape.Accepts [(js "round", round)] :=
        .cons ⟨rfl, feeds_count _ _ hround⟩ .nil
      exact serializable_available (timestampText_eq_some.1 htime).2
        ⟨object_accepted hfields (by decide), rfl⟩

theorem pollCycleOf_serializable {source : Plain} {o : Observation}
    (h : pollCycleOf source = some o) :
    o.Serializable (object pollCycleShape) false := by
  obtain ⟨observedAt, -, h⟩ := Option.bind_eq_some_iff.1 h
  obtain ⟨durationMs, -, h⟩ := Option.bind_eq_some_iff.1 h
  obtain ⟨attempted, hattempted, h⟩ := Option.bind_eq_some_iff.1 h
  obtain ⟨progressed, hprogressed, h⟩ := Option.bind_eq_some_iff.1 h
  obtain ⟨failed, hfailed, h⟩ := Option.bind_eq_some_iff.1 h
  split at h
  · cases h
    exact Observation.serializable_empty (by decide)
  obtain ⟨time, htime, h⟩ := Option.bind_eq_some_iff.1 h
  obtain ⟨duration, hduration, rfl⟩ := Option.map_eq_some_iff.1 h
  have hcount (read : Outcome) : ∀ u, read.bind count = some u → count u = some u :=
    again_of_bind feeds_count
  have hfields : pollCycleShape.Accepts [(js "durationMs", duration), (js "attempted", attempted),
      (js "progressed", progressed), (js "failed", failed)] :=
    .cons ⟨rfl, feeds_milliseconds _ _ hduration⟩ (.cons ⟨rfl, hcount _ _ hattempted⟩
      (.cons ⟨rfl, hcount _ _ hprogressed⟩ (.cons ⟨rfl, hcount _ _ hfailed⟩ .nil)))
  exact serializable_available (timestampText_eq_some.1 htime).2
    ⟨object_accepted hfields (by decide), rfl⟩

theorem completedPollCycleObservation_serializable (getter : Option Outcome) :
    (completedPollCycleObservation getter).Serializable (object pollCycleShape) false := by
  cases getter with
  | none => exact serializable_unavailable _
  | some outcome =>
    rw [completedPollCycleObservation]
    cases hread : outcome.bind pollCycleOf with
    | none => exact serializable_unavailable _
    | some o =>
      obtain ⟨source, -, hsource⟩ := Option.bind_eq_some_iff.1 hread
      exact pollCycleOf_serializable hsource

theorem monotonicObservation_spec {now : Outcome} {n : JsNumber}
    (h : monotonicObservation now = some n) : n.isFinite = true ∧ n.nonnegative = true := by
  unfold monotonicObservation at h
  split at h
  · split at h
    · next hn =>
      cases h
      rwa [Bool.and_eq_true] at hn
    · cases h
  · cases h

/-! ## The snapshot -/

/-- What a builder is made with, as its types and its caller have it. -/
structure ObservatoryRuntimeSources.Valid (sources : ObservatoryRuntimeSources)
    (processEpoch : Option JsString) : Prop where
  assetId : sources.assetId.length ≤ 20 ∧ isAssetId sources.assetId = true
  processEpoch : ∀ s, processEpoch = some s → s.length ≤ 128

/-- **Every snapshot is accepted**, whatever the getters and the other clocks do. -/
theorem buildSnapshot_serializable {sources : ObservatoryRuntimeSources}
    {processEpoch : Option JsString} (h : sources.Valid processEpoch) {reads : ReadOutcomes}
    {snapshot : ObservatoryRuntime} (hbuild : buildSnapshot sources processEpoch reads = some snapshot) :
    snapshot.Serializable := by
  obtain ⟨observedAt, htime, rfl⟩ := Option.map_eq_some_iff.1 hbuild
  obtain ⟨hcapacity, hresources, -⟩ := readRetainedRuntimeSample_spec reads.retainedRuntimeSample
    sources.economicsMetricsEnabled
  exact
    { observedAt := isIsoUtc_of_bind htime
      assetId := h.assetId
      processEpoch := h.processEpoch
      processMonotonicMs := by
        intro n hn
        simp only at hn
        split at hn
        · cases hn
        · exact monotonicObservation_spec hn
      poller := directObservation_serializable fits_worker _ _
      reconciler := directObservation_serializable fits_worker _ _
      dispatcher := directObservation_serializable fits_dispatcher _ _
      observedRound := cachedRoundObservation_serializable _
      pollCycle := completedPollCycleObservation_serializable _
      readiness := readRetainedPublicReadiness_serializable _
      capacity := hcapacity
      resources := hresources }

end RoundWatch.Observatory
