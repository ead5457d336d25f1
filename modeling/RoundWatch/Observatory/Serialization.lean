import RoundWatch.Observatory.Shapes

/-!
# The serializer

`serializeObservatoryRuntime` walks a snapshot by a fixed schema, and throws on whatever the
schema does not know.

* `Observation`, `ObservatoryRuntime` — the snapshot, and its value in the language;
* `observation`, `runtime` — the codecs;
* `Observation.Serializable` — what an observation must be to be accepted;
* `exists_serialized` — a snapshot of such observations has a text, which gives it back.
-/

namespace RoundWatch.Observatory

open JsText Dates

/-! ## Snapshots -/

inductive Availability where
  | available
  | unavailable
  | notYetSampled
  | instrumentationDisabled
  | collectionFailed
  deriving DecidableEq, Repr

def Availability.name : Availability → String
  | .available => "available"
  | .unavailable => "unavailable"
  | .notYetSampled => "not_yet_sampled"
  | .instrumentationDisabled => "instrumentation_disabled"
  | .collectionFailed => "collection_failed"

structure Observation where
  availability : Availability
  observedAt : Option JsString
  lastCollectionFailureAt : Option JsString
  data : Option Plain

namespace Observation

def fields (o : Observation) : List (JsString × Plain) :=
  [(js "availability", .string (js o.availability.name)), (js "observedAt", .ofText o.observedAt),
    (js "lastCollectionFailureAt", .ofText o.lastCollectionFailureAt),
    (js "data", o.data.getD .null)]

def toPlain (o : Observation) : Plain := .object o.fields

theorem own_availability (o : Observation) :
    o.toPlain.own "availability" = some (.string (js o.availability.name)) := rfl

theorem own_observedAt (o : Observation) :
    o.toPlain.own "observedAt" = some (.ofText o.observedAt) := rfl

theorem own_lastCollectionFailureAt (o : Observation) :
    o.toPlain.own "lastCollectionFailureAt" = some (.ofText o.lastCollectionFailureAt) := rfl

theorem own_data (o : Observation) : o.toPlain.own "data" = some (o.data.getD .null) := rfl

end Observation

/-- `emptyObservation`. -/
def emptyObservation (availability : Availability) : Observation := ⟨availability, none, none, none⟩

/-- `availableObservation`. -/
def availableObservation (data : Plain) (observedAt : JsString) : Observation :=
  ⟨.available, some observedAt, none, some data⟩

inductive NetworkName where
  | testnet
  | mainnet
  deriving DecidableEq, Repr

def NetworkName.name : NetworkName → String
  | .testnet => "testnet"
  | .mainnet => "mainnet"

/-- `ObservatoryRuntimeV01`. -/
structure ObservatoryRuntime where
  observedAt : JsString
  network : NetworkName
  assetId : JsString
  economicsMetricsEnabled : Bool
  processEpoch : Option JsString
  processMonotonicMs : Option JsNumber
  poller : Observation
  reconciler : Observation
  dispatcher : Observation
  observedRound : Observation
  pollCycle : Observation
  readiness : Observation
  capacity : Observation
  resources : Observation

namespace ObservatoryRuntime

/-- The inner `runtime`. -/
def process (r : ObservatoryRuntime) : List (JsString × Plain) :=
  [(js "network", .string (js r.network.name)), (js "assetId", .string r.assetId),
    (js "economicsMetricsEnabled", .bool r.economicsMetricsEnabled),
    (js "processEpoch", .ofText r.processEpoch),
    (js "processMonotonicMs", (r.processMonotonicMs.map .number).getD .null),
    (js "deployedCommit", .null)]

def workers (r : ObservatoryRuntime) : List (JsString × Plain) :=
  [(js "poller", r.poller.toPlain), (js "reconciler", r.reconciler.toPlain)]

def indexer (r : ObservatoryRuntime) : List (JsString × Plain) :=
  [(js "dispatcher", r.dispatcher.toPlain), (js "observedRound", r.observedRound.toPlain)]

def fields (r : ObservatoryRuntime) : List (JsString × Plain) :=
  [(js "schemaVersion", .string (js "observatory-runtime-v0.1")),
    (js "observedAt", .string r.observedAt), (js "runtime", .object r.process),
    (js "workers", .object r.workers), (js "indexer", .object r.indexer),
    (js "pollCycle", r.pollCycle.toPlain), (js "readiness", r.readiness.toPlain),
    (js "capacity", r.capacity.toPlain), (js "resources", r.resources.toPlain)]

def toPlain (r : ObservatoryRuntime) : Plain := .object r.fields

end ObservatoryRuntime

/-! ## Codecs -/

def observationShape (data : Check) : Shape :=
  [("availability", enumeration ["available", "unavailable", "not_yet_sampled",
      "instrumentation_disabled", "collection_failed"]),
    ("observedAt", nullable isoUtc), ("lastCollectionFailureAt", nullable isoUtc),
    ("data", nullable data)]

/-- The conditions of `observation` on its result. -/
def observationCoherent (sampled : Bool) (result : Plain) : Bool :=
  let present := !(result.field "data").isNull
  let availability := (result.field "availability").string?
  (present == !(result.field "observedAt").isNull) &&
    !(availability == some (js "available") && !present) &&
    (if availability == some (js "collection_failed") then
        !(result.field "lastCollectionFailureAt").isNull
      else availability == some (js "available") || !present) &&
    !(sampled && present &&
        ((result.field "data").field "sampledAt").string? != (result.field "observedAt").string?)

def observation (data : Check) (sampled : Bool) : Check :=
  Check.guarded (object (observationShape data)) (observationCoherent sampled)

def workerShape : Shape :=
  [("started", boolean), ("running", boolean), ("ready", boolean), ("cycleNotStalled", boolean),
    ("providerHealth", enumeration ["unknown", "healthy", "unhealthy"]),
    ("consecutiveFailures", count), ("lastCycleStartedAt", nullable isoUtc),
    ("lastProgressAt", nullable isoUtc), ("lastProviderEvidenceAt", nullable isoUtc),
    ("lastErrorAt", nullable isoUtc)]

def requestsShape : Shape :=
  [("activation", count), ("reconciliation", count), ("absence-proof", count), ("scan-page", count),
    ("checkpoint", count), ("health", count)]

def dispatcherShape : Shape :=
  [("queued", count), ("inFlight", count), ("requests", object requestsShape), ("successes", count),
    ("failures", count), ("timeouts", count)]

def roundShape : Shape := [("round", count)]

def pollCycleShape : Shape :=
  [("durationMs", milliseconds), ("attempted", count), ("progressed", count), ("failed", count)]

def normalReadinessShape : Shape :=
  [("storage", boolean), ("poller", boolean), ("reconciler", boolean),
    ("backgroundWorkers", boolean), ("diskHeadroom", boolean)]

def exceptionReadinessShape : Shape := [("readinessCheck", onlyFalse)]

/-- The names of the normal checks. -/
def normalReadinessChecks : List String :=
  ["storage", "poller", "reconciler", "backgroundWorkers", "diskHeadroom"]

/-- `readiness`: one of two variants, told apart by `readinessCheck`. -/
def readinessCodec : Check := fun v =>
  ((v.own "ready").bind boolean).bind fun ready =>
  (v.own "checks").bind fun checks =>
  if checks.hasOwn "readinessCheck" then
    (onlyFalse ready).bind fun _ =>
    if normalReadinessChecks.any checks.hasOwn then none
    else
      (object exceptionReadinessShape checks).map fun checks =>
        .object [(js "ready", ready), (js "checks", checks)]
  else
    (object normalReadinessShape checks).map fun checks =>
      .object [(js "ready", ready), (js "checks", checks)]

def scanLagShape : Shape := [("samples", count), ("p50", count), ("p95", count), ("max", count)]

def capacityShape : Shape :=
  [("sampledAt", isoUtc), ("unfinishedWatches", count), ("activeWatches", count),
    ("settlementPendingWatches", count), ("unresolvedSettlementUnknownWatches", count),
    ("activeWatchesMissingScanBaseline", count), ("watchesPastDeadlineAwaitingCoverage", count),
    ("oldestActiveWatchAgeMs", nullable milliseconds),
    ("scanLagRounds", nullable (object scanLagShape)), ("observedIndexerRound", nullable count),
    ("observedIndexerRoundAt", nullable isoUtc)]

def cpuShape : Shape := [("userMicros", count), ("systemMicros", count), ("elapsedMs", milliseconds)]

def resourcesShape : Shape :=
  [("sampledAt", isoUtc), ("rssBytes", count), ("heapUsedBytes", count), ("heapTotalBytes", count),
    ("externalBytes", count), ("cpu", nullable (object cpuShape)), ("sqliteBytes", nullable count),
    ("walBytes", nullable count)]

/-- `/^(?:0|[1-9]\d*)$/`. -/
def isAssetId : JsString → Bool
  | [] => false
  | u :: rest => if u = 48 then rest = [] else (u :: rest).all isDecimalDigit

/-- `/^[0-9a-fA-F]{40}$/`. -/
def isCommit (s : JsString) : Bool := s.length == 40 && s.all fun u => (digitValue? 16 u).isSome

def processShape : Shape :=
  [("network", enumeration ["testnet", "mainnet"]), ("assetId", textOf isAssetId 20),
    ("economicsMetricsEnabled", boolean), ("processEpoch", nullable (textOf (fun _ => true) 128)),
    ("processMonotonicMs", nullable milliseconds), ("deployedCommit", nullable (textOf isCommit 40))]

def workersShape : Shape :=
  [("poller", observation (object workerShape) false),
    ("reconciler", observation (object workerShape) false)]

def indexerShape : Shape :=
  [("dispatcher", observation (object dispatcherShape) false),
    ("observedRound", observation (object roundShape) false)]

def runtimeShape : Shape :=
  [("schemaVersion", enumeration ["observatory-runtime-v0.1"]), ("observedAt", isoUtc),
    ("runtime", object processShape), ("workers", object workersShape),
    ("indexer", object indexerShape), ("pollCycle", observation (object pollCycleShape) false),
    ("readiness", observation readinessCodec false),
    ("capacity", observation (object capacityShape) true),
    ("resources", observation (object resourcesShape) true)]

/-- `serializeObservatoryRuntime`: the text, or a throw. -/
def serializeObservatoryRuntime (snapshot : Plain) : Option JsString :=
  (object runtimeShape snapshot).bind Plain.stringify

/-! ## What is accepted -/

/-- What the codec asks of an observation. -/
structure Observation.Serializable (data : Check) (sampled : Bool) (o : Observation) : Prop where
  observedAt : ∀ s, o.observedAt = some s → isIsoUtc s = true
  failure : ∀ s, o.lastCollectionFailureAt = some s → isIsoUtc s = true
  data : ∀ w, o.data = some w → data w = some w ∧ w.isNull = false
  present : o.data.isSome = o.observedAt.isSome
  available : o.availability = .available → o.data.isSome = true
  failed : o.availability = .collectionFailed → o.lastCollectionFailureAt.isSome = true
  empty : o.availability ≠ .available → o.availability ≠ .collectionFailed → o.data = none
  sampled : sampled = true → ∀ w, o.data = some w → (w.field "sampledAt").string? = o.observedAt

theorem nullable_ofText {s : Option JsString} (h : ∀ t, s = some t → isIsoUtc t = true) :
    nullable isoUtc (.ofText s) = some (.ofText s) := by
  cases s with
  | none => rfl
  | some t => exact isoUtc_of_isIsoUtc (h t rfl)

theorem enumeration_of_mem {values : List String} {value : String} (h : value ∈ values) :
    enumeration values (.string (js value)) = some (.string (js value)) := by
  rw [enumeration, if_pos]
  rw [List.contains_iff_mem]
  exact List.mem_map_of_mem h

theorem availability_name_mem (a : Availability) :
    a.name ∈ ["available", "unavailable", "not_yet_sampled", "instrumentation_disabled",
      "collection_failed"] := by
  cases a <;> simp [Availability.name]

theorem name_beq_available (a : Availability) :
    (some (js a.name) == some (js "available")) = decide (a = .available) := by
  cases a <;> decide

theorem name_beq_collectionFailed (a : Availability) :
    (some (js a.name) == some (js "collection_failed")) = decide (a = .collectionFailed) := by
  cases a <;> decide

theorem name_eq_notYetSampled (a : Availability) :
    some (js a.name) = some (js "not_yet_sampled") ↔ a = .notYetSampled := by
  cases a <;> decide

theorem isNull_ofText (s : Option JsString) : (Plain.ofText s).isNull = !s.isSome := by
  cases s <;> rfl

theorem string?_string (s : JsString) : (Plain.string s).string? = some s := rfl

theorem string?_ofText (s : Option JsString) : (Plain.ofText s).string? = s := by
  cases s <;> rfl

theorem isNull_getD {data : Option Plain} (h : ∀ w, data = some w → w.isNull = false) :
    (data.getD .null).isNull = !data.isSome := by
  cases data with
  | none => rfl
  | some w => exact h w rfl

/-- The conditions of the codec, on an observation. -/
theorem observationCoherent_toPlain {data : Check} {sampled : Bool} {o : Observation}
    (h : o.Serializable data sampled) : observationCoherent sampled o.toPlain = true := by
  have hpresent := isNull_getD fun w hw => (h.data w hw).2
  have hsampled : (sampled && o.data.isSome &&
      ((o.data.getD .null).field "sampledAt").string? != o.observedAt) = false := by
    cases hdata : o.data with
    | none => simp
    | some w =>
      cases hs : sampled with
      | false => rfl
      | true =>
        have hsame := h.sampled hs w hdata
        simp [hsame]
  simp only [observationCoherent, Plain.field, Observation.own_availability,
    Observation.own_observedAt, Observation.own_lastCollectionFailureAt, Observation.own_data,
    Option.getD_some, string?_string, name_beq_available, name_beq_collectionFailed,
    isNull_ofText, string?_ofText, hpresent, Bool.not_not]
  simp only [Plain.field] at hsampled
  rw [hsampled, ← h.present]
  by_cases havailable : o.availability = .available
  · simp [havailable, h.available havailable]
  by_cases hfailed : o.availability = .collectionFailed
  · simp [hfailed, h.failed hfailed]
  · simp [havailable, hfailed, h.empty havailable hfailed]

/-- **The codec accepts such an observation, and does not change it.** -/
theorem observation_toPlain {data : Check} {sampled : Bool} {o : Observation}
    (h : o.Serializable data sampled) : observation data sampled o.toPlain = some o.toPlain := by
  have hdata : nullable data (o.data.getD .null) = some (o.data.getD .null) := by
    cases hd : o.data with
    | none => rfl
    | some w =>
      obtain ⟨haccepts, hnull⟩ := h.data w hd
      cases w with
      | null => cases hnull
      | _ => exact haccepts
  have hfields : (observationShape data).Accepts o.fields :=
    .cons ⟨rfl, enumeration_of_mem (availability_name_mem o.availability)⟩ (.cons ⟨rfl, nullable_ofText h.observedAt⟩
      (.cons ⟨rfl, nullable_ofText h.failure⟩ (.cons ⟨rfl, hdata⟩ .nil)))
  have hnodup : (observationShape data).names.Nodup := by
    simp only [Shape.names, observationShape, List.map_cons, List.map_nil]
    decide
  exact Check.guarded_eq_some.2 ⟨object_accepted hfields hnodup, observationCoherent_toPlain h⟩

/-- What the schema asks of a snapshot. -/
structure ObservatoryRuntime.Serializable (r : ObservatoryRuntime) : Prop where
  observedAt : isIsoUtc r.observedAt = true
  assetId : r.assetId.length ≤ 20 ∧ isAssetId r.assetId = true
  processEpoch : ∀ s, r.processEpoch = some s → s.length ≤ 128
  processMonotonicMs : ∀ n, r.processMonotonicMs = some n → n.isFinite = true ∧ n.nonnegative = true
  poller : r.poller.Serializable (object workerShape) false
  reconciler : r.reconciler.Serializable (object workerShape) false
  dispatcher : r.dispatcher.Serializable (object dispatcherShape) false
  observedRound : r.observedRound.Serializable (object roundShape) false
  pollCycle : r.pollCycle.Serializable (object pollCycleShape) false
  readiness : r.readiness.Serializable readinessCodec false
  capacity : r.capacity.Serializable (object capacityShape) true
  resources : r.resources.Serializable (object resourcesShape) true

namespace ObservatoryRuntime

theorem process_accepted {r : ObservatoryRuntime} (h : r.Serializable) :
    object processShape (.object r.process) = some (.object r.process) := by
  have hnetwork : r.network.name ∈ ["testnet", "mainnet"] := by
    cases r.network <;> simp [NetworkName.name]
  have hassetId : textOf isAssetId 20 (.string r.assetId) = some (.string r.assetId) := by
    rw [textOf, if_pos]
    simp [h.assetId]
  have hepoch : nullable (textOf (fun _ => true) 128) (.ofText r.processEpoch) =
      some (.ofText r.processEpoch) := by
    cases hs : r.processEpoch with
    | none => rfl
    | some s =>
      have hlength := h.processEpoch s hs
      simp only [Plain.ofText, nullable, textOf, Bool.and_true, decide_eq_true_eq]
      exact if_pos hlength
  have hmonotonic : nullable milliseconds ((r.processMonotonicMs.map .number).getD .null) =
      some ((r.processMonotonicMs.map .number).getD .null) := by
    cases hn : r.processMonotonicMs with
    | none => rfl
    | some n =>
      obtain ⟨hfinite, hnonnegative⟩ := h.processMonotonicMs n hn
      simp [nullable, milliseconds, hfinite, hnonnegative]
  have hfields : processShape.Accepts r.process :=
    .cons ⟨rfl, enumeration_of_mem hnetwork⟩ (.cons ⟨rfl, hassetId⟩ (.cons ⟨rfl, rfl⟩
      (.cons ⟨rfl, hepoch⟩ (.cons ⟨rfl, hmonotonic⟩ (.cons ⟨rfl, rfl⟩ .nil)))))
  exact object_accepted hfields (by decide)

theorem workers_accepted {r : ObservatoryRuntime} (h : r.Serializable) :
    object workersShape (.object r.workers) = some (.object r.workers) := by
  have hfields : workersShape.Accepts r.workers :=
    .cons ⟨rfl, observation_toPlain h.poller⟩ (.cons ⟨rfl, observation_toPlain h.reconciler⟩ .nil)
  exact object_accepted hfields (by decide)

theorem indexer_accepted {r : ObservatoryRuntime} (h : r.Serializable) :
    object indexerShape (.object r.indexer) = some (.object r.indexer) := by
  have hfields : indexerShape.Accepts r.indexer :=
    .cons ⟨rfl, observation_toPlain h.dispatcher⟩
      (.cons ⟨rfl, observation_toPlain h.observedRound⟩ .nil)
  exact object_accepted hfields (by decide)

/-- **The schema accepts such a snapshot, and does not change it.** -/
theorem toPlain_accepted {r : ObservatoryRuntime} (h : r.Serializable) :
    object runtimeShape r.toPlain = some r.toPlain := by
  have hversion := enumeration_of_mem (List.mem_singleton_self "observatory-runtime-v0.1")
  have hfields : runtimeShape.Accepts r.fields :=
    .cons ⟨rfl, hversion⟩ (.cons ⟨rfl, isoUtc_of_isIsoUtc h.observedAt⟩
      (.cons ⟨rfl, process_accepted h⟩ (.cons ⟨rfl, workers_accepted h⟩
      (.cons ⟨rfl, indexer_accepted h⟩ (.cons ⟨rfl, observation_toPlain h.pollCycle⟩
      (.cons ⟨rfl, observation_toPlain h.readiness⟩ (.cons ⟨rfl, observation_toPlain h.capacity⟩
      (.cons ⟨rfl, observation_toPlain h.resources⟩ .nil))))))))
  exact object_accepted hfields (by decide)

end ObservatoryRuntime

/-! ## The text -/

theorem yieldsJson_observation {data : Check} (h : YieldsJson data) (sampled : Bool) :
    YieldsJson (observation data sampled) := by
  refine YieldsJson.guarded (yieldsJson_object ?_) _
  simp [observationShape, yieldsJson_enumeration, yieldsJson_isoUtc.nullable, h.nullable]

theorem yieldsJson_readinessCodec : YieldsJson readinessCodec := by
  intro v w h
  obtain ⟨ready, hready, h⟩ := Option.bind_eq_some_iff.1 h
  obtain ⟨checks, -, h⟩ := Option.bind_eq_some_iff.1 h
  obtain ⟨given, -, hboolean⟩ := Option.bind_eq_some_iff.1 hready
  have hreadyJson := yieldsJson_boolean _ _ hboolean
  have hnormal : YieldsJson (object normalReadinessShape) :=
    yieldsJson_object (by simp [normalReadinessShape, yieldsJson_boolean])
  have hexception : YieldsJson (object exceptionReadinessShape) :=
    yieldsJson_object (by simp [exceptionReadinessShape, yieldsJson_onlyFalse])
  have hpair : ∀ checks : Plain, checks.isJson = true →
      (Plain.object [(js "ready", ready), (js "checks", checks)]).isJson = true := by
    intro checks hchecks
    simp [Plain.isJson, Plain.fieldsAreJson, hreadyJson, hchecks]
  split at h
  · obtain ⟨-, -, h⟩ := Option.bind_eq_some_iff.1 h
    split at h
    · cases h
    · obtain ⟨checks', hchecks, rfl⟩ := Option.map_eq_some_iff.1 h
      exact hpair checks' (hexception _ _ hchecks)
  · obtain ⟨checks', hchecks, rfl⟩ := Option.map_eq_some_iff.1 h
    exact hpair checks' (hnormal _ _ hchecks)

theorem yieldsJson_runtime : YieldsJson (object runtimeShape) := by
  have hiso := yieldsJson_isoUtc.nullable
  have hworker : YieldsJson (object workerShape) :=
    yieldsJson_object (by
      simp [workerShape, yieldsJson_boolean, yieldsJson_count, yieldsJson_enumeration, hiso])
  have hrequests : YieldsJson (object requestsShape) :=
    yieldsJson_object (by simp [requestsShape, yieldsJson_count])
  have hdispatcher : YieldsJson (object dispatcherShape) :=
    yieldsJson_object (by simp [dispatcherShape, yieldsJson_count, hrequests])
  have hround : YieldsJson (object roundShape) :=
    yieldsJson_object (by simp [roundShape, yieldsJson_count])
  have hpollCycle : YieldsJson (object pollCycleShape) :=
    yieldsJson_object (by simp [pollCycleShape, yieldsJson_count, yieldsJson_milliseconds])
  have hlag : YieldsJson (object scanLagShape) :=
    yieldsJson_object (by simp [scanLagShape, yieldsJson_count])
  have hcapacity : YieldsJson (object capacityShape) :=
    yieldsJson_object (by
      simp [capacityShape, yieldsJson_count, yieldsJson_count.nullable, yieldsJson_isoUtc, hiso,
        yieldsJson_milliseconds.nullable, hlag.nullable])
  have hcpu : YieldsJson (object cpuShape) :=
    yieldsJson_object (by simp [cpuShape, yieldsJson_count, yieldsJson_milliseconds])
  have hresources : YieldsJson (object resourcesShape) :=
    yieldsJson_object (by
      simp [resourcesShape, yieldsJson_count, yieldsJson_count.nullable, yieldsJson_isoUtc,
        hcpu.nullable])
  have hprocess : YieldsJson (object processShape) :=
    yieldsJson_object (by
      simp [processShape, yieldsJson_enumeration, yieldsJson_textOf, yieldsJson_boolean,
        (yieldsJson_textOf _ _).nullable, yieldsJson_milliseconds.nullable])
  have hworkers : YieldsJson (object workersShape) :=
    yieldsJson_object (by simp [workersShape, yieldsJson_observation hworker])
  have hindexer : YieldsJson (object indexerShape) :=
    yieldsJson_object (by
      simp [indexerShape, yieldsJson_observation hdispatcher, yieldsJson_observation hround])
  refine yieldsJson_object ?_
  simp [runtimeShape, yieldsJson_enumeration, yieldsJson_isoUtc, hprocess, hworkers, hindexer,
    yieldsJson_observation hpollCycle, yieldsJson_observation yieldsJson_readinessCodec,
    yieldsJson_observation hcapacity, yieldsJson_observation hresources]

/-- **A snapshot has a text, and the text gives it back**, with every zero positive. -/
theorem exists_serialized {r : ObservatoryRuntime} (h : r.Serializable) :
    ∃ text, serializeObservatoryRuntime r.toPlain = some text ∧
      Plain.parse text = some r.toPlain.unsignZeros := by
  have haccepted := r.toPlain_accepted h
  obtain ⟨text, htext, hparse⟩ := Plain.parse_stringify (yieldsJson_runtime _ _ haccepted)
  exact ⟨text, by rw [serializeObservatoryRuntime, haccepted, Option.bind_some, htext], hparse⟩

end RoundWatch.Observatory
