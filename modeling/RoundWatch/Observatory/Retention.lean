import RoundWatch.Observatory.Serialization

/-!
# Retained samples

The sampler publishes a pair of observations, and a reader copies it.  A sample that is not
understood never replaces the last one that was.

* `copyRetained` — the copy of a retained observation, with all its checks;
* `Observation.Retained` — what passes those checks: `copyRetained_toPlain`;
* `RetainedRuntimeSample.sampleCompleted`, `RetainedRuntimeSample.collectionFailed` — the producer;
* `readRetainedRuntimeSample` — the reader;
* `RetainedRuntimeSample.Sound` — the invariant: the reader understands the pair.
-/

namespace RoundWatch.Observatory

open JsText Dates

/-! ## Copies of retained observations -/

/-- The text of a timestamp. -/
def timestampText (v : Plain) : Option JsString := (timestamp v).bind Plain.string?

/-- `value === null ? null : timestamp(value)`. -/
def nullableTimestamp (v : Plain) : Option (Option JsString) :=
  if v.isNull then some none else (timestampText v).map some

/-- `copyObservation`, and the copy in `readRetainedPublicReadiness`, which does not ask that
the data were sampled at the time of the observation. -/
def copyRetained (project : Check) (sampled : Bool) (source : Plain) : Option Observation :=
  (source.get "availability").bind fun availability =>
  (source.get "lastCollectionFailureAt").bind fun failure =>
  (nullableTimestamp failure).bind fun failure =>
  (source.get "data").bind fun data =>
  (source.get "observedAt").bind fun observedAt =>
  let available := availability.string? == some (js "available")
  let failed := availability.string? == some (js "collection_failed")
  if availability.string? = some (js "not_yet_sampled") then
    if data.isNull && observedAt.isNull && failure.isNone then some (emptyObservation .notYetSampled)
    else none
  else if !available && !failed then none
  else if failed && failure.isNone then none
  else if data.isNull then
    if failed && observedAt.isNull then some ⟨.collectionFailed, none, failure, none⟩ else none
  else
    (project data).bind fun data =>
    (timestampText observedAt).bind fun observedAt =>
    if sampled && (data.field "sampledAt").string? != some observedAt then none
    else
      some ⟨if available then .available else .collectionFailed, some observedAt, failure, some data⟩

/-- What the copy asks of an observation. -/
structure Observation.Retained (project : Check) (sampled : Bool) (o : Observation) : Prop where
  availability : o.availability = .notYetSampled ∨ o.availability = .available ∨
    o.availability = .collectionFailed
  observedAt : ∀ s, o.observedAt = some s → isIsoUtc s = true
  failure : ∀ s, o.lastCollectionFailureAt = some s → isIsoUtc s = true
  data : ∀ w, o.data = some w → project w = some w ∧ w.isNull = false
  present : o.data.isSome = o.observedAt.isSome
  available : o.availability = .available → o.data.isSome = true
  failed : o.availability = .collectionFailed → o.lastCollectionFailureAt.isSome = true
  empty : o.availability = .notYetSampled → o.data = none ∧ o.lastCollectionFailureAt = none
  sampled : sampled = true → ∀ w, o.data = some w → (w.field "sampledAt").string? = o.observedAt

/-- The projection gives an object that it can project again. -/
structure Projects (project : Check) : Prop where
  again : Feeds project project
  notNull : ∀ v w, project v = some w → w.isNull = false

theorem timestampText_eq_some {v : Plain} {s : JsString} :
    timestampText v = some s ↔ v = .string s ∧ isIsoUtc s = true := by
  constructor
  · intro h
    obtain ⟨w, hw, hs⟩ := Option.bind_eq_some_iff.1 h
    obtain ⟨t, rfl, rfl, ht⟩ := timestamp_eq_some.1 hw
    cases hs
    exact ⟨rfl, ht⟩
  · rintro ⟨rfl, hs⟩
    rw [timestampText, timestamp_eq_some.2 ⟨s, rfl, rfl, hs⟩]
    rfl

theorem nullableTimestamp_ofText {s : Option JsString} (h : ∀ t, s = some t → isIsoUtc t = true) :
    nullableTimestamp (.ofText s) = some s := by
  cases s with
  | none => rfl
  | some t =>
    have ht := timestampText_eq_some.2 ⟨rfl, h t rfl⟩
    simp [nullableTimestamp, Plain.ofText, Plain.isNull, ht]

theorem nullableTimestamp_eq_some {v : Plain} {s : Option JsString}
    (h : nullableTimestamp v = some s) : ∀ t, s = some t → isIsoUtc t = true := by
  unfold nullableTimestamp at h
  split at h
  · rintro t rfl
    cases h
  · rintro t rfl
    obtain ⟨t', ht', heq⟩ := Option.map_eq_some_iff.1 h
    cases heq
    exact (timestampText_eq_some.1 ht').2

namespace Observation

variable {project : Check} {sampled : Bool}

/-- The fields of an observation, as the copy reads them. -/
theorem get_fields (o : Observation) :
    o.toPlain.get "availability" = some (.string (js o.availability.name)) ∧
      o.toPlain.get "lastCollectionFailureAt" = some (.ofText o.lastCollectionFailureAt) ∧
      o.toPlain.get "data" = some (o.data.getD .null) ∧
      o.toPlain.get "observedAt" = some (.ofText o.observedAt) :=
  ⟨rfl, rfl, rfl, rfl⟩

/-- **The copy understands such an observation, and does not change it.** -/
theorem Retained.copy {o : Observation} (h : o.Retained project sampled) :
    copyRetained project sampled o.toPlain = some o := by
  obtain ⟨havailability, hfailureAt, hdataAt, hobservedAt⟩ := o.get_fields
  have hnull := isNull_getD fun w hw => (h.data w hw).2
  rw [copyRetained, havailability, hfailureAt, hdataAt, hobservedAt]
  simp only [Option.bind_some, nullableTimestamp_ofText h.failure, string?_string, hnull,
    isNull_ofText, name_beq_available, name_beq_collectionFailed, name_eq_notYetSampled]
  obtain ⟨availability, observedAt, failure, data⟩ := o
  obtain hempty | hav := h.availability
  · obtain rfl : availability = .notYetSampled := hempty
    obtain ⟨hdata, hfailure⟩ : data = none ∧ failure = none := h.empty rfl
    subst hdata hfailure
    obtain rfl : observedAt = none := Option.isNone_iff_eq_none.1 (by simpa using h.present.symm)
    simp [emptyObservation]
  cases hdata : data with
  | none =>
    obtain rfl : availability = .collectionFailed := by
      obtain hav | hav := hav
      · exact absurd (h.available hav) (by simp [hdata])
      · exact hav
    have hpresent := h.present
    obtain rfl : observedAt = none := Option.isNone_iff_eq_none.1 (by simpa [hdata] using hpresent)
    have hfailed : failure.isSome = true := h.failed rfl
    simp [hfailed, ← Option.not_isSome]
  | some w =>
    obtain ⟨s, rfl⟩ : ∃ s, observedAt = some s := Option.isSome_iff_exists.1 (by
      simpa [hdata] using h.present.symm)
    have hproject := (h.data w hdata).1
    have htime := timestampText_eq_some.2 ⟨rfl, h.observedAt s rfl⟩
    have hsame : sampled = true → (w.field "sampledAt").string? = some s :=
      fun hs => h.sampled hs w hdata
    obtain rfl | rfl : availability = .available ∨ availability = .collectionFailed := hav
    · simpa [hproject, Plain.ofText, htime] using hsame
    · have hfailed : failure.isSome = true := h.failed rfl
      simpa [hproject, Plain.ofText, htime, hfailed, ← Option.not_isSome] using hsame

/-- **Whatever the copy lets through is such an observation.** -/
theorem retained_of_copy (hproject : Projects project) {source : Plain} {o : Observation}
    (h : copyRetained project sampled source = some o) : o.Retained project sampled := by
  obtain ⟨availability, -, h⟩ := Option.bind_eq_some_iff.1 h
  obtain ⟨failureAt, -, h⟩ := Option.bind_eq_some_iff.1 h
  obtain ⟨failure, hfailure, h⟩ := Option.bind_eq_some_iff.1 h
  obtain ⟨data, -, h⟩ := Option.bind_eq_some_iff.1 h
  obtain ⟨observedAt, -, h⟩ := Option.bind_eq_some_iff.1 h
  have htime := nullableTimestamp_eq_some hfailure
  simp only at h
  split at h
  · split at h
    · cases h
      constructor <;> simp [emptyObservation]
    · cases h
  split at h
  · cases h
  next hknown =>
  split at h
  · cases h
  next hfailed =>
  rw [Bool.and_eq_true, not_and, Bool.not_eq_true, ← Option.not_isSome, Bool.not_eq_false'] at hfailed
  split at h
  · split at h
    · next hboth =>
      cases h
      rw [Bool.and_eq_true] at hboth
      exact ⟨Or.inr (Or.inr rfl), by simp, htime, by simp, rfl, by simp,
        fun _ => hfailed hboth.1, by simp, by simp⟩
    · cases h
  next hdata =>
  obtain ⟨w, hw, h⟩ := Option.bind_eq_some_iff.1 h
  obtain ⟨s, hs, h⟩ := Option.bind_eq_some_iff.1 h
  split at h
  · cases h
  next hsame =>
  cases h
  have hsampled : sampled = true → (w.field "sampledAt").string? = some s := by
    intro hsampled
    simpa [hsampled] using hsame
  have hdata : ∀ w', some w = some w' → project w' = some w' ∧ w'.isNull = false := by
    rintro w' ⟨⟩
    exact ⟨hproject.again _ _ hw, hproject.notNull _ _ hw⟩
  have htext : ∀ s', some s = some s' → isIsoUtc s' = true := by
    rintro s' ⟨⟩
    exact (timestampText_eq_some.1 hs).2
  cases havailable : availability.string? == some (js "available") with
  | true =>
    exact ⟨by simp, htext, htime, hdata, rfl, by simp, by simp, by simp,
      by rintro hs' w' ⟨⟩; exact hsampled hs'⟩
  | false =>
    rw [havailable] at hknown
    have hcollection : (availability.string? == some (js "collection_failed")) = true := by
      simpa using hknown
    exact ⟨by simp, htext, htime, hdata, rfl, by simp, fun _ => hfailed hcollection, by simp,
      by rintro hs' w' ⟨⟩; exact hsampled hs'⟩

/-- The codec accepts what was retained, if it accepts the data. -/
theorem Retained.serializable {codec : Check} (hcodec : Feeds project codec) {o : Observation}
    (h : o.Retained project sampled) : o.Serializable codec sampled where
  observedAt := h.observedAt
  failure := h.failure
  data w hw := ⟨hcodec w w (h.data w hw).1, (h.data w hw).2⟩
  present := h.present
  available := h.available
  failed := h.failed
  empty havailable hfailed := by
    obtain hempty | hav | hav := h.availability
    · exact (h.empty hempty).1
    · exact absurd hav havailable
    · exact absurd hav hfailed
  sampled := h.sampled

/-- An observation without data is accepted, where it may be empty. -/
theorem serializable_empty {codec : Check} {availability : Availability}
    (h : availability ≠ .available ∧ availability ≠ .collectionFailed) :
    (emptyObservation availability).Serializable codec sampled := by
  constructor <;> simp [emptyObservation, h]

end Observation

/-! ## Projections of samples -/

/-- The value of a count. -/
def Plain.countValue : Plain → ℕ
  | .number n => n.trunc.toNat
  | _ => 0

def Plain.isZero : Plain → Bool
  | .number n => n.isZero
  | _ => false

def projectedCapacityShape : Shape :=
  [("sampledAt", timestamp), ("unfinishedWatches", count), ("activeWatches", count),
    ("settlementPendingWatches", count), ("unresolvedSettlementUnknownWatches", count),
    ("activeWatchesMissingScanBaseline", count), ("watchesPastDeadlineAwaitingCoverage", count),
    ("oldestActiveWatchAgeMs", nullable milliseconds),
    ("scanLagRounds", nullable (project scanLagShape)), ("observedIndexerRound", nullable count),
    ("observedIndexerRoundAt", nullable timestamp)]

/-- The tip has a round and a time or neither, and the lags are in order. -/
def capacityConsistent (capacity : Plain) : Bool :=
  let round := capacity.field "observedIndexerRound"
  let lag := capacity.field "scanLagRounds"
  (round.isNull == (capacity.field "observedIndexerRoundAt").isNull) &&
    (lag.isNull ||
      !(round.isNull || (lag.field "samples").isZero ||
        decide ((lag.field "p95").countValue < (lag.field "p50").countValue) ||
        decide ((lag.field "max").countValue < (lag.field "p95").countValue)))

def projectCapacity : Check := Check.guarded (project projectedCapacityShape) capacityConsistent

def projectedResourcesShape : Shape :=
  [("sampledAt", timestamp), ("rssBytes", count), ("heapUsedBytes", count),
    ("heapTotalBytes", count), ("externalBytes", count), ("cpu", nullable (project cpuShape)),
    ("sqliteBytes", nullable count), ("walBytes", nullable count)]

/-- The interval was measured. -/
def resourcesConsistent (resources : Plain) : Bool :=
  let cpu := resources.field "cpu"
  cpu.isNull || !(cpu.field "elapsedMs").isZero

def projectResources : Check := Check.guarded (project projectedResourcesShape) resourcesConsistent

theorem projects_of_shape {shape : Shape} (h : shape.Feeds shape) (hnodup : shape.names.Nodup)
    (condition : Plain → Bool) : Projects (Check.guarded (project shape) condition) where
  again := (feeds_project h hnodup).guarded condition
  notNull v w hw := by
    obtain ⟨fields, -, rfl⟩ := Option.map_eq_some_iff.1 (Check.guarded_eq_some.1 hw).1
    rfl

theorem nodup_capacity : projectedCapacityShape.names.Nodup := by decide

theorem nodup_resources : projectedResourcesShape.names.Nodup := by decide

theorem feeds_scanLag : Feeds (project scanLagShape) (project scanLagShape) ∧
    Feeds (project scanLagShape) (object scanLagShape) := by
  have hshape : Shape.Feeds scanLagShape scanLagShape := by
    simp [Shape.Feeds, scanLagShape, feeds_count]
  exact ⟨feeds_project hshape (by decide), feeds_object hshape (by decide)⟩

theorem feeds_cpu : Feeds (project cpuShape) (project cpuShape) ∧
    Feeds (project cpuShape) (object cpuShape) := by
  have hshape : Shape.Feeds cpuShape cpuShape := by
    simp [Shape.Feeds, cpuShape, feeds_count, feeds_milliseconds]
  exact ⟨feeds_project hshape (by decide), feeds_object hshape (by decide)⟩

theorem projects_capacity : Projects projectCapacity := by
  refine projects_of_shape ?_ nodup_capacity _
  simp [Shape.Feeds, projectedCapacityShape, feeds_count, feeds_timestamp, feeds_count.nullable,
    feeds_timestamp.nullable, feeds_milliseconds.nullable, feeds_scanLag.1.nullable]

theorem projects_resources : Projects projectResources := by
  refine projects_of_shape ?_ nodup_resources _
  simp [Shape.Feeds, projectedResourcesShape, feeds_count, feeds_timestamp, feeds_count.nullable,
    feeds_cpu.1.nullable]

/-- What is kept of a sample, the serializer accepts. -/
theorem feeds_capacity : Feeds projectCapacity (object capacityShape) := by
  refine Feeds.of_guarded (feeds_object ?_ nodup_capacity) _
  simp [Shape.Feeds, projectedCapacityShape, capacityShape, feeds_count, feeds_isoUtc,
    feeds_count.nullable, feeds_isoUtc.nullable, feeds_milliseconds.nullable,
    feeds_scanLag.2.nullable]

theorem feeds_resources : Feeds projectResources (object resourcesShape) := by
  refine Feeds.of_guarded (feeds_object ?_ nodup_resources) _
  simp [Shape.Feeds, projectedResourcesShape, resourcesShape, feeds_count, feeds_isoUtc,
    feeds_count.nullable, feeds_cpu.2.nullable]

/-! ## The producer -/

structure RetainedRuntimeSample where
  capacity : Observation
  resources : Observation

/-- An object literal whose fields are read one by one. -/
def literalOf (fields : List (String × Outcome)) : Outcome :=
  (fields.mapM fun (p : String × Outcome) => p.2.map fun v => (js p.1, v)).map .object

/-- What `sampleCompleted` makes of the capacity of a snapshot. -/
def capacityOf (sampledAt : JsString) (raw : Plain) : Outcome :=
  (literalOf
    [("sampledAt", some (.string sampledAt)), ("unfinishedWatches", raw.get "unfinishedWatches"),
      ("activeWatches", raw.get "activeWatches"),
      ("settlementPendingWatches", raw.get "settlementPendingWatches"),
      ("unresolvedSettlementUnknownWatches", raw.get "unresolvedSettlementUnknownWatches"),
      ("activeWatchesMissingScanBaseline", raw.get "activeWatchesMissingScanBaseline"),
      ("watchesPastDeadlineAwaitingCoverage", raw.get "watchesPastDeadlineAwaitingCoverage"),
      ("oldestActiveWatchAgeMs", (raw.get "oldestActiveWatchAgeMs").map Plain.orNull),
      ("scanLagRounds", (raw.get "scanLagRounds").map Plain.orNull),
      ("observedIndexerRound", (raw.get "currentIndexerRound").map Plain.orNull),
      ("observedIndexerRoundAt", (raw.get "currentIndexerRoundObservedAt").map Plain.orNull)]).bind
    projectCapacity

/-- What it makes of the resources, and of the interval that it is given with them. -/
def resourcesOf (sampledAt : JsString) (raw cpu : Plain) : Outcome :=
  (literalOf
    [("sampledAt", some (.string sampledAt)), ("rssBytes", raw.get "rssBytes"),
      ("heapUsedBytes", raw.get "heapUsedBytes"), ("heapTotalBytes", raw.get "heapTotalBytes"),
      ("externalBytes", raw.get "externalBytes"), ("cpu", some cpu),
      ("sqliteBytes", (raw.get "sqliteBytes").map Plain.orNull),
      ("walBytes", (raw.get "walBytes").map Plain.orNull)]).bind projectResources

/-- The time of a sample, its capacity and its resources. -/
def sampleOf (source cpu : Plain) : Option (JsString × Plain × Plain) :=
  (source.get "resources").bind fun rawResources =>
  (source.get "capacity").bind fun rawCapacity =>
  if rawCapacity.isUndefined then none
  else
    ((rawResources.get "sampledAt").bind timestampText).bind fun sampledAt =>
    (capacityOf sampledAt rawCapacity).bind fun capacity =>
    (resourcesOf sampledAt rawResources cpu).map fun resources => (sampledAt, capacity, resources)

/-- The observation with a failure behind it, and its last data. -/
def Observation.failedAt (o : Observation) (failedAt : JsString) : Observation :=
  { o with availability := .collectionFailed, lastCollectionFailureAt := some failedAt }

namespace RetainedRuntimeSample

/-- Before the first sample. -/
def initial : RetainedRuntimeSample :=
  ⟨emptyObservation .notYetSampled, emptyObservation .notYetSampled⟩

/-- `collectionFailed`, where `now` is `now().toISOString()`. -/
def collectionFailed (r : RetainedRuntimeSample) (now : Outcome) : RetainedRuntimeSample :=
  match now.bind timestampText with
  | none => r
  | some failedAt => ⟨r.capacity.failedAt failedAt, r.resources.failedAt failedAt⟩

/-- `sampleCompleted`. -/
def sampleCompleted (r : RetainedRuntimeSample) (source cpu : Plain) (now : Outcome) :
    RetainedRuntimeSample :=
  match sampleOf source cpu with
  | none => r.collectionFailed now
  | some (sampledAt, capacity, resources) =>
      ⟨⟨.available, some sampledAt, r.capacity.lastCollectionFailureAt, some capacity⟩,
        ⟨.available, some sampledAt, r.capacity.lastCollectionFailureAt, some resources⟩⟩

/-! ## The reader -/

/-- The comparison of `readRetainedRuntimeSample`. -/
def coherent (capacity resources : Observation) : Bool :=
  decide (capacity.availability = resources.availability) &&
    decide (capacity.observedAt = resources.observedAt) &&
    decide (capacity.lastCollectionFailureAt = resources.lastCollectionFailureAt) &&
    (capacity.data.isNone == resources.data.isNone)

/-- Both observations without data. -/
def empty (availability : Availability) : RetainedRuntimeSample :=
  ⟨emptyObservation availability, emptyObservation availability⟩

/-- What a getter returned, copied and compared. -/
def copy (source : Plain) : Option RetainedRuntimeSample :=
  ((source.get "capacity").bind (copyRetained projectCapacity true)).bind fun capacity =>
  ((source.get "resources").bind (copyRetained projectResources true)).bind fun resources =>
  if coherent capacity resources then some ⟨capacity, resources⟩ else none

def toPlain (r : RetainedRuntimeSample) : Plain :=
  .object [(js "capacity", r.capacity.toPlain), (js "resources", r.resources.toPlain)]

end RetainedRuntimeSample

/-- `readRetainedRuntimeSample`. -/
def readRetainedRuntimeSample (getter : Option Outcome) (enabled : Bool) : RetainedRuntimeSample :=
  if !enabled then .empty .instrumentationDisabled
  else
    match getter with
    | none => .empty .unavailable
    | some outcome => (outcome.bind RetainedRuntimeSample.copy).getD (.empty .unavailable)

/-! ## The invariant -/

/-- Two observations of one sampling. -/
structure Paired (capacity resources : Observation) : Prop where
  availability : capacity.availability = resources.availability
  observedAt : capacity.observedAt = resources.observedAt
  failure : capacity.lastCollectionFailureAt = resources.lastCollectionFailureAt
  present : capacity.data.isSome = resources.data.isSome

theorem project_head {name : String} {check : Check} {shape : Shape} {v w : Plain}
    (h : project ((name, check) :: shape) v = some w) :
    ∃ u u', v.get name = some u ∧ check u = some u' ∧ w.own name = some u' := by
  obtain ⟨fields, hfields, rfl⟩ := Option.map_eq_some_iff.1 h
  obtain ⟨u, hu, hfields⟩ := Option.bind_eq_some_iff.1 hfields
  obtain ⟨u', hu', hfields⟩ := Option.bind_eq_some_iff.1 hfields
  obtain ⟨rest, -, rfl⟩ := Option.map_eq_some_iff.1 hfields
  exact ⟨u, u', hu, hu', @lookup_append_cons [] rest (js name) u' (by simp)⟩

theorem literalOf_head {name : String} {u v : Plain} {fields : List (String × Outcome)}
    (h : literalOf ((name, some u) :: fields) = some v) : v.get name = some u := by
  obtain ⟨values, hvalues, rfl⟩ := Option.map_eq_some_iff.1 h
  rw [List.mapM_cons] at hvalues
  obtain ⟨p, hp, hvalues⟩ := Option.bind_eq_some_iff.1 hvalues
  obtain ⟨rest, -, hvalues⟩ := Option.bind_eq_some_iff.1 hvalues
  cases hp
  cases hvalues
  exact get_of_lookup (@lookup_append_cons [] rest (js name) u (by simp))

/-- The data of a sample, whose time they bear. -/
structure Sampled (project : Check) (t : JsString) (w : Plain) : Prop where
  data : project w = some w
  notNull : w.isNull = false
  sampledAt : (w.field "sampledAt").string? = some t

theorem sampled_of_literal {shape : Shape} {condition : Plain → Bool} {t : JsString}
    {fields : List (String × Outcome)} {w : Plain}
    (hproject : Projects (Check.guarded (project (("sampledAt", timestamp) :: shape)) condition))
    (h : (literalOf (("sampledAt", some (.string t)) :: fields)).bind
      (Check.guarded (project (("sampledAt", timestamp) :: shape)) condition) = some w) :
    Sampled (Check.guarded (project (("sampledAt", timestamp) :: shape)) condition) t w := by
  obtain ⟨v, hv, hw⟩ := Option.bind_eq_some_iff.1 h
  obtain ⟨u, u', hu, hu', hown⟩ := project_head (Check.guarded_eq_some.1 hw).1
  rw [literalOf_head hv, Option.some.injEq] at hu
  subst hu
  obtain ⟨s, hs, rfl, -⟩ := timestamp_eq_some.1 hu'
  cases hs
  refine ⟨hproject.again _ _ hw, hproject.notNull _ _ hw, ?_⟩
  rw [Plain.field, hown]
  rfl

theorem sampled_of_sampleOf {source cpu capacity resources : Plain} {t : JsString}
    (h : sampleOf source cpu = some (t, capacity, resources)) :
    isIsoUtc t = true ∧ Sampled projectCapacity t capacity ∧ Sampled projectResources t resources := by
  obtain ⟨rawResources, -, h⟩ := Option.bind_eq_some_iff.1 h
  obtain ⟨rawCapacity, -, h⟩ := Option.bind_eq_some_iff.1 h
  split at h
  · cases h
  obtain ⟨sampledAt, htime, h⟩ := Option.bind_eq_some_iff.1 h
  obtain ⟨c, hcapacity, h⟩ := Option.bind_eq_some_iff.1 h
  obtain ⟨d, hresources, heq⟩ := Option.map_eq_some_iff.1 h
  cases heq
  obtain ⟨raw, -, htext⟩ := Option.bind_eq_some_iff.1 htime
  exact ⟨(timestampText_eq_some.1 htext).2, sampled_of_literal projects_capacity hcapacity,
    sampled_of_literal projects_resources hresources⟩

namespace Observation

variable {project : Check} {sampled : Bool}

/-- A failure keeps the data, and so does the invariant. -/
theorem Retained.failedAt {o : Observation} (h : o.Retained project sampled) {t : JsString}
    (ht : isIsoUtc t = true) : (o.failedAt t).Retained project sampled where
  availability := Or.inr (Or.inr rfl)
  observedAt := h.observedAt
  failure := by rintro s ⟨⟩; exact ht
  data := h.data
  present := h.present
  available := by rintro ⟨⟩
  failed _ := rfl
  empty := by rintro ⟨⟩
  sampled := h.sampled

theorem Retained.sample {t : JsString} {w : Plain} (ht : isIsoUtc t = true)
    (hw : Sampled project t w) {failure : Option JsString}
    (hfailure : ∀ s, failure = some s → isIsoUtc s = true) :
    Retained project sampled ⟨.available, some t, failure, some w⟩ where
  availability := Or.inr (Or.inl rfl)
  observedAt := by rintro s ⟨⟩; exact ht
  failure := hfailure
  data := by rintro w' ⟨⟩; exact ⟨hw.data, hw.notNull⟩
  present := rfl
  available _ := rfl
  failed := by rintro ⟨⟩
  empty := by rintro ⟨⟩
  sampled := by rintro - w' ⟨⟩; exact hw.sampledAt

end Observation

namespace RetainedRuntimeSample

/-- The reader understands both observations, and they are of one sampling. -/
structure Sound (r : RetainedRuntimeSample) : Prop where
  capacity : r.capacity.Retained projectCapacity true
  resources : r.resources.Retained projectResources true
  paired : Paired r.capacity r.resources

theorem sound_initial : initial.Sound := by
  have hempty : ∀ project, (emptyObservation .notYetSampled).Retained project true := by
    intro project
    constructor <;> simp [emptyObservation]
  exact ⟨hempty _, hempty _, ⟨rfl, rfl, rfl, rfl⟩⟩

theorem Sound.collectionFailed {r : RetainedRuntimeSample} (h : r.Sound) (now : Outcome) :
    (r.collectionFailed now).Sound := by
  unfold RetainedRuntimeSample.collectionFailed
  split
  · exact h
  · next failedAt hnow =>
    obtain ⟨v, -, hv⟩ := Option.bind_eq_some_iff.1 hnow
    have htime := (timestampText_eq_some.1 hv).2
    exact ⟨h.capacity.failedAt htime, h.resources.failedAt htime,
      ⟨rfl, h.paired.observedAt, rfl, h.paired.present⟩⟩

theorem Sound.sampleCompleted {r : RetainedRuntimeSample} (h : r.Sound) (source cpu : Plain)
    (now : Outcome) : (r.sampleCompleted source cpu now).Sound := by
  unfold RetainedRuntimeSample.sampleCompleted
  split
  · exact h.collectionFailed now
  · next sampledAt capacity resources hsample =>
    obtain ⟨htime, hcapacity, hresources⟩ := sampled_of_sampleOf hsample
    exact ⟨.sample htime hcapacity h.capacity.failure, .sample htime hresources h.capacity.failure,
      ⟨rfl, rfl, rfl, rfl⟩⟩

/-- **A rejected sample leaves the last data and its time.** -/
theorem collectionFailed_keeps (r : RetainedRuntimeSample) (now : Outcome) :
    (r.collectionFailed now).capacity.data = r.capacity.data ∧
      (r.collectionFailed now).capacity.observedAt = r.capacity.observedAt ∧
      (r.collectionFailed now).resources.data = r.resources.data ∧
      (r.collectionFailed now).resources.observedAt = r.resources.observedAt := by
  unfold collectionFailed
  split
  · exact ⟨rfl, rfl, rfl, rfl⟩
  · exact ⟨rfl, rfl, rfl, rfl⟩

/-! ## What the reader reads -/

theorem coherent_of_paired {capacity resources : Observation} (h : Paired capacity resources) :
    coherent capacity resources = true := by
  simp [coherent, h.availability, h.observedAt, h.failure, ← Option.not_isSome, h.present]

theorem paired_of_coherent {capacity resources : Observation}
    (h : coherent capacity resources = true) : Paired capacity resources := by
  simp only [coherent, Bool.and_eq_true, decide_eq_true_eq, beq_iff_eq, ← Option.not_isSome,
    Bool.not_inj_iff] at h
  exact ⟨h.1.1.1, h.1.1.2, h.1.2, h.2⟩

/-- The reader gets a sound pair as it is. -/
theorem Sound.copy {r : RetainedRuntimeSample} (h : r.Sound) : copy r.toPlain = some r := by
  have hcapacity : r.toPlain.get "capacity" = some r.capacity.toPlain := rfl
  have hresources : r.toPlain.get "resources" = some r.resources.toPlain := rfl
  rw [RetainedRuntimeSample.copy, hcapacity, hresources, Option.bind_some, Option.bind_some,
    h.capacity.copy, h.resources.copy, Option.bind_some, Option.bind_some,
    if_pos (coherent_of_paired h.paired)]

theorem sound_of_copy {source : Plain} {r : RetainedRuntimeSample} (h : copy source = some r) :
    r.Sound := by
  obtain ⟨capacity, hcapacity, h⟩ := Option.bind_eq_some_iff.1 h
  obtain ⟨resources, hresources, h⟩ := Option.bind_eq_some_iff.1 h
  obtain ⟨rawCapacity, -, hcapacity⟩ := Option.bind_eq_some_iff.1 hcapacity
  obtain ⟨rawResources, -, hresources⟩ := Option.bind_eq_some_iff.1 hresources
  split at h
  · next hcoherent =>
    cases h
    exact ⟨Observation.retained_of_copy projects_capacity hcapacity,
      Observation.retained_of_copy projects_resources hresources, paired_of_coherent hcoherent⟩
  · cases h

end RetainedRuntimeSample

theorem readRetainedRuntimeSample_retained {r : RetainedRuntimeSample} (h : r.Sound) :
    readRetainedRuntimeSample (some (some r.toPlain)) true = r := by
  simp [readRetainedRuntimeSample, h.copy]

/-- Whatever a getter does, the reader has a sound pair or two empty observations. -/
theorem readRetainedRuntimeSample_cases (getter : Option Outcome) (enabled : Bool) :
    (readRetainedRuntimeSample getter enabled).Sound ∨
      ∃ availability, readRetainedRuntimeSample getter enabled = .empty availability ∧
        availability ≠ .available ∧ availability ≠ .collectionFailed := by
  cases enabled with
  | false => exact Or.inr ⟨.instrumentationDisabled, rfl, by decide, by decide⟩
  | true =>
    cases getter with
    | none => exact Or.inr ⟨.unavailable, rfl, by decide, by decide⟩
    | some outcome =>
      cases hcopy : outcome.bind RetainedRuntimeSample.copy with
      | none =>
        refine Or.inr ⟨.unavailable, ?_, by decide, by decide⟩
        simp [readRetainedRuntimeSample, hcopy]
      | some r =>
        obtain ⟨source, -, hsource⟩ := Option.bind_eq_some_iff.1 hcopy
        refine Or.inl ?_
        simp only [readRetainedRuntimeSample, hcopy, Option.getD_some]
        exact RetainedRuntimeSample.sound_of_copy hsource

/-- **The codec accepts both observations that were read, and they are of one sampling.** -/
theorem readRetainedRuntimeSample_spec (getter : Option Outcome) (enabled : Bool) :
    let r := readRetainedRuntimeSample getter enabled
    r.capacity.Serializable (object capacityShape) true ∧
      r.resources.Serializable (object resourcesShape) true ∧ Paired r.capacity r.resources := by
  obtain h | ⟨availability, heq, hempty⟩ := readRetainedRuntimeSample_cases getter enabled
  · exact ⟨h.capacity.serializable feeds_capacity, h.resources.serializable feeds_resources,
      h.paired⟩
  · simp only [heq]
    exact ⟨Observation.serializable_empty hempty, Observation.serializable_empty hempty,
      ⟨rfl, rfl, rfl, rfl⟩⟩

end RoundWatch.Observatory
