import RoundWatch.Observatory.Retention

/-!
# Retained readiness

The outcome of the last public readiness check is retained as samples are, with its own two
variants.

* `projectReadiness` — the copy of an outcome;
* `feeds_readiness` — what was copied, the serializer accepts;
* `RetainedReadiness.outcomeCompleted`, `RetainedReadiness.collectionFailed` — the producer;
* `readRetainedPublicReadiness` — the reader.
-/

namespace RoundWatch.Observatory

open JsText Dates

/-! ## Outcomes -/

/-- `record`: an object that says nothing about its own serialization. -/
def record (v : Plain) : Option Plain :=
  if v.isObject && !v.hasOwn "toJSON" then some v else none

/-- The two variants of an outcome. -/
def readinessOf (ready : Bool) (checks : List (JsString × Plain)) : Plain :=
  .object [(js "ready", .bool ready), (js "checks", .object checks)]

def projectReadiness : Check := fun source =>
  (record source).bind fun outcome =>
  ((outcome.own "ready").bind boolean).bind fun ready =>
  ((outcome.own "checks").bind record).bind fun checks =>
  if checks.hasOwn "readinessCheck" then
    (onlyFalse ready).bind fun _ =>
    ((checks.own "readinessCheck").bind onlyFalse).bind fun _ =>
    if normalReadinessChecks.any checks.hasOwn then none
    else some (readinessOf false [(js "readinessCheck", .bool false)])
  else
    (object normalReadinessShape checks).map fun checks =>
      .object [(js "ready", ready), (js "checks", checks)]

/-- Accepted fields have the names of the shape, and no others. -/
theorem Shape.Accepts.hasOwn_false {shape : Shape} {fields : List (JsString × Plain)}
    (h : shape.Accepts fields) {name : String} (hname : js name ∉ shape.names) :
    (Plain.object fields).hasOwn name = false := by
  have hnone : Plain.lookup fields (js name) = none := by
    induction h with
    | nil => rfl
    | @cons p q shape fields hp _ ih =>
      simp only [Shape.names, List.map_cons, List.mem_cons, not_or] at hname
      have hne : (q.1 == js name) = false := by
        rw [← hp.1]
        simpa using fun heq => hname.1 heq.symm
      simp only [Plain.lookup, List.find?_cons, hne]
      exact ih hname.2
  rw [Plain.hasOwn, Plain.own, hnone]
  rfl

/-- What is copied has one of the two variants. -/
inductive ReadinessCopy : Plain → Prop
  | exception : ReadinessCopy (readinessOf false [(js "readinessCheck", .bool false)])
  | normal (ready : Bool) {checks : List (JsString × Plain)}
      (h : normalReadinessShape.Accepts checks) : ReadinessCopy (readinessOf ready checks)

theorem feeds_normalReadiness : Shape.Feeds normalReadinessShape normalReadinessShape := by
  simp [Shape.Feeds, normalReadinessShape, feeds_boolean]

theorem readinessCopy_of_project {source w : Plain} (h : projectReadiness source = some w) :
    ReadinessCopy w := by
  obtain ⟨outcome, -, h⟩ := Option.bind_eq_some_iff.1 h
  obtain ⟨ready, hready, h⟩ := Option.bind_eq_some_iff.1 h
  obtain ⟨checks, -, h⟩ := Option.bind_eq_some_iff.1 h
  obtain ⟨given, -, hboolean⟩ := Option.bind_eq_some_iff.1 hready
  obtain ⟨b, rfl⟩ : ∃ b, ready = .bool b := by
    cases given with
    | bool b => exact ⟨b, (Option.some.inj hboolean).symm⟩
    | _ => cases hboolean
  split at h
  · obtain ⟨-, -, h⟩ := Option.bind_eq_some_iff.1 h
    obtain ⟨-, -, h⟩ := Option.bind_eq_some_iff.1 h
    split at h
    · cases h
    · cases h
      exact .exception
  · obtain ⟨checks', hchecks, rfl⟩ := Option.map_eq_some_iff.1 h
    obtain ⟨fields, hfields, rfl⟩ := Option.map_eq_some_iff.1 hchecks
    exact .normal b (feeds_normalReadiness.accepts hfields)

theorem ReadinessCopy.isNull {w : Plain} (h : ReadinessCopy w) : w.isNull = false := by
  cases h with
  | exception => rfl
  | normal _ _ => rfl

/-- The serializer accepts both variants. -/
theorem ReadinessCopy.serialized {w : Plain} (h : ReadinessCopy w) : readinessCodec w = some w := by
  cases h with
  | exception => rfl
  | @normal ready checks h =>
    have hready : ((readinessOf ready checks).own "ready").bind boolean = some (.bool ready) := rfl
    have hchecks : (readinessOf ready checks).own "checks" = some (.object checks) := rfl
    have hvariant : (Plain.object checks).hasOwn "readinessCheck" = false :=
      h.hasOwn_false (by decide)
    rw [readinessCodec, hready, hchecks, Option.bind_some, Option.bind_some, if_neg (by simp [hvariant]),
      object_accepted h (by decide), Option.map_some]
    rfl

/-- The reader projects both variants again. -/
theorem ReadinessCopy.projected {w : Plain} (h : ReadinessCopy w) :
    projectReadiness w = some w := by
  cases h with
  | exception => rfl
  | @normal ready checks h =>
    have hrecord : record (readinessOf ready checks) = some (readinessOf ready checks) := rfl
    have hready : ((readinessOf ready checks).own "ready").bind boolean = some (.bool ready) := rfl
    have hhook : (Plain.object checks).hasOwn "toJSON" = false := h.hasOwn_false (by decide)
    have hchecks : ((readinessOf ready checks).own "checks").bind record =
        some (.object checks) := by
      have hown : (readinessOf ready checks).own "checks" = some (.object checks) := rfl
      rw [hown, Option.bind_some, record, if_pos (by simp [hhook, Plain.isObject])]
    have hvariant : (Plain.object checks).hasOwn "readinessCheck" = false :=
      h.hasOwn_false (by decide)
    rw [projectReadiness, hrecord, Option.bind_some, hready, Option.bind_some, hchecks,
      Option.bind_some, if_neg (by simp [hvariant]), object_accepted h (by decide), Option.map_some]
    rfl

theorem projects_readiness : Projects projectReadiness where
  again _ _ h := (readinessCopy_of_project h).projected
  notNull _ _ h := (readinessCopy_of_project h).isNull

/-- What is kept of an outcome, the serializer accepts. -/
theorem feeds_readiness : Feeds projectReadiness readinessCodec :=
  fun _ _ h => (readinessCopy_of_project h).serialized

/-! ## The producer -/

/-- The observation that is retained. -/
abbrev RetainedReadiness := Observation

namespace RetainedReadiness

/-- `collectionFailed`, where `now` is `now().toISOString()`. -/
def collectionFailed (r : RetainedReadiness) (now : Outcome) : RetainedReadiness :=
  match now.bind timestampText with
  | none => r
  | some failedAt => r.failedAt failedAt

/-- The time of an outcome, and what is kept of it. -/
def outcomeOf (outcome supplied : Plain) (now : Outcome) : Option (JsString × Plain) :=
  (if supplied.isUndefined then now.bind timestampText else timestampText supplied).bind
    fun observedAt => (projectReadiness outcome).map fun data => (observedAt, data)

/-- `outcomeCompleted`; the clock is read again for the time of a failure. -/
def outcomeCompleted (r : RetainedReadiness) (outcome supplied : Plain) (now failureNow : Outcome) :
    RetainedReadiness :=
  match outcomeOf outcome supplied now with
  | none => r.collectionFailed failureNow
  | some (observedAt, data) => ⟨.available, some observedAt, r.lastCollectionFailureAt, some data⟩

/-- The reader understands the observation. -/
def Sound (r : RetainedReadiness) : Prop := Observation.Retained projectReadiness false r

theorem sound_initial : Sound (emptyObservation .notYetSampled) := by
  constructor <;> simp [emptyObservation]

theorem Sound.collectionFailed {r : RetainedReadiness} (h : r.Sound) (now : Outcome) :
    (r.collectionFailed now).Sound := by
  unfold RetainedReadiness.collectionFailed
  split
  · exact h
  · next failedAt hnow =>
    obtain ⟨v, -, hv⟩ := Option.bind_eq_some_iff.1 hnow
    exact Observation.Retained.failedAt h (timestampText_eq_some.1 hv).2

theorem Sound.outcomeCompleted {r : RetainedReadiness} (h : r.Sound) (outcome supplied : Plain)
    (now failureNow : Outcome) : (r.outcomeCompleted outcome supplied now failureNow).Sound := by
  unfold RetainedReadiness.outcomeCompleted
  split
  · exact h.collectionFailed failureNow
  · next observedAt data houtcome =>
    obtain ⟨t, htime, hdata⟩ := Option.bind_eq_some_iff.1 houtcome
    obtain ⟨w, hw, heq⟩ := Option.map_eq_some_iff.1 hdata
    cases heq
    have hiso : isIsoUtc observedAt = true := by
      split at htime
      · obtain ⟨v, -, hv⟩ := Option.bind_eq_some_iff.1 htime
        exact (timestampText_eq_some.1 hv).2
      · exact (timestampText_eq_some.1 htime).2
    have hcopy := readinessCopy_of_project hw
    exact
      { availability := Or.inr (Or.inl rfl)
        observedAt := by rintro s ⟨⟩; exact hiso
        failure := h.failure
        data := by rintro w' ⟨⟩; exact ⟨hcopy.projected, hcopy.isNull⟩
        present := rfl
        available := fun _ => rfl
        failed := by rintro ⟨⟩
        empty := by rintro ⟨⟩
        sampled := by rintro ⟨⟩ }

/-- **A rejected outcome leaves the last data and its time.** -/
theorem collectionFailed_keeps (r : RetainedReadiness) (now : Outcome) :
    (r.collectionFailed now).data = r.data ∧ (r.collectionFailed now).observedAt = r.observedAt := by
  unfold collectionFailed
  split
  · exact ⟨rfl, rfl⟩
  · exact ⟨rfl, rfl⟩

end RetainedReadiness

/-! ## The reader -/

def readRetainedPublicReadiness : Option Outcome → Observation
  | none => emptyObservation .unavailable
  | some outcome =>
      (outcome.bind (copyRetained projectReadiness false)).getD (emptyObservation .unavailable)

theorem readRetainedPublicReadiness_retained {r : RetainedReadiness} (h : r.Sound) :
    readRetainedPublicReadiness (some (some (Observation.toPlain r))) = r := by
  rw [readRetainedPublicReadiness, Option.bind_some, Observation.Retained.copy h, Option.getD_some]

/-- **Whatever a getter does, the codec accepts what was read.** -/
theorem readRetainedPublicReadiness_serializable (getter : Option Outcome) :
    (readRetainedPublicReadiness getter).Serializable readinessCodec false := by
  have hempty : (emptyObservation .unavailable).Serializable readinessCodec false :=
    Observation.serializable_empty (by decide)
  cases getter with
  | none => exact hempty
  | some outcome =>
    rw [readRetainedPublicReadiness]
    cases hcopy : outcome.bind (copyRetained projectReadiness false) with
    | none => exact hempty
    | some o =>
      obtain ⟨source, -, hsource⟩ := Option.bind_eq_some_iff.1 hcopy
      exact (Observation.retained_of_copy projects_readiness hsource).serializable feeds_readiness

end RoundWatch.Observatory
