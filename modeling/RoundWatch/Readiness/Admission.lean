import RoundWatch.Readiness.Service

/-!
# No watch is sold on stale evidence

* `Admitted` — what holds when the handler calls `store.prepareWatch`;
* `Fenced` — the invariant: a sample carries the number of provider failures that its
  probe started with, and a request the generations that its refresh began with;
* `paid_admission_fresh` — every call of `store.prepareWatch` in every run is admitted.
-/

namespace RoundWatch

/-! ## What the log says -/

/-- An occurrence that the fences are not about. -/
def Occurrence.passive : Occurrence → Bool
  | .probeStarted .. => true
  | .probeReported .. => true
  | .refused .. => true
  | .providerFailed => false
  | .refreshBegan .. => false
  | .prepared .. => false

def Occurrence.isFailure : Occurrence → Bool
  | .providerFailed => true
  | _ => false

/-- The provider failures so far. -/
def failures (log : List Occurrence) : ℕ := log.countP Occurrence.isFailure

@[simp] theorem failures_cons (o : Occurrence) (log : List Occurrence) :
    failures (o :: log) = failures log + if o.isFailure then 1 else 0 :=
  List.countP_cons

@[simp] theorem failures_append (later earlier : List Occurrence) :
    failures (later ++ earlier) = failures later + failures earlier :=
  List.countP_append

theorem providerFailed_notMem {log : List Occurrence} (h : failures log = 0) :
    .providerFailed ∉ log := by
  intro hmem
  exact List.countP_eq_zero.1 h _ hmem rfl

/-- A probe was started when there had been so many failures of the provider. -/
def Began (log : List Occurrence) (revision : ℕ) (attemptedAt : ℚ) (failed : ℕ) : Prop :=
  ∃ later earlier, log = later ++ .probeStarted revision attemptedAt :: earlier ∧
    failures earlier = failed

/-- A probe was started, and reported what the sample says. -/
def Reported (log : List Occurrence) (sample : IndexerProbeSample) : Prop :=
  ∃ later earlier, log = later ++ .probeStarted sample.revision sample.attemptedAtMs :: earlier ∧
    failures earlier = sample.providerFailureRevision ∧
    .probeReported sample.revision sample.evidence ∈ later

variable {cfg : ReadinessConfig} {σ : Service} {log : List Occurrence}

theorem Began.cons {revision failed : ℕ} {attemptedAt : ℚ}
    (h : Began log revision attemptedAt failed) (o : Occurrence) :
    Began (o :: log) revision attemptedAt failed := by
  obtain ⟨later, earlier, rfl, hfailed⟩ := h
  exact ⟨o :: later, earlier, rfl, hfailed⟩

theorem Reported.cons {sample : IndexerProbeSample} (h : Reported log sample) (o : Occurrence) :
    Reported (o :: log) sample := by
  obtain ⟨later, earlier, rfl, hfailed, hreported⟩ := h
  exact ⟨o :: later, earlier, rfl, hfailed, List.mem_cons_of_mem _ hreported⟩

/-- No provider failure has followed the start of a sample that counts every failure. -/
theorem Reported.no_failure {sample : IndexerProbeSample} (h : Reported log sample)
    (hcurrent : sample.providerFailureRevision = failures log) :
    ∃ later earlier, log = later ++ .probeStarted sample.revision sample.attemptedAtMs :: earlier ∧
      .probeReported sample.revision sample.evidence ∈ later ∧ .providerFailed ∉ later := by
  obtain ⟨later, earlier, rfl, hfailed, hreported⟩ := h
  refine ⟨later, earlier, rfl, hreported, providerFailed_notMem ?_⟩
  simp only [failures_append, failures_cons, Occurrence.isFailure, Bool.false_eq_true, if_false]
    at hcurrent
  omega

/-! ## Admission -/

/-- **What holds when a watch is sold**: after the occurrences `earlier` the handler called
`store.prepareWatch` for request `k`, in a stretch with this reading, with the probe and
the workers as they were. -/
structure Admitted (cfg : ReadinessConfig) (earlier : List Occurrence) (k : ℕ) (reading : Reading)
    (probe : IndexerHealthProbe) (workers : WorkerKind → HealthWorker) : Prop where
  storage : reading.storage = true
  diskHeadroom : reading.diskHeadroom = true
  operational : ∀ kind, ∃ snapshot,
    (workers kind).healthSnapshot cfg kind reading.wall = some snapshot ∧
    snapshot.started = true ∧ snapshot.cycleNotStalled = true ∧
    snapshot.providerHealth ≠ .unhealthy
  /-- The workers are in the generations the refresh of the request began with. -/
  generations : .refreshBegan k (generationsOf workers) ∈ earlier ∧
    ∀ generations, .refreshBegan k generations ∈ earlier → generations = generationsOf workers
  /-- The current sample is complete and fresh, and no failure followed its start. -/
  evidence : ∃ sample, probe.latest = some sample ∧ sample.evidence.polling = true ∧
    sample.evidence.reconciliation = true ∧ sample.attemptedAtMs ≤ reading.monotonic ∧
    reading.monotonic - sample.attemptedAtMs ≤ cfg.maximumEvidenceAgeMilliseconds ∧
    ∃ after before,
      earlier = after ++ .probeStarted sample.revision sample.attemptedAtMs :: before ∧
      .probeReported sample.revision sample.evidence ∈ after ∧ .providerFailed ∉ after

/-! ## The readiness check -/

theorem isSampleFreshForAdmission_ok {pcfg : ProbeConfig} {p : IndexerHealthProbe}
    {sample : IndexerProbeSample} {maximumAge : ℕ} {now : ℚ}
    (h : p.isSampleFreshForAdmission pcfg sample maximumAge now = .ok true) :
    sample.providerFailureRevision = p.providerFailureRevision ∧ sample.attemptedAtMs ≤ now ∧
      now - sample.attemptedAtMs ≤ maximumAge := by
  unfold IndexerHealthProbe.isSampleFreshForAdmission at h
  split at h
  · cases h
  · simp only [Except.ok.injEq, Bool.and_eq_true, decide_eq_true_eq,
      IndexerHealthProbe.isSampleCurrent, beq_iff_eq] at h
    obtain ⟨⟨⟨⟨⟨-, hrevision⟩, -⟩, -⟩, hafter⟩, hage⟩ := h
    exact ⟨hrevision, hafter, hage⟩

theorem readLocalReadiness_eq_some {reading : Reading} {readiness : Service.LocalReadiness}
    (h : σ.readLocalReadiness cfg reading = some readiness) :
    (σ.workers .polling).healthSnapshot cfg .polling reading.wall = some readiness.poller ∧
    (σ.workers .reconciliation).healthSnapshot cfg .reconciliation reading.wall =
      some readiness.reconciler ∧
    readiness.storage = reading.storage ∧ readiness.diskHeadroom = reading.diskHeadroom ∧
    readiness.generations = generationsOf σ.workers := by
  unfold Service.readLocalReadiness at h
  split at h
  · rename_i poller reconciler hpoller hreconciler
    cases h
    exact ⟨hpoller, hreconciler, rfl, rfl, rfl⟩
  · cases h

theorem operational_iff {snapshot : WorkerHealthSnapshot} :
    snapshot.operational = true ↔ snapshot.started = true ∧ snapshot.cycleNotStalled = true ∧
      snapshot.providerHealth ≠ .unhealthy := by
  simp [WorkerHealthSnapshot.operational, and_assoc]

/-- A snapshot that carries generations carries the ones it was asked for. -/
theorem currentSnapshot_generations {generations : Option WorkerGenerations} {reading : Reading}
    {snapshot : PaidReadinessSnapshot}
    (h : σ.currentSnapshot cfg generations reading = some snapshot) {g : WorkerGenerations}
    (hg : snapshot.workerGenerations = some g) :
    generations = some g ∧ g = generationsOf σ.workers := by
  unfold Service.currentSnapshot at h
  split at h
  · cases h
  · rename_i after hafter
    obtain ⟨-, -, -, -, hgenerations⟩ := readLocalReadiness_eq_some hafter
    split at h
    · cases h
      cases hg
    · rename_i hguard
      split at h
      · cases h
      · cases h
        cases hg
        simp only [Bool.or_eq_true, not_or, bne_iff_ne, ne_eq, not_not] at hguard
        exact ⟨hguard.2, hgenerations⟩

/-- What a ready snapshot was made from. -/
theorem currentSnapshot_ready {generations : Option WorkerGenerations} {reading : Reading}
    {snapshot : PaidReadinessSnapshot}
    (h : σ.currentSnapshot cfg generations reading = some snapshot)
    (hready : snapshot.ready = true) :
    reading.storage = true ∧ reading.diskHeadroom = true ∧
      (∀ kind, ∃ health, (σ.workers kind).healthSnapshot cfg kind reading.wall = some health ∧
        health.started = true ∧ health.cycleNotStalled = true ∧
        health.providerHealth ≠ .unhealthy) ∧
      generations = some (generationsOf σ.workers) ∧
      ∃ sample, σ.probe.latest = some sample ∧ sample.evidence.polling = true ∧
        sample.evidence.reconciliation = true ∧
        σ.probe.isSampleFreshForAdmission cfg.probe sample cfg.maximumEvidenceAgeMilliseconds
          reading.monotonic = .ok true := by
  unfold Service.currentSnapshot at h
  split at h
  · cases h
  · rename_i after hafter
    obtain ⟨hpoller, hreconciler, hstorage, hdisk, hgenerations⟩ :=
      readLocalReadiness_eq_some hafter
    split at h
    · cases h
      cases hready
    · rename_i hguard
      split at h
      · cases h
      · rename_i sample? hsample
        cases h
        simp only [Bool.or_eq_true, not_or, bne_iff_ne, ne_eq, not_not, Bool.not_eq_true',
          Bool.not_eq_false] at hguard
        simp only [Service.LocalReadiness.ready, Service.LocalReadiness.workersOperational,
          Bool.and_eq_true, operational_iff] at hready
        obtain ⟨⟨⟨hs, hd⟩, hp, hr⟩, hpolling, hreconciliation⟩ := hready
        refine ⟨hstorage ▸ hs, hdisk ▸ hd, ?_, hgenerations ▸ hguard.2, ?_⟩
        · intro kind
          cases kind with
          | polling => exact ⟨_, hpoller, hp⟩
          | reconciliation => exact ⟨_, hreconciler, hr⟩
        · unfold Service.freshSample at hsample
          split at hsample
          · cases hsample
            cases hpolling
          · rename_i sample hlatest
            cases hfresh : σ.probe.isSampleFreshForAdmission cfg.probe sample
              cfg.maximumEvidenceAgeMilliseconds reading.monotonic with
            | error e =>
                rw [hfresh] at hsample
                cases hsample
            | ok fresh =>
                rw [hfresh] at hsample
                cases fresh with
                | false =>
                    cases hsample
                    cases hpolling
                | true =>
                    cases hsample
                    exact ⟨sample, hlatest, hpolling, hreconciliation, hfresh⟩

/-! ## The invariant -/

/-- A request carries the generations its refresh began with. -/
def RequestFenced (log : List Occurrence) (k : ℕ) (request : PaidRequest) : Prop :=
  match request.phase with
  | .probing generations _ => .refreshBegan k generations ∈ log
  | .refreshed snapshot =>
      ∀ generations, snapshot.workerGenerations = some generations →
        .refreshBegan k generations ∈ log

/-- **The invariant.** -/
structure Fenced (cfg : ReadinessConfig) (σ : Service) : Prop where
  failures : σ.probe.providerFailureRevision = failures σ.log
  pending : ∀ probe, σ.probe.pending = some probe →
    Began σ.log probe.revision probe.attemptedAtMs probe.providerFailureRevision
  latest : ∀ sample, σ.probe.latest = some sample → Reported σ.log sample
  requests : ∀ k request, σ.requests k = some request → RequestFenced σ.log k request
  /-- A request begins one refresh. -/
  numbered : ∀ k generations, .refreshBegan k generations ∈ σ.log → k < σ.nextRequest
  unique : ∀ k generations generations', .refreshBegan k generations ∈ σ.log →
    .refreshBegan k generations' ∈ σ.log → generations = generations'
  admitted : ∀ later earlier k reading probe workers,
    σ.log = later ++ .prepared k reading probe workers :: earlier →
    Admitted cfg earlier k reading probe workers

theorem RequestFenced.cons {k : ℕ} {request : PaidRequest} (h : RequestFenced log k request)
    (o : Occurrence) : RequestFenced (o :: log) k request := by
  unfold RequestFenced at h ⊢
  split
  · rename_i generations _ hphase
    rw [hphase] at h
    exact List.mem_cons_of_mem _ h
  · rename_i snapshot hphase
    rw [hphase] at h
    exact fun generations hg => List.mem_cons_of_mem _ (h generations hg)

/-- A log that was admitted so far, and an occurrence that is no sale. -/
theorem admitted_cons {o : Occurrence}
    (h : ∀ later earlier k reading probe workers,
      log = later ++ .prepared k reading probe workers :: earlier →
      Admitted cfg earlier k reading probe workers)
    (ho : ∀ k reading probe workers, o ≠ .prepared k reading probe workers) :
    ∀ later earlier k reading probe workers,
      o :: log = later ++ .prepared k reading probe workers :: earlier →
      Admitted cfg earlier k reading probe workers := by
  intro later earlier k reading probe workers heq
  cases later with
  | nil => exact absurd (List.cons.inj heq).1 (ho k reading probe workers)
  | cons o' later => exact h later earlier k reading probe workers (List.cons.inj heq).2

/-! ## The ways the process changes -/

/-- Something happens that the fences are not about. -/
theorem Fenced.observe (h : Fenced cfg σ) {o : Occurrence} (ho : o.passive = true) :
    Fenced cfg (σ.observe o) where
  failures := by
    have hfailure : o.isFailure = false := by cases o <;> first | rfl | cases ho
    simp [hfailure, h.failures]
  pending := fun probe hprobe => (h.pending probe hprobe).cons o
  latest := fun sample hsample => (h.latest sample hsample).cons o
  requests := fun k request hrequest => (h.requests k request hrequest).cons o
  numbered := by
    intro k generations hmem
    rcases List.mem_cons.1 hmem with rfl | hmem
    · cases ho
    · exact h.numbered k generations hmem
  unique := by
    intro k generations generations' hmem hmem'
    rcases List.mem_cons.1 hmem with rfl | hmem
    · cases ho
    · rcases List.mem_cons.1 hmem' with rfl | hmem'
      · cases ho
      · exact h.unique k generations generations' hmem hmem'
  admitted := admitted_cons h.admitted fun k reading probe workers heq => by
    subst heq
    cases ho

/-- The probe changes, with what it has captured on record. -/
theorem Fenced.setProbe (h : Fenced cfg σ) {probe : IndexerHealthProbe}
    (hfailures : probe.providerFailureRevision = RoundWatch.failures σ.log)
    (hpending : ∀ p, probe.pending = some p →
      Began σ.log p.revision p.attemptedAtMs p.providerFailureRevision)
    (hlatest : ∀ sample, probe.latest = some sample → Reported σ.log sample) :
    Fenced cfg (σ.setProbe probe) :=
  ⟨hfailures, hpending, hlatest, h.requests, h.numbered, h.unique, h.admitted⟩

theorem Fenced.setWorker (h : Fenced cfg σ) (kind : WorkerKind) (worker : HealthWorker) :
    Fenced cfg (σ.setWorker kind worker) :=
  ⟨h.failures, h.pending, h.latest, h.requests, h.numbered, h.unique, h.admitted⟩

theorem Fenced.setRequest (h : Fenced cfg σ) {k : ℕ} {request : Option PaidRequest}
    (hrequest : ∀ r, request = some r → RequestFenced σ.log k r) :
    Fenced cfg (σ.setRequest k request) := by
  refine ⟨h.failures, h.pending, h.latest, fun k' r hr => ?_, h.numbered, h.unique, h.admitted⟩
  by_cases hk : k' = k
  · subst hk
    simp only [Service.setRequest_requests, Function.update_self] at hr
    exact hrequest r hr
  · simp only [Service.setRequest_requests, Function.update_of_ne hk] at hr
    exact h.requests k' r hr

/-- **A failure is counted.** -/
theorem Fenced.invalidate (h : Fenced cfg σ) : Fenced cfg σ.invalidate where
  failures := by
    show σ.probe.providerFailureRevision + 1 = RoundWatch.failures (.providerFailed :: σ.log)
    rw [failures_cons, h.failures]
    rfl
  pending := fun probe hprobe => (h.pending probe hprobe).cons _
  latest := fun sample hsample => (h.latest sample hsample).cons _
  requests := fun k request hrequest => (h.requests k request hrequest).cons _
  numbered := fun k generations hmem =>
    h.numbered k generations ((List.mem_cons.1 hmem).resolve_left nofun)
  unique := fun k generations generations' hmem hmem' =>
    h.unique k generations generations' ((List.mem_cons.1 hmem).resolve_left nofun)
      ((List.mem_cons.1 hmem').resolve_left nofun)
  admitted := admitted_cons h.admitted fun _ _ _ _ => nofun

/-- **A request that takes its number is on record with its generations.** -/
theorem Fenced.openRequest (h : Fenced cfg σ) : Fenced cfg σ.openRequest where
  failures := by simp [Occurrence.isFailure, h.failures]
  pending := fun probe hprobe => (h.pending probe hprobe).cons _
  latest := fun sample hsample => (h.latest sample hsample).cons _
  requests := fun k request hrequest => (h.requests k request hrequest).cons _
  numbered := by
    intro k generations hmem
    rcases List.mem_cons.1 hmem with heq | hmem
    · cases heq
      exact Nat.lt_succ_self _
    · exact Nat.lt_succ_of_lt (h.numbered k generations hmem)
  unique := by
    intro k generations generations' hmem hmem'
    rcases List.mem_cons.1 hmem with heq | hold
    · rcases List.mem_cons.1 hmem' with heq' | hold'
      · cases heq
        cases heq'
        rfl
      · cases heq
        exact absurd (h.numbered _ _ hold') (Nat.lt_irrefl _)
    · rcases List.mem_cons.1 hmem' with heq' | hold'
      · cases heq'
        exact absurd (h.numbered _ _ hold) (Nat.lt_irrefl _)
      · exact h.unique k generations generations' hold hold'
  admitted := admitted_cons h.admitted fun _ _ _ _ => nofun

/-! ## The probe -/

/-- **A probe that starts captures the failures so far.** -/
theorem Fenced.runIfDue (h : Fenced cfg σ) (maximumAge : ℕ) (now : ℚ) :
    Fenced cfg (σ.runIfDue cfg maximumAge now).1 := by
  unfold Service.runIfDue
  split
  · exact h
  · have hstarted := h.observe (o := .probeStarted (σ.probe.revision + 1) now) rfl
    refine Fenced.setProbe hstarted ?_ ?_ ?_
    · exact hstarted.failures
    · intro p hp
      cases hp
      exact ⟨[], σ.log, rfl, h.failures.symm⟩
    · exact hstarted.latest

theorem log_runIfDue_mem (maximumAge : ℕ) (now : ℚ) {o : Occurrence} (ho : o ∈ σ.log) :
    o ∈ (σ.runIfDue cfg maximumAge now).1.log := by
  unfold Service.runIfDue
  split
  · exact ho
  · exact List.mem_cons_of_mem _ ho

/-- **A sample keeps what its probe captured.** -/
theorem Fenced.answerProbe (h : Fenced cfg σ) (answer : ProbeAnswer) (now : ℚ) :
    Fenced cfg (σ.answerProbe cfg answer now) := by
  unfold Service.answerProbe
  split
  · exact h
  · rename_i probe hprobe
    have hbegan := h.pending probe hprobe
    split
    · exact h
    · dsimp only
      cases hanswer : answer.evidence? with
      | none =>
          simp only [IndexerHealthProbe.answer, hanswer]
          refine h.setProbe h.failures (fun p hp => ?_) h.latest
          cases hp
          exact hbegan
      | some evidence =>
          have hreported := h.observe (o := .probeReported probe.revision evidence) rfl
          refine Fenced.setProbe hreported ?_ ?_ ?_
          · simp only [IndexerHealthProbe.answer, hanswer]
            exact hreported.failures
          · intro p hp
            simp only [IndexerHealthProbe.answer, hanswer] at hp
            cases hp
            exact hbegan.cons _
          · intro sample hsample
            simp only [IndexerHealthProbe.answer, hanswer] at hsample
            cases hsample
            obtain ⟨later, earlier, hlog, hfailed⟩ := hbegan
            refine ⟨.probeReported probe.revision evidence :: later, earlier, ?_, hfailed,
              List.mem_cons_self ..⟩
            simp [hlog, IndexerHealthProbe.sample]

theorem Fenced.finishProbe (h : Fenced cfg σ) : Fenced cfg σ.finishProbe := by
  unfold Service.finishProbe
  split
  · exact h
  · split
    · exact h
    · exact h.setProbe h.failures (fun _ hp => by cases hp) h.latest

/-! ## The workers -/

theorem Fenced.stopWorker (h : Fenced cfg σ) (kind : WorkerKind) : Fenced cfg (σ.stopWorker kind) :=
  h.setWorker _ _

theorem Fenced.stopScheduling (h : Fenced cfg σ) (kind : WorkerKind) :
    Fenced cfg (σ.stopScheduling kind) := by
  unfold Service.stopScheduling
  dsimp only
  split
  · exact h
  · exact (h.setWorker _ _).stopWorker _

theorem Fenced.tickWorker (h : Fenced cfg σ) (kind : WorkerKind) (wall : ℤ) :
    Fenced cfg (σ.tickWorker kind wall) := by
  unfold Service.tickWorker
  dsimp only
  split
  · exact h
  · exact h.setWorker _ _

theorem Fenced.startWorker (h : Fenced cfg σ) (kind : WorkerKind) (wall : ℤ) :
    Fenced cfg (σ.startWorker kind wall) := by
  unfold Service.startWorker
  dsimp only
  split
  · exact h
  · exact (h.setWorker _ _).tickWorker _ _

theorem Fenced.endTick (h : Fenced cfg σ) (kind : WorkerKind) : Fenced cfg (σ.endTick kind) :=
  h.setWorker _ _

theorem Fenced.failTick (h : Fenced cfg σ) (kind : WorkerKind) (generation : ℕ) (wall : ℤ) :
    Fenced cfg (σ.failTick kind generation wall) := by
  unfold Service.failTick
  split
  · exact (h.invalidate.setWorker _ _).endTick _
  · exact h.endTick _

theorem Fenced.completeTick (h : Fenced cfg σ) (kind : WorkerKind) (generation : ℕ)
    (outcome : WorkerCycleOutcome) (wall : ℤ) :
    Fenced cfg (σ.completeTick kind generation outcome wall) := by
  unfold Service.completeTick
  dsimp only
  split
  · exact (h.setWorker _ _).endTick _
  · exact h.failTick _ _ _

theorem Fenced.reportProgress (h : Fenced cfg σ) (kind : WorkerKind) (generation : ℕ) (wall : ℤ) :
    Fenced cfg (σ.reportProgress kind generation wall) := by
  unfold Service.reportProgress
  dsimp only
  split
  · exact h.setWorker _ _
  · exact h

theorem Fenced.publishFailure (h : Fenced cfg σ) (kind : WorkerKind) (generation : ℕ) (wall : ℤ) :
    Fenced cfg (σ.publishFailure kind generation wall) := by
  unfold Service.publishFailure
  split
  · exact h.invalidate.setWorker _ _
  · exact h

theorem Fenced.sweepReturns (h : Fenced cfg σ) (kind : WorkerKind) (outcome : WorkerCycleOutcome)
    (reading : Reading) : Fenced cfg (σ.sweepReturns cfg kind outcome reading) := by
  unfold Service.sweepReturns
  split
  · split
    · exact h.endTick _
    · split
      · exact (h.runIfDue _ _).setWorker _ _
      · exact h.completeTick _ _ _ _
  · exact h

theorem Fenced.sweepThrows (h : Fenced cfg σ) (kind : WorkerKind) (shutdown : Bool) (wall : ℤ) :
    Fenced cfg (σ.sweepThrows kind shutdown wall) := by
  unfold Service.sweepThrows
  split
  · split
    · exact h.endTick _
    · exact h.failTick _ _ _
  · exact h

theorem Fenced.resumeTick (h : Fenced cfg σ) (kind : WorkerKind) (reading : Reading) :
    Fenced cfg (σ.resumeTick cfg kind reading) := by
  unfold Service.resumeTick
  split
  · split
    · exact h
    · exact h.endTick _
    · exact h.failTick _ _ _
    · split
      · exact h.endTick _
      · split
        · exact h.failTick _ _ _
        · exact h.completeTick _ _ _ _
        · exact (h.setWorker _ _).completeTick _ _ _ _
  · exact h

/-! ## Requests -/

theorem Fenced.refuse (h : Fenced cfg σ) (k : ℕ) (checks : Option ReadinessChecks) :
    Fenced cfg (σ.refuse k checks) :=
  Fenced.setRequest (h.observe rfl) fun _ hr => by cases hr

theorem Fenced.beginRefresh (h : Fenced cfg σ) (stage : AdmissionStage) (reading : Reading) :
    Fenced cfg (σ.beginRefresh cfg stage reading) := by
  have hopened := h.openRequest
  unfold Service.beginRefresh
  dsimp only
  split
  · exact hopened.refuse _ _
  · rename_i before hbefore
    obtain ⟨-, -, -, -, hgenerations⟩ := readLocalReadiness_eq_some hbefore
    split
    · refine hopened.setRequest fun r hr => ?_
      cases hr
      intro generations hg
      cases hg
    · refine (hopened.runIfDue _ _).setRequest fun r hr => ?_
      cases hr
      refine log_runIfDue_mem _ _ ?_
      rw [hgenerations]
      exact List.mem_cons_self ..

theorem Fenced.endRefresh (h : Fenced cfg σ) (k : ℕ) (reading : Reading) :
    Fenced cfg (σ.endRefresh cfg k reading) := by
  unfold Service.endRefresh
  split
  · rename_i stage generations ticket hrequest
    have hbegan : .refreshBegan k generations ∈ σ.log := h.requests k _ hrequest
    split
    · exact h
    · exact h.refuse _ _
    · split
      · exact h.refuse _ _
      · rename_i snapshot hsnapshot
        refine h.setRequest fun r hr => ?_
        cases hr
        intro g hg
        have heq := (currentSnapshot_generations hsnapshot hg).1
        cases heq
        exact hbegan
  · exact h

/-- **The handler sells on fresh evidence.** -/
theorem Fenced.admitted_of_ready (h : Fenced cfg σ) {k : ℕ} {stage : AdmissionStage}
    {refreshed snapshot : PaidReadinessSnapshot} {reading : Reading}
    (hrequest : σ.requests k = some ⟨stage, .refreshed refreshed⟩)
    (hvalidate : σ.validateCurrent cfg refreshed reading = some snapshot)
    (hready : snapshot.ready = true) : Admitted cfg σ.log k reading σ.probe σ.workers := by
  unfold Service.validateCurrent at hvalidate
  split at hvalidate
  · obtain ⟨hstorage, hdisk, hoperational, hgenerations, sample, hlatest, hpolling,
      hreconciliation, hfresh⟩ := currentSnapshot_ready hvalidate hready
    obtain ⟨hrevision, hafter, hage⟩ := isSampleFreshForAdmission_ok hfresh
    have hbegan := h.requests k _ hrequest _ hgenerations
    refine ⟨hstorage, hdisk, hoperational, ⟨hbegan, fun g hg => h.unique k g _ hg hbegan⟩,
      sample, hlatest, hpolling, hreconciliation, hafter, hage, ?_⟩
    exact (h.latest sample hlatest).no_failure (hrevision.trans h.failures)
  · obtain ⟨readiness, -, rfl⟩ := Option.map_eq_some_iff.1 hvalidate
    cases hready

theorem Fenced.prepare (h : Fenced cfg σ) {k : ℕ} {reading : Reading}
    (hadmitted : Admitted cfg σ.log k reading σ.probe σ.workers) :
    Fenced cfg (σ.observe (.prepared k reading σ.probe σ.workers)) where
  failures := by simp [Occurrence.isFailure, h.failures]
  pending := fun probe hprobe => (h.pending probe hprobe).cons _
  latest := fun sample hsample => (h.latest sample hsample).cons _
  requests := fun k request hrequest => (h.requests k request hrequest).cons _
  numbered := fun k generations hmem =>
    h.numbered k generations ((List.mem_cons.1 hmem).resolve_left nofun)
  unique := fun k generations generations' hmem hmem' =>
    h.unique k generations generations' ((List.mem_cons.1 hmem).resolve_left nofun)
      ((List.mem_cons.1 hmem').resolve_left nofun)
  admitted := by
    intro later earlier k' reading' probe workers heq
    cases later with
    | nil =>
        obtain ⟨heq, rfl⟩ := List.cons.inj heq
        cases heq
        exact hadmitted
    | cons o later => exact h.admitted later earlier _ _ _ _ (List.cons.inj heq).2

theorem Fenced.resumeHandler (h : Fenced cfg σ) (k : ℕ) (reading : Reading) :
    Fenced cfg (σ.resumeHandler cfg k reading) := by
  have hended : ∀ σ' : Service, Fenced cfg σ' → Fenced cfg (σ'.setRequest k none) :=
    fun σ' h' => h'.setRequest fun _ hr => by cases hr
  unfold Service.resumeHandler
  split
  · rename_i stage snapshot hrequest
    split
    · split
      · exact hended σ h
      · exact h.refuse _ _
    · split
      · exact h.refuse _ _
      · rename_i current hcurrent
        split
        · rename_i hready
          -- a snapshot that was not ready is not ready now
          by_cases hrefreshed : snapshot.ready = true
          · rw [if_pos hrefreshed] at hcurrent
            exact hended _ (h.prepare (h.admitted_of_ready hrequest hcurrent hready))
          · rw [if_neg hrefreshed] at hcurrent
            cases hcurrent
            exact absurd hready hrefreshed
        · exact h.refuse _ _
  · exact h

/-! ## Runs -/

theorem Fenced.boot (cfg : ReadinessConfig) : Fenced cfg .boot where
  failures := rfl
  pending := fun _ hp => by cases hp
  latest := fun _ hs => by cases hs
  requests := fun _ _ hr => by cases hr
  numbered := fun _ _ hmem => by cases hmem
  unique := fun _ _ _ hmem => by cases hmem
  admitted := by
    intro later earlier k reading probe workers heq
    cases later <;> cases heq

/-- **What happens next keeps the fences.** -/
theorem Fenced.step (h : Fenced cfg σ) (e : ServiceEvent) : Fenced cfg (σ.step cfg e) := by
  cases e with
  | beginRefresh stage reading => exact h.beginRefresh stage reading
  | endRefresh k reading => exact h.endRefresh k reading
  | resumeHandler k reading => exact h.resumeHandler k reading
  | answerProbe answer now => exact h.answerProbe answer now
  | finishProbe => exact h.finishProbe
  | stopProbing => exact h.setProbe h.failures h.pending h.latest
  | start kind wall => exact h.startWorker kind wall
  | stop kind => exact h.stopWorker kind
  | stopScheduling kind => exact h.stopScheduling kind
  | tick kind wall => exact h.tickWorker kind wall
  | progress kind generation wall => exact h.reportProgress kind generation wall
  | fail kind generation wall => exact h.publishFailure kind generation wall
  | sweepReturns kind outcome reading => exact h.sweepReturns kind outcome reading
  | sweepThrows kind shutdown wall => exact h.sweepThrows kind shutdown wall
  | resumeTick kind reading => exact h.resumeTick kind reading

/-- **No watch is sold on stale or contradicted evidence.**  In every run, each time the
handler called `store.prepareWatch` the request was admitted. -/
theorem paid_admission_fresh (cfg : ReadinessConfig) (es : List ServiceEvent)
    {later earlier : List Occurrence} {k : ℕ} {reading : Reading} {probe : IndexerHealthProbe}
    {workers : WorkerKind → HealthWorker}
    (hlog : (Service.run cfg .boot es).log =
      later ++ .prepared k reading probe workers :: earlier) :
    Admitted cfg earlier k reading probe workers := by
  have hfenced : Fenced cfg (Service.run cfg .boot es) :=
    Runs.run_invariant' (I := Fenced cfg) (fun _ e h => h.step e) es (.boot cfg)
  exact hfenced.admitted later earlier k reading probe workers hlog

/-- The limits of the production defaults. -/
def sampleReadiness : ReadinessConfig where
  probe := ⟨15000, 120000, by decide, by decide, by decide⟩
  pollIntervalMilliseconds := 5000
  reconciliationIntervalMilliseconds := 5000
  maximumEvidenceAgeMilliseconds := 30000

/-- Everything reads the same time, and the resources are there. -/
def Reading.at (now : ℕ) : Reading := ⟨now, now, true, true⟩

/-- A request whose refresh starts a probe that is answered at once. -/
def admissionHistory : List ServiceEvent :=
  [.start .polling 0, .start .reconciliation 0, .beginRefresh .prePrepare (.at 1),
    .answerProbe (.evidence ⟨true, true⟩) 2, .finishProbe, .endRefresh 0 (.at 3),
    .resumeHandler 0 (.at 4)]

def Occurrence.isSale : Occurrence → Bool
  | .prepared .. => true
  | _ => false

theorem exists_sale (h : log.any Occurrence.isSale = true) :
    ∃ later earlier k reading probe workers,
      log = later ++ .prepared k reading probe workers :: earlier := by
  obtain ⟨o, ho, hsale⟩ := List.any_eq_true.1 h
  cases o with
  | prepared k reading probe workers =>
      obtain ⟨later, earlier, heq⟩ := List.append_of_mem ho
      exact ⟨later, earlier, k, reading, probe, workers, heq⟩
  | _ => cases hsale

theorem paid_admission_fresh_first_request :
    ∃ later earlier k reading probe workers,
      (Service.run sampleReadiness .boot admissionHistory).log =
        later ++ .prepared k reading probe workers :: earlier ∧
      Admitted sampleReadiness earlier k reading probe workers := by
  have hsale : (Service.run sampleReadiness .boot admissionHistory).log.any
      Occurrence.isSale = true := by decide +kernel
  obtain ⟨later, earlier, k, reading, probe, workers, hlog⟩ := exists_sale hsale
  exact ⟨later, earlier, k, reading, probe, workers, hlog,
    paid_admission_fresh sampleReadiness admissionHistory hlog⟩

end RoundWatch
