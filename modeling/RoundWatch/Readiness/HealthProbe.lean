import RoundWatch.Foundation.Json
import Mathlib.Data.Rat.Defs
import Mathlib.Algebra.Order.Ring.Rat
import Mathlib.Logic.Function.Basic

/-!
# The shared health probe

`IndexerHealthProbe`: one probe at a time, whose sample counts as evidence until the
provider fails.

* `IndexerHealthProbe`, `PendingProbe`, `IndexerProbeSample` — the object and what it keeps;
* `due`, `start` — the two halves of `runIfDue`;
* `answer`, `finish` — the callbacks of the promise, in their order;
* `invalidateForProviderFailure`, `isSampleCurrent`, `isSampleFreshForAdmission`.

Times are readings of `performance.now()`, in milliseconds.
-/

namespace RoundWatch

/-- What a probe or a caller of the probe throws. -/
inductive ProbeError where
  /-- `ShutdownInterrupted`. -/
  | shutdown
  /-- `assertMaximumEvidenceAge`. -/
  | evidenceAge
  deriving DecidableEq, Repr

/-- `IndexerCapabilityEvidence`. -/
structure IndexerCapabilityEvidence where
  polling : Bool
  reconciliation : Bool
  deriving DecidableEq, Repr

/-- Both capabilities are there. -/
def IndexerCapabilityEvidence.complete (evidence : IndexerCapabilityEvidence) : Bool :=
  evidence.polling && evidence.reconciliation

/-- `IndexerProbeSample`. -/
structure IndexerProbeSample where
  revision : ℕ
  failureEpoch : ℕ
  providerFailureRevision : ℕ
  attemptedAtMs : ℚ
  completedAtMs : ℚ
  evidence : IndexerCapabilityEvidence
  deriving DecidableEq

/-- What the constructor checks. -/
structure ProbeConfig where
  minimumIntervalMs : ℕ
  idleIntervalMs : ℕ
  minimum_ge : 1000 ≤ minimumIntervalMs
  idle_ge : minimumIntervalMs ≤ idleIntervalMs
  idle_safe : idleIntervalMs ≤ Json.maxSafeInteger

/-- `readinessFreshnessMilliseconds`. -/
def ProbeConfig.readinessFreshnessMilliseconds (cfg : ProbeConfig) : ℕ :=
  max 45000 ((3 * cfg.idleIntervalMs + 1) / 2)

/-- A probe whose promise is `pending`, with what it captured at its start. -/
structure PendingProbe where
  revision : ℕ
  failureEpoch : ℕ
  providerFailureRevision : ℕ
  attemptedAtMs : ℚ
  maximumEvidenceAgeMs : ℕ
  /-- What the promise will settle with, once the source has answered. -/
  outcome : Option (Except ProbeError IndexerProbeSample)

/-- An `IndexerHealthProbe`, with the promises that have settled, by revision. -/
structure IndexerHealthProbe where
  lastAttemptAtMs : Option ℚ
  pending : Option PendingProbe
  latest : Option IndexerProbeSample
  revision : ℕ
  failureEpoch : ℕ
  providerFailureRevision : ℕ
  providerEvidenceInvalidated : Bool
  schedulingStopped : Bool
  settled : ℕ → Option (Except ProbeError IndexerProbeSample)

/-- What `runIfDue` returns: a promise that has settled or one that is pending. -/
inductive ProbeTicket where
  | rejected (error : ProbeError)
  | resolved (sample : IndexerProbeSample)
  | pending (revision : ℕ)

/-- What `probeReadinessCapabilities` ends with: evidence, or an error that is the
shutdown's or another one. -/
inductive ProbeAnswer where
  | evidence (reported : IndexerCapabilityEvidence)
  | failed
  | shutdown

/-- The evidence a probe reports; an error that is not the shutdown's is negative
evidence. -/
def ProbeAnswer.evidence? : ProbeAnswer → Option IndexerCapabilityEvidence
  | .evidence reported => some reported
  | .failed => some ⟨false, false⟩
  | .shutdown => none

/-- `assertMaximumEvidenceAge`. -/
def assertMaximumEvidenceAge (cfg : ProbeConfig) (maximumEvidenceAgeMs : ℕ) :
    Except ProbeError Unit :=
  if Json.maxSafeInteger < maximumEvidenceAgeMs ∨ maximumEvidenceAgeMs < cfg.minimumIntervalMs then
    .error .evidenceAge
  else .ok ()

namespace IndexerHealthProbe

/-- A probe that has just been constructed. -/
def fresh : IndexerHealthProbe where
  lastAttemptAtMs := none
  pending := none
  latest := none
  revision := 0
  failureEpoch := 0
  providerFailureRevision := 0
  providerEvidenceInvalidated := false
  schedulingStopped := false
  settled := fun _ => none

/-- `isSampleCurrent`. -/
def isSampleCurrent (p : IndexerHealthProbe) (sample : IndexerProbeSample) : Bool :=
  sample.failureEpoch == p.failureEpoch &&
    sample.providerFailureRevision == p.providerFailureRevision

/-- `isSampleFreshForAdmission`. -/
def isSampleFreshForAdmission (cfg : ProbeConfig) (p : IndexerHealthProbe)
    (sample : IndexerProbeSample) (maximumEvidenceAgeMs : ℕ) (now : ℚ) : Except ProbeError Bool :=
  match assertMaximumEvidenceAge cfg maximumEvidenceAgeMs with
  | .error e => .error e
  | .ok () =>
      .ok (p.isSampleCurrent sample && sample.attemptedAtMs ≤ sample.completedAtMs &&
        sample.completedAtMs - sample.attemptedAtMs ≤ maximumEvidenceAgeMs &&
        sample.attemptedAtMs ≤ now && now - sample.attemptedAtMs ≤ maximumEvidenceAgeMs)

/-- `invalidateForProviderFailure`. -/
def invalidateForProviderFailure (p : IndexerHealthProbe) : IndexerHealthProbe :=
  { p with
    providerFailureRevision := p.providerFailureRevision + 1
    providerEvidenceInvalidated := true
    failureEpoch :=
      if p.providerEvidenceInvalidated then p.failureEpoch else p.failureEpoch + 1 }

/-- `stopScheduling`. -/
def stopScheduling (p : IndexerHealthProbe) : IndexerHealthProbe :=
  { p with schedulingStopped := true }

/-- `runIfDue` where it starts no probe. -/
def due (cfg : ProbeConfig) (p : IndexerHealthProbe) (maximumEvidenceAgeMs : ℕ) (now : ℚ) :
    Option ProbeTicket :=
  if p.schedulingStopped then some (.rejected .shutdown)
  else
    match assertMaximumEvidenceAge cfg maximumEvidenceAgeMs with
    | .error e => some (.rejected e)
    | .ok () =>
        match p.pending with
        | some probe => some (.pending probe.revision)
        | none =>
            match p.latest with
            | some sample =>
                let effectiveMaximumAgeMs : ℕ :=
                  if sample.evidence.complete && p.isSampleCurrent sample then maximumEvidenceAgeMs
                  else min maximumEvidenceAgeMs cfg.minimumIntervalMs
                if p.isSampleCurrent sample &&
                    p.lastAttemptAtMs.any (now - · < effectiveMaximumAgeMs) then
                  some (.resolved sample)
                else none
            | none => none

/-- `runIfDue` where it starts a probe. -/
def start (p : IndexerHealthProbe) (maximumEvidenceAgeMs : ℕ) (now : ℚ) : IndexerHealthProbe :=
  { p with
    lastAttemptAtMs := some now
    revision := p.revision + 1
    pending := some
      { revision := p.revision + 1
        failureEpoch := p.failureEpoch
        providerFailureRevision := p.providerFailureRevision
        attemptedAtMs := now
        maximumEvidenceAgeMs := maximumEvidenceAgeMs
        outcome := none } }

/-- The sample of a probe that is answered. -/
def sample (probe : PendingProbe) (evidence : IndexerCapabilityEvidence) (now : ℚ) :
    IndexerProbeSample where
  revision := probe.revision
  failureEpoch := probe.failureEpoch
  providerFailureRevision := probe.providerFailureRevision
  attemptedAtMs := probe.attemptedAtMs
  completedAtMs := now
  evidence := evidence

/-- The callbacks behind the source's answer.  The promise stays pending until `finish`. -/
def answer (cfg : ProbeConfig) (p : IndexerHealthProbe) (probe : PendingProbe)
    (answer : ProbeAnswer) (now : ℚ) : IndexerHealthProbe :=
  match answer.evidence? with
  | none => { p with pending := some { probe with outcome := some (.error .shutdown) } }
  | some evidence =>
      let sample := IndexerHealthProbe.sample probe evidence now
      let recovered : Bool := evidence.complete &&
        ((p.isSampleFreshForAdmission cfg sample probe.maximumEvidenceAgeMs now).toOption.getD
          false)
      { p with
        latest := some sample
        providerEvidenceInvalidated := p.providerEvidenceInvalidated && !recovered
        pending := some { probe with outcome := some (.ok sample) } }

/-- The `finally` of the promise. -/
def finish (p : IndexerHealthProbe) (revision : ℕ)
    (outcome : Except ProbeError IndexerProbeSample) : IndexerHealthProbe :=
  { p with pending := none, settled := Function.update p.settled revision (some outcome) }

/-- What a promise has settled with. -/
def settlement (p : IndexerHealthProbe) : ProbeTicket → Option (Except ProbeError IndexerProbeSample)
  | .rejected e => some (.error e)
  | .resolved sample => some (.ok sample)
  | .pending revision => p.settled revision

end IndexerHealthProbe

end RoundWatch
