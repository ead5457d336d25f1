import RoundWatch.Workers.System

/-!
# The health of a worker

`WorkerHealthTracker`: what a worker's cycles and the probe's samples say about it.

* `WorkerHealthTracker` — the object, with one definition for each of its methods;
* `snapshot` — what the tracker says at a time.

Times are readings of `Date.now()`.
-/

namespace RoundWatch

inductive ProviderHealth where
  | unknown
  | healthy
  | unhealthy
  deriving DecidableEq, Repr

structure WorkerHealthTracker where
  started : Bool
  running : Bool
  consecutiveProbeFailures : ℕ
  consecutiveCycleFailures : ℕ
  lastCycleStartedAtMs : Option ℤ
  lastProgressAtMs : Option ℤ
  lastErrorAtMs : Option ℤ
  providerHealth : ProviderHealth
  lastProviderEvidenceAtMs : Option ℤ

/-- `WorkerHealthSnapshot`, without the generation. -/
structure WorkerHealthSnapshot where
  started : Bool
  running : Bool
  ready : Bool
  cycleNotStalled : Bool
  providerHealth : ProviderHealth
  consecutiveFailures : ℕ
  lastCycleStartedAtMs : Option ℤ
  lastProgressAtMs : Option ℤ
  lastProviderEvidenceAtMs : Option ℤ
  lastErrorAtMs : Option ℤ

/-- The conditions under which a worker can take on a paid watch. -/
def WorkerHealthSnapshot.operational (snapshot : WorkerHealthSnapshot) : Bool :=
  snapshot.started && snapshot.cycleNotStalled && snapshot.providerHealth != .unhealthy

/-- `validateOutcome`; the counts are natural numbers. -/
def validOutcome (outcome : WorkerCycleOutcome) : Bool :=
  outcome.succeeded + outcome.failed + outcome.noOp + outcome.providerEvidenceOnly ==
      outcome.attempted &&
    outcome.providerEvidence ≤ outcome.succeeded + outcome.providerEvidenceOnly &&
    outcome.isolatedFailures ≤ outcome.failed

namespace WorkerHealthTracker

def fresh : WorkerHealthTracker where
  started := false
  running := false
  consecutiveProbeFailures := 0
  consecutiveCycleFailures := 0
  lastCycleStartedAtMs := none
  lastProgressAtMs := none
  lastErrorAtMs := none
  providerHealth := .unknown
  lastProviderEvidenceAtMs := none

def markStarted (t : WorkerHealthTracker) : WorkerHealthTracker :=
  { t with
    started := true
    providerHealth := .unknown
    lastProviderEvidenceAtMs := none
    lastProgressAtMs := none
    consecutiveProbeFailures := 0
    consecutiveCycleFailures := 0 }

def markStopped (t : WorkerHealthTracker) : WorkerHealthTracker :=
  { t with
    started := false
    running := false
    providerHealth := .unknown
    lastProviderEvidenceAtMs := none }

def markCycleStarted (t : WorkerHealthTracker) (now : ℤ) : WorkerHealthTracker :=
  { t with running := true, lastCycleStartedAtMs := some now }

def markCycleProgress (t : WorkerHealthTracker) (now : ℤ) : WorkerHealthTracker :=
  if t.running then { t with lastProgressAtMs := some now } else t

def markProviderFailure (t : WorkerHealthTracker) (now : ℤ) : WorkerHealthTracker :=
  { t with providerHealth := .unhealthy, lastErrorAtMs := some now }

/-- `markCycleCompleted`; an outcome that does not add up throws. -/
def markCycleCompleted (t : WorkerHealthTracker) (outcome : WorkerCycleOutcome) (now : ℤ) :
    Option WorkerHealthTracker :=
  if validOutcome outcome then
    let t := { t with
      running := false
      lastErrorAtMs := if 0 < outcome.failed then some now else t.lastErrorAtMs }
    if outcome.isolatedFailures < outcome.failed then
      some { t with
        consecutiveCycleFailures := t.consecutiveCycleFailures + 1
        providerHealth := .unhealthy }
    else if t.providerHealth = .healthy ∧ 0 < outcome.providerEvidence then
      some { t with lastProviderEvidenceAtMs := some now }
    else some t
  else none

def markProbeResult (t : WorkerHealthTracker) (healthy : Bool) (now : ℤ) : WorkerHealthTracker :=
  if !t.started then t
  else if healthy then
    { t with
      providerHealth := .healthy
      consecutiveProbeFailures := 0
      consecutiveCycleFailures := 0
      lastProviderEvidenceAtMs := some now }
  else
    { t with
      consecutiveProbeFailures := t.consecutiveProbeFailures + 1
      lastErrorAtMs := some now
      providerHealth :=
        if t.providerHealth ≠ .healthy ∨ 2 ≤ t.consecutiveProbeFailures + 1 then .unhealthy
        else t.providerHealth }

def markCycleFailed (t : WorkerHealthTracker) (now : ℤ) : WorkerHealthTracker :=
  { t with
    running := false
    consecutiveCycleFailures := t.consecutiveCycleFailures + 1
    providerHealth := .unhealthy
    lastErrorAtMs := some now }

/-- The last sign of life of the cycle that runs. -/
def heartbeat (t : WorkerHealthTracker) : Option ℤ :=
  if t.running then
    t.lastCycleStartedAtMs.map fun startedAt =>
      match t.lastProgressAtMs with
      | some progressAt => max startedAt progressAt
      | none => startedAt
  else none

/-- `snapshot`; a silence that is no positive safe integer throws. -/
def snapshot (t : WorkerHealthTracker) (maxSilenceMilliseconds : ℕ) (now : ℤ) :
    Option WorkerHealthSnapshot :=
  if positiveInteger maxSilenceMilliseconds then
    let successFresh := t.lastProviderEvidenceAtMs.any (now - · ≤ maxSilenceMilliseconds)
    let providerHealth :=
      if t.providerHealth = .healthy ∧ successFresh = false then .unknown else t.providerHealth
    let cycleNotStalled := !t.running || t.heartbeat.any (now - · ≤ maxSilenceMilliseconds)
    some
      { started := t.started
        running := t.running
        ready := t.started && successFresh && cycleNotStalled && providerHealth == .healthy
        cycleNotStalled := cycleNotStalled
        providerHealth := providerHealth
        consecutiveFailures := max t.consecutiveProbeFailures t.consecutiveCycleFailures
        lastCycleStartedAtMs := t.lastCycleStartedAtMs
        lastProgressAtMs := t.lastProgressAtMs
        lastProviderEvidenceAtMs := t.lastProviderEvidenceAtMs
        lastErrorAtMs := t.lastErrorAtMs }
  else none

end WorkerHealthTracker

end RoundWatch
