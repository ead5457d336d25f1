import RoundWatch.Readiness.WorkerHealth
import Mathlib.Data.List.Induction

/-!
# What a ready worker has shown

Calls of a `WorkerHealthTracker`, each at its time, and what they say when the tracker
answers that the worker is ready.

* `HealthCall`, `call` — a call and what it does;
* `Proven` — the probe that stands behind a healthy worker, and what came after it;
* `backed_after` — a tracker that is healthy has such a probe;
* `beating_after` — what the heartbeat of a running cycle is.
-/

namespace RoundWatch

/-- An outcome as it is handed in: a number that is not an integer is `none`, and a field
that may be left out has one more `Option`. -/
structure CycleReport where
  attempted : Option ℤ
  succeeded : Option ℤ
  failed : Option ℤ
  isolatedFailures : Option (Option ℤ)
  noOp : Option (Option ℤ)
  providerEvidenceOnly : Option (Option ℤ)
  providerEvidence : Option (Option ℤ)

namespace CycleReport

/-- A non-negative safe integer. -/
def count (value : Option ℤ) : Option ℕ :=
  match value with
  | some n => if Json.isSafeInteger n ∧ 0 ≤ n then some n.toNat else none
  | none => none

/-- `value ?? 0`. -/
def countOrZero : Option (Option ℤ) → Option ℕ
  | none => some 0
  | some value => count value

/-- `validateOutcome`: the counts, if they all are counts and add up. -/
def accepted (report : CycleReport) : Option WorkerCycleOutcome := do
  let attempted ← count report.attempted
  let succeeded ← count report.succeeded
  let failed ← count report.failed
  let isolatedFailures ← countOrZero report.isolatedFailures
  let noOp ← countOrZero report.noOp
  let providerEvidenceOnly ← countOrZero report.providerEvidenceOnly
  let providerEvidence ← countOrZero report.providerEvidence
  let outcome : WorkerCycleOutcome :=
    { attempted, succeeded, failed, isolatedFailures, noOp, providerEvidenceOnly,
      providerEvidence }
  if validOutcome outcome then some outcome else none

theorem validOutcome_of_accepted {report : CycleReport} {outcome : WorkerCycleOutcome}
    (h : report.accepted = some outcome) : validOutcome outcome = true := by
  simp only [accepted, Option.bind_eq_bind, Option.bind_eq_some_iff] at h
  obtain ⟨_, -, _, -, _, -, _, -, _, -, _, -, _, -, h⟩ := h
  split at h
  · cases h
    assumption
  · cases h

end CycleReport

/-- A call of the tracker. -/
inductive HealthMark where
  | started
  | stopped
  | cycleStarted
  | cycleProgress
  | providerFailure
  | cycleCompleted (report : CycleReport)
  | probeResult (healthy : Bool)
  | cycleFailed

/-- A call, and what the clock reads meanwhile. -/
structure HealthCall where
  mark : HealthMark
  now : ℤ

namespace HealthMark

/-- What takes the proof of a probe away. -/
def disturbs : HealthMark → Bool
  | .started => true
  | .stopped => true
  | .providerFailure => true
  | .cycleFailed => true
  | .cycleCompleted report =>
      report.accepted.any fun outcome => outcome.isolatedFailures < outcome.failed
  | _ => false

def isFailedProbe : HealthMark → Bool
  | .probeResult healthy => !healthy
  | _ => false

/-- A completed cycle that reported provider evidence. -/
def showsEvidence : HealthMark → Bool
  | .cycleCompleted report => report.accepted.any fun outcome => 0 < outcome.providerEvidence
  | _ => false

/-- What ends a cycle; a call of `markCycleCompleted` that throws does not. -/
def endsCycle : HealthMark → Bool
  | .stopped => true
  | .cycleFailed => true
  | .cycleCompleted report => report.accepted.isSome
  | _ => false

end HealthMark

namespace WorkerHealthTracker

/-- A call; one that throws leaves the tracker alone. -/
def call (t : WorkerHealthTracker) (c : HealthCall) : WorkerHealthTracker :=
  match c.mark with
  | .started => t.markStarted
  | .stopped => t.markStopped
  | .cycleStarted => t.markCycleStarted c.now
  | .cycleProgress => t.markCycleProgress c.now
  | .providerFailure => t.markProviderFailure c.now
  | .cycleCompleted report =>
      (report.accepted.bind fun outcome => t.markCycleCompleted outcome c.now).getD t
  | .probeResult healthy => t.markProbeResult healthy c.now
  | .cycleFailed => t.markCycleFailed c.now

/-- The tracker after a list of calls. -/
def after (calls : List HealthCall) : WorkerHealthTracker := Runs.run call fresh calls

theorem after_concat (calls : List HealthCall) (c : HealthCall) :
    after (calls ++ [c]) = (after calls).call c := by
  rw [after, Runs.run_append]
  rfl

end WorkerHealthTracker

/-- The worker was started, and neither started nor stopped since. -/
def StartedIn (calls : List HealthCall) : Prop :=
  ∃ before start later, calls = before ++ start :: later ∧ start.mark = .started ∧
    ∀ c ∈ later, c.mark ≠ .started ∧ c.mark ≠ .stopped

theorem startedIn_here {c : HealthCall} (h : c.mark = .started) (calls : List HealthCall) :
    StartedIn (calls ++ [c]) :=
  ⟨calls, c, [], rfl, h, fun d hd => by cases hd⟩

theorem StartedIn.concat {calls : List HealthCall} (h : StartedIn calls) {c : HealthCall}
    (hstarted : c.mark ≠ .started) (hstopped : c.mark ≠ .stopped) : StartedIn (calls ++ [c]) := by
  obtain ⟨before, start, later, rfl, hstart, hlater⟩ := h
  refine ⟨before, start, later ++ [c], by simp, hstart, fun d hd => ?_⟩
  rcases List.mem_append.mp hd with hd | hd
  · exact hlater d hd
  · rw [List.mem_singleton.mp hd]
    exact ⟨hstarted, hstopped⟩

/-- A successful probe of a started worker that nothing has disturbed, how many probes have
failed since, and the time of the latest evidence. -/
structure Proven (before : List HealthCall) (probe : HealthCall) (later : List HealthCall)
    (failures : ℕ) (evidenceAt : ℤ) : Prop where
  healthy : probe.mark = .probeResult true
  started : StartedIn before
  undisturbed : ∀ c ∈ later, c.mark.disturbs = false
  failures : later.countP (·.mark.isFailedProbe) = failures
  evidence : evidenceAt = probe.now ∨
    ∃ c ∈ later, c.mark.showsEvidence = true ∧ c.now = evidenceAt

namespace Proven

variable {before later : List HealthCall} {probe : HealthCall} {failures : ℕ} {evidenceAt : ℤ}

/-- One more call that disturbs nothing. -/
theorem concat (h : Proven before probe later failures evidenceAt) {c : HealthCall}
    (hquiet : c.mark.disturbs = false) :
    Proven before probe (later ++ [c]) (failures + if c.mark.isFailedProbe then 1 else 0)
      evidenceAt :=
  { h with
    undisturbed := fun d hd => by
      rcases List.mem_append.mp hd with hd | hd
      · exact h.undisturbed d hd
      · rw [List.mem_singleton.mp hd]
        exact hquiet
    failures := by
      rw [List.countP_append, h.failures, List.countP_singleton]
    evidence := h.evidence.imp_right fun ⟨d, hd, hshows⟩ =>
      ⟨d, List.mem_append_left _ hd, hshows⟩ }

/-- The call has shown evidence itself. -/
theorem renew (h : Proven before probe later failures evidenceAt) {c : HealthCall}
    (hmem : c ∈ later) (hshows : c.mark.showsEvidence = true) :
    Proven before probe later failures c.now :=
  { h with evidence := Or.inr ⟨c, hmem, hshows, rfl⟩ }

end Proven

namespace WorkerHealthTracker

variable {t : WorkerHealthTracker} {calls : List HealthCall}

/-- A tracker that is healthy has a probe behind it. -/
structure Backed (t : WorkerHealthTracker) (calls : List HealthCall) : Prop where
  started : t.started = true → StartedIn calls
  healthy : t.providerHealth = .healthy → t.started = true ∧ t.consecutiveProbeFailures ≤ 1 ∧
    ∃ before probe later evidenceAt, calls = before ++ probe :: later ∧
      t.lastProviderEvidenceAtMs = some evidenceAt ∧
      Proven before probe later t.consecutiveProbeFailures evidenceAt

theorem backed_fresh : Backed fresh [] where
  started h := by cases h
  healthy h := by cases h

/-- A call that leaves the worker unhealthy, and started if it was. -/
theorem Backed.unhealthy (h : Backed t calls) {t' : WorkerHealthTracker} {c : HealthCall}
    (hstarted : t'.started = t.started) (hhealth : t'.providerHealth ≠ .healthy)
    (hstart : c.mark ≠ .started) (hstop : c.mark ≠ .stopped) : Backed t' (calls ++ [c]) where
  started hset := (h.started (hstarted ▸ hset)).concat hstart hstop
  healthy hhealthy := absurd hhealthy hhealth

/-- A call that leaves the health as it is. -/
theorem Backed.quiet (h : Backed t calls) {t' : WorkerHealthTracker} {c : HealthCall}
    (hstarted : t'.started = t.started) (hhealth : t'.providerHealth = t.providerHealth)
    (hfailures : t'.consecutiveProbeFailures = t.consecutiveProbeFailures)
    (hevidence : t'.lastProviderEvidenceAtMs = t.lastProviderEvidenceAtMs)
    (hquiet : c.mark.disturbs = false) (hprobe : c.mark.isFailedProbe = false) :
    Backed t' (calls ++ [c]) where
  started hset := by
    refine (h.started (hstarted ▸ hset)).concat ?_ ?_ <;> intro heq <;> rw [heq] at hquiet <;>
      cases hquiet
  healthy hhealthy := by
    obtain ⟨hset, hbound, before, probe, later, evidenceAt, rfl, hat, hproven⟩ :=
      h.healthy (hhealth ▸ hhealthy)
    have hnext := hproven.concat hquiet
    rw [hprobe, if_neg Bool.false_ne_true, Nat.add_zero, ← hfailures] at hnext
    exact ⟨hstarted.trans hset, hfailures ▸ hbound, before, probe, later ++ [c], evidenceAt,
      by simp, hevidence.trans hat, hnext⟩

theorem backed_cycleCompleted (h : Backed t calls) (report : CycleReport) (now : ℤ) :
    Backed (t.call ⟨.cycleCompleted report, now⟩) (calls ++ [⟨.cycleCompleted report, now⟩]) := by
  rw [call]
  dsimp only
  cases hreport : report.accepted with
  | none =>
      refine h.quiet rfl rfl rfl rfl ?_ rfl
      rw [HealthMark.disturbs, hreport]
      rfl
  | some outcome =>
      have hvalid := CycleReport.validOutcome_of_accepted hreport
      rw [Option.bind_some, markCycleCompleted, if_pos hvalid]
      dsimp only
      split
      · exact h.unhealthy rfl nofun nofun nofun
      · rename_i hisolated
        have hquiet : (HealthMark.cycleCompleted report).disturbs = false := by
          rw [HealthMark.disturbs, hreport]
          simpa using hisolated
        split
        · rename_i hextends
          have hshows : (HealthMark.cycleCompleted report).showsEvidence = true := by
            rw [HealthMark.showsEvidence, hreport]
            simpa using hextends.2
          refine ⟨fun hset => (h.started hset).concat nofun nofun, fun hhealthy => ?_⟩
          obtain ⟨hset, hbound, before, probe, later, evidenceAt, rfl, -, hproven⟩ :=
            h.healthy hhealthy
          exact ⟨hset, hbound, before, probe, later ++ [⟨.cycleCompleted report, now⟩], now,
            by simp, rfl, (hproven.concat hquiet).renew
              (List.mem_append_right _ (List.mem_singleton_self _)) hshows⟩
        · exact h.quiet rfl rfl rfl rfl hquiet rfl

theorem backed_probeResult (h : Backed t calls) (healthy : Bool) (now : ℤ) :
    Backed (t.call ⟨.probeResult healthy, now⟩) (calls ++ [⟨.probeResult healthy, now⟩]) := by
  rw [call]
  dsimp only
  rw [markProbeResult]
  split
  · rename_i hstopped
    have hstopped' : t.started = false := by simpa using hstopped
    refine ⟨fun hset => ?_, fun hhealthy => ?_⟩
    · rw [hstopped'] at hset
      cases hset
    · have hset := (h.healthy hhealthy).1
      rw [hstopped'] at hset
      cases hset
  · rename_i hstarted
    have hstarted' : t.started = true := by simpa using hstarted
    have hin := h.started hstarted'
    cases healthy with
    | true =>
        refine ⟨fun _ => hin.concat nofun nofun, fun _ => ⟨hstarted', Nat.zero_le 1, calls, _, [],
          now, rfl, rfl, ?_⟩⟩
        exact
          { healthy := rfl
            started := hin
            undisturbed := fun d hd => by cases hd
            failures := rfl
            evidence := Or.inl rfl }
    | false =>
        refine ⟨fun _ => hin.concat nofun nofun, fun hhealthy => ?_⟩
        simp only [Bool.false_eq_true, if_false] at hhealthy ⊢
        -- The worker stays healthy through its first failed probe only.
        by_cases hfails : t.providerHealth ≠ .healthy ∨ 2 ≤ t.consecutiveProbeFailures + 1
        · rw [if_pos hfails] at hhealthy
          cases hhealthy
        · rw [not_or, not_not] at hfails
          obtain ⟨-, -, before, probe, later, evidenceAt, rfl, hat, hproven⟩ :=
            h.healthy hfails.1
          exact ⟨hstarted', by omega, before, probe, later ++ [⟨.probeResult false, now⟩],
            evidenceAt, by simp, hat, hproven.concat rfl⟩

/-- **The step lemma.** -/
theorem backed_call (h : Backed t calls) (c : HealthCall) : Backed (t.call c) (calls ++ [c]) := by
  obtain ⟨mark, now⟩ := c
  cases mark with
  | started => exact ⟨fun _ => startedIn_here rfl calls, nofun⟩
  | stopped => exact ⟨nofun, nofun⟩
  | cycleStarted => exact h.quiet rfl rfl rfl rfl rfl rfl
  | cycleProgress =>
      rw [call]
      dsimp only
      rw [markCycleProgress]
      split
      · exact h.quiet rfl rfl rfl rfl rfl rfl
      · exact h.quiet rfl rfl rfl rfl rfl rfl
  | providerFailure => exact h.unhealthy rfl nofun nofun nofun
  | cycleCompleted report => exact backed_cycleCompleted h report now
  | probeResult healthy => exact backed_probeResult h healthy now
  | cycleFailed => exact h.unhealthy rfl nofun nofun nofun

/-- **The run lemma.** -/
theorem backed_after (calls : List HealthCall) : Backed (after calls) calls := by
  induction calls using List.reverseRecOn with
  | nil => exact backed_fresh
  | append_singleton calls c ih =>
      rw [after_concat]
      exact backed_call ih c

/-! ## The heartbeat -/

/-- The progress a tracker keeps is the one it had, or the call's own. -/
theorem call_progress (t : WorkerHealthTracker) (c : HealthCall) {progressAt : ℤ}
    (h : (t.call c).lastProgressAtMs = some progressAt) :
    t.lastProgressAtMs = some progressAt ∨ c.mark = .cycleProgress ∧ c.now = progressAt := by
  obtain ⟨mark, now⟩ := c
  cases mark with
  | started => cases h
  | cycleProgress =>
      simp only [call, markCycleProgress] at h
      split at h
      · exact Or.inr ⟨rfl, Option.some.inj h⟩
      · exact Or.inl h
  | cycleCompleted report =>
      simp only [call] at h
      cases hreport : report.accepted with
      | none =>
          rw [hreport] at h
          exact Or.inl h
      | some outcome =>
          rw [hreport, Option.bind_some, markCycleCompleted,
            if_pos (CycleReport.validOutcome_of_accepted hreport)] at h
          dsimp only at h
          split at h
          · exact Or.inl h
          · split at h <;> exact Or.inl h
  | probeResult healthy =>
      simp only [call, markProbeResult] at h
      split at h
      · exact Or.inl h
      · split at h <;> exact Or.inl h
  | stopped => exact Or.inl h
  | cycleStarted => exact Or.inl h
  | providerFailure => exact Or.inl h
  | cycleFailed => exact Or.inl h

/-- No progress is later than the clock. -/
def ProgressBy (bound : ℤ) (t : WorkerHealthTracker) : Prop :=
  ∀ progressAt, t.lastProgressAtMs = some progressAt → progressAt ≤ bound

theorem progressBy_after {bound : ℤ} (hcalls : ∀ c ∈ calls, c.now ≤ bound) :
    ProgressBy bound (after calls) := by
  refine Runs.run_invariant (fun t c hc ht progressAt hat => ?_)
    (Runs.admissible_of_forall hcalls) nofun
  rcases call_progress t c hat with hat | ⟨-, rfl⟩
  · exact ht progressAt hat
  · exact hc

/-- The cycle that was started runs, and every progress is its own or no later than it. -/
structure Beating (t : WorkerHealthTracker) (start : HealthCall) (later : List HealthCall) :
    Prop where
  running : t.running = true
  startedAt : t.lastCycleStartedAtMs = some start.now
  progress : ∀ progressAt, t.lastProgressAtMs = some progressAt →
    progressAt ≤ start.now ∨ ∃ c ∈ later, c.mark = .cycleProgress ∧ c.now = progressAt

/-- A call that neither starts nor ends a cycle leaves the running one alone. -/
theorem call_running (h : t.running = true) {c : HealthCall} (hends : c.mark.endsCycle = false)
    (hstart : c.mark ≠ .cycleStarted) :
    (t.call c).running = true ∧ (t.call c).lastCycleStartedAtMs = t.lastCycleStartedAtMs := by
  obtain ⟨mark, now⟩ := c
  cases mark with
  | started => exact ⟨h, rfl⟩
  | stopped => cases hends
  | cycleStarted => exact absurd rfl hstart
  | cycleProgress =>
      rw [call]
      dsimp only
      rw [markCycleProgress, if_pos h]
      exact ⟨h, rfl⟩
  | providerFailure => exact ⟨h, rfl⟩
  | cycleCompleted report =>
      have hnone : report.accepted = none := by simpa [HealthMark.endsCycle] using hends
      rw [call]
      dsimp only
      rw [hnone]
      exact ⟨h, rfl⟩
  | probeResult healthy =>
      rw [call]
      dsimp only
      rw [markProbeResult]
      split
      · exact ⟨h, rfl⟩
      · split <;> exact ⟨h, rfl⟩
  | cycleFailed => cases hends

theorem Beating.concat {start : HealthCall} {later : List HealthCall} (h : Beating t start later)
    {c : HealthCall} (hends : c.mark.endsCycle = false) (hstart : c.mark ≠ .cycleStarted) :
    Beating (t.call c) start (later ++ [c]) := by
  obtain ⟨hrunning, hsame⟩ := call_running h.running hends hstart
  refine ⟨hrunning, hsame.trans h.startedAt, fun progressAt hat => ?_⟩
  rcases call_progress t c hat with hat | ⟨hmark, hnow⟩
  · rcases h.progress progressAt hat with hle | ⟨d, hd, hprogress⟩
    · exact Or.inl hle
    · exact Or.inr ⟨d, List.mem_append_left _ hd, hprogress⟩
  · exact Or.inr ⟨c, List.mem_append_right _ (List.mem_singleton_self c), hmark, hnow⟩

/-- **The heartbeat of the cycle that runs.** -/
theorem beating_after {earlier later : List HealthCall} {start : HealthCall}
    (hmark : start.mark = .cycleStarted) (hclock : ∀ c ∈ earlier, c.now ≤ start.now)
    (hlater : ∀ c ∈ later, c.mark.endsCycle = false ∧ c.mark ≠ .cycleStarted) :
    Beating (after (earlier ++ start :: later)) start later := by
  induction later using List.reverseRecOn with
  | nil =>
      have hstarted : (after earlier).call start = (after earlier).markCycleStarted start.now := by
        rw [call, hmark]
      rw [after_concat, hstarted]
      exact ⟨rfl, rfl, fun progressAt hat => Or.inl (progressBy_after hclock progressAt hat)⟩
  | append_singleton later c ih =>
      have hearlier := ih fun d hd => hlater d (List.mem_append_left _ hd)
      obtain ⟨hends, hstart⟩ := hlater c (List.mem_append_right _ (List.mem_singleton_self c))
      rw [← List.cons_append, ← List.append_assoc, after_concat]
      exact hearlier.concat hends hstart

/-- The heartbeat is the start of the running cycle, or a progress in it. -/
theorem Beating.heartbeat {start : HealthCall} {later : List HealthCall}
    (h : Beating t start later) : ∃ beat, t.heartbeat = some beat ∧
      (beat = start.now ∨ ∃ c ∈ later, c.mark = .cycleProgress ∧ c.now = beat) := by
  rw [WorkerHealthTracker.heartbeat, if_pos h.running, h.startedAt, Option.map_some]
  cases hat : t.lastProgressAtMs with
  | none => exact ⟨start.now, rfl, Or.inl rfl⟩
  | some progressAt =>
      refine ⟨max start.now progressAt, rfl, ?_⟩
      rcases h.progress progressAt hat with hle | hown
      · exact Or.inl (max_eq_left hle)
      · rcases le_total progressAt start.now with hle | hle
        · exact Or.inl (max_eq_left hle)
        · rw [max_eq_right hle]
          exact Or.inr hown

/-- What `ready` means. -/
theorem ready_iff {maxSilence : ℕ} {now : ℤ} {s : WorkerHealthSnapshot}
    (h : t.snapshot maxSilence now = some s) :
    s.ready = true ↔ t.started = true ∧ t.providerHealth = .healthy ∧
      t.lastProviderEvidenceAtMs.any (now - · ≤ maxSilence) = true ∧
      (t.running = true → t.heartbeat.any (now - · ≤ maxSilence) = true) := by
  rw [snapshot] at h
  split at h
  · cases h
    dsimp only
    cases hfresh : t.lastProviderEvidenceAtMs.any (now - · ≤ (maxSilence : ℤ)) <;>
      cases hhealth : t.providerHealth <;> cases t.running <;> cases t.started <;> simp
  · cases h

end WorkerHealthTracker

/-- What the calls have to say before a worker is ready at a time, for a window. -/
structure ShownReady (calls : List HealthCall) (maxSilence : ℕ) (now : ℤ) : Prop where
  /-- A full probe has succeeded since the last start, nothing has disturbed the worker since,
  one probe at most has failed since, and the evidence is fresh. -/
  probe : ∃ before probe later, calls = before ++ probe :: later ∧
    probe.mark = .probeResult true ∧ StartedIn before ∧
    (∀ c ∈ later, c.mark.disturbs = false) ∧
    later.countP (·.mark.isFailedProbe) ≤ 1 ∧
    (now - probe.now ≤ maxSilence ∨
      ∃ c ∈ later, c.mark.showsEvidence = true ∧ now - c.now ≤ maxSilence)
  /-- The cycle that runs has started or progressed within the window. -/
  cycle : ∀ earlier start later, calls = earlier ++ start :: later →
    start.mark = .cycleStarted →
    (∀ c ∈ later, c.mark.endsCycle = false ∧ c.mark ≠ .cycleStarted) →
    now - start.now ≤ maxSilence ∨
      ∃ c ∈ later, c.mark = .cycleProgress ∧ now - c.now ≤ maxSilence

open WorkerHealthTracker in
/-- **Readiness is never optimistic.**  When the tracker says that a worker is ready, its
calls have shown it. -/
theorem worker_readiness_shown {calls : List HealthCall} {maxSilence : ℕ} {now : ℤ}
    {s : WorkerHealthSnapshot}
    (hclock : (calls.map HealthCall.now ++ [now]).Pairwise (· ≤ ·))
    (hsnapshot : (after calls).snapshot maxSilence now = some s) (hready : s.ready = true) :
    ShownReady calls maxSilence now := by
  obtain ⟨-, hhealthy, hfresh, hbeats⟩ := (ready_iff hsnapshot).mp hready
  constructor
  · obtain ⟨-, hbound, before, probe, later, evidenceAt, heq, hat, hproven⟩ :=
      (backed_after calls).healthy hhealthy
    rw [hat] at hfresh
    have hwindow : now - evidenceAt ≤ maxSilence := by simpa using hfresh
    refine ⟨before, probe, later, heq, hproven.healthy, hproven.started, hproven.undisturbed,
      hproven.failures.trans_le hbound, ?_⟩
    rcases hproven.evidence with rfl | ⟨c, hc, hshows, rfl⟩
    · exact Or.inl hwindow
    · exact Or.inr ⟨c, hc, hshows, hwindow⟩
  · rintro earlier start later rfl hmark hlater
    have hbefore : ∀ c ∈ earlier, c.now ≤ start.now := by
      intro c hc
      rw [List.map_append, List.append_assoc, List.pairwise_append] at hclock
      exact hclock.2.2 c.now (List.mem_map_of_mem hc) start.now (by simp)
    have hbeating := beating_after hmark hbefore hlater
    obtain ⟨beat, hbeat, hown⟩ := hbeating.heartbeat
    have hwindow := hbeats hbeating.running
    rw [hbeat] at hwindow
    have hwindow' : now - beat ≤ maxSilence := by simpa using hwindow
    rcases hown with rfl | ⟨c, hc, hprogress, rfl⟩
    · exact Or.inl hwindow'
    · exact Or.inr ⟨c, hc, hprogress, hwindow'⟩

/-- A started worker with a probe behind it, in the middle of a cycle. -/
theorem worker_readiness_shown_running :
    ShownReady [⟨.started, 0⟩, ⟨.probeResult true, 1⟩, ⟨.cycleStarted, 2⟩, ⟨.cycleProgress, 4⟩]
      3 4 :=
  worker_readiness_shown (by decide) rfl rfl

end RoundWatch
