import RoundWatch.Foundation.Runs
import RoundWatch.Metrics.Work
import Mathlib.Tactic.Linarith

/-!
# The runtime sampler

`RoundWatchRuntimeSampler` reads a clock and the CPU counters on a timer and on demand, and each
of the readings may fail half-way.  What it hands to its observer is to be an interval between
two readings that belong together.

* `acquire` — one reading, with all the places where it fails;
* `SamplerEvent`, `SamplerWorld.step` — the timer, readings on demand, and what is reported;
* `handed`, `due` — the intervals the observer is handed, and those between one reading and
  the next;
* `cpu_intervals_exact` — they are the same, in every run.
-/

namespace RoundWatch.Metrics

variable {ν δ : Type} [JsArithmetic ν]

/-! ## Readings -/

structure CpuTotals where
  user : ℤ
  system : ℤ
  deriving DecidableEq

/-- `nonNegativeInteger` on integers. -/
def isSafeCount (n : ℤ) : Bool := 0 ≤ n && Json.isSafeInteger n

/-- `cpuTotals`. -/
def cpuTotals (value : CpuTotals) : Option CpuTotals :=
  if isSafeCount value.user && isSafeCount value.system then some value else none

structure MemoryUsage where
  rss : ℤ
  heapUsed : ℤ
  heapTotal : ℤ
  external : ℤ

/-- What the process finds when it samples itself; `none` is a throw. -/
structure Probe (ν δ : Type) where
  /-- `now().toISOString()`. -/
  now : Option ℤ
  monotonicNow : Option ν
  cpuUsage : Option CpuTotals
  memoryUsage : Option MemoryUsage
  /-- The sizes of the database and of its log, where they are files. -/
  fileSizes : Option (Option ℤ × Option ℤ)
  /-- The dispatcher, the watch metrics, the free work and the capacity. -/
  rest : Option δ

structure RuntimeResourceSample (ν : Type) where
  sampledAt : ℤ
  elapsedMs : ν
  rssBytes : ℤ
  heapUsedBytes : ℤ
  heapTotalBytes : ℤ
  externalBytes : ℤ
  cpuUserMicros : ℤ
  cpuSystemMicros : ℤ
  sqliteBytes : Option ℤ
  walBytes : Option ℤ

structure EconomicsRuntimeSnapshot (ν δ : Type) where
  resources : RuntimeResourceSample ν
  rest : δ

structure RuntimeCpuInterval (ν : Type) where
  userMicros : ℤ
  systemMicros : ℤ
  elapsedMs : ν

/-- The counters at a moment of the clock. -/
structure CpuReading (ν : Type) extends CpuTotals where
  monotonicMs : ν

/-- `finiteNumber`, where `maxSafe` is `Number.MAX_SAFE_INTEGER`. -/
def finiteNumber (maxSafe value : ν) : Option ν :=
  if JsArithmetic.isFinite value && !JsArithmetic.lt value 0 && !JsArithmetic.lt maxSafe value then
    some value
  else none

/-- The interval between two readings, if the clock went on and no counter went back. -/
def intervalBetween (baseline current : CpuReading ν) : Option (RuntimeCpuInterval ν) :=
  let elapsed := current.monotonicMs - baseline.monotonicMs
  if JsArithmetic.isFinite elapsed && JsArithmetic.lt 0 elapsed &&
      baseline.user ≤ current.user && baseline.system ≤ current.system then
    some ⟨current.user - baseline.user, current.system - baseline.system, elapsed⟩
  else none

namespace Probe

/-- Whether everything beside the clock and the counters is there. -/
def measured (p : Probe ν δ) : Bool :=
  (p.memoryUsage.any fun memory => isSafeCount memory.rss && isSafeCount memory.heapUsed &&
    isSafeCount memory.heapTotal && isSafeCount memory.external) &&
    p.fileSizes.isSome && p.rest.isSome

/-- The counters of a sample that comes through. -/
def reading (maxSafe : ν) (p : Probe ν δ) : Option (CpuReading ν) :=
  if p.now.isSome && p.measured then
    (p.monotonicNow.bind (finiteNumber maxSafe)).bind fun monotonicMs =>
      (p.cpuUsage.bind cpuTotals).map fun cpu => ⟨cpu, monotonicMs⟩
  else none

end Probe

structure RuntimeSampler (ν : Type) where
  previousCpu : CpuTotals
  previousMonotonic : ν
  pairedCpuBaseline : Option (CpuReading ν)
  /-- `timer !== undefined`. -/
  timer : Bool

namespace RuntimeSampler

/-- The constructor, behind its first reading. -/
def create (first : CpuReading ν) : RuntimeSampler ν :=
  ⟨first.toCpuTotals, first.monotonicMs, some first, false⟩

/-- The snapshot of `acquire`. -/
def snapshot (s : RuntimeSampler ν) (p : Probe ν δ) (sampledAt : ℤ) (current : CpuReading ν) :
    Option (EconomicsRuntimeSnapshot ν δ) :=
  p.memoryUsage.bind fun memory =>
  p.fileSizes.bind fun sizes =>
  if isSafeCount memory.rss && isSafeCount memory.heapUsed && isSafeCount memory.heapTotal &&
      isSafeCount memory.external then
    p.rest.map fun rest =>
      { resources :=
          { sampledAt
            elapsedMs := JsArithmetic.max 0 (current.monotonicMs - s.previousMonotonic)
            rssBytes := memory.rss
            heapUsedBytes := memory.heapUsed
            heapTotalBytes := memory.heapTotal
            externalBytes := memory.external
            cpuUserMicros := max 0 (current.user - s.previousCpu.user)
            cpuSystemMicros := max 0 (current.system - s.previousCpu.system)
            sqliteBytes := sizes.1
            walBytes := sizes.2 }
        rest }
  else none

/-- `acquire`.  The baseline is gone from the first line on, wherever the reading fails. -/
def acquire (maxSafe : ν) (s : RuntimeSampler ν) (scheduled : Bool) (p : Probe ν δ) :
    RuntimeSampler ν × Option (EconomicsRuntimeSnapshot ν δ × Option (RuntimeCpuInterval ν)) :=
  let cleared := { s with pairedCpuBaseline := none }
  match p.now with
  | none => (cleared, none)
  | some sampledAt =>
    match p.monotonicNow.bind (finiteNumber maxSafe) with
    | none => (cleared, none)
    | some monotonicMs =>
      let clocked := { cleared with previousMonotonic := monotonicMs }
      match p.cpuUsage.bind cpuTotals with
      | none => (clocked, none)
      | some cpu =>
        let counted := { clocked with previousCpu := cpu }
        let current : CpuReading ν := ⟨cpu, monotonicMs⟩
        match s.snapshot p sampledAt current with
        | none => (counted, none)
        | some snapshot =>
          if scheduled then
            ({ counted with pairedCpuBaseline := some current },
              some (snapshot, s.pairedCpuBaseline.bind (intervalBetween · current)))
          else (counted, some (snapshot, none))

end RuntimeSampler

/-! ## The timer -/

/-- What a scheduled sample reports, in order. -/
inductive SampleNotice (ν δ : Type) where
  | sampleCompleted (snapshot : EconomicsRuntimeSnapshot ν δ) (cpu : Option (RuntimeCpuInterval ν))
  | collectionFailed
  | logged (snapshot : EconomicsRuntimeSnapshot ν δ)
  /-- A line on the console. -/
  | warned

/-- The reports of `sampleAndLog` on a reading.  The observer is there or not from the
constructor on; a call of it fails when it throws or returns a promise. -/
def sampleNotices (observed observerFails logFails : Bool) :
    Option (EconomicsRuntimeSnapshot ν δ × Option (RuntimeCpuInterval ν)) →
      List (SampleNotice ν δ)
  | none => if observed then [.collectionFailed, .warned] else [.warned]
  | some (snapshot, cpu) =>
      -- A failure of the observer neither keeps the line from the log nor stops the timer.
      (if observed then
        .sampleCompleted snapshot cpu :: if observerFails then [.collectionFailed] else []
      else []) ++
        [if logFails then .warned else .logged snapshot]

inductive SamplerEvent (ν δ : Type) where
  | start (p : Probe ν δ) (observerFails logFails : Bool)
  /-- The interval of the timer. -/
  | tick (p : Probe ν δ) (observerFails logFails : Bool)
  | stop
  /-- `sample()`, on demand. -/
  | sample (p : Probe ν δ)

/-- The sampler with its history, the latest first. -/
structure SamplerWorld (ν δ : Type) where
  sampler : RuntimeSampler ν
  /-- One entry a reading: the counters, where it was a scheduled one and came through. -/
  readings : List (Option (CpuReading ν))
  notices : List (SampleNotice ν δ)

namespace SamplerWorld

variable (maxSafe : ν) (observed : Bool)

def create (first : CpuReading ν) : SamplerWorld ν δ := ⟨.create first, [some first], []⟩

/-- A reading, with what came of it. -/
def acquired (w : SamplerWorld ν δ) (scheduled : Bool) (p : Probe ν δ) :
    SamplerWorld ν δ × Option (EconomicsRuntimeSnapshot ν δ × Option (RuntimeCpuInterval ν)) :=
  let result := w.sampler.acquire maxSafe scheduled p
  ({ w with
      sampler := result.1
      readings := (if scheduled then p.reading maxSafe else none) :: w.readings }, result.2)

/-- `sampleAndLog`. -/
def sampleAndLog (w : SamplerWorld ν δ) (p : Probe ν δ) (observerFails logFails : Bool) :
    SamplerWorld ν δ :=
  let result := w.acquired maxSafe true p
  { result.1 with
    notices :=
      (sampleNotices observed observerFails logFails result.2).reverse ++ result.1.notices }

def step (w : SamplerWorld ν δ) : SamplerEvent ν δ → SamplerWorld ν δ
  | .start p observerFails logFails =>
      if w.sampler.timer then w
      else
        let sampled := w.sampleAndLog maxSafe observed p observerFails logFails
        { sampled with sampler := { sampled.sampler with timer := true } }
  | .tick p observerFails logFails =>
      if w.sampler.timer then w.sampleAndLog maxSafe observed p observerFails logFails else w
  | .stop => { w with sampler := { w.sampler with timer := false } }
  | .sample p => (w.acquired maxSafe false p).1

def after (first : CpuReading ν) (es : List (SamplerEvent ν δ)) : SamplerWorld ν δ :=
  Runs.run (step maxSafe observed) (create first) es

end SamplerWorld

/-! ## The intervals -/

/-- What the observer is handed with a notice. -/
def SampleNotice.cpu : SampleNotice ν δ → Option (Option (RuntimeCpuInterval ν))
  | .sampleCompleted _ cpu => some cpu
  | _ => none

/-- All that the observer was handed, an entry a call. -/
def handed (notices : List (SampleNotice ν δ)) : List (Option (RuntimeCpuInterval ν)) :=
  notices.filterMap SampleNotice.cpu

/-- The interval of each scheduled sample that came through: from the reading before, where
that is one too. -/
def due : List (Option (CpuReading ν)) → List (Option (RuntimeCpuInterval ν))
  | some current :: earlier :: rest =>
      earlier.bind (intervalBetween · current) :: due (earlier :: rest)
  | none :: earlier :: rest => due (earlier :: rest)
  | _ => []

/-- The intervals between one reading and the next, the latest first. -/
def consecutive : List (Option (CpuReading ν)) → List (Option (RuntimeCpuInterval ν))
  | later :: earlier :: rest =>
      (earlier.bind fun baseline => later.bind (intervalBetween baseline)) ::
        consecutive (earlier :: rest)
  | _ => []

theorem RuntimeSampler.isSome_snapshot (s : RuntimeSampler ν) (p : Probe ν δ) (sampledAt : ℤ)
    (current : CpuReading ν) : (s.snapshot p sampledAt current).isSome = p.measured := by
  rw [snapshot, Probe.measured]
  cases p.memoryUsage with
  | none => rfl
  | some memory =>
    cases p.fileSizes with
    | none => simp
    | some sizes =>
      simp only [Option.bind_some, Option.any_some, Option.isSome_some, Bool.and_true]
      split
      · rename_i hcounts
        rw [hcounts, Option.isSome_map, Bool.true_and]
      · rename_i hcounts
        rw [Bool.not_eq_true _ |>.mp hcounts]
        rfl

/-- **What a reading leaves and hands out**, wherever it fails: the baseline is that of a
scheduled sample that came through, and the interval is the one to it from the baseline before. -/
theorem RuntimeSampler.acquire_spec (maxSafe : ν) (s : RuntimeSampler ν) (scheduled : Bool)
    (p : Probe ν δ) :
    (s.acquire maxSafe scheduled p).1.pairedCpuBaseline =
        (if scheduled then p.reading maxSafe else none) ∧
      ((s.acquire maxSafe scheduled p).2.bind Prod.snd) =
        s.pairedCpuBaseline.bind fun baseline =>
          (if scheduled then p.reading maxSafe else none).bind (intervalBetween baseline) := by
  have hnothing (o : Option (CpuReading ν)) :
      o.bind (fun _ => (none : Option (RuntimeCpuInterval ν))) = none := by cases o <;> rfl
  rw [acquire, Probe.reading]
  cases p.now with
  | none => simp [hnothing]
  | some sampledAt =>
    cases p.monotonicNow.bind (finiteNumber maxSafe) with
    | none => simp [hnothing]
    | some monotonicMs =>
      cases p.cpuUsage.bind cpuTotals with
      | none => simp [hnothing]
      | some cpu =>
        have hmeasured := s.isSome_snapshot p sampledAt ⟨cpu, monotonicMs⟩
        cases hsnapshot : s.snapshot p sampledAt ⟨cpu, monotonicMs⟩ with
        | none =>
            rw [hsnapshot] at hmeasured
            simp [hsnapshot, ← hmeasured, hnothing]
        | some snapshot =>
            rw [hsnapshot] at hmeasured
            cases scheduled <;> simp [hsnapshot, ← hmeasured, hnothing]

/-- A reading that comes through comes out of `acquire`, and no other does. -/
theorem RuntimeSampler.isSome_acquire (maxSafe : ν) (s : RuntimeSampler ν) (p : Probe ν δ) :
    (s.acquire maxSafe true p).2.isSome = (p.reading maxSafe).isSome := by
  rw [acquire, Probe.reading]
  cases p.now with
  | none => simp
  | some sampledAt =>
    cases p.monotonicNow.bind (finiteNumber maxSafe) with
    | none => simp
    | some monotonicMs =>
      cases p.cpuUsage.bind cpuTotals with
      | none => simp
      | some cpu =>
        have hmeasured := s.isSome_snapshot p sampledAt ⟨cpu, monotonicMs⟩
        cases hsnapshot : s.snapshot p sampledAt ⟨cpu, monotonicMs⟩ with
        | none =>
            rw [hsnapshot] at hmeasured
            simp [hsnapshot, ← hmeasured]
        | some snapshot =>
            rw [hsnapshot] at hmeasured
            simp [hsnapshot, ← hmeasured]

/-- The history of a sampler: its baseline is the latest reading, and an observer has been
handed what is due. -/
structure SamplerWorld.Sound (observed : Bool) (first : CpuReading ν) (w : SamplerWorld ν δ) :
    Prop where
  baseline : ∃ rest, w.readings = w.sampler.pairedCpuBaseline :: rest
  oldest : ∃ later, w.readings = later ++ [some first]
  handed : handed w.notices = if observed then due w.readings else []

omit [JsArithmetic ν] in
/-- One call for a reading that came through, none for any other. -/
theorem handed_sampleNotices (observed observerFails logFails : Bool)
    (result : Option (EconomicsRuntimeSnapshot ν δ × Option (RuntimeCpuInterval ν))) :
    handed (sampleNotices observed observerFails logFails result).reverse =
      if observed then (result.map Prod.snd).toList else [] := by
  cases result with
  | none => cases observed <;> rfl
  | some result => cases observed <;> cases observerFails <;> cases logFails <;> rfl

namespace SamplerWorld.Sound

variable (maxSafe : ν) {observed : Bool} {first : CpuReading ν} {w : SamplerWorld ν δ}

theorem create (observed : Bool) (first : CpuReading ν) :
    (SamplerWorld.create first : SamplerWorld ν δ).Sound observed first where
  baseline := ⟨[], rfl⟩
  oldest := ⟨[], rfl⟩
  handed := by cases observed <;> rfl

/-- A sample on demand takes the baseline, and nothing is due for it. -/
theorem sample (h : w.Sound observed first) (p : Probe ν δ) :
    (w.acquired maxSafe false p).1.Sound observed first := by
  obtain ⟨rest, hreadings⟩ := h.baseline
  obtain ⟨later, hlater⟩ := h.oldest
  have hbaseline := (w.sampler.acquire_spec maxSafe false p).1
  refine ⟨⟨w.readings, congrArg (· :: w.readings) hbaseline.symm⟩,
    ⟨_ :: later, congrArg (_ :: ·) hlater⟩, ?_⟩
  have hdue : due (none :: w.readings) = due w.readings := by rw [hreadings, due]
  exact h.handed.trans (by rw [← hdue]; rfl)

/-- What `sampleAndLog` hands out is the interval of its own reading. -/
theorem sampleAndLog (h : w.Sound observed first) (p : Probe ν δ)
    (observerFails logFails : Bool) :
    (w.sampleAndLog maxSafe observed p observerFails logFails).Sound observed first := by
  obtain ⟨rest, hreadings⟩ := h.baseline
  obtain ⟨later, hlater⟩ := h.oldest
  obtain ⟨hbaseline, hinterval⟩ := w.sampler.acquire_spec maxSafe true p
  have hsome := w.sampler.isSome_acquire maxSafe p
  refine ⟨⟨w.readings, congrArg (· :: w.readings) hbaseline.symm⟩,
    ⟨_ :: later, congrArg (_ :: ·) hlater⟩, ?_⟩
  -- The new call, and the due interval of the new reading.
  have hnew : due (p.reading maxSafe :: w.readings) =
      ((w.sampler.acquire maxSafe true p).2.map Prod.snd).toList ++ due w.readings := by
    simp only [if_true] at hinterval
    cases hresult : (w.sampler.acquire maxSafe true p).2 with
    | none =>
        have hnone : p.reading maxSafe = none := by
          rw [hresult] at hsome
          simpa using hsome.symm
        rw [hnone, hreadings, due]
        rfl
    | some result =>
        obtain ⟨current, hcurrent⟩ : ∃ current, p.reading maxSafe = some current := by
          rw [hresult] at hsome
          exact Option.isSome_iff_exists.1 hsome.symm
        rw [hresult, hcurrent] at hinterval
        rw [hcurrent, hreadings, due]
        exact congrArg (· :: _) hinterval.symm
  have hhanded : RoundWatch.Metrics.handed
      (w.sampleAndLog maxSafe observed p observerFails logFails).notices =
      RoundWatch.Metrics.handed (sampleNotices observed observerFails logFails
        (w.sampler.acquire maxSafe true p).2).reverse ++ RoundWatch.Metrics.handed w.notices :=
    List.filterMap_append
  rw [hhanded, handed_sampleNotices, h.handed]
  change _ = if observed then due (p.reading maxSafe :: w.readings) else []
  rw [hnew]
  cases observed <;> rfl

/-- One case for each event. -/
theorem step (h : w.Sound observed first) (e : SamplerEvent ν δ) :
    (w.step maxSafe observed e).Sound observed first := by
  cases e with
  | start p observerFails logFails =>
      simp only [SamplerWorld.step]
      split
      · exact h
      · have hsampled := h.sampleAndLog maxSafe p observerFails logFails
        exact ⟨hsampled.baseline, hsampled.oldest, hsampled.handed⟩
  | tick p observerFails logFails =>
      simp only [SamplerWorld.step]
      split
      · exact h.sampleAndLog maxSafe p observerFails logFails
      · exact h
  | stop => exact ⟨h.baseline, h.oldest, h.handed⟩
  | sample p => exact h.sample maxSafe p

theorem after (observed : Bool) (first : CpuReading ν) (es : List (SamplerEvent ν δ)) :
    (SamplerWorld.after maxSafe observed first es).Sound observed first :=
  Runs.run_invariant' (fun _ e h => h.step maxSafe e) es (create observed first)

end SamplerWorld.Sound

/-! ## Nothing is counted twice -/

/-- What some intervals come to. -/
def total (count : RuntimeCpuInterval ν → ℤ) : List (Option (RuntimeCpuInterval ν)) → ℤ
  | [] => 0
  | none :: rest => total count rest
  | some i :: rest => count i + total count rest

/-- Readings whose counter never went back, the latest first. -/
def NeverBack (counter : CpuReading ν → ℤ) (readings : List (Option (CpuReading ν))) : Prop :=
  (readings.filterMap id).Pairwise fun later earlier => counter earlier ≤ counter later

/-- Intervals that do not overlap come to no more than what a counter went up by. -/
theorem total_consecutive_le {count : RuntimeCpuInterval ν → ℤ} {counter : CpuReading ν → ℤ}
    (hcount : ∀ baseline current i, intervalBetween baseline current = some i →
      count i = counter current - counter baseline) {low high : ℤ} (hle : low ≤ high)
    {readings : List (Option (CpuReading ν))} (hback : NeverBack counter readings)
    (hlow : ∀ r, some r ∈ readings → low ≤ counter r)
    (hhigh : ∀ r, some r ∈ readings → counter r ≤ high) :
    total count (consecutive readings) ≤ high - low := by
  induction readings generalizing high with
  | nil => simpa [total, consecutive] using hle
  | cons later rest ih =>
    cases rest with
    | nil => simpa [total, consecutive] using hle
    | cons earlier rest =>
      have hback' : NeverBack counter (earlier :: rest) := by
        cases later with
        | none => exact hback
        | some r => exact (List.pairwise_cons.1 hback).2
      have hlow' : ∀ r, some r ∈ earlier :: rest → low ≤ counter r :=
        fun r hr => hlow r (List.mem_cons_of_mem _ hr)
      have hhigh' : ∀ r, some r ∈ earlier :: rest → counter r ≤ high :=
        fun r hr => hhigh r (List.mem_cons_of_mem _ hr)
      rw [consecutive]
      cases hinterval : earlier.bind fun baseline => later.bind (intervalBetween baseline) with
      | none => exact ih hle hback' hlow' hhigh'
      | some i =>
        obtain ⟨baseline, rfl, hlater⟩ := Option.bind_eq_some_iff.1 hinterval
        obtain ⟨current, rfl, hi⟩ := Option.bind_eq_some_iff.1 hlater
        have hbelow : ∀ r, some r ∈ some baseline :: rest → counter r ≤ counter baseline := by
          intro r hr
          rcases List.mem_cons.1 hr with heq | hr
          · rw [Option.some.inj heq]
          · exact (List.pairwise_cons.1 hback').1 r (List.mem_filterMap.2 ⟨some r, hr, rfl⟩)
        -- What lies before the interval has been counted up to its baseline.
        have hbefore := ih (hlow' baseline (List.mem_cons_self ..)) hback' hlow' hbelow
        have hcurrent := hhigh current (List.mem_cons_self ..)
        have hstep := hcount baseline current i hi
        rw [total]
        linarith

/-- A reading that is none adds nothing. -/
theorem total_due (count : RuntimeCpuInterval ν → ℤ) (readings : List (Option (CpuReading ν))) :
    total count (due readings) = total count (consecutive readings) := by
  induction readings with
  | nil => rfl
  | cons later rest ih =>
    cases rest with
    | nil => cases later <;> rfl
    | cons earlier rest =>
      cases later with
      | none =>
          have hnone : (earlier.bind fun baseline =>
              (none : Option (CpuReading ν)).bind (intervalBetween baseline)) = none := by
            cases earlier <;> rfl
          rw [due, consecutive, hnone, total]
          exact ih
      | some current =>
          rw [due, consecutive]
          cases hinterval : earlier.bind (intervalBetween · current) with
          | none =>
              simp only [Option.bind_some, hinterval, total]
              exact ih
          | some i =>
              simp only [Option.bind_some, hinterval, total]
              rw [ih]

theorem intervalBetween_counts {baseline current : CpuReading ν} {i : RuntimeCpuInterval ν}
    (h : intervalBetween baseline current = some i) :
    i.userMicros = current.user - baseline.user ∧
      i.systemMicros = current.system - baseline.system := by
  rw [intervalBetween] at h
  split at h
  · cases h
    exact ⟨rfl, rfl⟩
  · cases h

/-- From the first reading to the latest. -/
theorem total_consecutive_le_of_ends {count : RuntimeCpuInterval ν → ℤ}
    {counter : CpuReading ν → ℤ}
    (hcount : ∀ baseline current i, intervalBetween baseline current = some i →
      count i = counter current - counter baseline) {first latest : CpuReading ν}
    {later : List (Option (CpuReading ν))}
    (hlatest : ((later ++ [some first]).filterMap id).head? = some latest)
    (hback : NeverBack counter (later ++ [some first])) :
    total count (consecutive (later ++ [some first])) ≤ counter latest - counter first := by
  have hsplit : (later ++ [some first]).filterMap id = later.filterMap id ++ [first] := by simp
  have hmem (r : CpuReading ν) (hr : some r ∈ later ++ [some first]) :
      r ∈ (later ++ [some first]).filterMap id := List.mem_filterMap.2 ⟨some r, hr, rfl⟩
  have hlow (r : CpuReading ν) (hr : some r ∈ later ++ [some first]) :
      counter first ≤ counter r := by
    have hr' := hmem r hr
    rw [NeverBack, hsplit] at hback
    rw [hsplit] at hr'
    rcases List.mem_append.1 hr' with hr' | hr'
    · exact (List.pairwise_append.1 hback).2.2 r hr' first (List.mem_singleton_self _)
    · rw [List.mem_singleton.1 hr']
  have hhigh (r : CpuReading ν) (hr : some r ∈ later ++ [some first]) :
      counter r ≤ counter latest := by
    obtain ⟨rest, hrest⟩ := List.head?_eq_some_iff.1 hlatest
    have hr' := hmem r hr
    rw [NeverBack, hrest] at hback
    rw [hrest] at hr'
    rcases List.mem_cons.1 hr' with rfl | hr'
    · exact le_refl _
    · exact (List.pairwise_cons.1 hback).1 r hr'
  exact total_consecutive_le hcount
    (hhigh first (List.mem_append_right _ (List.mem_singleton_self _))) hback hlow hhigh

/-- **The observer is handed proven intervals and no others**: whatever fails and whoever asks
for a sample in between, in every run an observer is called once for each scheduled sample that
came through, and handed the interval to it from the reading before where that is one too.
Where the counters of these samples never went back, what it was handed comes to no more than
what the counters went up by. -/
theorem cpu_intervals_exact (maxSafe : ν) (first : CpuReading ν) (es : List (SamplerEvent ν δ)) :
    let w := SamplerWorld.after maxSafe true first es
    handed w.notices = due w.readings ∧
      (∀ latest, (w.readings.filterMap id).head? = some latest →
        (NeverBack (fun r => r.user) w.readings →
          total (fun i => i.userMicros) (handed w.notices) ≤ latest.user - first.user) ∧
        (NeverBack (fun r => r.system) w.readings →
          total (fun i => i.systemMicros) (handed w.notices) ≤ latest.system - first.system)) ∧
      handed (SamplerWorld.after maxSafe false first es).notices = [] := by
  intro w
  have hsound : w.Sound true first := SamplerWorld.Sound.after maxSafe true first es
  have hhanded : handed w.notices = due w.readings := hsound.handed
  have hsilent := (SamplerWorld.Sound.after maxSafe false first es).handed
  refine ⟨hhanded, fun latest hlatest => ?_, hsilent⟩
  obtain ⟨later, hlater⟩ := hsound.oldest
  rw [hhanded, total_due, total_due]
  rw [hlater] at hlatest ⊢
  exact ⟨total_consecutive_le_of_ends (fun _ _ _ h => (intervalBetween_counts h).1) hlatest,
    total_consecutive_le_of_ends (fun _ _ _ h => (intervalBetween_counts h).2) hlatest⟩

end RoundWatch.Metrics
