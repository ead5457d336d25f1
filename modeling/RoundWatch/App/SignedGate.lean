import RoundWatch.Foundation.Runs
import RoundWatch.Store.Basic
import Mathlib.Algebra.Order.Field.Rat
import Mathlib.Tactic.Linarith
import Mathlib.Tactic.Ring

/-!
# The signed-request gate

`SignedPaymentGate`: a token bucket in front of the paid routes, and a bound on how many
requests are in flight.  The arithmetic is exact.

* `SignedPaymentGate` — the object; the variable `released` of each lease is part of it;
* `refill`, `tryAcquire`, `release` — its methods and the closure of a lease;
* `Sound` — tokens and grants are paid for by the time that went by;
* `signed_gate_bounds` — every run, whatever the clock reads.
-/

namespace RoundWatch

/-- `SignedPaymentGateOptions`, as the constructor asserts them. -/
structure SignedPaymentGateOptions where
  requestsPerSecond : ℚ
  burst : ℕ
  concurrency : ℕ
  requestsPerSecond_positive : 0 < requestsPerSecond
  burst_positive : positiveInteger burst
  concurrency_positive : positiveInteger concurrency

inductive SignedPaymentGateReason where
  | rate
  | concurrency
  deriving DecidableEq, Repr

/-- An allowed request holds the lease that was granted, by its number. -/
inductive SignedPaymentGateDecision where
  | allowed (lease : ℕ)
  | denied (reason : SignedPaymentGateReason)
  deriving DecidableEq, Repr

def SignedPaymentGateDecision.isAllowed : SignedPaymentGateDecision → Bool
  | .allowed _ => true
  | .denied _ => false

structure SignedPaymentGate where
  tokens : ℚ
  lastRefillMilliseconds : ℚ
  inFlight : ℕ
  /-- The variable `released` of each lease, in the order of the grants. -/
  released : List Bool

namespace SignedPaymentGate

/-- The constructor, with what the clock reads. -/
def create (options : SignedPaymentGateOptions) (now : ℚ) : SignedPaymentGate where
  tokens := options.burst
  lastRefillMilliseconds := now
  inFlight := 0
  released := []

variable (options : SignedPaymentGateOptions)

def refill (g : SignedPaymentGate) (now : ℚ) : SignedPaymentGate :=
  let elapsedMilliseconds := max 0 (now - g.lastRefillMilliseconds)
  let g := { g with lastRefillMilliseconds := max g.lastRefillMilliseconds now }
  if elapsedMilliseconds = 0 then g
  else
    { g with
      tokens := min options.burst
        (g.tokens + elapsedMilliseconds / 1000 * options.requestsPerSecond) }

def tryAcquire (g : SignedPaymentGate) (now : ℚ) :
    SignedPaymentGateDecision × SignedPaymentGate :=
  let g := g.refill options now
  if options.concurrency ≤ g.inFlight then (.denied .concurrency, g)
  else if g.tokens < 1 then (.denied .rate, g)
  else
    (.allowed g.released.length,
      { g with
        tokens := g.tokens - 1
        inFlight := g.inFlight + 1
        released := g.released ++ [false] })

/-- The `release` of a lease; there is none for a number that was not granted. -/
def release (g : SignedPaymentGate) (lease : ℕ) : SignedPaymentGate :=
  match g.released[lease]? with
  | some false => { g with released := g.released.set lease true, inFlight := g.inFlight - 1 }
  | _ => g

inductive Event where
  | tryAcquire (now : ℚ)
  | release (lease : ℕ)
  | snapshot (now : ℚ)

/-- What the clock read. -/
def Event.reading : Event → Option ℚ
  | .tryAcquire now => some now
  | .release _ => none
  | .snapshot now => some now

def step (g : SignedPaymentGate) : Event → SignedPaymentGate
  | .tryAcquire now => (g.tryAcquire options now).2
  | .release lease => g.release lease
  | .snapshot now => g.refill options now

/-- The gate after a list of calls. -/
def after (first : ℚ) (events : List Event) : SignedPaymentGate :=
  Runs.run (step options) (create options first) events

/-- A call that was granted. -/
def grants (g : SignedPaymentGate) : Event → Bool
  | .tryAcquire now => (g.tryAcquire options now).1.isAllowed
  | _ => false

/-- How many calls were granted. -/
def granted (g : SignedPaymentGate) : List Event → ℕ
  | [] => 0
  | event :: events =>
      (if g.grants options event then 1 else 0) + granted (g.step options event) events

/-- The largest reading of the clock. -/
def largest (first : ℚ) (events : List Event) : ℚ :=
  (events.filterMap Event.reading).foldl max first

variable {options} {g : SignedPaymentGate}

/-! ## What a call does -/

@[simp] theorem refill_inFlight (now : ℚ) : (g.refill options now).inFlight = g.inFlight := by
  rw [refill]
  dsimp only
  split <;> rfl

@[simp] theorem refill_released (now : ℚ) : (g.refill options now).released = g.released := by
  rw [refill]
  dsimp only
  split <;> rfl

@[simp] theorem refill_last (now : ℚ) :
    (g.refill options now).lastRefillMilliseconds = max g.lastRefillMilliseconds now := by
  rw [refill]
  dsimp only
  split <;> rfl

/-- A call is denied and only refills, or it takes one token for one lease. -/
theorem tryAcquire_cases (options : SignedPaymentGateOptions) (g : SignedPaymentGate) (now : ℚ) :
    (∃ reason, g.tryAcquire options now = (.denied reason, g.refill options now)) ∨
      (g.inFlight < options.concurrency ∧ 1 ≤ (g.refill options now).tokens ∧
        g.tryAcquire options now =
          (.allowed g.released.length,
            { g.refill options now with
              tokens := (g.refill options now).tokens - 1
              inFlight := g.inFlight + 1
              released := g.released ++ [false] })) := by
  rw [tryAcquire]
  dsimp only
  split
  · exact Or.inl ⟨_, rfl⟩
  · rename_i hroom
    split
    · exact Or.inl ⟨_, rfl⟩
    · rename_i htokens
      rw [refill_inFlight, not_le] at hroom
      exact Or.inr ⟨hroom, not_lt.mp htokens, by simp⟩

/-- A release gives a lease back that is still held, or does nothing. -/
theorem release_cases (g : SignedPaymentGate) (lease : ℕ) :
    (g.released[lease]? = some false ∧
        g.release lease =
          { g with released := g.released.set lease true, inFlight := g.inFlight - 1 }) ∨
      (g.released[lease]? ≠ some false ∧ g.release lease = g) := by
  rw [release]
  split
  · exact Or.inl ⟨by assumption, rfl⟩
  · exact Or.inr ⟨by assumption, rfl⟩

/-! ## The invariant -/

/-- Tokens and grants are paid for by the time that went by. -/
structure Sound (options : SignedPaymentGateOptions) (first : ℚ) (g : SignedPaymentGate) :
    Prop where
  tokens : 0 ≤ g.tokens
  time : first ≤ g.lastRefillMilliseconds
  paid : g.tokens + g.released.length ≤
    options.burst + options.requestsPerSecond * (g.lastRefillMilliseconds - first) / 1000
  held : g.inFlight = g.released.count false
  bounded : g.inFlight ≤ options.concurrency

theorem sound_create (options : SignedPaymentGateOptions) (first : ℚ) :
    Sound options first (create options first) where
  tokens := Nat.cast_nonneg _
  time := le_refl first
  paid := by simp [create]
  held := rfl
  bounded := Nat.zero_le _

theorem sound_refill {first : ℚ} (h : Sound options first g) (now : ℚ) :
    Sound options first (g.refill options now) := by
  have hrate := options.requestsPerSecond_positive
  have htokens : 0 ≤ (g.refill options now).tokens ∧
      (g.refill options now).tokens ≤ g.tokens + options.requestsPerSecond *
        (max g.lastRefillMilliseconds now - g.lastRefillMilliseconds) / 1000 := by
    have helapsed : max 0 (now - g.lastRefillMilliseconds) =
        max g.lastRefillMilliseconds now - g.lastRefillMilliseconds := by
      rcases le_total g.lastRefillMilliseconds now with hle | hle
      · rw [max_eq_right (sub_nonneg.mpr hle), max_eq_right hle]
      · rw [max_eq_left (sub_nonpos.mpr hle), max_eq_left hle, sub_self]
    have hpositive : 0 ≤ max 0 (now - g.lastRefillMilliseconds) := le_max_left ..
    have hearned : 0 ≤ max 0 (now - g.lastRefillMilliseconds) / 1000 *
        options.requestsPerSecond := mul_nonneg (div_nonneg hpositive (by norm_num)) hrate.le
    rw [← helapsed, refill]
    dsimp only
    split
    next hzero =>
      rw [hzero]
      exact ⟨h.tokens, by simp⟩
    next =>
      refine ⟨le_min (Nat.cast_nonneg _) (add_nonneg h.tokens hearned), ?_⟩
      refine (min_le_right _ _).trans (le_of_eq ?_)
      ring
  have hlast : g.lastRefillMilliseconds ≤ max g.lastRefillMilliseconds now := le_max_left ..
  exact
    { tokens := htokens.1
      time := by
        rw [refill_last]
        exact h.time.trans hlast
      paid := by
        rw [refill_released, refill_last]
        have hsplit : options.requestsPerSecond * (max g.lastRefillMilliseconds now - first) =
            options.requestsPerSecond * (g.lastRefillMilliseconds - first) +
              options.requestsPerSecond *
                (max g.lastRefillMilliseconds now - g.lastRefillMilliseconds) := by ring
        have hpaid := h.paid
        have hearned := htokens.2
        rw [hsplit]
        linarith
      held := by
        rw [refill_inFlight, refill_released]
        exact h.held
      bounded := by
        rw [refill_inFlight]
        exact h.bounded }

theorem sound_tryAcquire {first : ℚ} (h : Sound options first g) (now : ℚ) :
    Sound options first (g.tryAcquire options now).2 := by
  have hrefill := sound_refill h now
  rcases tryAcquire_cases options g now with ⟨reason, heq⟩ | ⟨hroom, htoken, heq⟩
  · rw [heq]
    exact hrefill
  · rw [heq]
    exact
      { tokens := sub_nonneg.mpr htoken
        time := hrefill.time
        paid := by
          have hpaid := hrefill.paid
          rw [refill_released] at hpaid
          simp only [List.length_append, List.length_singleton, Nat.cast_add, Nat.cast_one]
          linarith
        held := by simp [h.held]
        bounded := hroom }

theorem sound_release {first : ℚ} (h : Sound options first g) (lease : ℕ) :
    Sound options first (g.release lease) := by
  rcases g.release_cases lease with ⟨hheld, heq⟩ | ⟨-, heq⟩
  · obtain ⟨hlt, hget⟩ := List.getElem?_eq_some_iff.mp hheld
    have hcount : (g.released.set lease true).count false = g.released.count false - 1 := by
      rw [List.count_set hlt, hget]
      simp
    rw [heq]
    exact
      { h with
        paid := by
          rw [List.length_set]
          exact h.paid
        held := by rw [hcount, h.held]
        bounded := (Nat.sub_le ..).trans h.bounded }
  · rw [heq]
    exact h

/-- **The step lemma.** -/
theorem sound_step {first : ℚ} (g : SignedPaymentGate) (event : Event)
    (h : Sound options first g) : Sound options first (g.step options event) := by
  cases event with
  | tryAcquire now => exact sound_tryAcquire h now
  | release lease => exact sound_release h lease
  | snapshot now => exact sound_refill h now

/-- **The run lemma.** -/
theorem sound_after (options : SignedPaymentGateOptions) (first : ℚ) (events : List Event) :
    Sound options first (after options first events) :=
  Runs.run_invariant' (fun g event => sound_step g event) events (sound_create options first)

/-! ## Grants, readings and releases of a run -/

theorem length_released_step (options : SignedPaymentGateOptions) (g : SignedPaymentGate)
    (event : Event) : (g.step options event).released.length =
      g.released.length + if g.grants options event then 1 else 0 := by
  cases event with
  | tryAcquire now =>
      rcases tryAcquire_cases options g now with ⟨reason, heq⟩ | ⟨-, -, heq⟩ <;>
        simp [step, grants, heq, SignedPaymentGateDecision.isAllowed]
  | release lease =>
      rcases g.release_cases lease with ⟨-, heq⟩ | ⟨-, heq⟩ <;> simp [step, grants, heq]
  | snapshot now => simp [step, grants]

/-- There is one lease for each call that was granted. -/
theorem length_released_run (options : SignedPaymentGateOptions) (g : SignedPaymentGate)
    (events : List Event) : (Runs.run (step options) g events).released.length =
      g.released.length + granted options g events := by
  induction events generalizing g with
  | nil => rfl
  | cons event events ih =>
      rw [Runs.run_cons, ih, length_released_step, granted, add_assoc]

theorem last_step (options : SignedPaymentGateOptions) (g : SignedPaymentGate) (event : Event) :
    (g.step options event).lastRefillMilliseconds =
      event.reading.elim g.lastRefillMilliseconds (max g.lastRefillMilliseconds) := by
  cases event with
  | tryAcquire now =>
      rcases tryAcquire_cases options g now with ⟨reason, heq⟩ | ⟨-, -, heq⟩ <;>
        simp [step, heq, Event.reading]
  | release lease =>
      rcases g.release_cases lease with ⟨-, heq⟩ | ⟨-, heq⟩ <;> simp [step, heq, Event.reading]
  | snapshot now => simp [step, Event.reading]

/-- The refills are counted from the largest reading. -/
theorem last_run (options : SignedPaymentGateOptions) (g : SignedPaymentGate)
    (events : List Event) : (Runs.run (step options) g events).lastRefillMilliseconds =
      largest g.lastRefillMilliseconds events := by
  induction events generalizing g with
  | nil => rfl
  | cons event events ih =>
      rw [Runs.run_cons, ih, last_step, largest, largest, List.filterMap_cons]
      cases event.reading <;> rfl

theorem released_step (options : SignedPaymentGateOptions) (g : SignedPaymentGate)
    (event : Event) (lease : ℕ) : (g.step options event).released[lease]? = some true ↔
      g.released[lease]? = some true ∨ event = .release lease ∧ lease < g.released.length := by
  cases event with
  | tryAcquire now =>
      rcases tryAcquire_cases options g now with ⟨reason, heq⟩ | ⟨-, -, heq⟩
      · simp [step, heq]
      · have hnew : (g.released ++ [false])[lease]? = some true ↔
            g.released[lease]? = some true := by
          rw [List.getElem?_append]
          split
          · rfl
          · rename_i hge
            rw [List.getElem?_eq_none (l := g.released) (by omega)]
            rcases Nat.eq_zero_or_pos (lease - g.released.length) with hzero | hpos
            · simp [hzero]
            · simp [Nat.pos_iff_ne_zero.mp hpos]
        simp [step, heq, hnew]
  | release given =>
      rcases g.release_cases given with ⟨hheld, heq⟩ | ⟨hheld, heq⟩
      · rw [step, heq]
        dsimp only
        rw [List.getElem?_set]
        by_cases hsame : given = lease
        · subst hsame
          have hlt := (List.getElem?_eq_some_iff.mp hheld).1
          simp [hlt]
        · simp [hsame]
      · rw [step, heq]
        constructor
        · exact Or.inl
        · rintro (hreleased | ⟨hsame, hlt⟩)
          · exact hreleased
          · cases hsame
            rw [List.getElem?_eq_getElem hlt] at hheld ⊢
            cases hget : g.released[lease] with
            | false => exact absurd (congrArg some hget) hheld
            | true => rfl
  | snapshot now => simp [step]

/-- A lease is released once its release was called, and it had been granted. -/
theorem released_run (options : SignedPaymentGateOptions) (g : SignedPaymentGate)
    (events : List Event) (lease : ℕ) :
    (Runs.run (step options) g events).released[lease]? = some true ↔
      g.released[lease]? = some true ∨ ∃ before later,
        events = before ++ .release lease :: later ∧
          lease < (Runs.run (step options) g before).released.length := by
  induction events generalizing g with
  | nil => simp
  | cons event events ih =>
      rw [Runs.run_cons, ih, released_step, or_assoc]
      refine or_congr Iff.rfl ⟨?_, ?_⟩
      · rintro (⟨rfl, hlt⟩ | ⟨before, later, rfl, hlt⟩)
        · exact ⟨[], events, rfl, hlt⟩
        · exact ⟨event :: before, later, rfl, hlt⟩
      · rintro ⟨before, later, heq, hlt⟩
        cases before with
        | nil =>
            cases heq
            exact Or.inl ⟨rfl, hlt⟩
        | cons other before =>
            cases heq
            exact Or.inr ⟨before, later, rfl, hlt⟩

end SignedPaymentGate

open SignedPaymentGate in
/-- **The gate neither over-admits nor leaks.**  Whatever the clock reads and whenever a
lease is released, and however often, the requests in flight are the leases that were
granted and not released, and no more than the limit; the grants are within the burst and
what the time has earned; a call that is denied only refills, and with every lease
released nothing is in flight. -/
theorem signed_gate_bounds (options : SignedPaymentGateOptions) (first : ℚ)
    (events : List Event) :
    let g := after options first events
    (g.released.length = granted options (create options first) events ∧
        ∀ lease, g.released[lease]? = some true ↔ ∃ before later,
          events = before ++ .release lease :: later ∧
            lease < granted options (create options first) before) ∧
      g.inFlight = g.released.count false ∧ g.inFlight ≤ options.concurrency ∧
      (granted options (create options first) events : ℚ) ≤
        options.burst + options.requestsPerSecond * (largest first events - first) / 1000 ∧
      (∀ now reason, (g.tryAcquire options now).1 = .denied reason →
        (g.tryAcquire options now).2 = g.refill options now ∧
          (g.refill options now).inFlight = g.inFlight) ∧
      ((∀ lease < g.released.length, g.released[lease]? = some true) → g.inFlight = 0) := by
  intro g
  have hsound := sound_after options first events
  have hlength : ∀ calls, (after options first calls).released.length =
      granted options (create options first) calls := fun calls => by
    rw [after, length_released_run]
    exact Nat.zero_add _
  refine ⟨⟨hlength events, fun lease => ?_⟩, hsound.held, hsound.bounded, ?_,
    fun now reason hdenied => ?_, fun hall => ?_⟩
  · rw [show g = Runs.run (step options) (create options first) events from rfl, released_run]
    have hnone : (create options first).released[lease]? ≠ some true := nofun
    simp only [hnone, false_or]
    refine exists_congr fun before => exists_congr fun later => and_congr_right fun _ => ?_
    rw [← hlength before]
    rfl
  · have hpaid := hsound.paid
    have htokens := hsound.tokens
    have hlast : (after options first events).lastRefillMilliseconds = largest first events :=
      last_run options (create options first) events
    rw [hlength, hlast] at hpaid
    linarith
  · rcases tryAcquire_cases options g now with ⟨reason', heq⟩ | ⟨-, -, heq⟩
    · rw [heq]
      exact ⟨rfl, refill_inFlight now⟩
    · rw [heq] at hdenied
      cases hdenied
  · rw [hsound.held, List.count_eq_zero]
    intro hmem
    obtain ⟨lease, hlt, hget⟩ := List.mem_iff_getElem.mp hmem
    have htrue := hall lease hlt
    rw [List.getElem?_eq_getElem hlt, hget] at htrue
    cases htrue

end RoundWatch
