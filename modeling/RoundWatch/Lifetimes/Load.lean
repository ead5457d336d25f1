import RoundWatch.Lifetimes.Dispatcher
import Mathlib.Tactic.Linarith
import Mathlib.Tactic.Positivity
import Mathlib.Tactic.FieldSimp

/-!
# What the dispatcher lets through

The invariant of `IndexerRequestDispatcher`, and the bound on load that follows.

* `Sound` — the bucket never pays more than it was credited, requests leave the queue in
  the order of their numbers, every request is at one place, and a queue that waits has
  somebody who will come back to it;
* `sound_stopScheduling`, `sound_pump`, `sound_loop`, … — one lemma for each method;
* `sound_step`, `sound_after` — every stretch, every run.
-/

namespace RoundWatch

namespace IndexerRequestDispatcher

variable {α ε : Type} {options : IndexerDispatcherOptions} {first : ℚ}
  {d : IndexerRequestDispatcher α ε}

/-- Somebody will look at a queue that waits: a timer, a request in flight when every
place is taken, or a `pump` that has not come to its end. -/
def Awake (options : IndexerDispatcherOptions) (d : IndexerRequestDispatcher α ε) : Prop :=
  d.queue ≠ [] → d.schedulingStopped = false →
    (∃ timer, d.timer = some timer ∧ timer.handle ∈ d.armed) ∨
      d.inFlight = options.concurrency ∨ d.pumps ≠ []

/-- What holds at every moment. -/
structure Sound (options : IndexerDispatcherOptions) (first : ℚ)
    (d : IndexerRequestDispatcher α ε) : Prop where
  tokens_nonneg : 0 ≤ d.tokens
  tokens_le : d.tokens ≤ options.burst
  /-- What was started and what is left were credited. -/
  credit : d.started.length + d.tokens ≤
    options.burst + options.requestsPerSecond * (d.lastRefill - first) / 1000
  refilled : d.lastRefill ≤ d.largest
  inFlight_eq : d.inFlight = d.owned.length
  inFlight_le : d.inFlight ≤ options.concurrency
  /-- The queue continues what was started. -/
  fifo : d.started.reverse ++ d.queue.map PendingRequest.request =
    List.range (d.started.length + d.queue.length)
  admitted_le : d.started.length + d.queue.length ≤ d.nextRequest
  admitted_open : d.schedulingStopped = false → d.started.length + d.queue.length = d.nextRequest
  fenced : d.schedulingStopped = true → d.queue = [] ∧ d.timer = none
  owned_nodup : d.owned.Nodup
  owned_started : ∀ request ∈ d.owned, request ∈ d.started
  completed_started : ∀ entry ∈ d.completed, entry.1 ∈ d.started
  completed_nodup : (d.completed.map Prod.fst).Nodup
  settled_nodup : (d.settled.map Prod.fst).Nodup
  interrupted_iff : ∀ request, (request, .interrupted) ∈ d.settled ↔
    d.schedulingStopped = true ∧ d.started.length ≤ request ∧ request < d.nextRequest
  result_iff : ∀ request completion, (request, .result completion) ∈ d.settled ↔
    (request, completion) ∈ d.completed ∧ d.observing ≠ some (request, completion)
  observed : ∀ entry, d.observing = some entry → entry ∈ d.completed
  /-- A request is let go after its promise has been settled. -/
  released : ∀ request ∈ d.started, request ∉ d.owned →
    ∃ completion, (request, .result completion) ∈ d.settled
  awake : Awake options d
  joins : Joins d.schedulingStopped d.drainPromise d.owned

theorem sound_create :
    Sound options first (create options first : IndexerRequestDispatcher α ε) where
  tokens_nonneg := Nat.cast_nonneg _
  tokens_le := le_refl _
  credit := by simp [create]
  refilled := le_refl _
  inFlight_eq := rfl
  inFlight_le := Int.natCast_nonneg _
  fifo := rfl
  admitted_le := le_refl _
  admitted_open _ := rfl
  fenced h := by cases h
  owned_nodup := List.nodup_nil
  owned_started _ h := by cases h
  completed_started _ h := by cases h
  completed_nodup := List.nodup_nil
  settled_nodup := List.nodup_nil
  interrupted_iff request := by simp [create]
  result_iff request completion := by simp [create]
  observed _ h := by cases h
  released _ h := by cases h
  awake h := absurd rfl h
  joins := Joins.initial

/-! ## Where a request is -/

/-- A settlement is an interruption or a result. -/
theorem settlement_cases {request : ℕ} (hmem : request ∈ d.settled.map Prod.fst) :
    (request, .interrupted) ∈ d.settled ∨
      ∃ completion, (request, .result completion) ∈ d.settled := by
  obtain ⟨⟨number, settlement⟩, hentry, rfl⟩ := List.mem_map.mp hmem
  cases settlement with
  | result completion => exact Or.inr ⟨completion, hentry⟩
  | interrupted => exact Or.inl hentry

namespace Sound

/-- Operations start in the order of the `dispatch` calls. -/
theorem started_eq (h : Sound options first d) :
    d.started.reverse = List.range d.started.length := by
  have hfifo := h.fifo
  rw [List.range_add] at hfifo
  exact (List.append_inj hfifo (by simp)).1

theorem queue_eq (h : Sound options first d) :
    d.queue.map PendingRequest.request =
      (List.range d.queue.length).map (d.started.length + ·) := by
  have hfifo := h.fifo
  rw [List.range_add] at hfifo
  exact (List.append_inj hfifo (by simp)).2

theorem mem_started_iff (h : Sound options first d) {request : ℕ} :
    request ∈ d.started ↔ request < d.started.length := by
  rw [← List.mem_reverse, h.started_eq, List.mem_range]

theorem mem_queue_iff (h : Sound options first d) {request : ℕ} :
    request ∈ d.queue.map PendingRequest.request ↔
      d.started.length ≤ request ∧ request < d.started.length + d.queue.length := by
  rw [h.queue_eq, List.mem_map]
  constructor
  · rintro ⟨i, hi, rfl⟩
    have hlt := List.mem_range.mp hi
    omega
  · rintro ⟨hle, hlt⟩
    exact ⟨request - d.started.length, List.mem_range.mpr (by omega), by omega⟩

theorem started_nodup (h : Sound options first d) : d.started.Nodup := by
  rw [← List.nodup_reverse, h.started_eq]
  exact List.nodup_range

theorem queue_nodup (h : Sound options first d) :
    (d.queue.map PendingRequest.request).Nodup := by
  rw [h.queue_eq]
  exact List.nodup_range.map fun _ _ heq => Nat.add_left_cancel heq

/-- An operation completes with one result. -/
theorem completed_unique (h : Sound options first d) {request : ℕ} {x y : Completion α ε}
    (hx : (request, x) ∈ d.completed) (hy : (request, y) ∈ d.completed) : x = y :=
  congrArg Prod.snd (List.inj_on_of_nodup_map h.completed_nodup hx hy rfl)

/-- A request that was started is not interrupted. -/
theorem not_interrupted (h : Sound options first d) {request : ℕ}
    (hstarted : request ∈ d.started) : (request, .interrupted) ∉ d.settled := by
  intro hmem
  have hlt := h.mem_started_iff.mp hstarted
  have hle := ((h.interrupted_iff request).mp hmem).2.1
  omega

/-- A request without a result that was started has no settlement. -/
theorem unsettled (h : Sound options first d) {request : ℕ} (hstarted : request ∈ d.started)
    (hresult : ∀ completion, (request, .result completion) ∉ d.settled) :
    request ∉ d.settled.map Prod.fst := by
  intro hmem
  rcases settlement_cases hmem with hinterrupted | ⟨completion, hentry⟩
  · exact h.not_interrupted hstarted hinterrupted
  · exact hresult completion hentry

/-- A running operation has given nothing. -/
theorem no_result_of_running (h : Sound options first d) {request : ℕ}
    (hrunning : request ∉ d.completed.map Prod.fst) (completion : Completion α ε) :
    (request, .result completion) ∉ d.settled := fun hmem =>
  hrunning (List.mem_map.mpr ⟨_, ((h.result_iff request completion).mp hmem).1, rfl⟩)

/-- A request that waits has no settlement. -/
theorem unsettled_of_queued (h : Sound options first d) {request : ℕ}
    (hqueued : request ∈ d.queue.map PendingRequest.request) :
    request ∉ d.settled.map Prod.fst := by
  intro hmem
  rcases settlement_cases hmem with hinterrupted | ⟨completion, hentry⟩
  · have hempty := (h.fenced ((h.interrupted_iff request).mp hinterrupted).1).1
    rw [hempty] at hqueued
    cases hqueued
  · have hlow := h.mem_started_iff.mp
      (h.completed_started _ ((h.result_iff request completion).mp hentry).1)
    have hhigh := (h.mem_queue_iff.mp hqueued).1
    omega

/-- Every request is queued, running, with its observer, or settled. -/
theorem unsettled_iff (h : Sound options first d) {request : ℕ} (hlt : request < d.nextRequest) :
    request ∉ d.settled.map Prod.fst ↔
      request ∈ d.queue.map PendingRequest.request ∨ d.running request ∨
        ∃ completion, d.observing = some (request, completion) := by
  constructor
  · intro hunsettled
    have hplace : request ∈ d.started ∨ request ∈ d.queue.map PendingRequest.request := by
      rw [h.mem_started_iff, h.mem_queue_iff]
      cases hstopped : d.schedulingStopped with
      | false =>
          have hopen := h.admitted_open hstopped
          omega
      | true =>
          by_contra hnone
          refine hunsettled (List.mem_map.mpr ⟨(request, .interrupted), ?_, rfl⟩)
          exact (h.interrupted_iff request).mpr ⟨hstopped, by omega, hlt⟩
    rcases hplace with hstarted | hqueued
    · have howned : request ∈ d.owned := by
        by_contra howned
        obtain ⟨completion, hmem⟩ := h.released request hstarted howned
        exact hunsettled (List.mem_map.mpr ⟨_, hmem, rfl⟩)
      by_cases hcompleted : request ∈ d.completed.map Prod.fst
      · obtain ⟨⟨number, completion⟩, hmem, rfl⟩ := List.mem_map.mp hcompleted
        refine Or.inr (Or.inr ⟨completion, ?_⟩)
        by_contra hobserving
        refine hunsettled (List.mem_map.mpr ⟨(number, .result completion), ?_, rfl⟩)
        exact (h.result_iff number completion).mpr ⟨hmem, hobserving⟩
      · exact Or.inr (Or.inl ⟨howned, hcompleted⟩)
    · exact Or.inl hqueued
  · rintro (hqueued | hrunning | ⟨completion, hobserving⟩) hmem
    · exact h.unsettled_of_queued hqueued hmem
    · exact h.unsettled (h.owned_started request hrunning.1)
        (h.no_result_of_running hrunning.2) hmem
    · have hcompleted := h.observed _ hobserving
      refine h.unsettled (h.completed_started _ hcompleted) (fun other hother => ?_) hmem
      obtain ⟨hmem', hne⟩ := (h.result_iff request other).mp hother
      rw [h.completed_unique hmem' hcompleted] at hne
      exact hne hobserving

end Sound

/-! ## The fence -/

theorem clearTimer_eq (d : IndexerRequestDispatcher α ε) :
    d.clearTimer = { d with timer := none, armed := d.clearTimer.armed } := by
  cases htimer : d.timer with
  | none =>
      rw [clearTimer, htimer]
      exact congrArg (fun timer => { d with timer := timer }) htimer
  | some timer => simp only [clearTimer, htimer]

/-- What the fence does to an open dispatcher. -/
theorem stopScheduling_eq (hopen : d.schedulingStopped = false) :
    d.stopScheduling =
      { d with
        schedulingStopped := true
        timer := none
        armed := (clearTimer { d with schedulingStopped := true }).armed
        queue := []
        settled := (d.queue.map fun pending => (pending.request, .interrupted)).reverse ++ d.settled
        drainPromise := d.drainPromise.resolveIf
          (d.inFlight = 0 ∧ ([] : List PendingRequest).length = 0 ∧
            (none : Option DispatchTimer).isNone) } := by
  rw [stopScheduling, if_neg (by simp [hopen]), clearTimer_eq]
  rfl

/-- The dispatcher is idle when it owns no request, behind the fence. -/
theorem Sound.idle_iff (h : Sound options first d) {queue : List PendingRequest}
    {timer : Option DispatchTimer} (hqueue : queue = []) (htimer : timer = none) :
    (d.inFlight = 0 ∧ queue.length = 0 ∧ timer.isNone) ↔ d.owned = [] := by
  rw [h.inFlight_eq, hqueue, htimer]
  simp

theorem sound_stopScheduling (h : Sound options first d) :
    Sound options first d.stopScheduling := by
  cases hstopped : d.schedulingStopped with
  | true =>
      rw [stopScheduling, if_pos hstopped]
      exact h
  | false =>
      have hnext := h.admitted_open hstopped
      rw [stopScheduling_eq hstopped]
      exact { h with
        fifo := by simpa using h.started_eq
        admitted_le := by simp only [List.length_nil]; omega
        admitted_open := fun hopen => by cases hopen
        fenced := fun _ => ⟨rfl, rfl⟩
        settled_nodup := by
          simp only [List.map_append, List.map_reverse, List.map_map]
          refine List.Nodup.append (List.nodup_reverse.mpr h.queue_nodup) h.settled_nodup ?_
          intro request hqueued hsettled
          exact h.unsettled_of_queued (List.mem_reverse.mp hqueued) hsettled
        interrupted_iff := fun request => by
          have hbefore : (request, .interrupted) ∉ d.settled := fun hmem => by
            rw [((h.interrupted_iff request).mp hmem).1] at hstopped
            cases hstopped
          have hqueued : request ∈ d.queue.map PendingRequest.request ↔ _ := h.mem_queue_iff
          rw [hnext, List.mem_map] at hqueued
          simpa [hbefore] using hqueued
        result_iff := fun request completion => by
          simpa using h.result_iff request completion
        released := fun request hstarted howned => by
          obtain ⟨completion, hmem⟩ := h.released request hstarted howned
          exact ⟨completion, List.mem_append_right _ hmem⟩
        awake := fun hqueue => absurd rfl hqueue
        joins := h.joins.close.release (h.idle_iff rfl rfl) id }

theorem stopScheduling_stopped (d : IndexerRequestDispatcher α ε) :
    d.stopScheduling.schedulingStopped = true := by
  cases hstopped : d.schedulingStopped with
  | true => rw [stopScheduling, if_pos hstopped, hstopped]
  | false => rw [stopScheduling_eq hstopped]

theorem drain_stopped (d : IndexerRequestDispatcher α ε) : d.drain.schedulingStopped = true := by
  rw [drain]
  split
  · exact d.stopScheduling_stopped
  · exact d.stopScheduling_stopped

theorem sound_drain (h : Sound options first d) : Sound options first d.drain := by
  have hfence := sound_stopScheduling h
  obtain ⟨hqueue, htimer⟩ := hfence.fenced d.stopScheduling_stopped
  rw [drain]
  split
  · refine { hfence with joins := ?_ }
    have hjoins := hfence.joins
    rw [d.stopScheduling_stopped] at hjoins
    simp only [finishDrainIfIdle, d.stopScheduling_stopped]
    exact hjoins.ask (hfence.idle_iff hqueue htimer)
  · exact hfence

/-! ## The clock -/

theorem sound_clockCall (h : Sound options first d) (call : Option ClockCall) :
    Sound options first (d.clockCall call) := by
  cases call with
  | none => exact h
  | some call =>
      cases call with
      | stopScheduling => exact sound_stopScheduling h
      | drain => exact sound_drain h

theorem sound_safeNow (h : Sound options first d) (reading : ClockReading) :
    Sound options first (d.safeNow reading) := by
  have hcall := sound_clockCall h reading.call
  exact { hcall with refilled := le_max_of_le_left hcall.refilled }

/-- A clock that leaves the dispatcher open has returned a number and no more. -/
theorem safeNow_eq {reading : ClockReading}
    (hopen : (d.safeNow reading).schedulingStopped = false) :
    d.safeNow reading =
      { d with largest := max d.largest (reading.value.getD d.largest) } := by
  obtain ⟨value, call⟩ := reading
  cases call with
  | none => rfl
  | some call =>
      cases call with
      | stopScheduling =>
          rw [safeNow, clockCall, d.stopScheduling_stopped] at hopen
          cases hopen
      | drain =>
          rw [safeNow, clockCall, d.drain_stopped] at hopen
          cases hopen

/-- The clock touches neither the bucket nor the call stack. -/
theorem clockCall_frame (d : IndexerRequestDispatcher α ε) (call : Option ClockCall) :
    (d.clockCall call).lastRefill = d.lastRefill ∧ (d.clockCall call).tokens = d.tokens ∧
      (d.clockCall call).pumps = d.pumps ∧ (d.clockCall call).largest = d.largest := by
  have hstop : d.stopScheduling.lastRefill = d.lastRefill ∧ d.stopScheduling.tokens = d.tokens ∧
      d.stopScheduling.pumps = d.pumps ∧ d.stopScheduling.largest = d.largest := by
    cases hstopped : d.schedulingStopped with
    | true =>
        rw [stopScheduling, if_pos hstopped]
        exact ⟨rfl, rfl, rfl, rfl⟩
    | false =>
        rw [stopScheduling_eq hstopped]
        exact ⟨rfl, rfl, rfl, rfl⟩
  cases call with
  | none => exact ⟨rfl, rfl, rfl, rfl⟩
  | some call =>
      cases call with
      | stopScheduling => exact hstop
      | drain =>
          simp only [clockCall, drain]
          split
          · exact hstop
          · exact hstop

/-- The bucket never holds more than what it is credited for the time that has passed. -/
theorem sound_refill (h : Sound options first d) (reading : ClockReading) :
    Sound options first (d.refill options reading) := by
  have hnow := sound_safeNow h reading
  have hframe := d.clockCall_frame reading.call
  rw [refill]
  split
  · exact hnow
  · rename_i hlater
    have hlast : (d.safeNow reading).lastRefill = d.lastRefill := hframe.1
    rw [hlast] at hlater ⊢
    have helapsed : 0 < d.now reading - d.lastRefill := by linarith
    have hrate := options.requestsPerSecond_pos
    have hcredit : 0 < (d.now reading - d.lastRefill) * options.requestsPerSecond / 1000 := by
      positivity
    -- A reading later than the last refill is a number the clock returned.
    have hvalue : d.now reading ≤ (d.safeNow reading).largest := by
      have hlargest : (d.safeNow reading).largest =
          max d.largest (reading.value.getD (d.clockCall reading.call).largest) := by
        rw [hframe.2.2.2.symm]
        rfl
      rw [hlargest]
      cases hread : reading.value with
      | none =>
          rw [now, hread] at hlater
          exact absurd (le_refl _) hlater
      | some value =>
          rw [now, hread]
          exact le_max_right _ _
    exact { hnow with
      tokens_nonneg := le_min (Nat.cast_nonneg _) (by linarith [hnow.tokens_nonneg])
      tokens_le := min_le_left _ _
      credit := by
        have hbefore := hnow.credit
        rw [hlast] at hbefore
        have hmin := min_le_right (options.burst : ℚ) ((d.safeNow reading).tokens +
          (d.now reading - d.lastRefill) * options.requestsPerSecond / 1000)
        have hsplit : options.requestsPerSecond * (d.now reading - first) / 1000 =
            options.requestsPerSecond * (d.lastRefill - first) / 1000 +
              (d.now reading - d.lastRefill) * options.requestsPerSecond / 1000 := by ring
        simp only
        linarith
      refilled := hvalue }

/-! ## The pump -/

/-- Inside a `pump` no timer is needed. -/
theorem sound_clearTimer (h : Sound options first d) (hpumps : d.pumps ≠ []) :
    Sound options first d.clearTimer := by
  rw [clearTimer_eq]
  exact { h with
    fenced := fun hstopped => ⟨(h.fenced hstopped).1, rfl⟩
    awake := fun _ _ => Or.inr (Or.inr hpumps) }

theorem sound_pump (hstopped : d.schedulingStopped = true → Sound options first d)
    (hopen : d.schedulingStopped = false →
      Sound options first { d with pumps := .looping :: d.pumps })
    (reading : ClockReading) : Sound options first (d.pump options reading) := by
  rw [pump]
  split
  · rename_i hfence
    exact hstopped hfence
  · rename_i hfence
    exact sound_refill (sound_clearTimer (hopen (by simpa using hfence)) (List.cons_ne_nil _ _))
      reading

/-- An activation of `pump` returns, and what waits has somebody else. -/
theorem sound_leavePump (h : Sound options first d)
    (hawake : d.queue ≠ [] → d.schedulingStopped = false →
      (∃ timer, d.timer = some timer ∧ timer.handle ∈ d.armed) ∨
        d.inFlight = options.concurrency) : Sound options first d.leavePump :=
  { h with
    awake := fun hqueue hopen => by
      rcases hawake hqueue hopen with htimer | hfull
      · exact Or.inl htimer
      · exact Or.inr (Or.inl hfull) }

theorem sound_armTimer (h : Sound options first d) :
    Sound options first (d.armTimer options) := by
  rw [armTimer]
  split
  · rename_i hcond
    exact { h with
      fenced := fun hstopped => by
        rw [hcond.1] at hstopped
        cases hstopped
      awake := fun _ _ => Or.inl ⟨_, rfl, List.mem_cons_self ..⟩ }
  · exact h

/-- After the end of `pump` a queue that waits has a timer, unless every place is taken. -/
theorem awake_armTimer (h : Sound options first d)
    (hqueue : (d.armTimer options).queue ≠ [])
    (hopen : (d.armTimer options).schedulingStopped = false) :
    (∃ timer, (d.armTimer options).timer = some timer ∧
        timer.handle ∈ (d.armTimer options).armed) ∨
      (d.armTimer options).inFlight = options.concurrency := by
  rw [armTimer] at hqueue hopen ⊢
  split
  · exact Or.inl ⟨_, rfl, List.mem_cons_self ..⟩
  · rename_i hcond
    rw [if_neg hcond] at hqueue hopen
    refine Or.inr (le_antisymm h.inFlight_le ?_)
    by_contra hroom
    exact hcond ⟨hopen, List.length_pos_of_ne_nil hqueue, by omega⟩

/-- A token pays for the first request of the queue. -/
theorem sound_startNext (h : Sound options first d) (hstart : d.mayStart options) :
    Sound options first d.startNext := by
  obtain ⟨hopen, hwaiting, hroom, htoken⟩ := hstart
  cases hqueue : d.queue with
  | nil =>
      rw [hqueue] at hwaiting
      cases hwaiting
  | cons pending rest =>
      have hplace : d.started.length ≤ pending.request ∧
          pending.request < d.started.length + d.queue.length :=
        h.mem_queue_iff.mp (by rw [hqueue]; exact List.mem_cons_self ..)
      have hfresh : pending.request ∉ d.started := fun hmem => by
        have hlow := h.mem_started_iff.mp hmem
        omega
      have hnext := h.admitted_open hopen
      have hlength : d.queue.length = rest.length + 1 := by rw [hqueue, List.length_cons]
      rw [startNext, hqueue]
      exact { h with
        tokens_nonneg := by simpa using htoken
        tokens_le := by
          have htokens := h.tokens_le
          simp only
          linarith
        credit := by
          have hcredit := h.credit
          simp only [List.length_cons]
          push_cast
          linarith
        inFlight_eq := by
          simp only [List.length_cons]
          have hcount := h.inFlight_eq
          omega
        inFlight_le := by
          simp only
          omega
        fifo := by
          have hfifo := h.fifo
          rw [hlength, hqueue] at hfifo
          simp only [List.reverse_cons, List.append_assoc, List.singleton_append,
            List.length_cons]
          rw [Nat.add_right_comm]
          exact hfifo
        admitted_le := by
          simp only [List.length_cons]
          omega
        admitted_open := fun _ => by
          simp only [List.length_cons]
          omega
        fenced := fun hstopped => by
          rw [hopen] at hstopped
          cases hstopped
        owned_nodup :=
          List.nodup_cons.mpr ⟨fun hmem => hfresh (h.owned_started _ hmem), h.owned_nodup⟩
        owned_started := fun request hmem => by
          rcases List.mem_cons.mp hmem with rfl | hmem
          · exact List.mem_cons_self ..
          · exact List.mem_cons_of_mem _ (h.owned_started request hmem)
        completed_started := fun entry hmem =>
          List.mem_cons_of_mem _ (h.completed_started entry hmem)
        interrupted_iff := fun request => by
          have hbefore := h.interrupted_iff request
          simp only [hopen, Bool.false_eq_true, false_and, iff_false] at hbefore ⊢
          exact hbefore
        released := fun request hmem howned => by
          rcases List.mem_cons.mp hmem with rfl | hmem
          · exact absurd (List.mem_cons_self ..) howned
          · exact h.released request hmem fun hold => howned (List.mem_cons_of_mem _ hold)
        awake := fun _ _ => Or.inr (Or.inr (List.cons_ne_nil _ _))
        joins := h.joins.acquire hopen }

theorem sound_loop (h : Sound options first d) (reading : ClockReading) :
    Sound options first (d.loop options reading) := by
  rw [loop]
  split
  · rename_i hstart
    have hnow := sound_safeNow h reading
    simp only
    split
    · rename_i hstopped
      refine sound_leavePump hnow fun _ hopen => ?_
      rw [hstopped] at hopen
      cases hopen
    · rename_i hopen
      refine sound_startNext hnow ?_
      rw [safeNow_eq (by simpa using hopen)]
      exact hstart
  · exact sound_leavePump (sound_armTimer h) (awake_armTimer h)

/-! ## The outside -/

theorem sound_refuse (h : Sound options first d) (hstopped : d.schedulingStopped = true) :
    Sound options first d.refuse :=
  { h with
    admitted_le := Nat.le_succ_of_le h.admitted_le
    admitted_open := fun hopen => by
      simp only [refuse, hstopped] at hopen
      cases hopen
    settled_nodup := by
      refine List.nodup_cons.mpr ⟨fun hmem => ?_, h.settled_nodup⟩
      rcases settlement_cases hmem with hinterrupted | ⟨completion, hentry⟩
      · exact lt_irrefl _ ((h.interrupted_iff _).mp hinterrupted).2.2
      · have hlow := h.mem_started_iff.mp
          (h.completed_started _ ((h.result_iff _ completion).mp hentry).1)
        have hle := h.admitted_le
        simp only at hlow
        omega
    interrupted_iff := fun request => by
      have hbefore := h.interrupted_iff request
      have hle := h.admitted_le
      simp only [refuse, List.mem_cons, Prod.mk.injEq, and_true, hbefore, hstopped, true_and]
      omega
    result_iff := fun request completion => by
      simpa [refuse] using h.result_iff request completion
    released := fun request hstarted howned => by
      obtain ⟨completion, hmem⟩ := h.released request hstarted howned
      exact ⟨completion, List.mem_cons_of_mem _ hmem⟩ }

/-- A request joins the queue in front of a `pump`. -/
theorem sound_enqueue (h : Sound options first d) (hopen : d.schedulingStopped = false)
    (purpose : IndexerRequestPurpose) :
    Sound options first { d.enqueue purpose with pumps := .looping :: d.pumps } := by
  have hnext := h.admitted_open hopen
  exact { h with
    fifo := by
      have hfifo := h.fifo
      simp only [enqueue, List.map_append, List.map_cons, List.map_nil, List.length_append,
        List.length_singleton, ← List.append_assoc, hfifo]
      rw [← Nat.add_assoc, List.range_succ, hnext]
    admitted_le := by
      simp only [enqueue, List.length_append, List.length_singleton]
      omega
    admitted_open := fun _ => by
      simp only [enqueue, List.length_append, List.length_singleton]
      omega
    fenced := fun hstopped => by
      simp only [enqueue, hopen] at hstopped
      cases hstopped
    interrupted_iff := fun request => by
      have hbefore := h.interrupted_iff request
      simp only [enqueue, hopen, Bool.false_eq_true, false_and, iff_false] at hbefore ⊢
      exact hbefore
    awake := fun _ _ => Or.inr (Or.inr (List.cons_ne_nil _ _)) }

theorem sound_dispatch (h : Sound options first d) (purpose : IndexerRequestPurpose)
    (enqueuing refilling : ClockReading) :
    Sound options first (d.dispatch options purpose enqueuing refilling) := by
  have hnow := sound_safeNow h enqueuing
  rw [dispatch]
  split
  · rename_i hstopped
    exact sound_refuse h hstopped
  · simp only
    split
    · rename_i hstopped
      exact sound_refuse hnow hstopped
    · rename_i hopen
      have hopen' : (d.safeNow enqueuing).schedulingStopped = false := by simpa using hopen
      exact sound_pump (d := (d.safeNow enqueuing).enqueue purpose)
        (fun hstopped => absurd hstopped hopen)
        (fun _ => sound_enqueue hnow hopen' purpose) refilling

theorem sound_count (h : Sound options first d) (completion : Completion α ε) :
    Sound options first (d.count completion) := by
  cases completion with
  | value value => exact { h with }
  | interrupted => exact h
  | timedOut error => exact { h with }
  | failed error => exact { h with }

theorem count_frame (d : IndexerRequestDispatcher α ε) (completion : Completion α ε) :
    (d.count completion).pumps = d.pumps ∧ (d.count completion).observing = d.observing ∧
      (d.count completion).owned = d.owned ∧ (d.count completion).completed = d.completed := by
  cases completion with
  | value value => exact ⟨rfl, rfl, rfl, rfl⟩
  | interrupted => exact ⟨rfl, rfl, rfl, rfl⟩
  | timedOut error => exact ⟨rfl, rfl, rfl, rfl⟩
  | failed error => exact ⟨rfl, rfl, rfl, rfl⟩

/-- The completion callback runs its observer before it settles the promise. -/
theorem sound_observe (h : Sound options first d) {request : ℕ} (hrunning : d.running request)
    (hnone : d.observing = none) (completion : Completion α ε) :
    Sound options first
      { d with
        completed := (request, completion) :: d.completed
        observing := some (request, completion) } :=
  { h with
    completed_started := fun entry hmem => by
      rcases List.mem_cons.mp hmem with rfl | hmem
      · exact h.owned_started request hrunning.1
      · exact h.completed_started entry hmem
    completed_nodup := List.nodup_cons.mpr ⟨hrunning.2, h.completed_nodup⟩
    result_iff := fun number other => by
      rw [h.result_iff number other, hnone]
      constructor
      · rintro ⟨hmem, -⟩
        refine ⟨List.mem_cons_of_mem _ hmem, fun heq => ?_⟩
        cases heq
        exact hrunning.2 (List.mem_map.mpr ⟨_, hmem, rfl⟩)
      · rintro ⟨hmem, hne⟩
        rcases List.mem_cons.mp hmem with heq | hmem
        · exact absurd (congrArg some heq.symm) hne
        · exact ⟨hmem, nofun⟩
    observed := fun entry hentry => by
      cases hentry
      exact List.mem_cons_self .. }

/-- The promise is settled with what its operation gave. -/
theorem sound_settle (h : Sound options first d) {request : ℕ} {completion : Completion α ε}
    (hobserving : d.observing = some (request, completion)) :
    Sound options first
      { d with
        observing := none
        settled := (request, .result completion) :: d.settled } := by
  have hcompleted := h.observed _ hobserving
  have hstarted := h.completed_started _ hcompleted
  have hlow := h.mem_started_iff.mp hstarted
  have hle := h.admitted_le
  exact { h with
    settled_nodup :=
      List.nodup_cons.mpr ⟨(h.unsettled_iff (by omega)).mpr (Or.inr (Or.inr ⟨_, hobserving⟩)),
        h.settled_nodup⟩
    interrupted_iff := fun number => by
      simpa using h.interrupted_iff number
    result_iff := fun number other => by
      have hbefore := h.result_iff number other
      rw [hobserving] at hbefore
      constructor
      · intro hmem
        rcases List.mem_cons.mp hmem with heq | hmem
        · cases heq
          exact ⟨hcompleted, nofun⟩
        · exact ⟨(hbefore.mp hmem).1, nofun⟩
      · rintro ⟨hmem, -⟩
        by_cases heq : (number, other) = (request, completion)
        · cases heq
          exact List.mem_cons_self ..
        · exact List.mem_cons_of_mem _
            (hbefore.mpr ⟨hmem, fun hsome => heq (Option.some.inj hsome).symm⟩)
    observed := fun entry hentry => by cases hentry
    released := fun number hmem howned => by
      obtain ⟨other, hother⟩ := h.released number hmem howned
      exact ⟨other, List.mem_cons_of_mem _ hother⟩ }

theorem sound_complete (h : Sound options first d) {request : ℕ} (hquiet : d.quiescent)
    (hrunning : d.running request) (completion : Completion α ε) (reading : ClockReading) :
    Sound options first (d.complete request completion reading) := by
  obtain ⟨hpumps, hobserving, howned, hcompleted⟩ := d.count_frame completion
  have hnone : (d.count completion).observing = none := by
    rw [hobserving]
    exact Option.isNone_iff_eq_none.mp hquiet.2
  have hrunning' : (d.count completion).running request := by
    rw [running, howned, hcompleted]
    exact hrunning
  have hobserve := sound_observe (sound_count h completion) hrunning' hnone completion
  cases completion with
  | value value => exact sound_safeNow hobserve reading
  | interrupted =>
      have hsettle := sound_settle hobserve rfl
      simp only [← hnone] at hsettle
      exact hsettle
  | timedOut error => exact sound_safeNow hobserve reading
  | failed error => exact sound_safeNow hobserve reading

theorem sound_leave (h : Sound options first d) : Sound options first d.leave := by
  rw [leave]
  split
  · exact { h with awake := fun _ _ => Or.inr (Or.inr (List.cons_ne_nil _ _)) }
  · rename_i hobserving
    exact sound_settle h hobserving
  · exact h

/-- A request whose promise is settled is let go. -/
theorem sound_finish (h : Sound options first d) {request : ℕ}
    (hfinishing : d.finishing request) (reading : ClockReading) :
    Sound options first (d.finish options request reading) := by
  obtain ⟨howned, hsettled⟩ := hfinishing
  have hstarted := h.owned_started request howned
  have hlength := List.length_erase_of_mem howned
  have hpos := List.length_pos_of_mem howned
  have hcount := h.inFlight_eq
  have hresult : ∃ completion, (request, .result completion) ∈ d.settled := by
    rcases settlement_cases hsettled with hinterrupted | hresult
    · exact absurd hinterrupted (h.not_interrupted hstarted)
    · exact hresult
  -- What the callback leaves, with its `pump` or the end of the drain still to come.
  have hlet : ∀ (pumps : List Pump) (promise : DrainPromise),
      (d.schedulingStopped = false → pumps ≠ []) →
      Joins d.schedulingStopped promise (d.owned.erase request) →
      Sound options first
        { d with
          inFlight := d.inFlight - 1
          owned := d.owned.erase request
          pumps := pumps
          drainPromise := promise } := fun pumps promise hpumps hjoins =>
    { h with
      inFlight_eq := by
        simp only
        omega
      inFlight_le := by
        have hle := h.inFlight_le
        simp only
        omega
      owned_nodup := h.owned_nodup.erase request
      owned_started := fun number hmem => h.owned_started number (List.mem_of_mem_erase hmem)
      released := fun number hmem hfree => by
        by_cases heq : number = request
        · rw [heq]
          exact hresult
        · exact h.released number hmem fun hold => hfree ((List.mem_erase_of_ne heq).mpr hold)
      awake := fun _ hopen => Or.inr (Or.inr (hpumps hopen))
      joins := hjoins }
  rw [finish]
  simp only
  split
  · rename_i hstopped
    obtain ⟨hqueue, htimer⟩ := h.fenced hstopped
    refine hlet d.pumps _ (fun hopen => ?_) (h.joins.release ?_ ?_)
    · rw [hopen] at hstopped
      cases hstopped
    · simp only [hqueue, htimer, hcount, ← List.length_eq_zero_iff, hlength, List.length_nil,
        Option.isNone_none, and_true]
      omega
    · intro hempty
      rw [hempty] at howned
      cases howned
  · rename_i hopen
    have hopen' : d.schedulingStopped = false := by simpa using hopen
    refine sound_pump
      (d := { d with inFlight := d.inFlight - 1, owned := d.owned.erase request })
      (fun hstopped => absurd hstopped hopen) (fun _ => ?_) reading
    exact hlet _ d.drainPromise (fun _ => List.cons_ne_nil _ _) (h.joins.acquire hopen')

/-! ## Runs -/

/-- Every stretch of code keeps the invariant. -/
theorem sound_step (h : Sound options first d) (event : Event α ε) :
    Sound options first (d.step options event) := by
  cases event with
  | dispatch purpose enqueuing refilling =>
      simp only [step]
      split
      · exact sound_dispatch h purpose enqueuing refilling
      · exact h
  | loop reading =>
      simp only [step]
      split
      · exact h
      · exact sound_loop h reading
  | leave => exact sound_leave h
  | stopScheduling =>
      simp only [step]
      split
      · exact sound_stopScheduling h
      · exact h
  | drain =>
      simp only [step]
      split
      · exact sound_drain h
      · exact h
  | fire handle reading =>
      simp only [step]
      split
      · rename_i hfire
        refine sound_pump (fun hstopped => ?_) (fun _ => ?_) reading
        · exact { h with awake := fun hqueue _ => absurd (h.fenced hstopped).1 hqueue }
        · exact { h with awake := fun _ _ => Or.inr (Or.inr (List.cons_ne_nil _ _)) }
      · exact h
  | complete request completion reading =>
      simp only [step]
      split
      · rename_i hcomplete
        exact sound_complete h hcomplete.1 hcomplete.2 completion reading
      · exact h
  | finish request reading =>
      simp only [step]
      split
      · rename_i hfinish
        exact sound_finish h hfinish.2 reading
      · exact h

/-- Every run from the constructor on keeps it. -/
theorem sound_after (options : IndexerDispatcherOptions) (first : ℚ)
    (events : List (Event α ε)) : Sound options first (after options first events) :=
  Runs.run_invariant' (I := Sound options first) (fun _ event h => sound_step h event) events
    sound_create

end IndexerRequestDispatcher

open IndexerRequestDispatcher

/-- **The dispatcher bounds the load and loses nothing.**  At every moment of every run
the places and the tokens keep their bounds; what was started was paid for; operations
start in the order of their `dispatch` calls, each once; a request is settled once, with
its operation's own result or, exactly when the fence came before its start, with
`ShutdownInterrupted`; and a queue that waits has a timer, or every place is taken, or a
`pump` is on its way to arming one. -/
theorem dispatcher_bounds_load {α ε : Type} (options : IndexerDispatcherOptions) (first : ℚ)
    (events : List (Event α ε)) :
    let d := after options first events
    (0 ≤ d.inFlight ∧ d.inFlight ≤ options.concurrency ∧
        0 ≤ d.tokens ∧ d.tokens ≤ options.burst) ∧
      (d.started.length : ℚ) ≤
        options.burst + options.requestsPerSecond * (d.largest - first) / 1000 ∧
      (d.started.Nodup ∧ d.started.reverse = List.range d.started.length ∧
        d.started.length ≤ d.nextRequest) ∧
      ((d.settled.map Prod.fst).Nodup ∧
        (∀ request < d.nextRequest, request ∉ d.settled.map Prod.fst ↔
          request ∈ d.queue.map PendingRequest.request ∨ d.running request ∨
            ∃ completion, d.observing = some (request, completion)) ∧
        (∀ request completion, (request, .result completion) ∈ d.settled →
          (request, completion) ∈ d.completed) ∧
        ∀ request, (request, .interrupted) ∈ d.settled ↔
          d.schedulingStopped = true ∧ request < d.nextRequest ∧ request ∉ d.started) ∧
      (d.queue ≠ [] → d.schedulingStopped = false →
        (∃ timer, d.timer = some timer ∧ timer.handle ∈ d.armed) ∨
          d.inFlight = options.concurrency ∨ d.pumps ≠ []) := by
  intro d
  have h : Sound options first d := sound_after options first events
  have hload : (d.started.length : ℚ) ≤
      options.burst + options.requestsPerSecond * (d.largest - first) / 1000 := by
    have htime : options.requestsPerSecond * (d.lastRefill - first) / 1000 ≤
        options.requestsPerSecond * (d.largest - first) / 1000 := by
      have hrate := options.requestsPerSecond_pos
      have hlast := h.refilled
      gcongr
    linarith [h.credit, h.tokens_nonneg]
  refine ⟨⟨?_, h.inFlight_le, h.tokens_nonneg, h.tokens_le⟩, hload,
    ⟨h.started_nodup, h.started_eq, ?_⟩,
    ⟨h.settled_nodup, fun request hlt => h.unsettled_iff hlt, ?_, fun request => ?_⟩, h.awake⟩
  · rw [h.inFlight_eq]
    exact Int.natCast_nonneg _
  · exact le_trans (Nat.le_add_right _ _) h.admitted_le
  · intro request completion hmem
    exact ((h.result_iff request completion).mp hmem).1
  · rw [h.interrupted_iff request, h.mem_started_iff, not_lt, and_comm (a := _ ≤ request)]

/-- A token is back when the timer of the second request fires.  While `pump` calls that
request's operation, the third one waits with no timer and a free place. -/
theorem queue_without_timer : ¬ ∀ (options : IndexerDispatcherOptions) (first : ℚ)
    (events : List (Event ℕ ℕ)),
    let d := after options first events
    d.queue ≠ [] → d.schedulingStopped = false →
      (∃ timer, d.timer = some timer ∧ timer.handle ∈ d.armed) ∨
        d.inFlight = options.concurrency := by
  intro hclaim
  let options : IndexerDispatcherOptions :=
    ⟨1000, 1, 3, by norm_num, by norm_num, by norm_num⟩
  let at0 : ClockReading := ⟨some 0, none⟩
  let at1 : ClockReading := ⟨some 1, none⟩
  have hrun := hclaim options 0
    [.dispatch .health at0 at0, .loop at0, .leave, .loop at0,
      .dispatch .health at0 at0, .loop at0, .dispatch .health at0 at0, .loop at0,
      .fire 1 at1, .loop at1] (by decide +kernel) (by decide +kernel)
  rcases hrun with ⟨timer, htimer, -⟩ | hfull
  · revert htimer
    rw [show (after _ _ _ : IndexerRequestDispatcher ℕ ℕ).timer = none by decide +kernel]
    exact nofun
  · revert hfull
    decide +kernel

end RoundWatch
