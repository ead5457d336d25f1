import RoundWatch.Workers.PollerTraffic

/-!
# What a failure does to a watch

Whatever the provider answers, and whoever shares the answer: no watch is ended for good
but one that expects the zero address as its sender, and every other failure leaves its watch
active.  It is put on record with a retry time, unless the store refuses the status.

* `WatchRow.spared` — the law of rows the first half carries along;
* `pollingRetryDelay_bounds` — a delay is between five seconds and an hour;
* `Deferred`, `Clock.Agrees` — the retry time of a failure, and what the store asks of the
  readings;
* `Clock.Steady` — a clock that keeps going, whose readings agree whatever the delay;
* `provider_errors_end_no_watch` — both halves, with the exact condition of the second.
-/

namespace RoundWatch

open JsText

/-! ## No watch is ended -/

/-- A watch that was ended for good expects the zero address. -/
def WatchRow.spared (r : WatchRow) : Prop :=
  r.terminalReason = some .indexerPermanentFailure → r.expectedSender.val = zeroAddress

theorem rowLaw_spared : RowLaw WatchRow.spared := by
  intro op r r' hchange hspared hfailure
  cases hchange with
  | recordFailure hid hactive =>
      rename_i now id failure
      intro hreason
      by_cases hpermanent : failure.disposition = .permanent
      · exact hfailure _ _ _ rfl hpermanent
      · refine hspared ?_
        simpa [WatchRow.recordFailure, hpermanent] using hreason
  | exhaust _ _ _ =>
      intro hreason
      simp [WatchRow.exhaust] at hreason
  | _ => exact hspared

/-- Only the poller calls `recordPollingFailure`. -/
def Event.LeavesFailures : Event → Prop
  | .call op => ∀ now id failure, op.1 ≠ .recordPollingFailure now id failure
  | _ => True

theorem Event.LeavesFailures.keeps {e : Event} (h : e.LeavesFailures) :
    e.Keeps WatchRow.spared := by
  cases e with
  | call op =>
      refine ⟨fun r r' hchange hspared => rowLaw_spared _ r r' hchange hspared ?_, ?_⟩
      · exact fun now id failure hop => absurd hop (h now id failure)
      · intro now id spec intent _ config expiresAt hreason
        cases hreason
  | _ => trivial

/-! ## The retry time -/

/-- A delay is at least five seconds and at most an hour. -/
theorem pollingRetryDelay_bounds (cfg : WorkerConfig) (id : JsString) (failureNumber : ℕ)
    (retryAfter : Option ℤ) :
    5000 ≤ pollingRetryDelayMilliseconds cfg id failureNumber retryAfter ∧
      pollingRetryDelayMilliseconds cfg id failureNumber retryAfter ≤ 3600000 := by
  have hafter : (retryAfter.elim 0 fun ms => min (max 0 ms) 3600000 : ℤ) ≤ 3600000 := by
    cases retryAfter with
    | none => exact (by decide : (0 : ℤ) ≤ 3600000)
    | some ms => exact min_le_right _ _
  unfold pollingRetryDelayMilliseconds
  dsimp only
  constructor
  · exact le_max_of_le_left (le_min (by decide) (le_max_left _ _))
  · exact max_le (le_trans (min_le_left _ _) (by decide)) hafter

/-- The delay after a failure of a watch. -/
def failureDelay (cfg : WorkerConfig) (watch : WatchRow) (e : TurnError) : ℤ :=
  pollingRetryDelayMilliseconds cfg watch.id.val (max 1 (watch.pollingFailureCount + 1))
    (classifyPollingFailure e).retryAfterMilliseconds

/-- The readings of the clock by the poller, for the retry time, and by the store, for the
failure, do not run away from each other. -/
structure Clock.Agrees (clock : Clock) (delay : ℤ) : Prop where
  retry : validDate clock.retry
  record : validDate clock.record
  date : validDate (clock.retry + delay)
  later : clock.record < clock.retry + delay
  hour : clock.retry + delay ≤ clock.record + 3600000

/-- A clock that keeps going: between the reading of the poller and that of the store it does
not go back, and moves on by less than five seconds. -/
structure Clock.Steady (clock : Clock) : Prop where
  retry : validDate clock.retry
  record : validDate clock.record
  /-- The last date is an hour away. -/
  date : validDate (clock.retry + 3600000)
  back : clock.retry ≤ clock.record
  jump : clock.record < clock.retry + 5000

theorem Clock.Steady.agrees {clock : Clock} (h : clock.Steady) (cfg : WorkerConfig)
    (watch : WatchRow) (e : TurnError) : clock.Agrees (failureDelay cfg watch e) := by
  obtain ⟨hretry, hrecord, hdate, hback, hjump⟩ := h
  obtain ⟨hlow, hhigh⟩ := pollingRetryDelay_bounds cfg watch.id.val
    (max 1 (watch.pollingFailureCount + 1)) (classifyPollingFailure e).retryAfterMilliseconds
  refine ⟨hretry, hrecord, ?_, ?_, ?_⟩
  · simp only [validDate, Bool.and_eq_true, decide_eq_true_eq] at hretry hdate ⊢
    unfold failureDelay
    omega
  · unfold failureDelay
    omega
  · unfold failureDelay
    omega

/-- The failure is on record, with a retry time strictly in its future and at most an hour
after it. -/
structure Deferred (r r' : WatchRow) (failedAt : ℤ) : Prop where
  counted : r'.pollingFailureCount = r.pollingFailureCount + 1
  lastFailure : r'.pollingLastFailureAt = some failedAt
  retry : ∃ retryAt, r'.pollingRetryAt = some retryAt ∧ failedAt < retryAt ∧
    retryAt ≤ failedAt + 3600000

/-! ## The failure on record -/

/-- Every code is one the store accepts. -/
theorem isFailureCode_classified (e : TurnError) :
    Store.isFailureCode (js (classifyPollingFailure e).code) = true := by
  cases e with
  | http status purpose code disposition retryAfter =>
      show Store.isFailureCode (js code.name) = true
      cases code <;> decide +kernel
  | timeout => decide +kernel
  | network => decide +kernel
  | protocol message =>
      show Store.isFailureCode (js "indexer_protocol_failure") = true
      decide +kernel
  | shutdown => decide +kernel

/-- A retry time the store can accept is read off a valid clock. -/
theorem validDate_laterDate {now delay : ℤ} :
    validDate (laterDate now delay) = true ↔
      validDate now = true ∧ validDate (now + delay) = true := by
  unfold laterDate
  split
  · rename_i hnow
    simp [hnow]
  · rename_i hnow
    have hinvalid : validDate invalidTime = false := by decide
    simp [hinvalid, hnow]

/-- What the store asks of a failure that does not end its watch. -/
def Store.acceptsFailure (now : ℤ) (status : Option ℤ) (retryAt : ℤ) : Bool :=
  isFailureStatus status && validDate now && (validDate retryAt && now < retryAt)

section RecordFailure

variable {s : Store} {now : ℤ} {id : JsString} {failure : PollingFailure} {retryAt : ℤ}
  (hcode : Store.isFailureCode failure.code = true) (hdisposition : failure.disposition ≠ .permanent)
  (hretry : failure.retryAt = some retryAt)

include hcode hdisposition hretry

/-- A failure the store accepts is put on record. -/
theorem Store.recordPollingFailure_accepted
    (haccepts : acceptsFailure now failure.status retryAt = true) :
    ∃ row, s.recordPollingFailure now id failure =
      (s.update (fun r => hasId id r && r.state == .active)
        (·.recordFailure failure now (some retryAt)) fun _ => rfl, .ok row) := by
  rw [acceptsFailure, Bool.and_eq_true, Bool.and_eq_true] at haccepts
  obtain ⟨⟨hstatus, hnow⟩, hdue⟩ := haccepts
  have htime : retryTime failure now = .ok (some retryAt) := by
    simp [retryTime, hdisposition, hretry, hdue]
  unfold recordPollingFailure
  simp only [hcode, hstatus, Bool.true_eq_false, if_false, currentTime, hnow, if_true, htime]
  exact ⟨_, rfl⟩

/-- A failure the store refuses leaves it as it was. -/
theorem Store.recordPollingFailure_refused
    (hrefuses : acceptsFailure now failure.status retryAt = false) :
    ∃ e, s.recordPollingFailure now id failure = (s, .error e) := by
  unfold recordPollingFailure
  simp only [hcode, Bool.true_eq_false, if_false]
  cases hstatus : isFailureStatus failure.status with
  | false => exact ⟨_, rfl⟩
  | true =>
      simp only [Bool.true_eq_false, if_false, currentTime]
      cases hnow : validDate now with
      | false => exact ⟨_, rfl⟩
      | true =>
          have hdue : (validDate retryAt && decide (now < retryAt)) = false := by
            simpa [acceptsFailure, hstatus, hnow] using hrefuses
          simp only [retryTime, hdisposition, if_false, hretry, if_true, hdue]
          exact ⟨_, rfl⟩

end RecordFailure

/-! ## The rest of the stretch -/

/-- An operation on another watch leaves a row as it is. -/
theorem Store.mem_apply_of_ne {s : Store} {op : StoreOp} {r : WatchRow} (hr : r ∈ s.rows)
    (hop : ∀ r', ¬RowChange op r r') : r ∈ (s.apply op).rows := by
  obtain ⟨r', hr', rfl | hchange⟩ := Store.exists_apply_of_mem hr op
  · exact hr'
  · exact absurd hchange (hop r')

variable {cfg : WorkerConfig} {σ : System} {i : ℕ} {sweep : Sweep}

theorem System.store_sendRequest (σ : System) (i : ℕ) (sweep : Sweep) (turn : PollTurn) :
    (σ.sendRequest i sweep turn).store = σ.store := by
  unfold sendRequest
  split <;> rfl

theorem System.store_requestPage (cfg : WorkerConfig) (σ : System) (i : ℕ) (sweep : Sweep)
    (turn : PollTurn) (ref : ℕ) : (σ.requestPage cfg i sweep turn ref).store = σ.store := by
  unfold requestPage withRequest
  split
  · rfl
  · dsimp only
    split
    · rfl
    · split
      · rfl
      · split
        · rfl
        · exact store_sendRequest _ _ _ _

theorem System.store_requestTip (σ : System) (i : ℕ) (sweep : Sweep) (turn : PollTurn) :
    (σ.requestTip i sweep turn).store = σ.store := by
  unfold requestTip withRequest
  split
  · rfl
  · dsimp only
    split
    · rfl
    · exact store_sendRequest _ _ _ _

section OtherWatch

variable {r : WatchRow} (hr : r ∈ σ.store.rows)

include hr

theorem System.mem_rows_scan {turn : PollTurn} (hne : turn.watch.row.id ≠ r.id) :
    r ∈ (σ.scan cfg i sweep turn).store.rows := by
  unfold scan
  split
  · rename_i closingRound _
    show r ∈ (σ.store.apply (.markExpired turn.watch.row.id.val turn.watch.scanAfterRound
      closingRound)).rows
    refine Store.mem_apply_of_ne hr fun r' hchange => ?_
    cases hchange with
    | expire hid _ _ _ _ _ => exact hne (hid.trans (bindText_val _)).symm
  · dsimp only
    split
    · rw [store_requestPage, store_retainSession]
      exact hr
    · rw [store_requestTip, store_retainSession]
      exact hr

theorem System.mem_rows_serviceWatch {watch : WatchRow} (hne : watch.id ≠ r.id) (clock : Clock) :
    r ∈ (σ.serviceWatch cfg i sweep watch clock).store.rows := by
  unfold serviceWatch
  split
  · exact hr
  · rename_i plan hplan
    split
    · exact hr
    · have hclaimed : r ∈ (σ.claimUnit .polling clock.claim watch.id (.polling plan.scanAfterRound
          watch.closingRound watch.pollingFailureCount)).store.rows := by
        rw [store_claimUnit]
        show r ∈ (σ.store.apply (.claimWorkUnit clock.claim watch.id.val _)).rows
        refine Store.mem_apply_of_ne hr fun r' hchange => ?_
        cases hchange with
        | charge hid _ _ => exact hne (hid.trans (bindText_val _)).symm
        | exhaust hid _ _ => exact hne (hid.trans (bindText_val _)).symm
      dsimp only
      split
      · exact hclaimed
      · exact hclaimed
      · show r ∈ (retainSession _ _ _).store.rows
        rw [store_retainSession]
        exact hclaimed
      · unfold serveClaimed withRequest
        dsimp only
        split
        · split
          · exact hclaimed
          · rw [store_sendRequest]
            exact hclaimed
        · refine mem_rows_scan hclaimed ?_
          rw [ScanWatch.of?_row hplan]
          exact hne

/-- The turn of the next watch leaves the rows of the others as they are. -/
theorem System.mem_rows_nextTurn (hne : ∀ w ∈ sweep.waiting, w.id ≠ r.id) (clock : Clock) :
    r ∈ (σ.nextTurn cfg i sweep clock).store.rows := by
  unfold nextTurn
  split
  · exact hr
  · rename_i watch rest hwaiting
    split
    · exact hr
    · exact mem_rows_serviceWatch hr (hne watch (hwaiting ▸ List.mem_cons_self ..)) clock

end OtherWatch

/-! ## The failing turn -/

/-- A failure that ends no watch is put on record, under the exact conditions of the store,
and leaves the row active. -/
theorem System.failTurn_row {watch r : WatchRow} {e : TurnError} (hr : r ∈ σ.store.rows)
    (hid : r.id = watch.id) (hactive : r.state = .active) (he : ¬e.terminal)
    (hpast : sweep.Past watch) (clock : Clock) :
    ∃ r' ∈ (σ.failTurn cfg i sweep watch e clock).store.rows, r'.id = r.id ∧ r'.state = .active ∧
      (Deferred r r' clock.record ↔
        Store.isFailureStatus (classifyPollingFailure e).status = true ∧
          clock.Agrees (failureDelay cfg watch e)) := by
  have hnext : ∀ r' : WatchRow, r'.id = r.id → ∀ w ∈ sweep.waiting, w.id ≠ r'.id := by
    intro r' hid' w hw heq
    exact hpast (List.mem_map.2 ⟨w, hw, heq.trans (hid'.trans hid)⟩)
  let failure := persistedFailure cfg clock watch (classifyPollingFailure e)
  have hcode : Store.isFailureCode failure.code = true := isFailureCode_classified e
  have hdisposition : failure.disposition ≠ .permanent := he
  have hretry : failure.retryAt = some (laterDate clock.retry (failureDelay cfg watch e)) := if_neg he
  unfold failTurn
  dsimp only
  cases haccepts : Store.acceptsFailure clock.record failure.status
      (laterDate clock.retry (failureDelay cfg watch e)) with
  | false =>
      have hrefused : ∃ error, σ.store.recordPollingFailure clock.record watch.id.val failure =
          (σ.store, .error error) :=
        Store.recordPollingFailure_refused hcode hdisposition hretry haccepts
      obtain ⟨error, hrefused⟩ := hrefused
      rw [hrefused]
      refine ⟨r, ?_, rfl, hactive, fun hdeferred => ?_, fun ⟨hstatus, hagrees⟩ => ?_⟩
      · show r ∈ (σ.store.recordPollingFailure clock.record watch.id.val failure).1.rows
        rw [hrefused]
        exact hr
      · have hcounted := hdeferred.counted
        omega
      · have hdate := validDate_laterDate.2 ⟨hagrees.retry, hagrees.date⟩
        have hlater : clock.record < laterDate clock.retry (failureDelay cfg watch e) := by
          rw [laterDate, if_pos hagrees.retry]
          exact hagrees.later
        have hstatus : Store.isFailureStatus failure.status = true := hstatus
        simp [Store.acceptsFailure, hstatus, hagrees.record, hdate, hlater] at haccepts
  | true =>
      have haccepted : ∃ row, σ.store.recordPollingFailure clock.record watch.id.val failure =
          (σ.store.update (fun r => hasId watch.id.val r && r.state == .active)
            (·.recordFailure failure clock.record
              (some (laterDate clock.retry (failureDelay cfg watch e)))) fun _ => rfl, .ok row) :=
        Store.recordPollingFailure_accepted hcode hdisposition hretry haccepts
      obtain ⟨row, haccepted⟩ := haccepted
      rw [haccepted]
      dsimp only
      rw [Store.acceptsFailure, Bool.and_eq_true, Bool.and_eq_true, Bool.and_eq_true,
        decide_eq_true_eq] at haccepts
      obtain ⟨⟨hstatus, hrecord⟩, hdate, hlater⟩ := haccepts
      obtain ⟨hvalid, hdate⟩ := validDate_laterDate.1 hdate
      have htime : laterDate clock.retry (failureDelay cfg watch e) =
          clock.retry + failureDelay cfg watch e := if_pos hvalid
      rw [htime] at hlater
      refine ⟨r.recordFailure failure clock.record
        (some (laterDate clock.retry (failureDelay cfg watch e))), ?_, rfl, ?_,
        fun hdeferred => ⟨hstatus, hvalid, hrecord, hdate, hlater, ?_⟩, fun ⟨_, hagrees⟩ =>
          ⟨rfl, rfl, _, rfl, ?_, ?_⟩⟩
      · refine mem_rows_nextTurn ?_ ?_ clock
        swap
        · exact hnext (r.recordFailure failure clock.record _) rfl
        show _ ∈ (σ.store.recordPollingFailure clock.record watch.id.val failure).1.rows
        rw [haccepted]
        refine Table.mem_updateWhere.2 (Or.inl ⟨r, hr, ?_, rfl⟩)
        simp [hasId, hid, hactive]
      · simp [WatchRow.recordFailure, hdisposition, hactive]
      · obtain ⟨retryAt, hretryAt, -, hhour⟩ := hdeferred.retry
        cases hretryAt
        rwa [htime] at hhour
      · rw [htime]
        exact hlater
      · rw [htime]
        exact hagrees.hour

/-- **A provider ends no watch with its errors.**  In every run, whatever the provider
answers and whoever shares the answer, a watch ended for good expects the zero address.  A
failing turn of any other active watch leaves it active, and under a steady clock it puts
the failure on record, with a retry time in its future and at most an hour after it,
exactly if the failure has no status the store refuses. -/
theorem provider_errors_end_no_watch (cfg : WorkerConfig) (config : StoreConfig) (es : List Event)
    (hes : ∀ e ∈ es, e.LeavesFailures) :
    let σ := System.run cfg (.boot (.empty config)) es
    (∀ r ∈ σ.store.rows, r.terminalReason = some .indexerPermanentFailure →
      r.expectedSender.val = zeroAddress) ∧
    ∀ i sweep watch e, σ.poller.sweeps i = some sweep → sweep.phase = .served watch (.error e) →
      e ≠ .shutdown → ∀ r ∈ σ.store.rows, r.id = watch.id → r.state = .active →
      r.expectedSender.val ≠ zeroAddress → ∀ answer clock,
        ∃ r' ∈ (σ.step cfg (.resumePoll i answer clock)).store.rows, r'.id = r.id ∧
          r'.state = .active ∧
          (clock.Steady → (Deferred r r' clock.record ↔
            Store.isFailureStatus (classifyPollingFailure e).status = true)) := by
  have htraffic := traffic_run cfg rowLaw_spared config fun e he => (hes e he).keeps
  refine ⟨htraffic.rows, ?_⟩
  intro i sweep watch e hsweep hphase hshutdown r hr hid hactive hsender answer clock
  obtain ⟨hknown, hspares, hpast⟩ := (htraffic.sweeps i sweep hsweep).served watch _ hphase
  have hsame := hknown.sameWatch_of_mem hr hid
  have he : ¬e.terminal := by
    intro hterminal
    apply hsender
    rw [hsame.expectedSender]
    exact hspares e rfl hterminal
  have hstep : (System.run cfg (.boot (.empty config)) es).step cfg (.resumePoll i answer clock) =
      (System.run cfg (.boot (.empty config)) es).failTurn cfg i sweep watch e clock := by
    simp only [System.step, System.resumePoll, hsweep, hphase]
    cases e with
    | shutdown => exact absurd rfl hshutdown
    | _ => rfl
  obtain ⟨r', hr', hid', hactive', hdeferred⟩ :=
    System.failTurn_row hr hid hactive he hpast clock
  rw [hstep]
  refine ⟨r', hr', hid', hactive', fun hsteady => hdeferred.trans ?_⟩
  exact and_iff_left (hsteady.agrees cfg watch e)

/-- The turn of a sweep that failed. -/
def System.failedTurn (σ : System) (i : ℕ) : Option (WatchRow × TurnError) :=
  match σ.poller.sweeps i with
  | some sweep =>
      match sweep.phase with
      | .served watch (.error e) => some (watch, e)
      | _ => none
  | none => none

theorem System.failedTurn_eq_some {σ : System} {i : ℕ} {watch : WatchRow} {e : TurnError}
    (h : σ.failedTurn i = some (watch, e)) :
    ∃ sweep, σ.poller.sweeps i = some sweep ∧ sweep.phase = .served watch (.error e) := by
  unfold failedTurn at h
  split at h
  · rename_i sweep hsweep
    split at h
    · rename_i watch' e' hphase
      cases h
      exact ⟨sweep, hsweep, hphase⟩
    · cases h
  · cases h

/-- The sample watch is scanned, and its page request is answered with a status. -/
def failingHistory (status : ℤ) : List Event :=
  activeOpening ++ [.poll (.at 1000), .resumePoll 0 (.body (tipBody 50)) (.at 1000),
    .resumePoll 0 (.status status false none) (.at 1000)]

theorem leavesFailures_failingHistory (status : ℤ) :
    ∀ e ∈ failingHistory status, e.LeavesFailures := by
  intro e he
  simp only [failingHistory, activeOpening, List.cons_append, List.nil_append, List.mem_cons,
    List.not_mem_nil, or_false] at he
  rcases he with rfl | rfl | rfl | rfl | rfl
  · intro now id failure hop
    cases hop
  · intro now id failure hop
    cases hop
  all_goals trivial

/-- A server error defers the sample watch. -/
theorem provider_errors_end_no_watch_unavailable :
    ∃ r r', r' ∈ ((System.run sampleWorker (.boot (.empty .default)) (failingHistory 503)).step
        sampleWorker (.resumePoll 0 .network (.at 1000))).store.rows ∧
      r'.id = r.id ∧ r'.state = .active ∧ Deferred r r' 1000 := by
  have hfailed : (((System.run sampleWorker (.boot (.empty .default)) (failingHistory 503)).failedTurn
      0).map Prod.snd) = some (.http 503 .scanPage .providerServerError .transient none) := by
    decide +kernel
  obtain ⟨⟨watch, e⟩, hturn, he⟩ := Option.map_eq_some_iff.1 hfailed
  cases he
  obtain ⟨sweep, hsweep, hphase⟩ := System.failedTurn_eq_some hturn
  have hrow : ((System.run sampleWorker (.boot (.empty .default)) (failingHistory 503)).failedTurn
      0).all (fun failed => (System.run sampleWorker (.boot (.empty .default))
        (failingHistory 503)).store.rows.any fun r => r.id == failed.1.id && r.state == .active &&
          r.expectedSender.val != zeroAddress) = true := by decide +kernel
  rw [hturn] at hrow
  obtain ⟨r, hr, hprops⟩ := List.any_eq_true.1 hrow
  simp only [Bool.and_eq_true, beq_iff_eq, bne_iff_ne] at hprops
  obtain ⟨⟨hid, hactive⟩, hsender⟩ := hprops
  obtain ⟨r', hr', hid', hactive', hdeferred⟩ :=
    (provider_errors_end_no_watch sampleWorker .default (failingHistory 503)
      (leavesFailures_failingHistory 503)).2 0 sweep watch _ hsweep hphase (by decide) r hr hid
      hactive hsender .network (.at 1000)
  have hsteady : (Clock.at 1000).Steady :=
    ⟨by decide, by decide, by decide, le_refl _, by decide⟩
  exact ⟨r, r', hr', hid', hactive', (hdeferred hsteady).2 (by decide)⟩

/-- A status no store accepts: the turn has failed, and the watch has no retry time. -/
theorem unlisted_status_leaves_no_retry :
    let σ := System.run sampleWorker (.boot (.empty .default)) (failingHistory 999)
    (σ.failedTurn 0).map Prod.snd = some (.http 999 .scanPage .providerHttpError .unknown none) ∧
      ((σ.step sampleWorker (.resumePoll 0 .network (.at 1000))).store.rows.map fun r =>
          (r.state, r.expectedSender.val == zeroAddress, r.pollingLastFailureAt, r.pollingRetryAt)) =
        [(.active, false, none, none)] := by
  decide +kernel

end RoundWatch
