import RoundWatch.App.CreateAnswers

/-!
# What the create route reports

* `AcceptanceCall.Quiet` — the calls that say nothing of the watch of a request;
* `AcceptanceSession.Open`, `AcceptanceSession.Shut` — what a record says of its request
  before the response and from it on;
* `RouteRequest.Told` — every record says what was done for its request;
* `records_truthful` — in every run.
-/

namespace RoundWatch

open JsText

/-! ## Quiet calls -/

/-- The calls that say nothing of a watch: neither that it was prepared nor that it was
activated, and not that its purchase is complete. -/
def AcceptanceCall.Quiet : AcceptanceCall → Prop
  | .begin => False
  | .finish _ => False
  | .observe event _ => event ≠ "durable_prepared" ∧ event ≠ "activation_confirmed" ∧
      event ≠ "purchase_completed"
  | _ => True

/-- A listed outcome is about the event that was named. -/
theorem AcceptanceOutcome.label_of_ofLabels {event reason : String} {outcome : AcceptanceOutcome}
    (h : AcceptanceOutcome.ofLabels event reason = some outcome) : outcome.event.label = event := by
  unfold AcceptanceOutcome.ofLabels at h
  obtain ⟨e, he, h⟩ := Option.bind_eq_some_iff.1 h
  obtain ⟨reason, -, rfl⟩ := Option.map_eq_some_iff.1 h
  have hfound := List.find?_some (show AcceptanceEvent.all.find? _ = some e from he)
  exact beq_iff_eq.1 hfound

namespace AcceptanceContext

/-- The second record says no more of the watch than the first. -/
structure Hushed (c c' : AcceptanceContext) : Prop where
  closed : c'.closed = c.closed
  prepared : c'.snapshot.durablePrepared = c.snapshot.durablePrepared
  activated : c'.snapshot.activationConfirmed = c.snapshot.activationConfirmed
  incomplete : c.snapshot.outcome.event ≠ .purchaseCompleted →
    c'.snapshot.outcome.event ≠ .purchaseCompleted

variable {c c' c'' : AcceptanceContext}

theorem Hushed.refl : c.Hushed c := ⟨rfl, rfl, rfl, id⟩

theorem Hushed.trans (h : c.Hushed c') (h' : c'.Hushed c'') : c.Hushed c'' :=
  ⟨h'.closed.trans h.closed, h'.prepared.trans h.prepared, h'.activated.trans h.activated,
    h'.incomplete ∘ h.incomplete⟩

theorem hushed_observe {work : AcceptanceContext → AcceptanceContext} (h : c.Hushed (work c)) :
    c.Hushed (observe work c) := by
  unfold observe
  split
  · exact .refl
  · exact h

theorem hushed_record {outcome : AcceptanceOutcome} (hprepared : outcome.event ≠ .durablePrepared)
    (hactivated : outcome.event ≠ .activationConfirmed)
    (hcompleted : outcome.event ≠ .purchaseCompleted) : c.Hushed (c.record outcome) := by
  unfold record
  cases hevent : outcome.event with
  | durablePrepared => exact absurd hevent hprepared
  | activationConfirmed => exact absurd hevent hactivated
  | purchaseCompleted => exact absurd hevent hcompleted
  | _ => exact ⟨rfl, rfl, rfl, fun _ => by simp [confirm, hevent]⟩

theorem hushed_observeAcceptance {event : String} (reason : String)
    (h : event ≠ "durable_prepared" ∧ event ≠ "activation_confirmed" ∧
      event ≠ "purchase_completed") : c.Hushed (observeAcceptance event reason c) := by
  refine hushed_observe ?_
  cases houtcome : AcceptanceOutcome.ofLabels event reason with
  | none => exact .refl
  | some outcome =>
      have hlabel := AcceptanceOutcome.label_of_ofLabels houtcome
      refine hushed_record ?_ ?_ ?_ <;> intro heq <;> rw [heq] at hlabel
      · exact h.1 hlabel.symm
      · exact h.2.1 hlabel.symm
      · exact h.2.2 hlabel.symm

theorem hushed_answered (operation : FacilitatorOperation) (answer : ClientAnswer) :
    c.Hushed (answered operation answer c) := by
  unfold answered
  split
  · exact hushed_observe ⟨rfl, rfl, rfl, id⟩
  all_goals exact hushed_observeAcceptance _ (by decide)

theorem hushed_observeAcceptanceStage (label : String) :
    c.Hushed (observeAcceptanceStage label c) := by
  refine hushed_observe ?_
  cases AcceptanceStage.ofLabel label with
  | none => exact .refl
  | some stage => exact ⟨rfl, rfl, rfl, id⟩

theorem hushed_finishTiming (phase : TimingPhase) (started : Option ℚ) (now : ℚ) :
    c.Hushed (finishTiming phase started now c) := by
  refine hushed_observe ?_
  cases started with
  | none => exact .refl
  | some started => exact ⟨rfl, rfl, rfl, id⟩

theorem hushed_invoked (operation : FacilitatorOperation) : c.Hushed (invoked operation c) := by
  refine hushed_observe ?_
  cases operation <;> exact ⟨rfl, rfl, rfl, id⟩

theorem hushed_observeReadinessFailure (phase : ReadinessPhase) (exception : Bool)
    (checks : List (String × Bool)) : c.Hushed (observeReadinessFailure phase exception checks c) :=
  (hushed_observeAcceptance _ (by decide)).trans (hushed_observe ⟨rfl, rfl, rfl, id⟩)

/-- A record without a completed purchase gets no verdict of one. -/
theorem verdict_incomplete {presented : Bool} {status : ℕ} {s : AcceptanceSnapshot}
    (h : s.outcome.event ≠ .purchaseCompleted) :
    (verdict presented status s).outcome.event ≠ .purchaseCompleted := by
  unfold verdict
  split_ifs <;> first | exact h | simp [AcceptanceOutcome.unknown]

/-- The verdict on a purchase that was reported complete. -/
theorem verdict_completed {presented : Bool} {status : ℕ} {s : AcceptanceSnapshot}
    (hevent : s.outcome.event = .purchaseCompleted) (hstage : s.stage = .completion) :
    (verdict presented status s).outcome.event = .purchaseCompleted ↔
      200 ≤ status ∧ status < 300 ∧ s.settlementConfirmed = some true ∧
        s.activationConfirmed = some true := by
  constructor
  · exact fun h => by
      obtain ⟨hlow, hhigh, hsettled, hactivated⟩ :=
        (verdict_sound presented status s).completed h
      have hconfirms := AcceptanceSnapshot.Confirms.verdict (s := s) presented status
      unfold verdict at hsettled hactivated
      split_ifs at hsettled hactivated <;> exact ⟨hlow, hhigh, hsettled, hactivated⟩
  · rintro ⟨hlow, hhigh, hsettled, hactivated⟩
    have hearned : unearned status s = false := by
      simp [unearned, hsettled, hactivated, hlow, hhigh]
    simp [verdict, hsettled, hactivated, hstage, hevent, hearned]

@[simp] theorem verdict_flags (presented : Bool) (status : ℕ) (s : AcceptanceSnapshot) :
    (verdict presented status s).durablePrepared = s.durablePrepared ∧
      (verdict presented status s).activationConfirmed = s.activationConfirmed ∧
      (verdict presented status s).settlementConfirmed = s.settlementConfirmed := by
  unfold verdict
  split_ifs <;> exact ⟨rfl, rfl, rfl⟩

end AcceptanceContext

/-! ## Records and requests -/

namespace AcceptanceSession

open AcceptanceContext

variable {s : AcceptanceSession} {d : PaidDeeds}

/-- **A quiet call** leaves the record open and what it says as it is. -/
theorem step_quiet {call : AcceptanceCall} (h : call.Quiet) :
    s.context.Hushed (s.step call).context ∧ (s.step call).final = s.final := by
  have hfinish : ∀ status, call ≠ .finish status := by
    rintro status rfl
    exact h
  refine ⟨?_, (step_closed _ hfinish).2⟩
  cases call with
  | begin => exact h.elim
  | finish status => exact h.elim
  | observe event reason => exact hushed_observeAcceptance reason h
  | stage label => exact hushed_observeAcceptanceStage label
  | readinessFailure phase exception checks =>
      exact hushed_observeReadinessFailure phase exception checks
  | startTiming phase now => exact .refl
  | stopTiming timer now =>
      simp only [step]
      cases s.timers[timer]? with
      | none => exact .refl
      | some t => exact hushed_finishTiming t.1 t.2 now
  | invoke operation now =>
      simp only [step]
      split
      · exact .refl
      · exact hushed_invoked operation
  | answer call answer now =>
      simp only [step]
      cases s.calls[call]?.join with
      | none => exact .refl
      | some pending =>
          exact (hushed_answered pending.operation answer).trans (hushed_finishTiming _ _ _)

/-- A record whose request has no response yet. -/
structure Open (s : AcceptanceSession) (d : PaidDeeds) : Prop where
  closed : s.context.closed = false
  final : s.final = none
  prepared : s.context.snapshot.durablePrepared = some d.purchase.isSome
  activated : s.context.snapshot.activationConfirmed = some d.activated.isSome
  incomplete : s.context.snapshot.outcome.event ≠ .purchaseCompleted

/-- A record whose request was answered: it has its one verdict, with the status of the
response, and calls the purchase complete exactly when the response is a success, the
facilitator's client confirmed the settlement and the request's own hook activated the
watch. -/
structure Shut (s : AcceptanceSession) (d : PaidDeeds) (status : ℕ) : Prop where
  closed : s.context.closed = true
  final : s.final = some (status, s.context.snapshot)
  prepared : s.context.snapshot.durablePrepared = some d.purchase.isSome
  activated : s.context.snapshot.activationConfirmed = some d.activated.isSome
  completed : s.context.snapshot.outcome.event = .purchaseCompleted ↔
    200 ≤ status ∧ status < 300 ∧ s.context.snapshot.settlementConfirmed = some true ∧
      d.activated.isSome = true

theorem Open.step (h : s.Open d) {call : AcceptanceCall} (hcall : call.Quiet) :
    (s.step call).Open d := by
  obtain ⟨hushed, hfinal⟩ := step_quiet (s := s) hcall
  exact ⟨hushed.closed.trans h.closed, hfinal.trans h.final, hushed.prepared.trans h.prepared,
    hushed.activated.trans h.activated, hushed.incomplete h.incomplete⟩

theorem Open.run (h : s.Open d) {calls : List AcceptanceCall} (hcalls : ∀ call ∈ calls, call.Quiet) :
    (Runs.run AcceptanceSession.step s calls).Open d := by
  induction calls generalizing s with
  | nil => exact h
  | cons call calls ih =>
      exact ih (h.step (hcalls call (List.mem_cons_self ..)))
        fun c hc => hcalls c (List.mem_cons_of_mem _ hc)

/-- The verdict of an open record, whatever the record says of its purchase. -/
theorem shut_finish {status : ℕ} (hclosed : s.context.closed = false)
    (hprepared : s.context.snapshot.durablePrepared = some d.purchase.isSome)
    (hactivated : s.context.snapshot.activationConfirmed = some d.activated.isSome)
    (hcompleted : (verdict s.context.paymentPresented status s.context.snapshot).outcome.event =
        .purchaseCompleted ↔
      200 ≤ status ∧ status < 300 ∧ s.context.snapshot.settlementConfirmed = some true ∧
        s.context.snapshot.activationConfirmed = some true) :
    (s.step (.finish status)).Shut d status := by
  obtain ⟨hprepared', hactivated', hsettled'⟩ :=
    verdict_flags s.context.paymentPresented status s.context.snapshot
  have hstep : s.step (.finish status) =
      { s with
        context := finishAcceptance s.context status
        final := some (status, (finishAcceptance s.context status).snapshot) } := by
    simp [AcceptanceSession.step, hclosed]
  rw [hstep]
  refine ⟨rfl, rfl, hprepared'.trans hprepared, hactivated'.trans hactivated, ?_⟩
  refine hcompleted.trans ?_
  rw [hactivated, Option.some_inj, ← hsettled']
  rfl

/-- The response of a request whose purchase was not reported complete. -/
theorem Open.finish (h : s.Open d) {status : ℕ} (hstatus : 300 ≤ status) :
    (s.step (.finish status)).Shut d status := by
  refine shut_finish h.closed h.prepared h.activated ⟨?_, ?_⟩
  · intro hevent
    exact absurd hevent (verdict_incomplete h.incomplete)
  · rintro ⟨-, hlt, -⟩
    omega

/-- The response of a request whose purchase is reported complete. -/
theorem Open.complete (h : s.Open d) (status : ℕ) :
    (Runs.run AcceptanceSession.step s
      [.observe "purchase_completed" "completed", .finish status]).Shut d status := by
  obtain ⟨outcome, hlisted, hevent⟩ : ∃ outcome, AcceptanceOutcome.ofLabels
      "purchase_completed" "completed" = some outcome ∧ outcome.event = .purchaseCompleted :=
    ⟨⟨.purchaseCompleted, .completed, by decide⟩, by decide, rfl⟩
  have hrecorded : s.step (.observe "purchase_completed" "completed") =
      s.onContext (AcceptanceContext.record outcome) := by
    simp [AcceptanceSession.step, onContext, observeAcceptance, observe, h.closed, hlisted]
  have hsnapshot : (s.context.record outcome).snapshot =
      { s.context.snapshot with outcome := outcome, stage := .completion } := by
    simp [AcceptanceContext.record, hevent, confirm, AcceptanceEvent.stage,
      AcceptanceEvent.definition]
  show ((s.step (.observe "purchase_completed" "completed")).step (.finish status)).Shut d status
  rw [hrecorded]
  refine shut_finish h.closed ?_ ?_ ?_
  · show (s.context.record outcome).snapshot.durablePrepared = _
    rw [hsnapshot]
    exact h.prepared
  · show (s.context.record outcome).snapshot.activationConfirmed = _
    rw [hsnapshot]
    exact h.activated
  · refine verdict_completed ?_ ?_
    · show (s.context.record outcome).snapshot.outcome.event = _
      rw [hsnapshot]
      exact hevent
    · show (s.context.record outcome).snapshot.stage = _
      rw [hsnapshot]

/-- What a milestone of the watch adds to an open record. -/
theorem Open.milestone (h : s.Open d) {event reason : String} {outcome : AcceptanceOutcome}
    (hlisted : AcceptanceOutcome.ofLabels event reason = some outcome) {d' : PaidDeeds}
    (hprepared : (confirm outcome.event s.context.snapshot).durablePrepared =
      some d'.purchase.isSome)
    (hactivated : (confirm outcome.event s.context.snapshot).activationConfirmed =
      some d'.activated.isSome)
    (hevent : outcome.event ≠ .purchaseCompleted) :
    (s.step (.observe event reason)).Open d' := by
  have hrecorded : s.step (.observe event reason) =
      s.onContext (AcceptanceContext.record outcome) := by
    simp [AcceptanceSession.step, onContext, observeAcceptance, observe, h.closed, hlisted]
  rw [hrecorded]
  refine ⟨h.closed, h.final, ?_, ?_, ?_⟩
  · refine Eq.trans ?_ hprepared
    show (s.context.record outcome).snapshot.durablePrepared = _
    unfold AcceptanceContext.record
    cases outcome.event <;> rfl
  · refine Eq.trans ?_ hactivated
    show (s.context.record outcome).snapshot.activationConfirmed = _
    unfold AcceptanceContext.record
    cases outcome.event <;> rfl
  · show (s.context.record outcome).snapshot.outcome.event ≠ _
    simpa [AcceptanceContext.record] using hevent

/-- A record that has its verdict hears nothing more. -/
theorem Shut.run {status : ℕ} (h : s.Shut d status) (calls : List AcceptanceCall) :
    (Runs.run AcceptanceSession.step s calls).Shut d status := by
  obtain ⟨hcontext, hfinal⟩ := run_of_closed h.closed calls
  obtain ⟨hclosed, hverdict, hprepared, hactivated, hcompleted⟩ := h
  rw [← hcontext] at hclosed hverdict hprepared hactivated hcompleted
  exact ⟨hclosed, hfinal.trans hverdict, hprepared, hactivated, hcompleted⟩

theorem open_admitted (requestId : JsString) (presented : Bool) (hp : d.purchase = none)
    (ha : d.activated = none) : (admitted requestId presented).Open d := by
  have hlisted : AcceptanceOutcome.ofLabels "signed_request_received" "header_present" =
      some ⟨.signedRequestReceived, .headerPresent, by decide⟩ := by decide
  cases presented <;> refine ⟨?_, ?_, ?_, ?_, ?_⟩ <;>
    simp [admitted, opened, AcceptanceSession.step, onContext, beginAcceptance, observe,
      createAcceptanceContext, observeAcceptance, hlisted, AcceptanceContext.record, confirm,
      begun, unknownAcceptance, AcceptanceOutcome.unknown, hp, ha]

end AcceptanceSession

/-! ## Requests and their records -/

/-- No act turns one paid resource into the other. -/
theorem Advanced.resource {cfg : CreateConfig} {sv : PaidServer} {r : RouteRequest}
    {result : PaidServer × RouteRequest} (hact : Advanced cfg sv r result) :
    result.2.resource = r.resource := by
  cases hact with
  | verified now hphase hwatch =>
      unfold beginPreparation
      dsimp only
      repeat' split
      all_goals simp
  | prePrepare answer clock id now hphase =>
      unfold prepare
      dsimp only
      repeat' split
      all_goals simp
  | settled evidence now hphase =>
      unfold afterSettled
      dsimp only
      split <;> simp
  | lookedUp answer clock now hphase =>
      unfold activate
      dsimp only
      repeat' split
      all_goals simp
  | stay => rfl
  | settleFailed hphase => rfl
  | _ => simp

/-- A request without a response, whose record says what was done for it. -/
def RouteRequest.Listening (r : RouteRequest) : Prop := r.session.Open r.toPaidDeeds

/-- The record of a request says what was done for it. -/
structure RouteRequest.Told (r : RouteRequest) : Prop where
  unanswered : (∀ status, r.phase ≠ .answered status) → r.Listening
  answered : ∀ status, r.phase = .answered status → r.session.Shut r.toPaidDeeds status

section Requests

variable {cfg : CreateConfig} {sv : PaidServer} {r : RouteRequest}

namespace RouteRequest

theorem session_report (hwatch : r.resource = .watch) (calls : List AcceptanceCall) :
    (r.report calls).session = Runs.run AcceptanceSession.step r.session calls := by
  simp [report, hwatch]

theorem Listening.told (h : r.Listening) (hphase : ∀ status, r.phase ≠ .answered status) :
    r.Told :=
  ⟨fun _ => h, fun status hanswered => absurd hanswered (hphase status)⟩

theorem Listening.report (h : r.Listening) (hwatch : r.resource = .watch)
    {calls : List AcceptanceCall} (hcalls : ∀ call ∈ calls, call.Quiet) :
    (r.report calls).Listening := by
  show AcceptanceSession.Open _ _
  rw [session_report hwatch, report_toPaidDeeds]
  exact AcceptanceSession.Open.run h hcalls

theorem Listening.answer (h : r.Listening) (hwatch : r.resource = .watch) {status : ℕ}
    (hstatus : 300 ≤ status) : (r.answer status).Told := by
  refine ⟨fun hphase => absurd (answer_phase r status) (hphase status), ?_⟩
  intro status' hphase
  rw [answer_phase] at hphase
  cases hphase
  rw [answer_toPaidDeeds, RouteRequest.answer, session_report (by simpa using hwatch)]
  exact AcceptanceSession.Open.finish h hstatus

theorem Listening.complete (h : r.Listening) (hwatch : r.resource = .watch) (status : ℕ) :
    ((r.report [.observe "purchase_completed" "completed"]).answer status).Told := by
  refine ⟨fun hphase => absurd (answer_phase _ status) (hphase status), ?_⟩
  intro status' hphase
  rw [answer_phase] at hphase
  cases hphase
  rw [answer_toPaidDeeds, report_toPaidDeeds, RouteRequest.answer,
    session_report (by simpa using hwatch)]
  show AcceptanceSession.Shut (Runs.run _ (RouteRequest.report r _).session _) _ _
  rw [session_report hwatch]
  exact AcceptanceSession.Open.complete h status

theorem Listening.refuse (h : r.Listening) (hwatch : r.resource = .watch) {event : String}
    (reason : String) (hevent : (AcceptanceCall.observe event reason).Quiet) {status : ℕ}
    (hstatus : 300 ≤ status) : (r.refuse event reason status).Told :=
  (h.report hwatch (List.forall_mem_singleton.2 hevent)).answer (by simpa using hwatch) hstatus

end RouteRequest

open RouteRequest

theorem told_leave (h : r.Listening) (hwatch : r.resource = .watch) (lease : Option ℕ)
    (status : ℕ) (watchId : Option JsString) : (leave sv r lease status watchId).2.Told := by
  unfold leave
  dsimp only
  split_ifs with hthrough hactive
  · refine h.answer hwatch ?_
    rcases hthrough with hge | hdemo
    · omega
    · rw [hwatch] at hdemo
      cases hdemo
  · exact h.complete hwatch status
  · exact h.answer hwatch (by omega)

theorem told_admitPayment (h : r.Listening) (hwatch : r.resource = .watch) (now : ℚ)
    (spec : Option WatchSpec) : (admitPayment cfg sv r now spec).2.Told := by
  have hprotocol : ∀ lease, (r.enterProtocol lease spec).Told := by
    intro lease
    have hlistening : (r.enterProtocol lease spec).Listening :=
      Listening.report (show RouteRequest.Listening { r with phase := .protocol lease spec } from h)
        hwatch (by simp [AcceptanceCall.Quiet])
    exact hlistening.told (by simp)
  unfold admitPayment
  dsimp only
  split
  · exact hprotocol _
  · exact hprotocol _
  · split
    · exact h.refuse hwatch _ (by simp [AcceptanceCall.Quiet]) (by omega)
    split
    · exact h.refuse hwatch _ (by simp [AcceptanceCall.Quiet]) (by omega)
    split
    · exact hprotocol _
    · exact h.refuse hwatch _ (by simp [AcceptanceCall.Quiet]) (by omega)

theorem told_refuseBody (h : r.Listening) (hwatch : r.resource = .watch) (reason : String)
    (e : BodyError) : (r.refuse "body_validation_rejected" reason e.status).Told :=
  h.refuse hwatch _ (by simp [AcceptanceCall.Quiet]) (by cases e <;> simp [BodyError.status])

/-- What the handler reports of a watch it did not create. -/
theorem quiet_of_not_created {prepared : Except StoreError PreparedWatch}
    (h : ∀ watch, prepared ≠ .ok ⟨watch, true⟩) :
    (AcceptanceCall.observe (createReply prepared).report.1 (createReply prepared).report.2).Quiet := by
  cases prepared with
  | error e => cases e <;> simp [createReply, CreateReply.report, AcceptanceCall.Quiet]
  | ok prepared =>
      obtain ⟨watch, created⟩ := prepared
      cases created with
      | false => simp [createReply, CreateReply.report, AcceptanceCall.Quiet]
      | true => exact absurd rfl (h watch)

theorem told_prepare (h : r.Listening) (hwatch : r.resource = .watch) {lease : Option ℕ}
    {spec : WatchSpec} {intent : Option SettlementIntent} {answer : ReadinessAnswer} {clock : ℤ}
    {id : JsString} {now : ℚ} : (prepare sv r lease spec intent answer clock id now).2.Told := by
  unfold prepare
  dsimp only
  split
  · exact told_leave (h.report hwatch (by simp [AcceptanceCall.Quiet])) (by simpa using hwatch) _ _ _
  · exact told_leave (h.report hwatch (by simp [AcceptanceCall.Quiet])) (by simpa using hwatch) _ _ _
  · have hready : (r.report [.stopTiming 1 now, .stage "preparation"]).Listening :=
      h.report hwatch (by simp [AcceptanceCall.Quiet])
    split
    · rename_i watch hprepared
      refine Listening.told ?_ (by simp)
      show AcceptanceSession.Open _ _
      rw [show createReply (sv.store.prepareWatch clock id spec intent).2 = .created watch.id
        watch.workUnitBudget watch.expiresAt by rw [hprepared]; rfl]
      rw [session_report (by simpa using hwatch)]
      have hlisted : AcceptanceOutcome.ofLabels "durable_prepared" "prepared" =
          some ⟨.durablePrepared, .prepared, by decide⟩ := by decide
      refine AcceptanceSession.Open.milestone hready hlisted rfl ?_ (by simp)
      refine hready.activated.trans ?_
      simp
    · rename_i hnot
      refine told_leave (hready.report (by simpa using hwatch) (List.forall_mem_singleton.2 ?_))
        (by simpa using hwatch) _ _ _
      exact quiet_of_not_created hnot

theorem told_activate (h : r.Listening) (hwatch : r.resource = .watch) {lease : Option ℕ}
    {watchId : JsString} {evidence : SettlementEvidence} {answer : LookupAnswer} {clock : ℤ}
    {now : ℚ} : (activate sv r lease watchId evidence answer clock now).2.Told := by
  have hreturning : ∀ event reason, (AcceptanceCall.observe event reason).Quiet →
      ({ r with phase := .returning lease watchId false }.report
        [.observe event reason, .stopTiming 2 now]).Told := by
    intro event reason hquiet
    refine Listening.told (Listening.report ?_ (by simpa using hwatch) ?_) (by simp)
    · exact h
    · simpa [AcceptanceCall.Quiet] using hquiet
  unfold activate
  dsimp only
  split
  · exact hreturning _ _ (by simp [AcceptanceCall.Quiet])
  · exact hreturning _ _ (by simp [AcceptanceCall.Quiet])
  · split
    · exact hreturning _ _ (by simp [AcceptanceCall.Quiet])
    · split
      · exact hreturning _ _ (by simp [AcceptanceCall.Quiet])
      · split
        · exact hreturning _ _ (by simp [AcceptanceCall.Quiet])
        · refine Listening.told ?_ (by simp)
          show AcceptanceSession.Open _ _
          rw [session_report (by simpa using hwatch), report_toPaidDeeds]
          have hlisted : AcceptanceOutcome.ofLabels "activation_confirmed" "activated" =
              some ⟨.activationConfirmed, .activated, by decide⟩ := by decide
          refine AcceptanceSession.Open.step ?_ (show (AcceptanceCall.stopTiming 2 now).Quiet from trivial)
          exact AcceptanceSession.Open.milestone h hlisted h.prepared rfl (by simp)

/-- **The step lemma for records.** -/
theorem Advanced.told {result : PaidServer × RouteRequest} (hact : Advanced cfg sv r result)
    (hwatch : r.resource = .watch) (h : r.Told) : result.2.Told := by
  cases hact with
  | stay => exact h
  | preChallenge answer now hphase =>
      have hopen : r.Listening := h.unanswered (by simp [hphase])
      unfold RoundWatch.preChallenge
      dsimp only
      split
      · exact (hopen.report hwatch (by simp [AcceptanceCall.Quiet])).answer (by simpa using hwatch)
          (by omega)
      · exact (hopen.report hwatch (by simp [AcceptanceCall.Quiet])).answer (by simpa using hwatch)
          (by omega)
      · have hready : (r.report [.stopTiming 0 now]).Listening :=
          hopen.report hwatch (by simp [AcceptanceCall.Quiet])
        split
        · exact told_admitPayment hready (by simpa using hwatch) now none
        · unfold admitBody
          dsimp only
          split
          · refine Listening.told (Listening.report ?_ (by simpa using hwatch)
              (by simp [AcceptanceCall.Quiet])) (by simp)
            exact hready
          · exact hready.refuse (by simpa using hwatch) _ (by simp [AcceptanceCall.Quiet]) (by omega)
  | demo now hphase hdemo =>
      rw [hwatch] at hdemo
      cases hdemo
  | readBody outcome now hphase =>
      have hopen : r.Listening := h.unanswered (by simp [hphase])
      unfold RoundWatch.readBody
      dsimp only
      split
      · exact told_refuseBody hopen hwatch _ _
      · split
        · exact hopen.refuse hwatch _ (by simp [AcceptanceCall.Quiet]) (by omega)
        · exact told_admitPayment hopen hwatch now _
  | protocolAnswered status offer hphase =>
      have hopen : r.Listening := h.unanswered (by simp [hphase])
      refine told_leave ?_ (by simpa using hwatch) _ _ _
      unfold challenged
      split
      · exact hopen.report hwatch (by simp [AcceptanceCall.Quiet])
      · exact hopen
  | verified now hphase =>
      have hopen : RouteRequest.Listening { r with verified := true } :=
        let h := h.unanswered (by simp [hphase])
        ⟨h.closed, h.final, h.prepared, h.activated, h.incomplete⟩
      unfold beginPreparation
      dsimp only
      split
      · exact told_leave (hopen.report hwatch (by simp [AcceptanceCall.Quiet]))
          (by simpa using hwatch) _ _ _
      · have hstage : (RouteRequest.report { r with verified := true }
            [.stage "preparation"]).Listening :=
          hopen.report hwatch (by simp [AcceptanceCall.Quiet])
        split
        · exact told_leave (hstage.report (by simpa using hwatch) (by simp [AcceptanceCall.Quiet]))
            (by simpa using hwatch) _ _ _
        · refine Listening.told (Listening.report ?_ (by simpa using hwatch)
            (by simp [AcceptanceCall.Quiet])) (by simp)
          exact hstage
  | prePrepare answer clock id now hphase =>
      exact told_prepare (h.unanswered (by simp [hphase])) hwatch
  | settled evidence now hphase =>
      have hopen : RouteRequest.Listening { r with settled := some evidence } :=
        let h := h.unanswered (by simp [hphase])
        ⟨h.closed, h.final, h.prepared, h.activated, h.incomplete⟩
      unfold afterSettled
      dsimp only
      split
      · refine Listening.told (Listening.report ?_ (by simpa using hwatch)
          (by simp [AcceptanceCall.Quiet])) (by simp)
        exact hopen
      · refine Listening.told (Listening.report ?_ (by simpa using hwatch)
          (by simp [AcceptanceCall.Quiet])) (by simp)
        exact hopen
  | settleFailed hphase =>
      have hopen : r.Listening := h.unanswered (by rcases hphase with hphase | hphase <;> simp [hphase])
      exact Listening.told hopen (by simp [RoundWatch.settleFailed])
  | lookedUp answer clock now hphase =>
      exact told_activate (h.unanswered (by simp [hphase])) hwatch
  | returned status hphase =>
      exact told_leave (h.unanswered (by simp [hphase])) hwatch _ _ _
  | @client call hclient =>
      have hquiet : call.Quiet := by
        cases call with
        | invoke | answer => trivial
        | _ => cases hclient
      refine ⟨fun hphase => (h.unanswered (by simpa using hphase)).report hwatch ?_, ?_⟩
      · exact List.forall_mem_singleton.2 hquiet
      · intro status hphase
        rw [report_toPaidDeeds, session_report hwatch]
        exact (h.answered status (by simpa using hphase)).run _

end Requests

/-! ## Every run -/

namespace PaidApp

variable {cfg : CreateConfig} {a : PaidApp}

/-- Every record of the create route says what was done for its request. -/
def Tells (a : PaidApp) : Prop := ∀ r ∈ a.requests, r.resource = .watch → r.Told

theorem told_arrived {requestId : JsString} {paymentHeader : Option JsString} {now : ℚ} :
    (arrived .watch requestId paymentHeader now).Told := by
  refine RouteRequest.Listening.told (RouteRequest.Listening.report ?_ rfl
    (by simp [AcceptanceCall.Quiet])) (by simp [arrived])
  exact AcceptanceSession.open_admitted _ _ rfl rfl

theorem told_dropped {r : RouteRequest} (h : r.Told) : (dropped r).Told := by
  unfold dropped
  split
  · exact h
  · rename_i hphase
    exact RouteRequest.Listening.told (r := { r with phase := .lost }) (h.unanswered hphase) (by simp)

theorem Tells.step (h : a.Tells) (e : PaidEvent) : (a.step cfg e).Tells := by
  cases e with
  | arrive resource requestId paymentHeader now =>
      intro r hr hwatch
      rcases List.mem_append.1 hr with hr | hr
      · exact h r hr hwatch
      · rw [List.mem_singleton.1 hr] at hwatch ⊢
        obtain rfl : resource = .watch := by simpa [arrived] using hwatch
        exact told_arrived
  | act request act =>
      unfold PaidApp.step
      dsimp only
      cases hr : a.requests[request]? with
      | none => exact h
      | some r =>
          intro q hq hwatch
          rcases List.mem_or_eq_of_mem_set hq with hq | rfl
          · exact h q hq hwatch
          · have hact := advanced cfg a.toPaidServer r act
            have hold : r.resource = .watch := hact.resource.symm.trans hwatch
            exact hact.told hold (h r (List.mem_of_getElem? hr) hold)
  | elsewhere op =>
      unfold PaidApp.step
      dsimp only
      split <;> exact h
  | restart config now =>
      intro q hq hwatch
      obtain ⟨r, hr, rfl⟩ := List.mem_map.1 hq
      refine told_dropped (h r hr ?_)
      unfold dropped at hwatch
      split at hwatch <;> exact hwatch

/-- **Records tell the truth.**  Under every schedule of requests, workers and restarts,
from any store: the record of a request of the create route has no verdict before the
response and exactly the one of its status from then on; at every moment it says that a
watch was prepared exactly when one was prepared for this request, and that it was
activated exactly when the request's own hook has activated it; and a purchase is complete
for it exactly when the response is a success, the facilitator's client confirmed the
settlement and the hook activated the watch. -/
theorem records_truthful (cfg : CreateConfig) (s : Store) (start : ℚ) (es : List PaidEvent) :
    ∀ r ∈ (after cfg s start es).requests, r.resource = .watch →
      r.session.context.snapshot.durablePrepared = some r.purchase.isSome ∧
      r.session.context.snapshot.activationConfirmed = some r.activated.isSome ∧
      ((∀ status, r.phase ≠ .answered status) → r.session.final = none) ∧
      ∀ status, r.phase = .answered status →
        ∃ final, r.session.final = some (status, final) ∧
          final.durablePrepared = some r.purchase.isSome ∧
          final.activationConfirmed = some r.activated.isSome ∧
          (final.outcome.event = .purchaseCompleted ↔ 200 ≤ status ∧ status < 300 ∧
            final.settlementConfirmed = some true ∧ r.activated.isSome = true) := by
  have htells : (after cfg s start es).Tells :=
    Runs.run_invariant' (I := Tells) (fun _ e h => h.step e) es (by simp [Tells, opened])
  intro r hr hwatch
  have htold := htells r hr hwatch
  by_cases hanswered : ∃ status, r.phase = .answered status
  · obtain ⟨status, hphase⟩ := hanswered
    have hshut := htold.answered status hphase
    refine ⟨hshut.prepared, hshut.activated, fun hno => absurd hphase (hno status), ?_⟩
    intro status' hphase'
    rw [hphase] at hphase'
    cases hphase'
    exact ⟨_, hshut.final, hshut.prepared, hshut.activated, hshut.completed⟩
  · rw [not_exists] at hanswered
    have hopen := htold.unanswered hanswered
    exact ⟨hopen.prepared, hopen.activated, fun _ => hopen.final,
      fun status hphase => absurd hphase (hanswered status)⟩

/-- The record of the purchase that is answered with 200. -/
theorem records_truthful_sample :
    ∃ r ∈ (after sampleCreateConfig (Store.empty .default) 0 samplePurchase).requests,
      r.resource = .watch ∧ ∃ final, r.session.final = some (200, final) ∧
        final.durablePrepared = some r.purchase.isSome ∧
        final.activationConfirmed = some r.activated.isSome := by
  have hrun : (PaidResource.watch, PaidPhase.answered 200) ∈
      (after sampleCreateConfig (Store.empty .default) 0 samplePurchase).requests.map
        fun r => (r.resource, r.phase) := by decide +kernel
  obtain ⟨r, hr, hsame⟩ := List.mem_map.1 hrun
  obtain ⟨hresource, hphase⟩ := Prod.mk.inj hsame
  obtain ⟨-, -, -, hrecord⟩ :=
    records_truthful sampleCreateConfig (Store.empty .default) 0 samplePurchase r hr hresource
  obtain ⟨final, hfinal, hprepared, hactivated, -⟩ := hrecord 200 hphase
  exact ⟨r, hr, hresource, final, hfinal, hprepared, hactivated⟩

end PaidApp

end RoundWatch
