import RoundWatch.App.Create
import RoundWatch.Foundation.Leases

/-!
# The leases of the create route

Every signed request takes a lease of the body gate while its body is read, and one of the
payment gate while x402 has it.  The leases go back in `finally` blocks, in stretches of
code that also answer, settle or fail.

* `GateMove` — what one act does to a gate and to what its request holds of it;
* `Advanced.gates` — every act of every request is such a move, at both gates;
* `leases_accounted` — at every moment the leases in flight are the requests that hold one.
-/

namespace RoundWatch

open JsText

/-! ## What a phase holds -/

@[simp] theorem bodyLease_answered (status : ℕ) : (PaidPhase.answered status).bodyLease = none :=
  rfl

@[simp] theorem paymentLease_answered (status : ℕ) :
    (PaidPhase.answered status).paymentLease = none := rfl

@[simp] theorem bodyLease_protocol (lease : Option ℕ) (spec : Option WatchSpec) :
    (PaidPhase.protocol lease spec).bodyLease = none := rfl

@[simp] theorem paymentLease_protocol (lease : Option ℕ) (spec : Option WatchSpec) :
    (PaidPhase.protocol lease spec).paymentLease = lease := rfl

@[simp] theorem bodyLease_readingBody (lease : ℕ) :
    (PaidPhase.readingBody lease).bodyLease = some lease := rfl

/-! ## Moves of a gate -/

/-- The lease of a decision. -/
def SignedPaymentGateDecision.lease : SignedPaymentGateDecision → Option ℕ
  | .allowed lease => some lease
  | .denied _ => none

@[simp] theorem lease_allowed (lease : ℕ) :
    (SignedPaymentGateDecision.allowed lease).lease = some lease := rfl

@[simp] theorem lease_denied (reason : SignedPaymentGateReason) :
    (SignedPaymentGateDecision.denied reason).lease = none := rfl

/-- What an act does to a gate, and to what its request holds of it. -/
inductive GateMove (options : SignedPaymentGateOptions) (g : SignedPaymentGate) :
    SignedPaymentGate → Option ℕ → Option ℕ → Prop
  | keep (held : Option ℕ) : GateMove options g g held held
  | tryAcquire (now : ℚ) : GateMove options g (g.tryAcquire options now).2 none
      (g.tryAcquire options now).1.lease
  | release (lease : ℕ) : GateMove options g (g.release lease) (some lease) none

/-- The gate and the leases of the requests agree. -/
structure GateAccount (options : SignedPaymentGateOptions) (g : SignedPaymentGate)
    (held : RouteRequest → Option ℕ) (requests : List RouteRequest) : Prop where
  sound : ∃ first, g.Sound options first
  leases : Leases.Accounted held g.released requests

variable {options : SignedPaymentGateOptions} {g g' : SignedPaymentGate}
  {held : RouteRequest → Option ℕ} {requests : List RouteRequest}

theorem GateAccount.fresh (options : SignedPaymentGateOptions) (now : ℚ)
    (h : ∀ r ∈ requests, held r = none) :
    GateAccount options (SignedPaymentGate.create options now) held requests :=
  ⟨⟨now, SignedPaymentGate.sound_create options now⟩, Leases.accounted_of_idle h⟩

theorem GateAccount.arrive (h : GateAccount options g held requests) {r : RouteRequest}
    (hr : held r = none) : GateAccount options g held (requests ++ [r]) :=
  ⟨h.sound, h.leases.append hr⟩

/-- **Every move keeps the account.** -/
theorem GateAccount.move (h : GateAccount options g held requests) {i : ℕ} {r r' : RouteRequest}
    (hr : requests[i]? = some r) (hmove : GateMove options g g' (held r) (held r')) :
    GateAccount options g' held (requests.set i r') := by
  obtain ⟨first, hsound⟩ := h.sound
  generalize hold : held r = old at hmove
  generalize hnew : held r' = new at hmove
  cases hmove with
  | keep => exact ⟨⟨first, hsound⟩, h.leases.keep hr (hnew.trans hold.symm)⟩
  | tryAcquire now =>
      refine ⟨⟨first, SignedPaymentGate.sound_tryAcquire hsound now⟩, ?_⟩
      rcases SignedPaymentGate.tryAcquire_cases options g now with ⟨reason, heq⟩ | ⟨-, -, heq⟩
      · rw [heq] at hnew ⊢
        rw [SignedPaymentGate.refill_released]
        exact h.leases.keep hr (hnew.trans hold.symm)
      · rw [heq] at hnew ⊢
        exact h.leases.grant hr hold hnew
  | release lease =>
      refine ⟨⟨first, SignedPaymentGate.sound_release hsound lease⟩, ?_⟩
      rcases g.release_cases lease with ⟨-, heq⟩ | ⟨hclosed, -⟩
      · rw [heq]
        exact h.leases.release hr hold hnew
      · exact absurd (h.leases.backed i r lease hr hold) hclosed

/-- The requests in flight are the ones that hold a lease, and no more than the limit. -/
theorem GateAccount.inFlight (h : GateAccount options g held requests) :
    g.inFlight = requests.countP (fun r => (held r).isSome) ∧
      g.inFlight ≤ options.concurrency := by
  obtain ⟨first, hsound⟩ := h.sound
  exact ⟨hsound.held.trans h.leases.count, hsound.bounded⟩

/-! ## What an act does to the gates -/

section Moves

variable (cfg : CreateConfig) (sv : PaidServer) (r : RouteRequest)

/-- What a request holds of the two gates, before and after an act. -/
structure LeaseMoves (result : PaidServer × RouteRequest) : Prop where
  body : GateMove cfg.signedWatchBodyGateOptions sv.signedWatchBodyGate
    result.1.signedWatchBodyGate r.phase.bodyLease result.2.phase.bodyLease
  payment : GateMove cfg.signedPaymentGateOptions sv.signedPaymentGate
    result.1.signedPaymentGate r.phase.paymentLease result.2.phase.paymentLease

variable {cfg sv r}

/-- An act that keeps the gates and what is held of them. -/
theorem LeaseMoves.keep {result : PaidServer × RouteRequest}
    (hbody : result.1.signedWatchBodyGate = sv.signedWatchBodyGate)
    (hpayment : result.1.signedPaymentGate = sv.signedPaymentGate)
    (hheld : result.2.phase.bodyLease = r.phase.bodyLease)
    (hheld' : result.2.phase.paymentLease = r.phase.paymentLease) : LeaseMoves cfg sv r result := by
  refine ⟨?_, ?_⟩
  · rw [hbody, hheld]
    exact .keep _
  · rw [hpayment, hheld']
    exact .keep _

/-- An act in the hands of x402, which keeps the lease of its request. -/
theorem LeaseMoves.hold {lease : Option ℕ} {result : PaidServer × RouteRequest}
    (hphase : r.phase.bodyLease = none ∧ r.phase.paymentLease = lease)
    (hgates : result.1.signedWatchBodyGate = sv.signedWatchBodyGate ∧
      result.1.signedPaymentGate = sv.signedPaymentGate)
    (hnew : result.2.phase.bodyLease = none ∧ result.2.phase.paymentLease = lease) :
    LeaseMoves cfg sv r result :=
  .keep hgates.1 hgates.2 (hnew.1.trans hphase.1.symm) (hnew.2.trans hphase.2.symm)

variable (cfg sv r) in
theorem admitPayment_gates (now : ℚ) (spec : Option WatchSpec) :
    (admitPayment cfg sv r now spec).1.signedWatchBodyGate = sv.signedWatchBodyGate ∧
      (admitPayment cfg sv r now spec).2.phase.bodyLease = none ∧
      GateMove cfg.signedPaymentGateOptions sv.signedPaymentGate
        (admitPayment cfg sv r now spec).1.signedPaymentGate none
        (admitPayment cfg sv r now spec).2.phase.paymentLease := by
  unfold admitPayment
  split
  · exact ⟨rfl, by simp, by simpa using GateMove.keep none⟩
  · exact ⟨rfl, by simp, by simpa using GateMove.keep none⟩
  · split
    · exact ⟨rfl, by simp, by simpa using GateMove.keep none⟩
    split
    · exact ⟨rfl, by simp, by simpa using GateMove.keep none⟩
    have hmove : GateMove cfg.signedPaymentGateOptions sv.signedPaymentGate _ _ _ := .tryAcquire now
    dsimp only
    generalize sv.signedPaymentGate.tryAcquire cfg.signedPaymentGateOptions now = acquired
      at hmove ⊢
    obtain ⟨decision, gate⟩ := acquired
    cases decision with
    | allowed lease => exact ⟨rfl, by simp, by simpa using hmove⟩
    | denied reason => exact ⟨rfl, by simp, by simpa using hmove⟩

variable (cfg sv r) in
theorem admitBody_gates (now : ℚ) (hbody : r.phase.bodyLease = none)
    (hpayment : r.phase.paymentLease = none) :
    LeaseMoves cfg sv r (admitBody cfg sv r now) := by
  have hmove : GateMove cfg.signedWatchBodyGateOptions sv.signedWatchBodyGate _ _ _ :=
    .tryAcquire now
  unfold admitBody
  dsimp only
  generalize sv.signedWatchBodyGate.tryAcquire cfg.signedWatchBodyGateOptions now = acquired
    at hmove ⊢
  obtain ⟨decision, gate⟩ := acquired
  cases decision with
  | allowed lease =>
      refine ⟨?_, ?_⟩
      · rw [hbody]
        simpa using hmove
      · rw [hpayment]
        simpa [PaidPhase.paymentLease] using GateMove.keep none
  | denied reason =>
      refine ⟨?_, ?_⟩
      · rw [hbody]
        simpa using hmove
      · rw [hpayment]
        simpa using GateMove.keep none

variable (cfg sv) in
theorem leave_gates {lease : Option ℕ} (hbody : r.phase.bodyLease = none)
    (hlease : r.phase.paymentLease = lease) (r' : RouteRequest) (status : ℕ)
    (watchId : Option JsString) : LeaseMoves cfg sv r (leave sv r' lease status watchId) := by
  have hphase : (leave sv r' lease status watchId).2.phase.bodyLease = none ∧
      (leave sv r' lease status watchId).2.phase.paymentLease = none := by
    unfold leave
    dsimp only
    split_ifs <;> simp
  have hgates : (leave sv r' lease status watchId).1 = { sv with
      signedPaymentGate := lease.elim sv.signedPaymentGate sv.signedPaymentGate.release } := by
    unfold leave
    dsimp only
    split_ifs <;> rfl
  refine ⟨?_, ?_⟩
  · rw [hgates, hbody, hphase.1]
    exact .keep none
  · rw [hgates, hlease, hphase.2]
    cases lease with
    | none => exact .keep none
    | some lease => exact .release lease

theorem preChallenge_gates (answer : ReadinessAnswer) (now : ℚ) (hbody : r.phase.bodyLease = none)
    (hpayment : r.phase.paymentLease = none) :
    LeaseMoves cfg sv r (preChallenge cfg sv r answer now) := by
  unfold preChallenge
  cases answer with
  | thrown => exact .keep rfl rfl (by simp [hbody]) (by simp [hpayment])
  | snapshot ready checks =>
      cases ready with
      | false => exact .keep rfl rfl (by simp [hbody]) (by simp [hpayment])
      | true =>
          dsimp only
          split
          · obtain ⟨hgate, hnone, hmove⟩ := admitPayment_gates cfg sv
              (r.report [.stopTiming 0 now]) now none
            refine ⟨?_, ?_⟩
            · rw [hgate, hnone, hbody]
              exact .keep none
            · rw [hpayment]
              exact hmove
          · have hmoves := admitBody_gates cfg sv
              (r.report [.stopTiming 0 now]) now (by simpa using hbody)
              (by simpa using hpayment)
            exact ⟨by simpa using hmoves.body, by simpa using hmoves.payment⟩

theorem readBody_gates {lease : ℕ} (hphase : r.phase = .readingBody lease)
    (outcome : Except BodyError Json) (now : ℚ) :
    LeaseMoves cfg sv r (readBody cfg sv r lease outcome now) := by
  have hbody : r.phase.bodyLease = some lease := by rw [hphase]; rfl
  have hpayment : r.phase.paymentLease = none := by rw [hphase]; rfl
  have hrefused : ∀ (event reason : String) (status : ℕ), LeaseMoves cfg sv r
      ({ sv with signedWatchBodyGate := sv.signedWatchBodyGate.release lease },
        r.refuse event reason status) := by
    intro event reason status
    refine ⟨?_, ?_⟩
    · rw [hbody]
      simpa using GateMove.release lease
    · rw [hpayment]
      simpa using GateMove.keep none
  unfold readBody
  cases outcome with
  | error e => exact hrefused _ _ _
  | ok body =>
      dsimp only
      cases acceptCreate cfg.isValidAlgorandAddress cfg.usdcAssetId body with
      | error e => exact hrefused _ _ _
      | ok spec =>
          obtain ⟨hgate, hnone, hmove⟩ := admitPayment_gates cfg
            { sv with signedWatchBodyGate := sv.signedWatchBodyGate.release lease } r now (some spec)
          refine ⟨?_, ?_⟩
          · rw [hbody, hgate, hnone]
            exact .release lease
          · rw [hpayment]
            exact hmove

theorem beginPreparation_gates {lease : Option ℕ} {spec : Option WatchSpec}
    (hphase : r.phase = .protocol lease spec) (now : ℚ) :
    LeaseMoves cfg sv r (beginPreparation cfg sv r lease spec now) := by
  have hbody : r.phase.bodyLease = none := by rw [hphase]; rfl
  have hpayment : r.phase.paymentLease = lease := by rw [hphase]; rfl
  unfold beginPreparation
  cases spec with
  | none => exact leave_gates _ _ hbody hpayment _ _ _
  | some spec =>
      dsimp only
      split
      · exact leave_gates _ _ hbody hpayment _ _ _
      · exact .hold ⟨hbody, hpayment⟩ ⟨rfl, rfl⟩
          (by simp [PaidPhase.bodyLease, PaidPhase.paymentLease])

theorem prepare_gates {lease : Option ℕ} {spec : WatchSpec} {intent : Option SettlementIntent}
    (hphase : r.phase = .prePrepare lease spec intent) (answer : ReadinessAnswer) (clock : ℤ)
    (id : JsString) (now : ℚ) :
    LeaseMoves cfg sv r (prepare sv r lease spec intent answer clock id now) := by
  have hbody : r.phase.bodyLease = none := by rw [hphase]; rfl
  have hpayment : r.phase.paymentLease = lease := by rw [hphase]; rfl
  unfold prepare
  cases answer with
  | thrown => exact leave_gates _ _ hbody hpayment _ _ _
  | snapshot ready checks =>
      cases ready with
      | false => exact leave_gates _ _ hbody hpayment _ _ _
      | true =>
          dsimp only
          split
          · exact .hold ⟨hbody, hpayment⟩ ⟨rfl, rfl⟩ ⟨rfl, rfl⟩
          · have hmoves := leave_gates cfg
              { sv with store := (sv.store.prepareWatch clock id spec intent).1 } hbody hpayment
            exact ⟨(hmoves _ _ _).body, (hmoves _ _ _).payment⟩

/-- **The step lemma.**  Every act of every request moves each gate by what the request
takes of it or gives back. -/
theorem Advanced.gates {result : PaidServer × RouteRequest} (h : Advanced cfg sv r result) :
    LeaseMoves cfg sv r result := by
  cases h with
  | stay => exact .keep rfl rfl rfl rfl
  | preChallenge answer now hphase hwatch =>
      exact preChallenge_gates answer now (by rw [hphase]; rfl) (by rw [hphase]; rfl)
  | demo now hphase hdemo =>
      obtain ⟨hgate, hnone, hmove⟩ := admitPayment_gates cfg sv r now none
      refine ⟨?_, ?_⟩
      · rw [hgate, hnone, hphase]
        exact .keep none
      · rw [hphase]
        exact hmove
  | readBody outcome now hphase => exact readBody_gates hphase outcome now
  | protocolAnswered status offer hphase =>
      exact leave_gates _ _ (by rw [hphase]; rfl) (by rw [hphase]; rfl) _ _ _
  | verified now hphase hwatch => exact beginPreparation_gates hphase now
  | prePrepare answer clock id now hphase => exact prepare_gates hphase answer clock id now
  | settled evidence now hphase =>
      refine .hold (by rw [hphase]; exact ⟨rfl, rfl⟩) ⟨rfl, rfl⟩ ?_
      unfold afterSettled
      dsimp only
      split <;> simp [PaidPhase.bodyLease, PaidPhase.paymentLease]
  | settleFailed hphase =>
      refine .hold ?_ ⟨rfl, rfl⟩ ⟨rfl, rfl⟩
      rcases hphase with hphase | hphase <;> rw [hphase] <;> exact ⟨rfl, rfl⟩
  | lookedUp answer clock now hphase =>
      refine .hold (by rw [hphase]; exact ⟨rfl, rfl⟩) ?_ ?_
      · unfold activate
        dsimp only
        repeat' split
        all_goals exact ⟨rfl, rfl⟩
      · unfold activate
        dsimp only
        repeat' split
        all_goals simp [PaidPhase.bodyLease, PaidPhase.paymentLease]
  | returned status hphase =>
      exact leave_gates _ _ (by rw [hphase]; rfl) (by rw [hphase]; rfl) _ _ _
  | client hclient => exact .keep rfl rfl (by simp) (by simp)

end Moves

/-! ## Signed requests -/

/-- x402 has the request. -/
def PaidPhase.atX402 : PaidPhase → Bool
  | .protocol .. | .prePrepare .. | .settling .. | .activating .. | .returning .. => true
  | _ => false

/-- The header is there and is not empty. -/
def PaidDeeds.signed (d : PaidDeeds) : Bool := d.paymentHeader.any (· ≠ [])

/-- A signed request holds a lease for as long as x402 has it. -/
def RouteRequest.Leased (r : RouteRequest) : Prop :=
  r.phase.atX402 = true → r.signed = true → r.phase.paymentLease.isSome = true

section Signed

variable {cfg : CreateConfig} {sv : PaidServer} {r : RouteRequest}

theorem leased_of_answered {status : ℕ} (h : r.phase = .answered status) : r.Leased := by
  intro hat
  rw [h] at hat
  cases hat

theorem leased_leave (lease : Option ℕ) (status : ℕ) (watchId : Option JsString) :
    (leave sv r lease status watchId).2.Leased := by
  rcases leave_phase sv r lease status watchId with ⟨hphase, -⟩ | hphase <;>
    exact leased_of_answered hphase

theorem leased_admitPayment (now : ℚ) (spec : Option WatchSpec) :
    (admitPayment cfg sv r now spec).2.Leased := by
  have hunsigned : ∀ r' : RouteRequest, r'.signed = false → r'.Leased := by
    intro r' hunsigned _ hsigned
    rw [hunsigned] at hsigned
    cases hsigned
  unfold admitPayment
  split
  · rename_i hheader
    exact hunsigned _ (by simp [PaidDeeds.signed, hheader])
  · rename_i hheader
    exact hunsigned _ (by simp [PaidDeeds.signed, hheader])
  · split
    · exact leased_of_answered (RouteRequest.refuse_phase ..)
    split
    · exact leased_of_answered (RouteRequest.refuse_phase ..)
    dsimp only
    split
    · intro _ _
      simp
    · exact leased_of_answered (RouteRequest.refuse_phase ..)

/-- A request that is not with x402. -/
theorem leased_of_elsewhere (h : r.phase.atX402 = false) : r.Leased := by
  intro hat
  rw [h] at hat
  cases hat

/-- A request that keeps its lease. -/
theorem RouteRequest.Leased.hold (h : r.Leased) (hat : r.phase.atX402 = true) {r' : RouteRequest}
    (hheader : r'.paymentHeader = r.paymentHeader)
    (hlease : r'.phase.paymentLease = r.phase.paymentLease) : r'.Leased := by
  intro _ hsigned
  rw [hlease]
  refine h hat ?_
  unfold PaidDeeds.signed at hsigned ⊢
  rwa [← hheader]

theorem Advanced.leased {result : PaidServer × RouteRequest} (hact : Advanced cfg sv r result)
    (h : r.Leased) : result.2.Leased := by
  cases hact with
  | stay => exact h
  | preChallenge answer now hphase hwatch =>
      unfold RoundWatch.preChallenge
      dsimp only
      split
      · exact leased_of_answered (RouteRequest.answer_phase ..)
      · exact leased_of_answered (RouteRequest.answer_phase ..)
      · split
        · exact leased_admitPayment now none
        · unfold admitBody
          dsimp only
          split
          · exact leased_of_elsewhere (by simp [PaidPhase.atX402])
          · exact leased_of_answered (RouteRequest.refuse_phase ..)
  | demo now hphase hdemo => exact leased_admitPayment now none
  | readBody outcome now hphase =>
      unfold RoundWatch.readBody
      dsimp only
      split
      · exact leased_of_answered (RouteRequest.refuse_phase ..)
      · split
        · exact leased_of_answered (RouteRequest.refuse_phase ..)
        · exact leased_admitPayment now _
  | protocolAnswered status offer hphase => exact leased_leave _ _ _
  | verified now hphase hwatch =>
      have hat : r.phase.atX402 = true := by rw [hphase]; rfl
      unfold beginPreparation
      dsimp only
      split
      · exact leased_leave _ _ _
      · split
        · exact leased_leave _ _ _
        · exact h.hold hat (by simp) (by simp [hphase, PaidPhase.paymentLease])
  | prePrepare answer clock id now hphase =>
      have hat : r.phase.atX402 = true := by rw [hphase]; rfl
      unfold prepare
      dsimp only
      split
      · exact leased_leave _ _ _
      · exact leased_leave _ _ _
      · split
        · exact h.hold hat (by simp) (by simp [hphase, PaidPhase.paymentLease])
        · exact leased_leave _ _ _
  | settled evidence now hphase =>
      have hat : r.phase.atX402 = true := by rw [hphase]; rfl
      unfold afterSettled
      dsimp only
      split
      · exact h.hold hat (by simp) (by simp [hphase, PaidPhase.paymentLease])
      · exact h.hold hat (by simp) (by simp [hphase, PaidPhase.paymentLease])
  | settleFailed hphase =>
      have hat : r.phase.atX402 = true := by
        rcases hphase with hphase | hphase <;> rw [hphase] <;> rfl
      refine h.hold hat rfl ?_
      rcases hphase with hphase | hphase <;> rw [hphase] <;> rfl
  | lookedUp answer clock now hphase =>
      have hat : r.phase.atX402 = true := by rw [hphase]; rfl
      unfold activate
      dsimp only
      repeat' split
      all_goals exact h.hold hat (by simp) (by simp [hphase, PaidPhase.paymentLease])
  | returned status hphase => exact leased_leave _ _ _
  | client hclient =>
      intro hat hsigned
      simp only [RouteRequest.report_phase, RouteRequest.report_toPaidDeeds] at hat hsigned ⊢
      exact h hat hsigned

end Signed

/-! ## The application -/

namespace PaidApp

/-- Both gates are accounted for, and signed requests hold their leases. -/
structure Balanced (cfg : CreateConfig) (a : PaidApp) : Prop where
  body : GateAccount cfg.signedWatchBodyGateOptions a.signedWatchBodyGate
    (fun r => r.phase.bodyLease) a.requests
  payment : GateAccount cfg.signedPaymentGateOptions a.signedPaymentGate
    (fun r => r.phase.paymentLease) a.requests
  leased : ∀ r ∈ a.requests, r.Leased

theorem balanced_opened (cfg : CreateConfig) (s : Store) (now : ℚ) {requests : List RouteRequest}
    (h : ∀ r ∈ requests, (∃ status, r.phase = .answered status) ∨ r.phase = .lost) :
    (opened cfg s now requests).Balanced cfg := by
  refine ⟨.fresh _ now ?_, .fresh _ now ?_, ?_⟩
  all_goals
    intro r hr
    rcases h r hr with ⟨status, hphase⟩ | hphase
  · rw [hphase]; rfl
  · rw [hphase]; rfl
  · rw [hphase]; rfl
  · rw [hphase]; rfl
  · exact leased_of_answered hphase
  · exact leased_of_elsewhere (by rw [hphase]; rfl)

theorem dropped_phase (r : RouteRequest) :
    (∃ status, (dropped r).phase = .answered status) ∨ (dropped r).phase = .lost := by
  unfold dropped
  split
  · exact .inl ⟨_, by assumption⟩
  · exact .inr rfl

theorem Balanced.step {cfg : CreateConfig} {a : PaidApp} (h : a.Balanced cfg) (e : PaidEvent) :
    (a.step cfg e).Balanced cfg := by
  cases e with
  | arrive resource requestId paymentHeader now =>
      have hphase : (arrived resource requestId paymentHeader now).phase = .arrived := by
        simp [arrived]
      refine ⟨h.body.arrive ?_, h.payment.arrive ?_, ?_⟩
      · rw [hphase]; rfl
      · rw [hphase]; rfl
      · intro r hr
        rcases List.mem_append.1 hr with hr | hr
        · exact h.leased r hr
        · rw [List.mem_singleton.1 hr]
          exact leased_of_elsewhere (by rw [hphase]; rfl)
  | act request act =>
      unfold PaidApp.step
      dsimp only
      cases hr : a.requests[request]? with
      | none => exact h
      | some r =>
          have hact := advanced cfg a.toPaidServer r act
          refine ⟨h.body.move hr hact.gates.body, h.payment.move hr hact.gates.payment, ?_⟩
          intro r' hr'
          rcases List.mem_or_eq_of_mem_set hr' with hr' | rfl
          · exact h.leased r' hr'
          · exact hact.leased (h.leased r (List.mem_of_getElem? hr))
  | elsewhere op =>
      unfold PaidApp.step
      dsimp only
      split
      · exact ⟨h.body, h.payment, h.leased⟩
      · exact h
  | restart config now =>
      refine balanced_opened cfg _ now ?_
      intro r hr
      obtain ⟨r', -, rfl⟩ := List.mem_map.1 hr
      exact dropped_phase r'

/-- **Leases are never lost and never shared.**  In every schedule of requests, workers and
restarts, and whatever x402, the clocks and the clients do: the body gate has in flight
the requests whose signed body is being read, the payment gate the ones that hold a lease
of it, and no more than their limits; a signed request of either paid resource is with
x402 only under such a lease, so no more of them than the limit are ever with x402. -/
theorem leases_accounted (cfg : CreateConfig) (s : Store) (start : ℚ) (es : List PaidEvent) :
    let a := after cfg s start es
    (a.signedWatchBodyGate.inFlight = a.requests.countP (fun r => r.phase.bodyLease.isSome) ∧
        a.signedWatchBodyGate.inFlight ≤ cfg.signedWatchBodyGateOptions.concurrency) ∧
      (a.signedPaymentGate.inFlight = a.requests.countP (fun r => r.phase.paymentLease.isSome) ∧
        a.signedPaymentGate.inFlight ≤ cfg.signedPaymentGateOptions.concurrency) ∧
      a.requests.countP (fun r => r.phase.atX402 && r.signed) ≤
        cfg.signedPaymentGateOptions.concurrency := by
  intro a
  have h : a.Balanced cfg :=
    Runs.run_invariant' (fun _ e h => h.step e) es (balanced_opened cfg s start (by simp))
  refine ⟨h.body.inFlight, h.payment.inFlight, ?_⟩
  obtain ⟨hcount, hlimit⟩ := h.payment.inFlight
  refine le_trans (List.countP_mono_left fun r hr hwith => ?_) (hcount ▸ hlimit)
  rw [Bool.and_eq_true] at hwith
  exact h.leased r hr hwith.1 hwith.2

end PaidApp

end RoundWatch
