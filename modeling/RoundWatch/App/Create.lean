import RoundWatch.App.Acceptance
import RoundWatch.App.RequestBody
import RoundWatch.App.Requests
import RoundWatch.App.SignedGate
import RoundWatch.Foundation.Base64
import RoundWatch.Workers.Reconciler

/-!
# The paid create route

`POST watchPath` from its first middleware to its answer, for any number of requests at
once, next to `GET /demo`, which shares the payment gate, and to the workers, which share
the store.  A stretch of code between two `await`s is one step, so requests, workers and
restarts can come between any two of them.

* `extractSettlementIntent` — the service payment that a header signs;
* `PaidPhase`, `RouteRequest` — where a request is, and what has been done for it;
* `PaidAct`, `advance` — the middlewares, the handler and the settlement hooks;
* `PaidEvent`, `PaidApp.step` — the application with everything around it.

x402 is a package: it decides when the handler runs, what is settled and what is returned.
Of its contract the model keeps that a settlement is asked for when the handler has
answered with a created watch and not otherwise, and that the failure hook runs when the
settlement or the success hook failed.
-/

namespace RoundWatch

open JsText

/-! ## What the route is wired with -/

/-- What the transaction reader of the Algorand packages finds in a signed transaction. -/
structure SignedTransaction where
  transactionId : JsString
  payer : JsString
  receiver : Option JsString
  assetId : Option ℤ
  atomicAmount : Option JsString
  firstValid : ℤ
  lastValid : ℤ

/-- The dependencies of the application, and the packages it calls. -/
structure CreateConfig where
  isValidAlgorandAddress : JsString → Bool
  usdcAssetId : ℤ
  network : JsString
  avmAddress : JsString
  serviceAtomicAmount : JsString
  requireSettlementIntent : Bool
  signedWatchBodyGateOptions : SignedPaymentGateOptions
  signedPaymentGateOptions : SignedPaymentGateOptions
  /-- `none` when it throws. -/
  decodePaymentSignatureHeader : JsString → Option Json
  /-- `none` when one of the readers throws. -/
  readTransaction : JsString → Option SignedTransaction

def maxPaymentSignatureHeaderBytes : ℕ := 16 * 1024

/-! ## The signed payment -/

def isText (text : JsString) : Json → Bool
  | .str s => s == text
  | _ => false

/-- The transaction of the payment group that is the payment. -/
def paymentTransaction (payload : Json) : Option JsString :=
  match payload.get? "paymentGroup", payload.get? "paymentIndex" with
  | some (.arr paymentGroup), some (.num paymentIndex) =>
      if (paymentGroup.all fun item => match item with | .str _ => true | _ => false) &&
          Json.isSafeInteger paymentIndex && 0 ≤ paymentIndex &&
          paymentIndex < paymentGroup.length then
        (paymentGroup[paymentIndex.toNat]?).bind fun item =>
          match item with
          | .str encoded => if Base64.decode encoded = [] then none else some encoded
          | _ => none
      else none
  | _, _ => none

/-- The terms of the signed transaction are the ones of the offer. -/
def SignedTransaction.pays (cfg : CreateConfig) (t : SignedTransaction) : Bool :=
  t.receiver == some cfg.avmAddress && t.assetId == some cfg.usdcAssetId &&
    t.atomicAmount == some cfg.serviceAtomicAmount && Json.isSafeInteger t.firstValid &&
    0 ≤ t.firstValid && Json.isSafeInteger t.lastValid && t.firstValid ≤ t.lastValid

/-- `extractSettlementIntent`; `none` when it throws. -/
def extractSettlementIntent (cfg : CreateConfig) (paymentHeader : JsString) :
    Option SettlementIntent :=
  (cfg.decodePaymentSignatureHeader paymentHeader).bind fun decoded =>
    if ((decoded.get? "accepted").bind (·.get? "network")).any
        (fun network => !isText cfg.network network) then none
    else
      ((decoded.get? "payload").bind paymentTransaction).bind fun encoded =>
        (cfg.readTransaction encoded).bind fun transaction =>
          if transaction.pays cfg then
            some
              { expectedTransaction := transaction.transactionId
                network := cfg.network
                payer := some transaction.payer
                receiver := cfg.avmAddress
                assetId := cfg.usdcAssetId
                atomicAmount := cfg.serviceAtomicAmount
                firstValid := transaction.firstValid
                lastValid := transaction.lastValid }
          else none

/-- The intent the handler works with: an absent or empty header signs none. -/
def settlementIntent (cfg : CreateConfig) : Option JsString → Option SettlementIntent
  | none | some [] => none
  | some paymentHeader => extractSettlementIntent cfg paymentHeader

/-! ## Requests -/

inductive PaidResource where
  | watch
  | demo
  deriving DecidableEq, Repr

/-- What an `await` on a readiness check comes to. -/
inductive ReadinessAnswer where
  | snapshot (ready : Bool) (checks : List (String × Bool))
  | thrown

/-- What `indexer.lookupAssetTransfer` comes to. -/
inductive LookupAnswer where
  | transfer (transfer : IndexedAssetTransfer)
  | absent
  | thrown

/-- Where a request is. -/
inductive PaidPhase where
  /-- The middlewares have not begun to answer. -/
  | arrived
  | readingBody (lease : ℕ)
  /-- With x402, before the handler. -/
  | protocol (lease : Option ℕ) (spec : Option WatchSpec)
  /-- The handler awaits readiness. -/
  | prePrepare (lease : Option ℕ) (spec : WatchSpec) (intent : Option SettlementIntent)
  /-- The handler answered with a watch, and x402 settles. -/
  | settling (lease : Option ℕ) (watchId : JsString)
  /-- The success hook awaits the indexer. -/
  | activating (lease : Option ℕ) (watchId : JsString) (evidence : SettlementEvidence)
  /-- The response is on its way out of x402. -/
  | returning (lease : Option ℕ) (watchId : JsString) (threw : Bool)
  | answered (status : ℕ)
  /-- The process ended. -/
  | lost
  deriving DecidableEq

/-- The lease of the body gate that a request in this phase holds. -/
def PaidPhase.bodyLease : PaidPhase → Option ℕ
  | .readingBody lease => some lease
  | _ => none

/-- The lease of the payment gate that a request in this phase holds. -/
def PaidPhase.paymentLease : PaidPhase → Option ℕ
  | .protocol lease _ => lease
  | .prePrepare lease _ _ => lease
  | .settling lease _ => lease
  | .activating lease _ _ => lease
  | .returning lease _ _ => lease
  | _ => none

/-- A watch that was prepared for a request. -/
structure Purchase where
  spec : WatchSpec
  intent : Option SettlementIntent
  watch : WatchRow
  deriving DecidableEq

/-- What a request is, and what has been done for it. -/
structure PaidDeeds where
  resource : PaidResource
  paymentHeader : Option JsString
  /-- x402 let it through to the handler. -/
  verified : Bool
  purchase : Option Purchase
  /-- What the facilitator settled. -/
  settled : Option SettlementEvidence
  /-- The transfer its own hook activated the watch with. -/
  activated : Option IndexedAssetTransfer

structure RouteRequest extends PaidDeeds where
  phase : PaidPhase
  session : AcceptanceSession

namespace RouteRequest

/-- Calls of the acceptance recorder; only the create route has a record. -/
def report (r : RouteRequest) (calls : List AcceptanceCall) : RouteRequest :=
  match r.resource with
  | .watch => { r with session := Runs.run AcceptanceSession.step r.session calls }
  | .demo => r

/-- The request has its response, and the telemetry middleware its verdict. -/
def answer (r : RouteRequest) (status : ℕ) : RouteRequest :=
  { r with phase := .answered status }.report [.finish status]

/-- A middleware reports a refusal and answers it. -/
def refuse (r : RouteRequest) (event reason : String) (status : ℕ) : RouteRequest :=
  (r.report [.observe event reason]).answer status

/-- The x402 middleware has the request. -/
def enterProtocol (r : RouteRequest) (lease : Option ℕ) (spec : Option WatchSpec) : RouteRequest :=
  { r with phase := .protocol lease spec }.report [.stage "payment_protocol"]

end RouteRequest

/-- What the requests share. -/
structure PaidServer where
  store : Store
  signedWatchBodyGate : SignedPaymentGate
  signedPaymentGate : SignedPaymentGate

/-- The label of a denied request. -/
def SignedPaymentGateReason.label (rate concurrency : String) : SignedPaymentGateReason → String
  | .rate => rate
  | .concurrency => concurrency

/-! ## The middlewares -/

section Middlewares

variable (cfg : CreateConfig) (sv : PaidServer) (r : RouteRequest)

/-- The middleware in front of x402: the header and the payment gate. -/
def admitPayment (now : ℚ) (spec : Option WatchSpec) : PaidServer × RouteRequest :=
  match r.paymentHeader with
  | none | some [] => (sv, r.enterProtocol none spec)
  | some paymentHeader =>
      if maxPaymentSignatureHeaderBytes < utf8ByteLength paymentHeader then
        (sv, r.refuse "payment_header_rejected" "header_too_large" 400)
      else if (cfg.decodePaymentSignatureHeader paymentHeader).isNone then
        (sv, r.refuse "payment_header_rejected" "header_encoding_invalid" 400)
      else
        let acquired := sv.signedPaymentGate.tryAcquire cfg.signedPaymentGateOptions now
        ({ sv with signedPaymentGate := acquired.2 },
          match acquired.1 with
          | .allowed lease => r.enterProtocol (some lease) spec
          | .denied reason =>
              r.refuse "signed_request_rate_limited"
                (reason.label "verification_rate" "verification_concurrency") 429)

/-- The body gate, in front of a signed body. -/
def admitBody (now : ℚ) : PaidServer × RouteRequest :=
  let acquired := sv.signedWatchBodyGate.tryAcquire cfg.signedWatchBodyGateOptions now
  ({ sv with signedWatchBodyGate := acquired.2 },
    match acquired.1 with
    | .allowed lease => { r with phase := .readingBody lease }.report [.stage "body_validation"]
    | .denied reason =>
        r.refuse "signed_request_rate_limited" (reason.label "body_rate" "body_concurrency") 429)

/-- The readiness middleware, once the check has come to an answer. -/
def preChallenge (answer : ReadinessAnswer) (now : ℚ) : PaidServer × RouteRequest :=
  match answer with
  | .thrown =>
      (sv, (r.report [.readinessFailure .preChallenge true [("readinessCheck", false)],
        .stopTiming 0 now]).answer 503)
  | .snapshot false checks =>
      (sv, (r.report [.readinessFailure .preChallenge false checks, .stopTiming 0 now]).answer 503)
  | .snapshot true _ =>
      let r := r.report [.stopTiming 0 now]
      if r.paymentHeader.isNone then admitPayment cfg sv r now none else admitBody cfg sv r now

def BodyError.reason : BodyError → String
  | .tooLarge _ => "body_too_large"
  | .readTimeout _ => "body_timeout"
  | _ => "json_invalid"

def BodyError.status : BodyError → ℕ
  | .tooLarge _ => 413
  | .readTimeout _ => 408
  | _ => 400

def AdmissionError.reason : AdmissionError → String
  | .exampleIdempotencyKey => "example_key"
  | .exampleInvoiceNote => "example_note"
  | .unsupportedExpectedSender => "zero_sender"

def BodyRejection.reason : BodyRejection → String
  | .spec e => e.reason
  | .admission e => e.reason

/-- The body has come to an end: its lease goes back, and it is validated. -/
def readBody (lease : ℕ) (outcome : Except BodyError Json) (now : ℚ) : PaidServer × RouteRequest :=
  let sv := { sv with signedWatchBodyGate := sv.signedWatchBodyGate.release lease }
  match outcome with
  | .error e => (sv, r.refuse "body_validation_rejected" e.reason e.status)
  | .ok body =>
      match acceptCreate cfg.isValidAlgorandAddress cfg.usdcAssetId body with
      | .error e => (sv, r.refuse "body_validation_rejected" e.reason 400)
      | .ok spec => admitPayment cfg sv r now (some spec)

/-- A response leaves x402: the lease goes back, and a success is checked against the
store. -/
def leave (lease : Option ℕ) (status : ℕ) (watchId : Option JsString) :
    PaidServer × RouteRequest :=
  let sv := { sv with
    signedPaymentGate := lease.elim sv.signedPaymentGate sv.signedPaymentGate.release }
  if 400 ≤ status ∨ r.resource = .demo then (sv, r.answer status)
  else if (watchId.bind sv.store.getWatch).any
      fun watch => watch.state == .active || watch.state == .matched then
    (sv, (r.report [.observe "purchase_completed" "completed"]).answer status)
  else (sv, r.answer 500)

/-! ## The handler -/

/-- The handler, up to its `await`. -/
def beginPreparation (lease : Option ℕ) (spec : Option WatchSpec) (now : ℚ) :
    PaidServer × RouteRequest :=
  let r := { r with verified := true }
  match spec with
  | none => leave sv (r.report [.observe "internal_admission_failed" "unknown"]) lease 400 none
  | some spec =>
      let r := r.report [.stage "preparation"]
      let intent := settlementIntent cfg r.paymentHeader
      if cfg.requireSettlementIntent = true ∧ intent = none then
        leave sv (r.report [.observe "internal_admission_failed" "settlement_identity"]) lease 500
          none
      else
        (sv, { r with phase := .prePrepare lease spec intent }.report
          [.startTiming .prePrepare now])

/-- What the handler reports of an outcome of `prepareWatch`. -/
def CreateReply.report : CreateReply → String × String
  | .legacyIdempotencyConflict => ("idempotency_conflicted", "legacy_reservation")
  | .idempotencyConflict => ("idempotency_conflicted", "different_spec")
  | .capacityExhausted scope => ("capacity_rejected", scope.name)
  | .failed _ => ("internal_admission_failed", "prepare_failed")
  | .idempotencyReplay _ => ("idempotency_replayed", "same_spec")
  | .created .. => ("durable_prepared", "prepared")

/-- The handler from its `await` on; `id` is the `randomUUID` of `prepareWatch`. -/
def prepare (lease : Option ℕ) (spec : WatchSpec) (intent : Option SettlementIntent)
    (answer : ReadinessAnswer) (clock : ℤ) (id : JsString) (now : ℚ) : PaidServer × RouteRequest :=
  match answer with
  | .thrown =>
      leave sv (r.report [.readinessFailure .prePrepare true [("readinessCheck", false)],
        .stopTiming 1 now]) lease 503 none
  | .snapshot false checks =>
      leave sv (r.report [.readinessFailure .prePrepare false checks, .stopTiming 1 now]) lease 503
        none
  | .snapshot true _ =>
      let r := r.report [.stopTiming 1 now, .stage "preparation"]
      let prepared := sv.store.prepareWatch clock id spec intent
      let sv := { sv with store := prepared.1 }
      let reply := createReply prepared.2
      let r := r.report [.observe reply.report.1 reply.report.2]
      match prepared.2 with
      | .ok ⟨watch, true⟩ =>
          (sv, { r with
            phase := .settling lease watch.id.val
            purchase := some ⟨spec, intent, watch⟩ })
      | _ => leave sv r lease reply.status none

/-! ## The settlement hooks -/

/-- `onAfterSettle`, up to its `await`. -/
def afterSettled (lease : Option ℕ) (watchId : JsString) (evidence : SettlementEvidence)
    (now : ℚ) : PaidServer × RouteRequest :=
  let r := { r with settled := some evidence }
  let recorded := sv.store.recordSettlementCandidate watchId evidence
  ({ sv with store := recorded.1 },
    match recorded.2 with
    | .error _ =>
        { r with phase := .returning lease watchId true }.report
          [.observe "activation_pending" "activation_write_failed"]
    | .ok _ =>
        { r with phase := .activating lease watchId evidence }.report
          [.startTiming .activation now])

/-- `onAfterSettle`, from its `await` on. -/
def activate (lease : Option ℕ) (watchId : JsString) (evidence : SettlementEvidence)
    (answer : LookupAnswer) (clock : ℤ) (now : ℚ) : PaidServer × RouteRequest :=
  let returning := fun (r : RouteRequest) (event reason : String) =>
    { r with phase := .returning lease watchId false }.report
      [.observe event reason, .stopTiming 2 now]
  match answer with
  | .thrown => (sv, returning r "activation_pending" "indexer_unavailable")
  | .absent => (sv, returning r "activation_pending" "lookup_absent")
  | .transfer transfer =>
      match sv.store.getWatch watchId with
      | none => (sv, returning r "activation_pending" "unknown")
      | some watch =>
          if confirmsSettlement evidence transfer watch = false then
            ({ sv with store := sv.store.markSettlementInvalid watchId },
              returning r "activation_rejected" "evidence_mismatch")
          else
            let written := sv.store.activateWatch clock watchId evidence (some transfer.round)
            ({ sv with store := written.1 },
              match written.2 with
              | .error _ => returning r "activation_pending" "activation_write_failed"
              | .ok _ =>
                  returning { r with activated := some transfer } "activation_confirmed"
                    "activated")

/-- `onSettleFailure`. -/
def settleFailed (lease : Option ℕ) (watchId : JsString) : PaidServer × RouteRequest :=
  ({ sv with store := sv.store.markSettlementUnknown watchId },
    { r with phase := .returning lease watchId false })

end Middlewares

/-! ## Acts -/

/-- What happens to a request next.  `now` is `performance.now()`, `clock` the clock of
the store. -/
inductive PaidAct where
  | preChallenge (answer : ReadinessAnswer) (now : ℚ)
  | demo (now : ℚ)
  | readBody (outcome : Except BodyError Json) (now : ℚ)
  /-- x402 calls the facilitator, or the facilitator has answered. -/
  | client (call : AcceptanceCall)
  /-- x402 answers without the handler; a demo request is answered with it or without. -/
  | protocolAnswered (status : ℕ) (offer : Bool)
  | verified (now : ℚ)
  | prePrepare (answer : ReadinessAnswer) (clock : ℤ) (id : JsString) (now : ℚ)
  | settled (evidence : SettlementEvidence) (now : ℚ)
  | settleFailed
  | lookedUp (answer : LookupAnswer) (clock : ℤ) (now : ℚ)
  | returned (status : ℕ)

/-- A call of the facilitator client. -/
def AcceptanceCall.isClient : AcceptanceCall → Bool
  | .invoke .. | .answer .. => true
  | _ => false

/-- The unsigned offer that the last middleware recognizes. -/
def RouteRequest.challenged (r : RouteRequest) (status : ℕ) (offer : Bool) : RouteRequest :=
  if r.paymentHeader = none ∧ status = 402 ∧ offer = true then
    r.report [.observe "challenge_issued" "payment_required"]
  else r

/-- One act of a request.  An act that its phase does not wait for changes nothing. -/
def advance (cfg : CreateConfig) (sv : PaidServer) (r : RouteRequest) (act : PaidAct) :
    PaidServer × RouteRequest :=
  match r.phase, act with
  | .arrived, .preChallenge answer now =>
      if r.resource = .watch then preChallenge cfg sv r answer now else (sv, r)
  | .arrived, .demo now => if r.resource = .demo then admitPayment cfg sv r now none else (sv, r)
  | .readingBody lease, .readBody outcome now => readBody cfg sv r lease outcome now
  | .protocol lease _, .protocolAnswered status offer =>
      leave sv (r.challenged status offer) lease status none
  | .protocol lease spec, .verified now =>
      if r.resource = .watch then beginPreparation cfg sv r lease spec now else (sv, r)
  | .prePrepare lease spec intent, .prePrepare answer clock id now =>
      prepare sv r lease spec intent answer clock id now
  | .settling lease watchId, .settled evidence now => afterSettled sv r lease watchId evidence now
  | .settling lease watchId, .settleFailed => settleFailed sv r lease watchId
  | .activating lease watchId evidence, .lookedUp answer clock now =>
      activate sv r lease watchId evidence answer clock now
  | .returning lease watchId true, .settleFailed => settleFailed sv r lease watchId
  | .returning lease watchId _, .returned status => leave sv r lease status (some watchId)
  | .protocol .., .client call | .settling .., .client call =>
      if call.isClient then (sv, r.report [call]) else (sv, r)
  | _, _ => (sv, r)

/-- **What an act can be.**  Every branch of `advance` that does something, with the phase
it was waited for in. -/
inductive Advanced (cfg : CreateConfig) (sv : PaidServer) (r : RouteRequest) :
    PaidServer × RouteRequest → Prop
  | stay : Advanced cfg sv r (sv, r)
  | preChallenge (answer : ReadinessAnswer) (now : ℚ) : r.phase = .arrived →
      r.resource = .watch → Advanced cfg sv r (preChallenge cfg sv r answer now)
  | demo (now : ℚ) : r.phase = .arrived → r.resource = .demo →
      Advanced cfg sv r (admitPayment cfg sv r now none)
  | readBody {lease : ℕ} (outcome : Except BodyError Json) (now : ℚ) :
      r.phase = .readingBody lease → Advanced cfg sv r (readBody cfg sv r lease outcome now)
  | protocolAnswered {lease : Option ℕ} {spec : Option WatchSpec} (status : ℕ) (offer : Bool) :
      r.phase = .protocol lease spec →
      Advanced cfg sv r (leave sv (r.challenged status offer) lease status none)
  | verified {lease : Option ℕ} {spec : Option WatchSpec} (now : ℚ) :
      r.phase = .protocol lease spec → r.resource = .watch →
      Advanced cfg sv r (beginPreparation cfg sv r lease spec now)
  | prePrepare {lease : Option ℕ} {spec : WatchSpec} {intent : Option SettlementIntent}
      (answer : ReadinessAnswer) (clock : ℤ) (id : JsString) (now : ℚ) :
      r.phase = .prePrepare lease spec intent →
      Advanced cfg sv r (prepare sv r lease spec intent answer clock id now)
  | settled {lease : Option ℕ} {watchId : JsString} (evidence : SettlementEvidence) (now : ℚ) :
      r.phase = .settling lease watchId →
      Advanced cfg sv r (afterSettled sv r lease watchId evidence now)
  | settleFailed {lease : Option ℕ} {watchId : JsString} :
      r.phase = .settling lease watchId ∨ r.phase = .returning lease watchId true →
      Advanced cfg sv r (settleFailed sv r lease watchId)
  | lookedUp {lease : Option ℕ} {watchId : JsString} {evidence : SettlementEvidence}
      (answer : LookupAnswer) (clock : ℤ) (now : ℚ) :
      r.phase = .activating lease watchId evidence →
      Advanced cfg sv r (activate sv r lease watchId evidence answer clock now)
  | returned {lease : Option ℕ} {watchId : JsString} {threw : Bool} (status : ℕ) :
      r.phase = .returning lease watchId threw →
      Advanced cfg sv r (leave sv r lease status (some watchId))
  | client {call : AcceptanceCall} : call.isClient = true → Advanced cfg sv r (sv, r.report [call])

theorem advanced (cfg : CreateConfig) (sv : PaidServer) (r : RouteRequest) (act : PaidAct) :
    Advanced cfg sv r (advance cfg sv r act) := by
  unfold advance
  split
  · split
    · exact .preChallenge _ _ (by assumption) (by assumption)
    · exact .stay
  · split
    · exact .demo _ (by assumption) (by assumption)
    · exact .stay
  · exact .readBody _ _ (by assumption)
  · exact .protocolAnswered _ _ (by assumption)
  · split
    · exact .verified _ (by assumption) (by assumption)
    · exact .stay
  · exact .prePrepare _ _ _ _ (by assumption)
  · exact .settled _ _ (by assumption)
  · exact .settleFailed (.inl (by assumption))
  · exact .lookedUp _ _ _ (by assumption)
  · exact .settleFailed (.inr (by assumption))
  · exact .returned _ (by assumption)
  · split
    · exact .client (by assumption)
    · exact .stay
  · split
    · exact .client (by assumption)
    · exact .stay
  · exact .stay

/-! ## What the stretches leave alone -/

namespace RouteRequest

variable (r : RouteRequest) (calls : List AcceptanceCall) (status : ℕ)

@[simp] theorem report_phase : (r.report calls).phase = r.phase := by
  unfold report
  split <;> rfl

@[simp] theorem report_toPaidDeeds : (r.report calls).toPaidDeeds = r.toPaidDeeds := by
  unfold report
  split <;> rfl

@[simp] theorem answer_toPaidDeeds : (r.answer status).toPaidDeeds = r.toPaidDeeds := by
  simp [answer]

@[simp] theorem refuse_toPaidDeeds (event reason : String) :
    (r.refuse event reason status).toPaidDeeds = r.toPaidDeeds := by
  simp [refuse]

@[simp] theorem enterProtocol_toPaidDeeds (lease : Option ℕ) (spec : Option WatchSpec) :
    (r.enterProtocol lease spec).toPaidDeeds = r.toPaidDeeds := by
  simp [enterProtocol]

@[simp] theorem challenged_toPaidDeeds (offer : Bool) :
    (r.challenged status offer).toPaidDeeds = r.toPaidDeeds := by
  unfold challenged
  split
  · simp
  · rfl

@[simp] theorem answer_phase : (r.answer status).phase = .answered status := by
  simp [answer]

@[simp] theorem refuse_phase (event reason : String) :
    (r.refuse event reason status).phase = .answered status := by
  simp [refuse]

@[simp] theorem enterProtocol_phase (lease : Option ℕ) (spec : Option WatchSpec) :
    (r.enterProtocol lease spec).phase = .protocol lease spec := by
  simp [enterProtocol]

end RouteRequest

section Stretches

variable (cfg : CreateConfig) (sv : PaidServer) (r : RouteRequest)

@[simp] theorem admitPayment_toPaidDeeds (now : ℚ) (spec : Option WatchSpec) :
    (admitPayment cfg sv r now spec).2.toPaidDeeds = r.toPaidDeeds := by
  unfold admitPayment
  dsimp only
  repeat' split
  all_goals simp

@[simp] theorem admitPayment_store (now : ℚ) (spec : Option WatchSpec) :
    (admitPayment cfg sv r now spec).1.store = sv.store := by
  unfold admitPayment
  dsimp only
  repeat' split
  all_goals rfl

@[simp] theorem admitBody_toPaidDeeds (now : ℚ) :
    (admitBody cfg sv r now).2.toPaidDeeds = r.toPaidDeeds := by
  unfold admitBody
  dsimp only
  split <;> simp

@[simp] theorem preChallenge_toPaidDeeds (answer : ReadinessAnswer) (now : ℚ) :
    (preChallenge cfg sv r answer now).2.toPaidDeeds = r.toPaidDeeds := by
  unfold preChallenge
  dsimp only
  repeat' split
  all_goals simp

@[simp] theorem preChallenge_store (answer : ReadinessAnswer) (now : ℚ) :
    (preChallenge cfg sv r answer now).1.store = sv.store := by
  unfold preChallenge
  dsimp only
  repeat' split
  all_goals first | rfl | exact admitPayment_store ..

@[simp] theorem readBody_toPaidDeeds (lease : ℕ) (outcome : Except BodyError Json) (now : ℚ) :
    (readBody cfg sv r lease outcome now).2.toPaidDeeds = r.toPaidDeeds := by
  unfold readBody
  dsimp only
  repeat' split
  all_goals simp

@[simp] theorem readBody_store (lease : ℕ) (outcome : Except BodyError Json) (now : ℚ) :
    (readBody cfg sv r lease outcome now).1.store = sv.store := by
  unfold readBody
  dsimp only
  repeat' split
  all_goals first | rfl | exact admitPayment_store ..

@[simp] theorem leave_toPaidDeeds (lease : Option ℕ) (status : ℕ) (watchId : Option JsString) :
    (leave sv r lease status watchId).2.toPaidDeeds = r.toPaidDeeds := by
  unfold leave
  dsimp only
  split_ifs <;> simp

@[simp] theorem leave_store (lease : Option ℕ) (status : ℕ) (watchId : Option JsString) :
    (leave sv r lease status watchId).1.store = sv.store := by
  unfold leave
  dsimp only
  split_ifs <;> rfl

/-- A request that leaves has its answer: the status it was given, or 500. -/
theorem leave_phase (lease : Option ℕ) (status : ℕ) (watchId : Option JsString) :
    (leave sv r lease status watchId).2.phase = .answered status ∧
        (400 ≤ status ∨ r.resource = .demo ∨ ∃ id watch, watchId = some id ∧
          sv.store.getWatch id = some watch ∧ (watch.state = .active ∨ watch.state = .matched)) ∨
      (leave sv r lease status watchId).2.phase = .answered 500 := by
  unfold leave
  dsimp only
  split_ifs with hthrough hactive
  · exact .inl ⟨by simp, hthrough.elim .inl fun h => .inr (.inl h)⟩
  · obtain ⟨watch, hwatch, hstate⟩ := (Option.any_eq_true _ _).1 hactive
    obtain ⟨id, hid, hget⟩ := Option.bind_eq_some_iff.1 hwatch
    exact .inl ⟨by simp, .inr (.inr ⟨id, watch, hid, hget, by simpa using hstate⟩)⟩
  · exact .inr (by simp)

end Stretches

/-! ## The application -/

structure PaidApp extends PaidServer where
  requests : List RouteRequest

/-- What happens to the application.  `elsewhere` is any store operation of the workers,
the refund tool and the other routes: none of them prepares a watch or opens the store. -/
inductive PaidEvent where
  | arrive (resource : PaidResource) (requestId : JsString) (paymentHeader : Option JsString)
      (now : ℚ)
  | act (request : ℕ) (act : PaidAct)
  | elsewhere (op : StoreOp)
  | restart (config : StoreConfig) (now : ℚ)

/-- The operations that only the create route and the start of the process call. -/
def StoreOp.isElsewhere : StoreOp → Bool
  | .prepareWatch .. | .reopen _ => false
  | _ => true

namespace PaidApp

/-- A new request; the create route starts its record. -/
def arrived (resource : PaidResource) (requestId : JsString) (paymentHeader : Option JsString)
    (now : ℚ) : RouteRequest :=
  let r : RouteRequest :=
    { resource := resource
      paymentHeader := paymentHeader
      phase := .arrived
      verified := false
      purchase := none
      settled := none
      activated := none
      session := AcceptanceSession.admitted requestId paymentHeader.isSome }
  r.report [.stage "readiness", .startTiming .preChallenge now]

/-- The process ends with whatever it was doing. -/
def dropped (r : RouteRequest) : RouteRequest :=
  match r.phase with
  | .answered _ => r
  | _ => { r with phase := .lost }

def opened (cfg : CreateConfig) (s : Store) (now : ℚ) (requests : List RouteRequest) : PaidApp where
  store := s
  signedWatchBodyGate := SignedPaymentGate.create cfg.signedWatchBodyGateOptions now
  signedPaymentGate := SignedPaymentGate.create cfg.signedPaymentGateOptions now
  requests := requests

def step (cfg : CreateConfig) (a : PaidApp) : PaidEvent → PaidApp
  | .arrive resource requestId paymentHeader now =>
      { a with requests := a.requests ++ [arrived resource requestId paymentHeader now] }
  | .act request act =>
      match a.requests[request]? with
      | none => a
      | some r =>
          let result := advance cfg a.toPaidServer r act
          { toPaidServer := result.1, requests := a.requests.set request result.2 }
  | .elsewhere op => if op.isElsewhere then { a with store := a.store.apply op } else a
  | .restart config now => opened cfg (a.store.reopen config) now (a.requests.map dropped)

/-- The application after a schedule, from the store it was started with. -/
def after (cfg : CreateConfig) (s : Store) (start : ℚ) (es : List PaidEvent) : PaidApp :=
  Runs.run (step cfg) (opened cfg s start []) es

end PaidApp

end RoundWatch
