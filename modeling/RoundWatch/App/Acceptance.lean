import RoundWatch.Foundation.Sessions
import RoundWatch.Foundation.Text
import Mathlib.Algebra.Order.Floor.Ring
import Mathlib.Data.Rat.Floor

/-!
# The acceptance funnel

Every paid-create request carries a small record of how far it got: a last event
with a reason, the stage it is in, what is known of its payment, and how long the
phases took.  The route and the facilitator client report to it by label, and
labels that `definitions` does not list are dropped, so no remote text gets in.
When the response is known, `finishAcceptance` turns the record into one verdict
and closes it; what reports later is lost.

* `AcceptanceOutcome` — an event with a reason listed for it, by construction.
* `AcceptanceContext` — the record of one request, with the lines it has logged.
* `AcceptanceCall` — the calls that reach it while its request is served.

Requests run side by side, each inside its own asynchronous context.
`acceptance_records` says that the records of one request are those of its own
calls under every schedule, and what the lines and the verdict can say.
-/

namespace RoundWatch

open JsText

/-! ## Labels -/

inductive AcceptanceStage where
  | ingress
  | paymentProtocol
  | bodyValidation
  | paymentHeader
  | admission
  | readiness
  | verification
  | preparation
  | settlement
  | activation
  | completion
  | unknown
  deriving DecidableEq, Repr

inductive AcceptanceReason where
  | headerPresent
  | paymentRequired
  | jsonInvalid
  | bodyTooLarge
  | bodyTimeout
  | bodyNotObject
  | idempotencyInvalid
  | senderInvalid
  | receiverInvalid
  | amountInvalid
  | noteInvalid
  | zeroSender
  | exampleKey
  | exampleNote
  | headerTooLarge
  | headerEncodingInvalid
  | bodyRate
  | bodyConcurrency
  | verificationRate
  | verificationConcurrency
  | readinessBlocked
  | readinessException
  | sdkPreverificationUnknown
  | verificationInvalid
  | providerTimeout
  | providerResponseInvalid
  | providerError
  | unknown
  | sameSpec
  | differentSpec
  | legacyReservation
  | global
  | payer
  | prepared
  | settlementIdentity
  | prepareFailed
  | facilitatorConfirmed
  | timeout
  | unconfirmed
  | activated
  | indexerUnavailable
  | lookupAbsent
  | activationWriteFailed
  | evidenceMismatch
  | completed
  deriving DecidableEq, Repr

inductive AcceptanceEvent where
  | signedRequestReceived
  | challengeIssued
  | bodyValidationRejected
  | paymentHeaderRejected
  | signedRequestRateLimited
  | admissionUnavailable
  | paymentProtocolRejected
  | paymentVerificationRejected
  | paymentVerificationUnavailable
  | idempotencyReplayed
  | idempotencyConflicted
  | capacityRejected
  | durablePrepared
  | internalAdmissionFailed
  | settlementConfirmed
  | settlementAmbiguous
  | activationConfirmed
  | activationPending
  | activationRejected
  | purchaseCompleted
  | purchaseFailedUnknown
  deriving DecidableEq, Repr

def AcceptanceStage.label : AcceptanceStage → String
  | .ingress => "ingress"
  | .paymentProtocol => "payment_protocol"
  | .bodyValidation => "body_validation"
  | .paymentHeader => "payment_header"
  | .admission => "admission"
  | .readiness => "readiness"
  | .verification => "verification"
  | .preparation => "preparation"
  | .settlement => "settlement"
  | .activation => "activation"
  | .completion => "completion"
  | .unknown => "unknown"

def AcceptanceReason.label : AcceptanceReason → String
  | .headerPresent => "header_present"
  | .paymentRequired => "payment_required"
  | .jsonInvalid => "json_invalid"
  | .bodyTooLarge => "body_too_large"
  | .bodyTimeout => "body_timeout"
  | .bodyNotObject => "body_not_object"
  | .idempotencyInvalid => "idempotency_invalid"
  | .senderInvalid => "sender_invalid"
  | .receiverInvalid => "receiver_invalid"
  | .amountInvalid => "amount_invalid"
  | .noteInvalid => "note_invalid"
  | .zeroSender => "zero_sender"
  | .exampleKey => "example_key"
  | .exampleNote => "example_note"
  | .headerTooLarge => "header_too_large"
  | .headerEncodingInvalid => "header_encoding_invalid"
  | .bodyRate => "body_rate"
  | .bodyConcurrency => "body_concurrency"
  | .verificationRate => "verification_rate"
  | .verificationConcurrency => "verification_concurrency"
  | .readinessBlocked => "readiness_blocked"
  | .readinessException => "readiness_exception"
  | .sdkPreverificationUnknown => "sdk_preverification_unknown"
  | .verificationInvalid => "verification_invalid"
  | .providerTimeout => "provider_timeout"
  | .providerResponseInvalid => "provider_response_invalid"
  | .providerError => "provider_error"
  | .unknown => "unknown"
  | .sameSpec => "same_spec"
  | .differentSpec => "different_spec"
  | .legacyReservation => "legacy_reservation"
  | .global => "global"
  | .payer => "payer"
  | .prepared => "prepared"
  | .settlementIdentity => "settlement_identity"
  | .prepareFailed => "prepare_failed"
  | .facilitatorConfirmed => "facilitator_confirmed"
  | .timeout => "timeout"
  | .unconfirmed => "unconfirmed"
  | .activated => "activated"
  | .indexerUnavailable => "indexer_unavailable"
  | .lookupAbsent => "lookup_absent"
  | .activationWriteFailed => "activation_write_failed"
  | .evidenceMismatch => "evidence_mismatch"
  | .completed => "completed"

namespace AcceptanceEvent

def label : AcceptanceEvent → String
  | signedRequestReceived => "signed_request_received"
  | challengeIssued => "challenge_issued"
  | bodyValidationRejected => "body_validation_rejected"
  | paymentHeaderRejected => "payment_header_rejected"
  | signedRequestRateLimited => "signed_request_rate_limited"
  | admissionUnavailable => "admission_unavailable"
  | paymentProtocolRejected => "payment_protocol_rejected"
  | paymentVerificationRejected => "payment_verification_rejected"
  | paymentVerificationUnavailable => "payment_verification_unavailable"
  | idempotencyReplayed => "idempotency_replayed"
  | idempotencyConflicted => "idempotency_conflicted"
  | capacityRejected => "capacity_rejected"
  | durablePrepared => "durable_prepared"
  | internalAdmissionFailed => "internal_admission_failed"
  | settlementConfirmed => "settlement_confirmed"
  | settlementAmbiguous => "settlement_ambiguous"
  | activationConfirmed => "activation_confirmed"
  | activationPending => "activation_pending"
  | activationRejected => "activation_rejected"
  | purchaseCompleted => "purchase_completed"
  | purchaseFailedUnknown => "purchase_failed_unknown"

/-- The table `definitions`: the stage of an event and the reasons it may have. -/
def definition : AcceptanceEvent → AcceptanceStage × List AcceptanceReason
  | signedRequestReceived => (.ingress, [.headerPresent])
  | challengeIssued => (.paymentProtocol, [.paymentRequired])
  | bodyValidationRejected =>
      (.bodyValidation,
        [.jsonInvalid, .bodyTooLarge, .bodyTimeout, .bodyNotObject, .idempotencyInvalid,
          .senderInvalid, .receiverInvalid, .amountInvalid, .noteInvalid, .zeroSender,
          .exampleKey, .exampleNote])
  | paymentHeaderRejected => (.paymentHeader, [.headerTooLarge, .headerEncodingInvalid])
  | signedRequestRateLimited =>
      (.admission, [.bodyRate, .bodyConcurrency, .verificationRate, .verificationConcurrency])
  | admissionUnavailable => (.readiness, [.readinessBlocked, .readinessException])
  | paymentProtocolRejected => (.paymentProtocol, [.sdkPreverificationUnknown])
  | paymentVerificationRejected => (.verification, [.verificationInvalid])
  | paymentVerificationUnavailable =>
      (.verification, [.providerTimeout, .providerResponseInvalid, .providerError, .unknown])
  | idempotencyReplayed => (.preparation, [.sameSpec])
  | idempotencyConflicted => (.preparation, [.differentSpec, .legacyReservation])
  | capacityRejected => (.preparation, [.global, .payer])
  | durablePrepared => (.preparation, [.prepared])
  | internalAdmissionFailed => (.preparation, [.settlementIdentity, .prepareFailed, .unknown])
  | settlementConfirmed => (.settlement, [.facilitatorConfirmed])
  | settlementAmbiguous => (.settlement, [.timeout, .providerError, .unconfirmed])
  | activationConfirmed => (.activation, [.activated])
  | activationPending =>
      (.activation, [.indexerUnavailable, .lookupAbsent, .activationWriteFailed, .unknown])
  | activationRejected => (.activation, [.evidenceMismatch])
  | purchaseCompleted => (.completion, [.completed])
  | purchaseFailedUnknown => (.unknown, [.unknown])

def stage (e : AcceptanceEvent) : AcceptanceStage := e.definition.1

def reasons (e : AcceptanceEvent) : List AcceptanceReason := e.definition.2

/-- The events in the order of the table. -/
def all : List AcceptanceEvent :=
  [signedRequestReceived, challengeIssued, bodyValidationRejected, paymentHeaderRejected,
    signedRequestRateLimited, admissionUnavailable, paymentProtocolRejected,
    paymentVerificationRejected, paymentVerificationUnavailable, idempotencyReplayed,
    idempotencyConflicted, capacityRejected, durablePrepared, internalAdmissionFailed,
    settlementConfirmed, settlementAmbiguous, activationConfirmed, activationPending,
    activationRejected, purchaseCompleted, purchaseFailedUnknown]

/-- `Object.hasOwn(definitions, event)`, with the event it names. -/
def ofLabel (l : String) : Option AcceptanceEvent := all.find? fun e => e.label == l

/-- The events that `observeAcceptance` writes a line for at once. -/
def isMilestone : AcceptanceEvent → Bool
  | signedRequestReceived | durablePrepared | settlementConfirmed | activationConfirmed => true
  | _ => false

end AcceptanceEvent

/-- A stage that some definition has. -/
def AcceptanceStage.ofLabel (l : String) : Option AcceptanceStage :=
  (AcceptanceEvent.all.map AcceptanceEvent.stage).find? fun stage => stage.label == l

/-- An event with a reason that its definition lists. -/
structure AcceptanceOutcome where
  event : AcceptanceEvent
  reason : AcceptanceReason
  listed : reason ∈ event.reasons
  deriving DecidableEq

/-- `reasons.includes(reason)`, with the outcome it allows. -/
def AcceptanceOutcome.ofLabels (event reason : String) : Option AcceptanceOutcome :=
  (AcceptanceEvent.ofLabel event).bind fun e =>
    (e.reasons.attach.find? fun r => r.val.label == reason).map fun r => ⟨e, r.val, r.property⟩

/-- What is known of a request before anything was reported. -/
def AcceptanceOutcome.unknown : AcceptanceOutcome := ⟨.purchaseFailedUnknown, .unknown, by decide⟩

/-! ## The record of a request -/

inductive ReadinessPhase where
  | preChallenge
  | prePrepare
  deriving DecidableEq, Repr

inductive TimingPhase where
  | preChallenge
  | prePrepare
  | verification
  | settlement
  | activation
  deriving DecidableEq, Repr

/-- `readinessKeys`. -/
inductive ReadinessKey where
  | storage
  | poller
  | reconciler
  | backgroundWorkers
  | diskHeadroom
  | capabilityEvidenceFresh
  | readinessCheck
  deriving DecidableEq, Repr

def ReadinessKey.name : ReadinessKey → String
  | .storage => "storage"
  | .poller => "poller"
  | .reconciler => "reconciler"
  | .backgroundWorkers => "backgroundWorkers"
  | .diskHeadroom => "diskHeadroom"
  | .capabilityEvidenceFresh => "capabilityEvidenceFresh"
  | .readinessCheck => "readinessCheck"

def readinessKeys : List ReadinessKey :=
  [.storage, .poller, .reconciler, .backgroundWorkers, .diskHeadroom, .capabilityEvidenceFresh,
    .readinessCheck]

/-- `phaseDurationMs`: what has been timed so far. -/
structure PhaseDurations where
  preChallenge : Option ℚ
  prePrepare : Option ℚ
  verification : Option ℚ
  settlement : Option ℚ
  activation : Option ℚ
  deriving DecidableEq

def PhaseDurations.none : PhaseDurations := ⟨.none, .none, .none, .none, .none⟩

def PhaseDurations.set (d : PhaseDurations) (ms : ℚ) : TimingPhase → PhaseDurations
  | .preChallenge => { d with preChallenge := some ms }
  | .prePrepare => { d with prePrepare := some ms }
  | .verification => { d with verification := some ms }
  | .settlement => { d with settlement := some ms }
  | .activation => { d with activation := some ms }

structure AcceptanceSnapshot where
  outcome : AcceptanceOutcome
  stage : AcceptanceStage
  verificationClientInvoked : Option Bool
  verificationConfirmed : Option Bool
  durablePrepared : Option Bool
  settlementClientInvoked : Option Bool
  settlementConfirmed : Option Bool
  activationConfirmed : Option Bool
  readinessPhase : Option ReadinessPhase
  readinessChecks : Option (List (ReadinessKey × Bool))
  phaseDurationMs : PhaseDurations
  deriving DecidableEq

/-- A milestone line. -/
structure AcceptanceLogEvent where
  requestId : JsString
  paymentPresented : Bool
  snapshot : AcceptanceSnapshot
  deriving DecidableEq

/-- The record of a request.  `lines` is what it has handed to its sink: a sink
that throws is contained, so whether a line arrives changes nothing here. -/
structure AcceptanceContext where
  requestId : JsString
  paymentPresented : Bool
  snapshot : AcceptanceSnapshot
  closed : Bool
  started : Bool
  lines : List AcceptanceLogEvent

def unknownAcceptance : AcceptanceSnapshot where
  outcome := .unknown
  stage := .unknown
  verificationClientInvoked := none
  verificationConfirmed := none
  durablePrepared := none
  settlementClientInvoked := none
  settlementConfirmed := none
  activationConfirmed := none
  readinessPhase := none
  readinessChecks := none
  phaseDurationMs := .none

def createAcceptanceContext (requestId : JsString) (paymentPresented : Bool) :
    AcceptanceContext where
  requestId := requestId
  paymentPresented := paymentPresented
  snapshot := unknownAcceptance
  closed := false
  started := false
  lines := []

/-- `Number(x.toFixed(2))`. -/
def toFixed2 (x : ℚ) : ℚ := ⌊x * 100 + 1 / 2⌋ / 100

namespace AcceptanceContext

/-- `observe`: a closed record hears nothing. -/
def observe (work : AcceptanceContext → AcceptanceContext) (c : AcceptanceContext) :
    AcceptanceContext :=
  if c.closed then c else work c

def setSnapshot (c : AcceptanceContext) (s : AcceptanceSnapshot) : AcceptanceContext :=
  { c with snapshot := s }

/-- The flag that an event confirms. -/
def confirm (event : AcceptanceEvent) (s : AcceptanceSnapshot) : AcceptanceSnapshot :=
  match event with
  | .durablePrepared => { s with durablePrepared := some true }
  | .settlementConfirmed => { s with settlementConfirmed := some true }
  | .activationConfirmed => { s with activationConfirmed := some true }
  | _ => s

/-- What `observeAcceptance` does with a listed outcome. -/
def record (outcome : AcceptanceOutcome) (c : AcceptanceContext) : AcceptanceContext :=
  let s := confirm outcome.event
    { c.snapshot with outcome := outcome, stage := outcome.event.stage }
  { c with
    snapshot := s
    lines := if outcome.event.isMilestone then c.lines ++ [⟨c.requestId, c.paymentPresented, s⟩]
      else c.lines }

def observeAcceptance (event reason : String) : AcceptanceContext → AcceptanceContext :=
  observe fun c => (AcceptanceOutcome.ofLabels event reason).elim c fun outcome => c.record outcome

/-- All that a started request has not done yet. -/
def begun (s : AcceptanceSnapshot) : AcceptanceSnapshot :=
  { s with
    stage := .ingress
    verificationClientInvoked := some false
    verificationConfirmed := some false
    durablePrepared := some false
    settlementClientInvoked := some false
    settlementConfirmed := some false
    activationConfirmed := some false }

def beginAcceptance : AcceptanceContext → AcceptanceContext :=
  observe fun c =>
    if c.started then c
    else
      let c := { c with started := true, snapshot := begun c.snapshot }
      if c.paymentPresented then observeAcceptance "signed_request_received" "header_present" c
      else c

def observeAcceptanceStage (stage : String) : AcceptanceContext → AcceptanceContext :=
  observe fun c => (AcceptanceStage.ofLabel stage).elim c fun stage =>
    c.setSnapshot { c.snapshot with stage := stage }

/-- The checks with a name on the list, in its order. -/
def safeChecks (checks : List (String × Bool)) : List (ReadinessKey × Bool) :=
  readinessKeys.filterMap fun key => (checks.lookup key.name).map fun value => (key, value)

def observeReadinessFailure (phase : ReadinessPhase) (exception : Bool)
    (checks : List (String × Bool)) (c : AcceptanceContext) : AcceptanceContext :=
  observe (fun c => c.setSnapshot
      { c.snapshot with readinessPhase := some phase, readinessChecks := some (safeChecks checks) })
    (observeAcceptance "admission_unavailable"
      (if exception then "readiness_exception" else "readiness_blocked") c)

/-- The reading that `startAcceptanceTiming` keeps in its closure. -/
def startAcceptanceTiming (now : ℚ) (c : AcceptanceContext) : Option ℚ :=
  if c.closed then none else some now

/-- The closure that `startAcceptanceTiming` returns. -/
def finishTiming (phase : TimingPhase) (started : Option ℚ) (now : ℚ) :
    AcceptanceContext → AcceptanceContext :=
  observe fun c => started.elim c fun started =>
    c.setSnapshot { c.snapshot with
      phaseDurationMs := c.snapshot.phaseDurationMs.set (toFixed2 (max 0 (now - started))) phase }

/-- A `purchase_completed` that the response or the flags do not bear out. -/
def unearned (status : ℕ) (s : AcceptanceSnapshot) : Bool :=
  status < 200 || 300 ≤ status || s.settlementConfirmed ≠ some true ||
    s.activationConfirmed ≠ some true

/-- The one verdict that `finishAcceptance` makes of a record. -/
def verdict (paymentPresented : Bool) (status : ℕ) (s : AcceptanceSnapshot) : AcceptanceSnapshot :=
  if s.settlementConfirmed = some true ∧ s.activationConfirmed ≠ some true ∧
      s.outcome.event ≠ .activationPending ∧ s.outcome.event ≠ .activationRejected then
    { s with outcome := ⟨.activationPending, .unknown, by decide⟩, stage := .activation }
  else if s.settlementClientInvoked = some true ∧ s.settlementConfirmed ≠ some true then
    if s.outcome.event ≠ .settlementAmbiguous then
      { s with outcome := ⟨.settlementAmbiguous, .unconfirmed, by decide⟩, stage := .settlement }
    else s
  else if s.stage = .paymentProtocol ∧ status = 402 ∧ paymentPresented = true ∧
      s.verificationClientInvoked = some false then
    { s with outcome := ⟨.paymentProtocolRejected, .sdkPreverificationUnknown, by decide⟩ }
  else if s.outcome.event = .signedRequestReceived ∨ s.outcome.event = .durablePrepared ∨
      s.outcome.event = .activationConfirmed ∨
      (s.outcome.event = .purchaseCompleted ∧ unearned status s = true) then
    { s with outcome := .unknown }
  else s

/-- `finishAcceptance`: the record with its verdict, closed. -/
def finishAcceptance (c : AcceptanceContext) (status : ℕ) : AcceptanceContext :=
  { c with snapshot := verdict c.paymentPresented status c.snapshot, closed := true }

end AcceptanceContext

/-! ## The calls of a request -/

/-- The calls that `observeFacilitatorClient` wraps. -/
inductive FacilitatorOperation where
  | verify
  | settle
  deriving DecidableEq, Repr

def FacilitatorOperation.phase : FacilitatorOperation → TimingPhase
  | .verify => .verification
  | .settle => .settlement

/-- How a client call ends: a result whose `isValid` or `success` was read as
given (`none` is anything but a boolean), or an error by its class. -/
inductive ClientAnswer where
  | result (flag : Option Bool)
  | verifyError
  | timeoutError
  | responseError
  | otherError
  deriving DecidableEq, Repr

namespace AcceptanceContext

/-- The client is about to be asked. -/
def invoked (operation : FacilitatorOperation) : AcceptanceContext → AcceptanceContext :=
  observe fun c => c.setSnapshot <| match operation with
    | .verify => { c.snapshot with verificationClientInvoked := some true, stage := .verification }
    | .settle => { c.snapshot with settlementClientInvoked := some true, stage := .settlement }

/-- The client has answered. -/
def answered (operation : FacilitatorOperation) (answer : ClientAnswer) :
    AcceptanceContext → AcceptanceContext :=
  match operation, answer with
  | .verify, .result (some true) =>
      observe fun c => c.setSnapshot { c.snapshot with verificationConfirmed := some true }
  | .verify, .result (some false) =>
      observeAcceptance "payment_verification_rejected" "verification_invalid"
  | .verify, .result none =>
      observeAcceptance "payment_verification_unavailable" "provider_response_invalid"
  | .verify, .verifyError =>
      observeAcceptance "payment_verification_rejected" "verification_invalid"
  | .verify, .timeoutError =>
      observeAcceptance "payment_verification_unavailable" "provider_timeout"
  | .verify, .responseError =>
      observeAcceptance "payment_verification_unavailable" "provider_response_invalid"
  | .verify, .otherError => observeAcceptance "payment_verification_unavailable" "provider_error"
  | .settle, .result (some true) =>
      observeAcceptance "settlement_confirmed" "facilitator_confirmed"
  | .settle, .result _ => observeAcceptance "settlement_ambiguous" "unconfirmed"
  | .settle, .timeoutError => observeAcceptance "settlement_ambiguous" "timeout"
  | .settle, _ => observeAcceptance "settlement_ambiguous" "provider_error"

end AcceptanceContext

/-- A client call that has not been answered, with the reading it started at. -/
structure PendingCall where
  operation : FacilitatorOperation
  started : Option ℚ

/-- What a request reports, in whatever order.  Timers and client calls are named
by their position in the order they were started. -/
inductive AcceptanceCall where
  | begin
  | observe (event reason : String)
  | stage (label : String)
  | readinessFailure (phase : ReadinessPhase) (exception : Bool) (checks : List (String × Bool))
  | startTiming (phase : TimingPhase) (now : ℚ)
  | stopTiming (timer : ℕ) (now : ℚ)
  | invoke (operation : FacilitatorOperation) (now : ℚ)
  | answer (call : ℕ) (answer : ClientAnswer) (now : ℚ)
  /-- The middleware has the response: once a request. -/
  | finish (status : ℕ)

/-- The record of a request with the closures that still hold on to it. -/
structure AcceptanceSession where
  context : AcceptanceContext
  timers : List (TimingPhase × Option ℚ)
  calls : List (Option PendingCall)
  /-- The status and the verdict of the final event. -/
  final : Option (ℕ × AcceptanceSnapshot)

namespace AcceptanceSession

open AcceptanceContext

def opened (requestId : JsString) (paymentPresented : Bool) : AcceptanceSession :=
  ⟨createAcceptanceContext requestId paymentPresented, [], [], none⟩

def onContext (s : AcceptanceSession) (f : AcceptanceContext → AcceptanceContext) :
    AcceptanceSession :=
  { s with context := f s.context }

def step (s : AcceptanceSession) : AcceptanceCall → AcceptanceSession
  | .begin => s.onContext beginAcceptance
  | .observe event reason => s.onContext (observeAcceptance event reason)
  | .stage label => s.onContext (observeAcceptanceStage label)
  | .readinessFailure phase exception checks =>
      s.onContext (observeReadinessFailure phase exception checks)
  | .startTiming phase now =>
      { s with timers := s.timers ++ [(phase, startAcceptanceTiming now s.context)] }
  | .stopTiming timer now =>
      s.timers[timer]?.elim s fun t => s.onContext (finishTiming t.1 t.2 now)
  | .invoke operation now =>
      if s.context.closed then s
      else
        { s with
          context := invoked operation s.context
          calls := s.calls ++ [some ⟨operation, startAcceptanceTiming now s.context⟩] }
  | .answer call answer now =>
      s.calls[call]?.join.elim s fun pending =>
        { s with
          context := finishTiming pending.operation.phase pending.started now
            (answered pending.operation answer s.context)
          calls := s.calls.set call none }
  | .finish status =>
      if s.context.closed then s
      else
        { s with
          context := finishAcceptance s.context status
          final := some (status, (finishAcceptance s.context status).snapshot) }

/-- A session as the route opens it: `beginAcceptance` is its first call. -/
def admitted (requestId : JsString) (paymentPresented : Bool) : AcceptanceSession :=
  (opened requestId paymentPresented).step .begin

/-- All sessions after a schedule. -/
def after (ids : ℕ → JsString) (presented : ℕ → Bool) (es : List (ℕ × AcceptanceCall)) :
    ℕ → AcceptanceSession :=
  Runs.run (Sessions.stepAt step) (fun k => admitted (ids k) (presented k)) es

end AcceptanceSession

/-! ## What is confirmed stays confirmed -/

/-- Whatever the first snapshot has seen happen, the second has seen too. -/
structure AcceptanceSnapshot.Confirms (s s' : AcceptanceSnapshot) : Prop where
  verifyInvoked : s.verificationClientInvoked = some true →
    s'.verificationClientInvoked = some true
  verified : s.verificationConfirmed = some true → s'.verificationConfirmed = some true
  prepared : s.durablePrepared = some true → s'.durablePrepared = some true
  settleInvoked : s.settlementClientInvoked = some true → s'.settlementClientInvoked = some true
  settled : s.settlementConfirmed = some true → s'.settlementConfirmed = some true
  activated : s.activationConfirmed = some true → s'.activationConfirmed = some true

namespace AcceptanceSnapshot.Confirms

variable {s s' s'' : AcceptanceSnapshot}

theorem rfl' : s.Confirms s := ⟨id, id, id, id, id, id⟩

theorem trans (h : s.Confirms s') (h' : s'.Confirms s'') : s.Confirms s'' :=
  ⟨h'.1 ∘ h.1, h'.2 ∘ h.2, h'.3 ∘ h.3, h'.4 ∘ h.4, h'.5 ∘ h.5, h'.6 ∘ h.6⟩

/-- A verdict touches no flag. -/
theorem verdict (presented : Bool) (status : ℕ) :
    s.Confirms (AcceptanceContext.verdict presented status s) := by
  unfold AcceptanceContext.verdict
  split_ifs <;> exact ⟨id, id, id, id, id, id⟩

/-- An outcome confirms one flag at most and withdraws none. -/
theorem record (outcome : AcceptanceOutcome) (c : AcceptanceContext) :
    c.snapshot.Confirms (c.record outcome).snapshot := by
  show c.snapshot.Confirms (AcceptanceContext.confirm _ _)
  cases outcome.event <;>
    first
    | exact ⟨id, id, id, id, id, id⟩
    | exact ⟨id, id, fun _ => rfl, id, id, id⟩
    | exact ⟨id, id, id, id, fun _ => rfl, id⟩
    | exact ⟨id, id, id, id, id, fun _ => rfl⟩

end AcceptanceSnapshot.Confirms

/-- What a milestone line says of itself: its own event, with that event's stage and
the flag the event stands for. -/
structure AcceptanceLogEvent.Milestone (line : AcceptanceLogEvent) : Prop where
  milestone : line.snapshot.outcome.event.isMilestone = true
  stage : line.snapshot.stage = line.snapshot.outcome.event.stage
  prepared : line.snapshot.outcome.event = .durablePrepared →
    line.snapshot.durablePrepared = some true
  settled : line.snapshot.outcome.event = .settlementConfirmed →
    line.snapshot.settlementConfirmed = some true
  activated : line.snapshot.outcome.event = .activationConfirmed →
    line.snapshot.activationConfirmed = some true

@[simp] theorem AcceptanceContext.confirm_outcome (event : AcceptanceEvent)
    (s : AcceptanceSnapshot) : (confirm event s).outcome = s.outcome := by
  cases event <;> rfl

@[simp] theorem AcceptanceContext.confirm_stage (event : AcceptanceEvent)
    (s : AcceptanceSnapshot) : (confirm event s).stage = s.stage := by
  cases event <;> rfl

theorem AcceptanceContext.milestone_record {outcome : AcceptanceOutcome} {c : AcceptanceContext}
    (h : outcome.event.isMilestone = true) :
    AcceptanceLogEvent.Milestone ⟨c.requestId, c.paymentPresented, (c.record outcome).snapshot⟩ := by
  have hevent : (c.record outcome).snapshot.outcome.event = outcome.event := by
    simp [record]
  refine ⟨?_, ?_, ?_, ?_, ?_⟩
  · show (c.record outcome).snapshot.outcome.event.isMilestone = true
    rw [hevent]
    exact h
  · simp [record]
  all_goals
    intro he
    rw [hevent] at he
    simp [record, he, confirm]

/-! ## The invariant of a record -/

namespace AcceptanceContext

/-- A started record: its lines are its own milestones, in an order in which
nothing confirmed is withdrawn, and none says more than the record itself. -/
structure Sound (requestId : JsString) (presented : Bool) (c : AcceptanceContext) : Prop where
  requestId_eq : c.requestId = requestId
  presented_eq : c.paymentPresented = presented
  started : c.started = true
  own : ∀ line ∈ c.lines, line.requestId = requestId ∧ line.paymentPresented = presented
  milestones : ∀ line ∈ c.lines, line.Milestone
  ordered : c.lines.Pairwise fun line line' => line.snapshot.Confirms line'.snapshot
  below : ∀ line ∈ c.lines, line.snapshot.Confirms c.snapshot

variable {requestId : JsString} {presented : Bool} {c : AcceptanceContext}

/-- A change of the snapshot that withdraws nothing. -/
theorem Sound.setSnapshot (h : c.Sound requestId presented) {s : AcceptanceSnapshot}
    (hs : c.snapshot.Confirms s) : (c.setSnapshot s).Sound requestId presented :=
  { h with below := fun line hline => (h.below line hline).trans hs }

theorem Sound.observe (h : c.Sound requestId presented)
    {work : AcceptanceContext → AcceptanceContext}
    (hwork : (work c).Sound requestId presented) : (observe work c).Sound requestId presented := by
  unfold AcceptanceContext.observe
  split
  · exact h
  · exact hwork

theorem Sound.record (h : c.Sound requestId presented) (outcome : AcceptanceOutcome) :
    (c.record outcome).Sound requestId presented := by
  have hconfirms := AcceptanceSnapshot.Confirms.record outcome c
  have hbelow : ∀ line ∈ c.lines, line.snapshot.Confirms (c.record outcome).snapshot :=
    fun line hline => (h.below line hline).trans hconfirms
  by_cases hm : outcome.event.isMilestone = true
  · have hlines : (c.record outcome).lines =
        c.lines ++ [⟨c.requestId, c.paymentPresented, (c.record outcome).snapshot⟩] := by
      simp [AcceptanceContext.record, hm]
    refine ⟨h.requestId_eq, h.presented_eq, h.started, ?_, ?_, ?_, ?_⟩ <;> rw [hlines]
    · intro line hline
      rcases List.mem_append.1 hline with hline | hline
      · exact h.own line hline
      · rw [List.mem_singleton.1 hline]
        exact ⟨h.requestId_eq, h.presented_eq⟩
    · intro line hline
      rcases List.mem_append.1 hline with hline | hline
      · exact h.milestones line hline
      · rw [List.mem_singleton.1 hline]
        exact milestone_record hm
    · refine List.pairwise_append.2 ⟨h.ordered, List.pairwise_singleton _ _, ?_⟩
      intro line hline line' hline'
      rw [List.mem_singleton.1 hline']
      exact hbelow line hline
    · intro line hline
      rcases List.mem_append.1 hline with hline | hline
      · exact hbelow line hline
      · rw [List.mem_singleton.1 hline]
        exact .rfl'
  · have hlines : (c.record outcome).lines = c.lines := by
      simp [AcceptanceContext.record, hm]
    exact ⟨h.requestId_eq, h.presented_eq, h.started, hlines ▸ h.own, hlines ▸ h.milestones,
      hlines ▸ h.ordered, hlines ▸ hbelow⟩

theorem Sound.observeAcceptance (h : c.Sound requestId presented) (event reason : String) :
    (observeAcceptance event reason c).Sound requestId presented := by
  refine h.observe ?_
  cases AcceptanceOutcome.ofLabels event reason with
  | none => exact h
  | some outcome => exact h.record outcome

theorem Sound.observeAcceptanceStage (h : c.Sound requestId presented) (label : String) :
    (observeAcceptanceStage label c).Sound requestId presented := by
  refine h.observe ?_
  cases AcceptanceStage.ofLabel label with
  | none => exact h
  | some stage => exact h.setSnapshot ⟨id, id, id, id, id, id⟩

theorem Sound.observeReadinessFailure (h : c.Sound requestId presented) (phase : ReadinessPhase)
    (exception : Bool) (checks : List (String × Bool)) :
    (observeReadinessFailure phase exception checks c).Sound requestId presented := by
  have h' := h.observeAcceptance "admission_unavailable"
    (if exception then "readiness_exception" else "readiness_blocked")
  exact h'.observe (h'.setSnapshot ⟨id, id, id, id, id, id⟩)

theorem Sound.finishTiming (h : c.Sound requestId presented) (phase : TimingPhase)
    (started : Option ℚ) (now : ℚ) : (finishTiming phase started now c).Sound requestId presented := by
  refine h.observe ?_
  cases started with
  | none => exact h
  | some started => exact h.setSnapshot ⟨id, id, id, id, id, id⟩

theorem Sound.invoked (h : c.Sound requestId presented) (operation : FacilitatorOperation) :
    (invoked operation c).Sound requestId presented := by
  refine h.observe ?_
  cases operation with
  | verify => exact h.setSnapshot ⟨fun _ => rfl, id, id, id, id, id⟩
  | settle => exact h.setSnapshot ⟨id, id, id, fun _ => rfl, id, id⟩

/-- An answer confirms the verification or is one observation. -/
theorem answered_cases (operation : FacilitatorOperation) (answer : ClientAnswer) :
    answered operation answer = observe (fun c =>
        c.setSnapshot { c.snapshot with verificationConfirmed := some true }) ∨
      ∃ event reason, answered operation answer = observeAcceptance event reason := by
  unfold answered
  split
  · exact .inl rfl
  all_goals exact .inr ⟨_, _, rfl⟩

theorem Sound.answered (h : c.Sound requestId presented) (operation : FacilitatorOperation)
    (answer : ClientAnswer) : (answered operation answer c).Sound requestId presented := by
  rcases answered_cases operation answer with heq | ⟨event, reason, heq⟩ <;> rw [heq]
  · exact h.observe (h.setSnapshot ⟨id, fun _ => rfl, id, id, id, id⟩)
  · exact h.observeAcceptance event reason

/-- `beginAcceptance` on a started record changes nothing. -/
theorem Sound.beginAcceptance (h : c.Sound requestId presented) :
    (beginAcceptance c).Sound requestId presented := by
  refine h.observe ?_
  rw [if_pos h.started]
  exact h

theorem Sound.finishAcceptance (h : c.Sound requestId presented) (status : ℕ) :
    (finishAcceptance c status).Sound requestId presented := by
  have hs := h.setSnapshot (AcceptanceSnapshot.Confirms.verdict c.paymentPresented status)
  exact ⟨hs.requestId_eq, hs.presented_eq, hs.started, hs.own, hs.milestones, hs.ordered, hs.below⟩

/-- A record that has just been started. -/
theorem sound_begin (requestId : JsString) (presented : Bool) :
    (beginAcceptance (createAcceptanceContext requestId presented)).Sound requestId presented := by
  have hstart : Sound requestId presented
      { createAcceptanceContext requestId presented with
        started := true, snapshot := begun unknownAcceptance } :=
    ⟨rfl, rfl, rfl, by simp [createAcceptanceContext], by simp [createAcceptanceContext],
      List.Pairwise.nil, by simp [createAcceptanceContext]⟩
  cases presented with
  | false => exact hstart
  | true => exact hstart.observeAcceptance "signed_request_received" "header_present"

end AcceptanceContext

/-! ## The verdict -/

/-- What a verdict may say.  Milestones are separate records and never verdicts; a
settlement that was confirmed without its activation is not lost sight of; one
that was asked for and not confirmed is ambiguous; and a purchase is complete only
when the response and both confirmations bear it out. -/
structure AcceptanceSnapshot.Verdict (status : ℕ) (final : AcceptanceSnapshot) : Prop where
  not_milestone : final.outcome.event ≠ .signedRequestReceived ∧
    final.outcome.event ≠ .durablePrepared ∧ final.outcome.event ≠ .activationConfirmed
  unactivated : final.settlementConfirmed = some true → final.activationConfirmed ≠ some true →
    final.outcome.event = .activationPending ∨ final.outcome.event = .activationRejected ∨
      (status = 402 ∧ final.verificationClientInvoked = some false ∧
        final.outcome.event = .paymentProtocolRejected)
  ambiguous : final.settlementClientInvoked = some true →
    final.settlementConfirmed ≠ some true → final.outcome.event = .settlementAmbiguous
  completed : final.outcome.event = .purchaseCompleted →
    200 ≤ status ∧ status < 300 ∧ final.settlementConfirmed = some true ∧
      final.activationConfirmed = some true

theorem AcceptanceContext.unearned_eq_false {status : ℕ} {s : AcceptanceSnapshot}
    (h : unearned status s ≠ true) :
    200 ≤ status ∧ status < 300 ∧ s.settlementConfirmed = some true ∧
      s.activationConfirmed = some true := by
  replace h := Bool.eq_false_iff.2 h
  simp only [unearned, Bool.or_eq_false_iff, decide_eq_false_iff_not, not_lt, not_le,
    not_not] at h
  exact ⟨h.1.1.1, h.1.1.2, h.1.2, h.2⟩

/-- The verdict on any record whatever is one. -/
theorem AcceptanceContext.verdict_sound (presented : Bool) (status : ℕ) (s : AcceptanceSnapshot) :
    (verdict presented status s).Verdict status := by
  -- what the first two branches leave of a record that passes them
  have hleft : ∀ {event : AcceptanceEvent}, s.outcome.event = event →
      ¬(s.settlementConfirmed = some true ∧ s.activationConfirmed ≠ some true ∧
        s.outcome.event ≠ .activationPending ∧ s.outcome.event ≠ .activationRejected) →
      s.settlementConfirmed = some true → s.activationConfirmed ≠ some true →
      event = .activationPending ∨ event = .activationRejected := by
    intro event hevent hpending hset hact
    by_contra hne
    rw [not_or] at hne
    exact hpending ⟨hset, hact, hevent ▸ hne.1, hevent ▸ hne.2⟩
  unfold verdict
  split_ifs with hpending hinvoked hother hprotocol hplain
  · refine ⟨by simp, fun _ _ => .inl rfl, ?_, by simp⟩
    intro _ hne
    exact absurd hpending.1 hne
  · refine ⟨by simp, ?_, fun _ _ => rfl, by simp⟩
    intro hset
    exact absurd hset hinvoked.2
  · rw [not_not] at hother
    refine ⟨by simp [hother], ?_, fun _ _ => hother, by simp [hother]⟩
    intro hset
    exact absurd hset hinvoked.2
  · refine ⟨by simp, fun _ _ => .inr (.inr ⟨hprotocol.2.1, hprotocol.2.2.2, rfl⟩), ?_, by simp⟩
    intro hinv hne
    exact absurd ⟨hinv, hne⟩ hinvoked
  · -- an event that is not pending or rejected leaves no settlement unactivated
    refine ⟨by simp [AcceptanceOutcome.unknown], ?_, ?_, by simp [AcceptanceOutcome.unknown]⟩
    · intro hset hact
      rcases hleft rfl hpending hset hact with hevent | hevent <;> rw [hevent] at hplain <;>
        simp at hplain
    · intro hinv hne
      exact absurd ⟨hinv, hne⟩ hinvoked
  · simp only [not_or, not_and] at hplain
    refine ⟨⟨hplain.1, hplain.2.1, hplain.2.2.1⟩, ?_, ?_, ?_⟩
    · intro hset hact
      rcases hleft rfl hpending hset hact with hevent | hevent
      · exact .inl hevent
      · exact .inr (.inl hevent)
    · intro hinv hne
      exact absurd ⟨hinv, hne⟩ hinvoked
    · intro hevent
      exact unearned_eq_false (hplain.2.2.2 hevent)

/-! ## Every schedule -/

namespace AcceptanceSession

open AcceptanceContext

/-- What holds of a session at every moment: its record is sound, and it is closed
exactly when it has its verdict, which then is the record's own snapshot. -/
structure Kept (requestId : JsString) (presented : Bool) (s : AcceptanceSession) : Prop where
  sound : s.context.Sound requestId presented
  closed_iff : s.context.closed = true ↔ s.final.isSome
  verdict : ∀ final ∈ s.final, final.2 = s.context.snapshot ∧ final.2.Verdict final.1

variable {requestId : JsString} {presented : Bool} {s : AcceptanceSession}

theorem observe_of_closed {c : AcceptanceContext} (h : c.closed = true)
    (work : AcceptanceContext → AcceptanceContext) : observe work c = c :=
  if_pos h

theorem closed_observe {work : AcceptanceContext → AcceptanceContext} {c : AcceptanceContext}
    (hwork : (work c).closed = c.closed) : (observe work c).closed = c.closed := by
  unfold observe
  split
  · rfl
  · exact hwork

theorem closed_observeAcceptance (event reason : String) (c : AcceptanceContext) :
    (observeAcceptance event reason c).closed = c.closed :=
  closed_observe (by cases AcceptanceOutcome.ofLabels event reason <;> rfl)

theorem answered_of_closed {c : AcceptanceContext} (h : c.closed = true)
    (operation : FacilitatorOperation) (answer : ClientAnswer) :
    answered operation answer c = c := by
  rcases answered_cases operation answer with heq | ⟨event, reason, heq⟩ <;> rw [heq]
  · exact observe_of_closed h _
  · exact observe_of_closed h _

/-- A closed record hears nothing. -/
theorem step_of_closed (h : s.context.closed = true) (call : AcceptanceCall) :
    (s.step call).context = s.context ∧ (s.step call).final = s.final := by
  cases call with
  | begin => exact ⟨show beginAcceptance s.context = s.context from observe_of_closed h _, rfl⟩
  | observe event reason =>
      exact ⟨show observeAcceptance event reason s.context = s.context from
        observe_of_closed h _, rfl⟩
  | stage label =>
      exact ⟨show observeAcceptanceStage label s.context = s.context from
        observe_of_closed h _, rfl⟩
  | readinessFailure phase exception checks =>
      have hfirst : ∀ reason, observeAcceptance "admission_unavailable" reason s.context =
          s.context := fun _ => observe_of_closed h _
      refine ⟨?_, rfl⟩
      show observeReadinessFailure phase exception checks s.context = s.context
      rw [AcceptanceContext.observeReadinessFailure, hfirst, observe_of_closed h]
  | startTiming phase now => exact ⟨rfl, rfl⟩
  | stopTiming timer now =>
      simp only [step]
      cases s.timers[timer]? with
      | none => exact ⟨rfl, rfl⟩
      | some t =>
          exact ⟨show finishTiming t.1 t.2 now s.context = s.context from
            observe_of_closed h _, rfl⟩
  | invoke operation now => simp [step, h]
  | answer call answer now =>
      simp only [step]
      cases s.calls[call]?.join with
      | none => exact ⟨rfl, rfl⟩
      | some pending =>
          refine ⟨?_, rfl⟩
          show finishTiming _ _ _ (answered _ _ s.context) = s.context
          rw [answered_of_closed h]
          exact observe_of_closed h _
  | finish status => simp [step, h]

theorem closed_finishTiming (phase : TimingPhase) (started : Option ℚ) (now : ℚ)
    (c : AcceptanceContext) : (finishTiming phase started now c).closed = c.closed :=
  closed_observe (by cases started <;> rfl)

theorem closed_answered (operation : FacilitatorOperation) (answer : ClientAnswer)
    (c : AcceptanceContext) : (answered operation answer c).closed = c.closed := by
  rcases answered_cases operation answer with heq | ⟨event, reason, heq⟩ <;> rw [heq]
  · exact closed_observe rfl
  · exact closed_observeAcceptance event reason c

/-- Only `finish` closes a record. -/
theorem step_closed (call : AcceptanceCall) (hcall : ∀ status, call ≠ .finish status) :
    (s.step call).context.closed = s.context.closed ∧ (s.step call).final = s.final := by
  cases call with
  | begin =>
      refine ⟨closed_observe ?_, rfl⟩
      dsimp only
      split
      · rfl
      · split
        · rw [closed_observeAcceptance]
        · rfl
  | observe event reason => exact ⟨closed_observeAcceptance _ _ _, rfl⟩
  | stage label =>
      refine ⟨closed_observe ?_, rfl⟩
      cases AcceptanceStage.ofLabel label <;> rfl
  | readinessFailure phase exception checks =>
      exact ⟨(closed_observe rfl).trans (closed_observeAcceptance _ _ _), rfl⟩
  | startTiming phase now => exact ⟨rfl, rfl⟩
  | stopTiming timer now =>
      simp only [step]
      cases s.timers[timer]? with
      | none => exact ⟨rfl, rfl⟩
      | some t => exact ⟨closed_finishTiming _ _ _ _, rfl⟩
  | invoke operation now =>
      simp only [step]
      split
      · exact ⟨rfl, rfl⟩
      · exact ⟨closed_observe (by cases operation <;> rfl), rfl⟩
  | answer call answer now =>
      simp only [step]
      cases s.calls[call]?.join with
      | none => exact ⟨rfl, rfl⟩
      | some pending =>
          exact ⟨(closed_finishTiming _ _ _ _).trans (closed_answered _ _ _), rfl⟩
  | finish status => exact absurd rfl (hcall status)

/-- Every call keeps the record sound. -/
theorem Kept.sound_step (h : s.Kept requestId presented) (call : AcceptanceCall) :
    (s.step call).context.Sound requestId presented := by
  cases call with
  | begin => exact h.sound.beginAcceptance
  | observe event reason => exact h.sound.observeAcceptance event reason
  | stage label => exact h.sound.observeAcceptanceStage label
  | readinessFailure phase exception checks =>
      exact h.sound.observeReadinessFailure phase exception checks
  | startTiming phase now => exact h.sound
  | stopTiming timer now =>
      simp only [step]
      cases s.timers[timer]? with
      | none => exact h.sound
      | some t => exact h.sound.finishTiming t.1 t.2 now
  | invoke operation now =>
      simp only [step]
      split
      · exact h.sound
      · exact h.sound.invoked operation
  | answer call answer now =>
      simp only [step]
      cases s.calls[call]?.join with
      | none => exact h.sound
      | some pending => exact (h.sound.answered pending.operation answer).finishTiming _ _ _
  | finish status =>
      simp only [step]
      split
      · exact h.sound
      · exact h.sound.finishAcceptance status

theorem Kept.step (h : s.Kept requestId presented) (call : AcceptanceCall) :
    (s.step call).Kept requestId presented := by
  by_cases hclosed : s.context.closed = true
  · obtain ⟨hcontext, hfinal⟩ := step_of_closed hclosed call
    refine ⟨h.sound_step call, ?_, ?_⟩
    · rw [hcontext, hfinal]
      exact h.closed_iff
    · rw [hcontext, hfinal]
      exact h.verdict
  by_cases hfinish : ∃ status, call = .finish status
  · obtain ⟨status, rfl⟩ := hfinish
    refine ⟨h.sound_step _, ?_, ?_⟩
    · simp [AcceptanceSession.step, hclosed, finishAcceptance]
    · intro final hmem
      simp only [AcceptanceSession.step, if_neg hclosed, Option.mem_some_iff] at hmem ⊢
      subst hmem
      exact ⟨rfl, verdict_sound _ _ _⟩
  · obtain ⟨hc, hf⟩ := step_closed (s := s) call
      fun status heq => hfinish ⟨status, heq⟩
    have hnone : s.final = none := by
      rw [← Option.not_isSome_iff_eq_none, ← h.closed_iff]
      exact hclosed
    refine ⟨h.sound_step call, ?_, ?_⟩
    · rw [hc, hf]
      exact h.closed_iff
    · rw [hf, hnone]
      simp

theorem kept_admitted (requestId : JsString) (presented : Bool) :
    (admitted requestId presented).Kept requestId presented := by
  have hopen : (admitted requestId presented).context.closed = false := by
    cases presented with
    | false => rfl
    | true =>
        exact closed_observeAcceptance "signed_request_received" "header_present"
          { createAcceptanceContext requestId true with
            started := true, snapshot := begun unknownAcceptance }
  refine ⟨sound_begin requestId presented, ?_, ?_⟩
  · rw [hopen]
    exact ⟨nofun, nofun⟩
  · intro final hfinal
    cases hfinal

theorem kept_run (requestId : JsString) (presented : Bool) (calls : List AcceptanceCall) :
    (Runs.run AcceptanceSession.step (admitted requestId presented) calls).Kept
      requestId presented :=
  Runs.run_invariant' (fun _ call h => h.step call) calls (kept_admitted requestId presented)

/-- A closed record hears nothing more. -/
theorem run_of_closed (h : s.context.closed = true) (calls : List AcceptanceCall) :
    (Runs.run AcceptanceSession.step s calls).context = s.context ∧
      (Runs.run AcceptanceSession.step s calls).final = s.final := by
  induction calls generalizing s with
  | nil => exact ⟨rfl, rfl⟩
  | cons call calls ih =>
      obtain ⟨hc, hf⟩ := step_of_closed h call
      obtain ⟨hc', hf'⟩ := ih (by rw [hc]; exact h)
      exact ⟨hc'.trans hc, hf'.trans hf⟩

theorem closed_step_finish (status : ℕ) (s : AcceptanceSession) :
    (s.step (.finish status)).context.closed = true := by
  by_cases h : s.context.closed = true
  · rw [(step_of_closed h _).1]
    exact h
  · simp [step, h, finishAcceptance]

/-- **The records of a request are its own.**  Under every schedule of any number of
requests, whatever they report, in whatever order and with whatever labels, and
whatever the facilitator answers and when: the record of request `k` is the one its
own calls make; every line it logs carries its own id, a milestone with the stage
and the flag of that milestone, and withdraws nothing that an earlier line of it
confirmed; from the moment its response is known it hears nothing more; and its one
verdict confirms all its lines do and is borne out by them. -/
theorem acceptance_records (ids : ℕ → JsString) (presented : ℕ → Bool)
    (es : List (ℕ × AcceptanceCall)) (k : ℕ) :
    after ids presented es k =
        Runs.run AcceptanceSession.step (admitted (ids k) (presented k)) (Sessions.own k es) ∧
      (∀ line ∈ (after ids presented es k).context.lines,
        line.requestId = ids k ∧ line.paymentPresented = presented k ∧ line.Milestone) ∧
      (after ids presented es k).context.lines.Pairwise
        (fun line line' => line.snapshot.Confirms line'.snapshot) ∧
      (∀ before status later, es = before ++ (k, .finish status) :: later →
        ∃ verdict, (after ids presented es k).final = some verdict ∧
          (after ids presented (before ++ [(k, .finish status)]) k).final = some verdict ∧
          (after ids presented es k).context =
            (after ids presented (before ++ [(k, .finish status)]) k).context) ∧
      (∀ status final, (after ids presented es k).final = some (status, final) →
        final.Verdict status ∧
          ∀ line ∈ (after ids presented es k).context.lines, line.snapshot.Confirms final) := by
  have hrun : ∀ es : List (ℕ × AcceptanceCall), after ids presented es k =
      Runs.run AcceptanceSession.step (admitted (ids k) (presented k)) (Sessions.own k es) :=
    fun es => Sessions.run_stepAt AcceptanceSession.step _ es k
  have hkept : ∀ es, (after ids presented es k).Kept (ids k) (presented k) := by
    intro es
    rw [hrun]
    exact kept_run _ _ _
  refine ⟨hrun es, ?_, (hkept es).sound.ordered, ?_, ?_⟩
  · intro line hline
    obtain ⟨hid, hpresented⟩ := (hkept es).sound.own line hline
    exact ⟨hid, hpresented, (hkept es).sound.milestones line hline⟩
  · intro before status later hes
    have hclosed : (after ids presented (before ++ [(k, .finish status)]) k).context.closed = true := by
      rw [hrun, Sessions.own_append, Sessions.own_cons_self rfl, Runs.run_append]
      exact closed_step_finish status _
    have hlater := run_of_closed hclosed (Sessions.own k later)
    have hsplit : after ids presented es k = Runs.run AcceptanceSession.step
        (after ids presented (before ++ [(k, .finish status)]) k) (Sessions.own k later) := by
      rw [hrun, hrun, ← Runs.run_append, ← Sessions.own_append, hes, List.append_assoc]
      rfl
    obtain ⟨verdict, hverdict⟩ := Option.isSome_iff_exists.1 ((hkept _).closed_iff.1 hclosed)
    rw [← hsplit] at hlater
    exact ⟨verdict, hlater.2.trans hverdict, hverdict, hlater.1⟩
  · intro status final hfinal
    obtain ⟨hsnapshot, hverdict⟩ := (hkept es).verdict (status, final) hfinal
    refine ⟨hverdict, ?_⟩
    intro line hline
    rw [show final = (after ids presented es k).context.snapshot from hsnapshot]
    exact (hkept es).sound.below line hline

end AcceptanceSession

end RoundWatch
