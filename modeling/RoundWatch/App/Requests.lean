import RoundWatch.Store.Idempotency

/-!
# The paid create route and the recovery route

* `parseWatchSpec` and `validateNewWatchAdmission` — what a request body has to be,
  with the text of every refusal.
* `createReply` — what the create route answers with the outcome of `prepareWatch`.
* `recoverWatch` — the recovery route on a parsed body.

`isValidAlgorandAddress` comes from a package outside the repository, so it is a
parameter here.
-/

namespace RoundWatch

open JsText

/-! ## Bodies -/

/-- Why `parseWatchSpec` refuses a body. -/
inductive SpecError where
  | bodyNotObject
  | idempotencyInvalid
  | senderInvalid
  | receiverInvalid
  | amountFormat
  | amountRange
  | noteInvalid
  deriving DecidableEq, Repr

/-- The largest atomic amount, `MAX_SAFE_ATOMIC_AMOUNT`. -/
def maxSafeAtomicAmount : ℕ := 9007199254740991

/-- The number of its digits, `MAX_SAFE_ATOMIC_AMOUNT_DIGITS`. -/
def maxSafeAtomicAmountDigits : ℕ := 16

def SpecError.error : SpecError → String
  | .bodyNotObject => "Request body must be an object"
  | .idempotencyInvalid => "idempotencyKey must be 8-128 characters"
  | .senderInvalid => "expectedSender must be a valid Algorand address"
  | .receiverInvalid => "expectedReceiver must be a valid Algorand address"
  | .amountFormat => "atomicAmount must be a positive safe-integer string"
  | .amountRange => "atomicAmount must not exceed 9007199254740991"
  | .noteInvalid => "invoiceNote must be 1-128 UTF-8 bytes when supplied"

def SpecError.reason : SpecError → String
  | .bodyNotObject => "body_not_object"
  | .idempotencyInvalid => "idempotency_invalid"
  | .senderInvalid => "sender_invalid"
  | .receiverInvalid => "receiver_invalid"
  | .amountFormat => "amount_invalid"
  | .amountRange => "amount_invalid"
  | .noteInvalid => "note_invalid"

/-- A string under a key of the body. -/
def stringField (body : Json) (name : String) : Option JsString :=
  match body.get? name with
  | some (.str s) => some s
  | _ => none

/-- The note of a body: absent, a string of 1 to 128 UTF-8 bytes, or refused. -/
def noteField (body : Json) : Except SpecError (Option JsString) :=
  match body.get? "invoiceNote" with
  | none => .ok none
  | some (.str note) =>
      if note = [] ∨ 128 < utf8ByteLength note then .error .noteInvalid else .ok (some note)
  | some _ => .error .noteInvalid

/-- An address a request may name. -/
def addressField (isValidAlgorandAddress : JsString → Bool) (body : Json) (name : String) :
    Option JsString :=
  (stringField body name).filter isValidAlgorandAddress

/-- `parseWatchSpec`. -/
def parseWatchSpec (isValidAlgorandAddress : JsString → Bool) (usdcAssetId : ℤ) (body : Json) :
    Except SpecError WatchSpec :=
  match body with
  | .obj _ =>
      match (stringField body "idempotencyKey").filter
          fun key => 8 ≤ key.length && key.length ≤ 128 with
      | none => .error .idempotencyInvalid
      | some idempotencyKey =>
          match addressField isValidAlgorandAddress body "expectedSender" with
          | none => .error .senderInvalid
          | some expectedSender =>
              match addressField isValidAlgorandAddress body "expectedReceiver" with
              | none => .error .receiverInvalid
              | some expectedReceiver =>
                  match (stringField body "atomicAmount").filter fun amount =>
                      amount.length ≤ maxSafeAtomicAmountDigits &&
                        Store.isPositiveDecimal amount with
                  | none => .error .amountFormat
                  | some atomicAmount =>
                      if (digitsValue? 10 0 atomicAmount).all (maxSafeAtomicAmount < ·) then
                        .error .amountRange
                      else
                        match noteField body with
                        | .error e => .error e
                        | .ok invoiceNote =>
                            .ok { idempotencyKey := idempotencyKey
                                  expectedSender := expectedSender
                                  expectedReceiver := expectedReceiver
                                  assetId := usdcAssetId
                                  atomicAmount := atomicAmount
                                  invoiceNote := invoiceNote }
  | _ => .error .bodyNotObject

/-- Why a well-formed specification is not admitted as a new watch. -/
inductive AdmissionError where
  | exampleIdempotencyKey
  | exampleInvoiceNote
  | unsupportedExpectedSender
  deriving DecidableEq, Repr

def AdmissionError.error : AdmissionError → String
  | .exampleIdempotencyKey =>
      "idempotencyKey must be caller-generated; the discovery example literal cannot be used for a paid watch"
  | .exampleInvoiceNote =>
      "invoiceNote must be caller-selected; the discovery example literal cannot be used for a paid watch"
  | .unsupportedExpectedSender =>
      "expectedSender must not be the Algorand zero address for new watches"

def AdmissionError.code : AdmissionError → String
  | .exampleIdempotencyKey => "example_idempotency_key"
  | .exampleInvoiceNote => "example_invoice_note"
  | .unsupportedExpectedSender => "unsupported_expected_sender"

/-- `NEW_WATCH_IDEMPOTENCY_PLACEHOLDER`. -/
def newWatchIdempotencyPlaceholder : JsString := js "replace-with-unique-idempotency-key"

/-- `NEW_WATCH_INVOICE_NOTE_PLACEHOLDER`. -/
def newWatchInvoiceNotePlaceholder : JsString := js "replace-with-unique-invoice-note"

/-- `ALGORAND_ZERO_ADDRESS`. -/
def algorandZeroAddress : JsString :=
  js "AAAAAAAAAAAAAAAAAAAAAAAAAAAAAAAAAAAAAAAAAAAAAAAAAAAAY5HFKQ"

/-- `validateNewWatchAdmission`. -/
def validateNewWatchAdmission (spec : WatchSpec) : Option AdmissionError :=
  if spec.idempotencyKey = newWatchIdempotencyPlaceholder then some .exampleIdempotencyKey
  else if spec.invoiceNote = some newWatchInvoiceNotePlaceholder then some .exampleInvoiceNote
  else if spec.expectedSender = algorandZeroAddress then some .unsupportedExpectedSender
  else none

/-- Why the create route refuses a body. -/
inductive BodyRejection where
  | spec (e : SpecError)
  | admission (e : AdmissionError)
  deriving DecidableEq, Repr

/-- The specification the create route admits. -/
def acceptCreate (isValidAlgorandAddress : JsString → Bool) (usdcAssetId : ℤ) (body : Json) :
    Except BodyRejection WatchSpec :=
  match parseWatchSpec isValidAlgorandAddress usdcAssetId body with
  | .error e => .error (.spec e)
  | .ok spec =>
      match validateNewWatchAdmission spec with
      | some e => .error (.admission e)
      | none => .ok spec

/-! ## Answers -/

/-- `publicWatch`: the record without its internal fields. -/
structure PublicWatch where
  id : SqlText
  state : WatchState
  expectedSender : SqlText
  expectedReceiver : SqlText
  assetId : ℤ
  atomicAmount : SqlText
  invoiceNote : Option SqlText
  expectedServiceTransaction : Option SqlText
  expectedServiceNetwork : Option SqlText
  expectedServicePayer : Option SqlText
  serviceTransaction : Option SqlText
  serviceNetwork : Option SqlText
  servicePayer : Option SqlText
  activationRound : Option ℤ
  activatedAt : Option ℤ
  scanAfterRound : Option ℤ
  createdAt : ℤ
  expiresAt : Option ℤ
  matchedTransaction : Option SqlText
  matchedRound : Option ℤ
  settlementReconciliationTerminal : Bool
  workUnitBudget : Option ℕ
  workUnitsUsed : ℕ
  terminalReason : Option WatchTerminalReason
  deriving DecidableEq

def publicWatch (watch : WatchRow) : PublicWatch where
  id := watch.id
  state := watch.state
  expectedSender := watch.expectedSender
  expectedReceiver := watch.expectedReceiver
  assetId := watch.assetId
  atomicAmount := watch.atomicAmount
  invoiceNote := watch.invoiceNote
  expectedServiceTransaction := watch.expectedServiceTransaction
  expectedServiceNetwork := watch.expectedServiceNetwork
  expectedServicePayer := watch.expectedServicePayer
  serviceTransaction := watch.serviceTransaction
  serviceNetwork := watch.serviceNetwork
  servicePayer := watch.servicePayer
  activationRound := watch.activationRound
  activatedAt := watch.activatedAt
  scanAfterRound := watch.scanAfterRound
  createdAt := watch.createdAt
  expiresAt := watch.expiresAt
  matchedTransaction := watch.matchedTransaction
  matchedRound := watch.matchedRound
  settlementReconciliationTerminal := watch.settlementReconciliationTerminal
  workUnitBudget := watch.workUnitBudget
  workUnitsUsed := watch.workUnitsUsed
  terminalReason := watch.terminalReason

/-- What the create route answers once it has called `prepareWatch`. -/
inductive CreateReply where
  | legacyIdempotencyConflict
  | idempotencyConflict
  | capacityExhausted (scope : WatchCapacityScope)
  | failed (e : StoreError)
  | idempotencyReplay (watch : PublicWatch)
  | created (watchId : SqlText) (workUnitBudget : Option ℕ) (expiresAt : Option ℤ)

def CreateReply.status : CreateReply → ℕ
  | .legacyIdempotencyConflict => 409
  | .idempotencyConflict => 409
  | .capacityExhausted _ => 429
  | .failed _ => 500
  | .idempotencyReplay _ => 409
  | .created .. => 200

def createReply : Except StoreError PreparedWatch → CreateReply
  | .error .legacyIdempotencyReservation => .legacyIdempotencyConflict
  | .error (.idempotencyConflict _) => .idempotencyConflict
  | .error (.watchCapacity scope) => .capacityExhausted scope
  | .error e => .failed e
  | .ok prepared =>
      if prepared.created = false then .idempotencyReplay (publicWatch prepared.watch)
      else .created prepared.watch.id prepared.watch.workUnitBudget prepared.watch.expiresAt

/-! ## Recovery -/

inductive RecoveryReason where
  | settlementReconciliationPending
  | settlementReconciliationTerminal
  | watchTerminalNonrecoverable
  deriving DecidableEq, Repr

inductive RecoveryAction where
  | retryRecoveryLater
  | retainCheckpointAndInvestigate
  deriving DecidableEq, Repr

structure RecoveryDisposition where
  retryable : Bool
  terminal : Bool
  reason : RecoveryReason
  nextAction : RecoveryAction
  deriving DecidableEq, Repr

/-- `recoveryDisposition`. -/
def recoveryDisposition (watch : WatchRow) : RecoveryDisposition :=
  if watch.state == .settlementPending ||
      (watch.state == .settlementUnknown && !watch.settlementReconciliationTerminal) then
    ⟨true, false, .settlementReconciliationPending, .retryRecoveryLater⟩
  else if watch.state == .settlementUnknown && watch.settlementReconciliationTerminal then
    ⟨false, true, .settlementReconciliationTerminal, .retainCheckpointAndInvestigate⟩
  else ⟨false, true, .watchTerminalNonrecoverable, .retainCheckpointAndInvestigate⟩

inductive RecoveryReply where
  | invalidRequest
  | notFound
  | notRecoverable (state : WatchState) (recovery : RecoveryDisposition)
  | recovered (watch : PublicWatch)
  deriving DecidableEq

def RecoveryReply.status : RecoveryReply → ℕ
  | .invalidRequest => 400
  | .notFound => 404
  | .notRecoverable .. => 409
  | .recovered _ => 200

/-- The `exactMatch` of the recovery route. -/
def exactMatch (existing : WatchRow) (spec : WatchSpec) (servicePayer : JsString) : Bool :=
  existing.expectedSender.val == spec.expectedSender &&
    existing.expectedReceiver.val == spec.expectedReceiver &&
    existing.assetId == spec.assetId &&
    existing.atomicAmount.val == spec.atomicAmount &&
    existing.invoiceNote.map SqlText.val == spec.invoiceNote &&
    existing.expectedServicePayer.map SqlText.val == some servicePayer

/-- The states in which a confirmed watch is handed back. -/
def WatchRow.handedBack (r : WatchRow) : Bool :=
  r.state == .active || r.state == .matched || r.state == .expired || r.state == .indeterminate

/-- `settlementConfirmed`. -/
def WatchRow.settlementConfirmed (r : WatchRow) : Bool := r.serviceTransaction.any (·.val ≠ [])

/-- `POST watchPath/recover` on a parsed body. -/
def recoverWatch (isValidAlgorandAddress : JsString → Bool) (usdcAssetId : ℤ) (s : Store)
    (body : Json) : RecoveryReply :=
  match parseWatchSpec isValidAlgorandAddress usdcAssetId body,
      (stringField body "servicePayer").filter isValidAlgorandAddress with
  | .ok spec, some servicePayer =>
      match (s.getByPayerAndIdempotencyKey servicePayer spec.idempotencyKey).filter
          (exactMatch · spec servicePayer) with
      | none => .notFound
      | some existing =>
          if existing.settlementConfirmed && existing.handedBack then
            .recovered (publicWatch existing)
          else .notRecoverable existing.state (recoveryDisposition existing)
  | _, _ => .invalidRequest

end RoundWatch
