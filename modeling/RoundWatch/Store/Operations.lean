import RoundWatch.Foundation.IsoTexts
import RoundWatch.Store.Basic
import Mathlib.Data.List.Sort

/-!
# The operations of the store

Each method of `RoundWatchStore` as a function of the store it meets.  A method
that can throw returns the store it leaves behind next to its outcome, so that
"throws and changes nothing" is a statement about both.  The clock reading a
method takes is an argument; every row-level `SET` has a name of its own, which
is how the later modules speak about what an operation did to a row.
-/

namespace RoundWatch

open JsText

/-! ## Predicates the statements share -/

namespace WatchRow

/-- `state IN ('settlement_pending', 'settlement_unknown')`. -/
def settling (r : WatchRow) : Bool :=
  r.state == .settlementPending || r.state == .settlementUnknown

/-- A settling row that reconciliation has not given up. -/
def unsettled (r : WatchRow) : Bool := r.settling && !r.settlementReconciliationTerminal

/-- `OPEN_OBLIGATION_PREDICATE`. -/
def openObligation (r : WatchRow) : Bool :=
  r.state == .settlementPending || r.state == .active ||
    (r.state == .settlementUnknown && !r.settlementReconciliationTerminal)

/-- `COALESCE(expected_service_payer, service_payer)`. -/
def obligationPayer (r : WatchRow) : Option SqlText := r.expectedServicePayer <|> r.servicePayer

end WatchRow

/-- `WHERE id = ?`. -/
def hasId (id : JsString) (r : WatchRow) : Bool := r.id == bindText id

/-- A stored text that is set, not empty, and not the given string. -/
def differs (stored : Option SqlText) (given : JsString) : Bool :=
  match stored with
  | some t => t.val != [] && t.val != given
  | none => false

/-- The service transaction on record is the given one. -/
def sameServiceTransaction (r : WatchRow) (transaction : JsString) : Bool :=
  r.serviceTransaction.map SqlText.val == some transaction

/-- `currentTime`. -/
def currentTime (now : ℤ) : Except StoreError ℤ :=
  if validDate now then .ok now else .error .invalidClock

/-- `assertSettlementEvidenceMatches`. -/
def assertSettlementEvidenceMatches (watch : WatchRow) (evidence : SettlementEvidence) :
    Except StoreError Unit :=
  if differs watch.expectedServiceTransaction evidence.transaction then
    .error (.transactionMismatch watch.id)
  else if differs watch.expectedServiceNetwork evidence.network then
    .error (.networkMismatch watch.id)
  else if evidence.payer.any fun payer =>
      payer != [] && differs watch.expectedServicePayer payer then
    .error (.payerMismatch watch.id)
  else .ok ()

/-! ## What the statements set -/

namespace WatchRow

/-- `SET` of `recordSettlementCandidate`. -/
def recordCandidate (evidence : SettlementEvidence) (r : WatchRow) : WatchRow :=
  { r with
    expectedServiceTransaction := r.expectedServiceTransaction <|> some (bindText evidence.transaction)
    expectedServiceNetwork := r.expectedServiceNetwork <|> some (bindText evidence.network)
    expectedServicePayer := r.expectedServicePayer <|> evidence.payer.map bindText }

/-- `SET` of `activateWatch`. -/
def activate (evidence : SettlementEvidence) (round : Option ℤ) (at_ : ℤ) (r : WatchRow) :
    WatchRow :=
  { r with
    state := .active
    serviceTransaction := some (bindText evidence.transaction)
    serviceNetwork := some (bindText evidence.network)
    servicePayer := evidence.payer.map bindText
    activationRound := round
    activatedAt := some at_
    scanAfterRound := round }

/-- `SET` of `markSettlementUnknown`. -/
def settleUnknown (r : WatchRow) : WatchRow :=
  { r with state := .settlementUnknown, settlementReconciliationTerminal := false }

/-- `SET` of `markSettlementInvalid`. -/
def settleInvalid (r : WatchRow) : WatchRow :=
  { r with state := .settlementUnknown, settlementReconciliationTerminal := true }

/-- `SET` of the charging statement of `claimWorkUnit`. -/
def charge (r : WatchRow) : WatchRow := { r with workUnitsUsed := r.workUnitsUsed + 1 }

/-- `SET` of the exhausting statement of `claimWorkUnit`. -/
def exhaust (r : WatchRow) : WatchRow :=
  { r with
    state := .indeterminate
    terminalReason := some .workBudgetExhausted
    settlementReconciliationTerminal := true }

/-- `SET` of `recordPollingFailure`. -/
def recordFailure (failure : PollingFailure) (failedAt : ℤ) (retryAt : Option ℤ) (r : WatchRow) :
    WatchRow :=
  { r with
    pollingFailureCode := some (bindText failure.code)
    pollingFailureStatus := failure.status
    pollingFailureDisposition := some failure.disposition
    pollingFailureCount := r.pollingFailureCount + 1
    pollingLastFailureAt := some failedAt
    pollingRetryAt := retryAt
    state := if failure.disposition = .permanent then .indeterminate else r.state
    terminalReason :=
      if failure.disposition = .permanent then some .indexerPermanentFailure else r.terminalReason }

/-- `SET` of `clearPollingFailure`. -/
def clearFailure (r : WatchRow) : WatchRow :=
  { r with
    pollingFailureCode := none
    pollingFailureStatus := none
    pollingFailureDisposition := none
    pollingFailureCount := 0
    pollingLastFailureAt := none
    pollingRetryAt := none }

/-- `SET` of `markMatched`. -/
def matchWith (transaction : JsString) (round : ℤ) (r : WatchRow) : WatchRow :=
  { r with
    state := .matched
    matchedTransaction := some (bindText transaction)
    matchedRound := some round }

/-- `SET` of `advanceScanRound`. -/
def advanceTo (round : ℤ) (r : WatchRow) : WatchRow := { r with scanAfterRound := some round }

/-- `SET` of `setClosingRound`. -/
def closeAt (round : ℤ) (r : WatchRow) : WatchRow :=
  { r with closingRound := r.closingRound <|> some round }

/-- `SET` of `markExpired`. -/
def expire (r : WatchRow) : WatchRow := { r with state := .expired }

/-- `SET` of `recordReconciliationFailure`. -/
def deferUntil (nextAttemptAt : ℤ) (r : WatchRow) : WatchRow :=
  { r with
    reconciliationAttempts := r.reconciliationAttempts + 1
    reconciliationNextAttemptAt := some nextAttemptAt }

/-- `SET` of the budget repair in the constructor. -/
def repairBudget (budget : ℕ) (r : WatchRow) : WatchRow :=
  { r with workUnitBudget := some budget }

end WatchRow

/-- The row `prepareWatch` inserts, with the terms as they will be read. -/
def preparedRow (config : StoreConfig) (id : JsString) (spec : WatchSpec)
    (intent : Option SettlementIntent) (createdAt expiresAt : ℤ) : WatchRow where
  id := bindText id
  idempotencyKey := bindText spec.idempotencyKey
  state := .settlementPending
  expectedSender := config.columnText spec.expectedSender
  expectedReceiver := config.columnText spec.expectedReceiver
  assetId := spec.assetId
  atomicAmount := config.columnText spec.atomicAmount
  invoiceNote := spec.invoiceNote.map config.columnText
  expectedServiceTransaction := intent.map fun i => bindText i.expectedTransaction
  expectedServiceNetwork := intent.map fun i => bindText i.network
  expectedServicePayer := (intent.bind SettlementIntent.payer).map bindText
  serviceTransaction := none
  serviceNetwork := none
  servicePayer := none
  activationRound := none
  activatedAt := none
  scanAfterRound := none
  createdAt := createdAt
  expiresAt := some expiresAt
  matchedTransaction := none
  matchedRound := none
  settlementReconciliationTerminal := false
  closingRound := none
  evidenceVersion := if intent.isSome then 1 else 0
  serviceReceiver := intent.map fun i => bindText i.receiver
  serviceAssetId := intent.map SettlementIntent.assetId
  serviceAtomicAmount := intent.map fun i => bindText i.atomicAmount
  serviceFirstValid := intent.map SettlementIntent.firstValid
  serviceLastValid := intent.map SettlementIntent.lastValid
  reconciliationAttempts := 0
  reconciliationNextAttemptAt := none
  workUnitBudget := some config.workUnitBudget
  workUnitsUsed := 0
  terminalReason := none
  pollingFailureCode := none
  pollingFailureStatus := none
  pollingFailureDisposition := none
  pollingFailureCount := 0
  pollingLastFailureAt := none
  pollingRetryAt := none

/-- `watchSpecMatches`: the stored columns against the incoming strings. -/
def watchSpecMatches (watch : WatchRow) (spec : WatchSpec) : Bool :=
  watch.expectedSender.val == spec.expectedSender &&
    watch.expectedReceiver.val == spec.expectedReceiver &&
    watch.assetId == spec.assetId &&
    watch.atomicAmount.val == spec.atomicAmount &&
    watch.invoiceNote.map SqlText.val == spec.invoiceNote

/-- The answer of `prepareWatch`. -/
structure PreparedWatch where
  watch : WatchRow
  created : Bool
  deriving DecidableEq

namespace Store

/-! ## Preparation -/

/-- `findPayerIdempotencyRow`. -/
def findPayerIdempotencyRow (s : Store) (payer idempotencyKey : JsString) : Option WatchRow :=
  s.rows.find? fun r =>
    r.expectedServicePayer.getD emptyText == bindText payer && r.expectedServicePayer.isSome &&
      r.idempotencyKey == bindText idempotencyKey

/-- The payerless half of `findIdempotencyRow`.  The unique scope leaves at most one
such row, so its `ORDER BY` has nothing to order. -/
def findPayerlessIdempotencyRow (s : Store) (idempotencyKey : JsString) : Option WatchRow :=
  s.rows.find? fun r =>
    r.expectedServicePayer.isNone && r.idempotencyKey == bindText idempotencyKey

/-- A payer that is given and not the empty string. -/
def truthyPayer (intent : Option SettlementIntent) : Option JsString :=
  (intent.bind SettlementIntent.payer).filter (· ≠ [])

/-- `findIdempotencyRow`: the payer's own scope first, then the payerless one. -/
def findIdempotencyRow (s : Store) (idempotencyKey : JsString) (payer : Option JsString) :
    Option WatchRow :=
  (payer.bind fun p => s.findPayerIdempotencyRow p idempotencyKey) <|>
    s.findPayerlessIdempotencyRow idempotencyKey

/-- `countOpenObligations`. -/
def countOpenObligations (s : Store) (payer : Option JsString) : ℕ :=
  match payer with
  | some p => s.rows.countP fun r => r.openObligation && r.obligationPayer == some (bindText p)
  | none => s.rows.countP WatchRow.openObligation

/-- `expiryFrom`. -/
def expiryFrom (s : Store) (createdAt : ℤ) : Except StoreError ℤ :=
  if validDate (createdAt + s.config.watchTtlMilliseconds) then
    .ok (createdAt + s.config.watchTtlMilliseconds)
  else .error .ttlOverflow

/-- `BEGIN IMMEDIATE`, then `COMMIT`, or `ROLLBACK` when the body throws. -/
def inTransaction {α : Type} (s : Store) (body : Store → Store × Except StoreError α) :
    Store × Except StoreError α :=
  match body s with
  | (s', .ok a) => (s', .ok a)
  | (_, .error e) => (s, .error e)

/-- What `prepareWatch` does once it has found no row under the key. -/
def createWatch (s : Store) (now : ℤ) (id : JsString) (spec : WatchSpec)
    (intent : Option SettlementIntent) : Store × Except StoreError PreparedWatch :=
  if s.config.maxOpenWatches ≤ s.countOpenObligations none then
    (s, .error (.watchCapacity .global))
  else if (truthyPayer intent).any fun p =>
      decide (s.config.maxOpenWatchesPerPayer ≤ s.countOpenObligations (some p)) then
    (s, .error (.watchCapacity .payer))
  else
    match s.expiryFrom now with
    | .error e => (s, .error e)
    | .ok expiresAt =>
        match s.insert (preparedRow s.config id spec intent now expiresAt) with
        | .error e => (s, .error e)
        | .ok s' =>
            match s'.getWatch id with
            | some inserted => (s', .ok ⟨inserted, true⟩)
            | none => (s', .error .missingRow)

/-- `prepareWatch`; `id` is the `randomUUID` of the call. -/
def prepareWatch (s : Store) (now : ℤ) (id : JsString) (spec : WatchSpec)
    (intent : Option SettlementIntent) : Store × Except StoreError PreparedWatch :=
  match currentTime now with
  | .error e => (s, .error e)
  | .ok now =>
      s.inTransaction fun s =>
        match s.findIdempotencyRow spec.idempotencyKey (truthyPayer intent) with
        | some existing =>
            -- a payerless row reserves its key, but no payer owns it
            if (truthyPayer intent).isSome && existing.expectedServicePayer.isNone then
              (s, .error .legacyIdempotencyReservation)
            else if watchSpecMatches existing spec then (s, .ok ⟨existing, false⟩)
            else (s, .error (.idempotencyConflict existing))
        | none => s.createWatch now id spec intent

/-! ## Settlement -/

/-- `recordSettlementCandidate`. -/
def recordSettlementCandidate (s : Store) (id : JsString) (evidence : SettlementEvidence) :
    Store × Except StoreError WatchRow :=
  match s.getWatch id with
  | none => (s, .error (.missingSettlementWatch id))
  | some existing =>
      match assertSettlementEvidenceMatches existing evidence with
      | .error e => (s, .error e)
      | .ok () =>
          if existing.state = .active ∨ existing.state = .matched then
            if sameServiceTransaction existing evidence.transaction then (s, .ok existing)
            else (s, .error (.activatedByAnother id))
          else if existing.settling = false then
            (s, .error (.cannotRecordSettlement id existing.state))
          else
            match s.tryUpdate (fun r => hasId id r && r.unsettled) (·.recordCandidate evidence) with
            | .error e => (s, .error e)
            | .ok s' =>
                match s'.getWatch id with
                | some watch => (s', .ok watch)
                | none => (s', .error .missingRow)

/-- `activateWatch`. -/
def activateWatch (s : Store) (now : ℤ) (id : JsString) (evidence : SettlementEvidence)
    (activationRound : Option ℤ) : Store × Except StoreError WatchRow :=
  match s.getWatch id with
  | none => (s, .error (.missingActivationWatch id))
  | some existing =>
      match assertSettlementEvidenceMatches existing evidence with
      | .error e => (s, .error e)
      | .ok () =>
          if existing.state = .active ∨ existing.state = .matched then
            if sameServiceTransaction existing evidence.transaction then (s, .ok existing)
            else (s, .error (.activatedByAnother id))
          else if existing.settling = false then (s, .error (.notSettling id existing.state))
          else
            match currentTime now with
            | .error e => (s, .error e)
            | .ok activatedAt =>
                match s.tryUpdate (fun r => hasId id r && r.unsettled)
                    (·.activate evidence activationRound activatedAt) with
                | .error e => (s, .error e)
                | .ok s' =>
                    if Table.changes (fun r => hasId id r && r.unsettled) s.rows ≠ 1 then
                      (s', .error (.activationRace id))
                    else
                      match s'.getWatch id with
                      | some watch => (s', .ok watch)
                      | none => (s', .error .missingRow)

/-- `markSettlementUnknown`. -/
def markSettlementUnknown (s : Store) (id : JsString) : Store :=
  s.update (fun r => hasId id r && r.state == .settlementPending) WatchRow.settleUnknown
    fun _ => rfl

/-- `markSettlementInvalid`. -/
def markSettlementInvalid (s : Store) (id : JsString) : Store :=
  s.update (fun r => hasId id r && r.settling) WatchRow.settleInvalid fun _ => rfl

/-! ## Work units -/

/-- `column <= ?` on times, which both are ISO 8601 texts. -/
def dueBy (now t : ℤ) : Bool := !decide (Dates.toIsoText now < Dates.toIsoText t)

/-- The `eligibility` fragment of both claiming statements. -/
def eligible (claim : WorkClaim) (now : ℤ) (r : WatchRow) : Bool :=
  match claim with
  | .polling expectedScanAfterRound expectedClosingRound expectedPollingFailureCount =>
      r.state == .active && r.evidenceVersion == 1 &&
        r.scanAfterRound == some expectedScanAfterRound && r.expiresAt.isSome &&
        r.closingRound == expectedClosingRound &&
        r.pollingFailureCount == expectedPollingFailureCount &&
        r.pollingRetryAt.all (dueBy now)
  | .reconciliation expectedServiceTransaction expectedReconciliationAttempts =>
      r.unsettled && r.expectedServiceTransaction == some (bindText expectedServiceTransaction) &&
        r.reconciliationAttempts == expectedReconciliationAttempts &&
        r.reconciliationNextAttemptAt.all (dueBy now)

/-- The row has a budget and a unit of it left. -/
def hasWorkUnit (r : WatchRow) : Bool := r.workUnitBudget.any (r.workUnitsUsed < ·)

/-- The row has a budget and has used it up. -/
def outOfWork (r : WatchRow) : Bool := r.workUnitBudget.any (· ≤ r.workUnitsUsed)

/-- The `WHERE` clause of the charging statement. -/
def claimable (now : ℤ) (id : JsString) (claim : WorkClaim) (r : WatchRow) : Bool :=
  hasId id r && eligible claim now r && hasWorkUnit r

/-- The `WHERE` clause of the exhausting statement. -/
def exhaustible (now : ℤ) (id : JsString) (claim : WorkClaim) (r : WatchRow) : Bool :=
  hasId id r && eligible claim now r && outOfWork r

/-- `claimWorkUnit`. -/
def claimWorkUnit (s : Store) (now : ℤ) (id : JsString) (claim : WorkClaim) :
    Store × Except StoreError WorkClaimResult :=
  match currentTime now with
  | .error e => (s, .error e)
  | .ok claimNow =>
      let claimed := s.update (claimable claimNow id claim) WatchRow.charge fun _ => rfl
      if Table.changes (claimable claimNow id claim) s.rows = 1 then (claimed, .ok .claimed)
      else
        let exhausted := claimed.update (exhaustible claimNow id claim) WatchRow.exhaust fun _ => rfl
        if Table.changes (exhaustible claimNow id claim) claimed.rows = 1 then
          (exhausted, .ok .exhausted)
        else (exhausted, .ok .inactive)

/-! ## Polling -/

/-- `/^[a-z0-9_]{1,64}$/`. -/
def isFailureCode (code : JsString) : Bool :=
  1 ≤ code.length && code.length ≤ 64 &&
    code.all fun u => (97 ≤ u && u ≤ 122) || (48 ≤ u && u ≤ 57) || u == 95

/-- A failure status that is absent or an HTTP status. -/
def isFailureStatus (status : Option ℤ) : Bool :=
  status.all fun n => Json.isSafeInteger n && 100 ≤ n && n ≤ 599

/-- The retry time `recordPollingFailure` stores. -/
def retryTime (failure : PollingFailure) (failedAt : ℤ) : Except StoreError (Option ℤ) :=
  if failure.disposition = .permanent then .ok none
  else
    match failure.retryAt with
    | some retryAt =>
        if validDate retryAt && failedAt < retryAt then .ok (some retryAt)
        else .error .pollingFailureRetryAt
    | none => .error .pollingFailureRetryAt

/-- `recordPollingFailure`. -/
def recordPollingFailure (s : Store) (now : ℤ) (id : JsString) (failure : PollingFailure) :
    Store × Except StoreError (Option WatchRow) :=
  if isFailureCode failure.code = false then (s, .error .pollingFailureCode)
  else if isFailureStatus failure.status = false then (s, .error .pollingFailureStatus)
  else
    match currentTime now with
    | .error e => (s, .error e)
    | .ok failedAt =>
        match retryTime failure failedAt with
        | .error e => (s, .error e)
        | .ok retryAt =>
            let failing := fun r : WatchRow => hasId id r && r.state == .active
            let s' := s.update failing (·.recordFailure failure failedAt retryAt) fun _ => rfl
            (s', .ok (if Table.changes failing s.rows = 1 then s'.getWatch id else none))

/-- `clearPollingFailure`. -/
def clearPollingFailure (s : Store) (id : JsString) : Store :=
  s.update (fun r => hasId id r && r.state == .active) WatchRow.clearFailure fun _ => rfl

/-- `markMatched`. -/
def markMatched (s : Store) (id transaction : JsString) (round : ℤ) : Store × Option WatchRow :=
  let s' := s.update (fun r => hasId id r && r.state == .active) (·.matchWith transaction round)
    fun _ => rfl
  (s', s'.getWatch id)

/-- `advanceScanRound`. -/
def advanceScanRound (s : Store) (id : JsString) (expectedRound round : ℤ) : Store × Bool :=
  if Json.isSafeInteger round = false ∨ round ≤ expectedRound then (s, false)
  else
    let advancing := fun r : WatchRow =>
      hasId id r && r.state == .active && r.scanAfterRound == some expectedRound &&
        r.scanAfterRound.any (· < round)
    (s.update advancing (·.advanceTo round) fun _ => rfl,
      decide (Table.changes advancing s.rows = 1))

/-- `setClosingRound`. -/
def setClosingRound (s : Store) (id : JsString) (round : ℤ) : Store × Option ℤ :=
  let s' := s.update (fun r => hasId id r && r.state == .active && r.evidenceVersion == 1)
    (·.closeAt round) fun _ => rfl
  (s', (s'.getWatch id).bind WatchRow.closingRound)

/-- `markExpired`. -/
def markExpired (s : Store) (id : JsString) (expectedScanRound closingRound : ℤ) : Store × Bool :=
  let expiring := fun r : WatchRow =>
    hasId id r && r.state == .active && r.evidenceVersion == 1 &&
      r.scanAfterRound == some expectedScanRound && r.closingRound == some closingRound &&
      decide (closingRound ≤ expectedScanRound)
  (s.update expiring WatchRow.expire fun _ => rfl, decide (Table.changes expiring s.rows = 1))

/-! ## Reconciliation -/

/-- `recordReconciliationFailure`. -/
def recordReconciliationFailure (s : Store) (id : JsString) (nextAttemptAt : ℤ) :
    Store × Except StoreError Unit :=
  if validDate nextAttemptAt then
    (s.update (fun r => hasId id r && r.unsettled) (·.deferUntil nextAttemptAt) fun _ => rfl, .ok ())
  else (s, .error .invalidTimeValue)

/-! ## Candidate lists -/

/-- `listPollingCandidates`. -/
def listPollingCandidates (s : Store) (now : ℤ) : Except StoreError (List WatchRow) :=
  match currentTime now with
  | .error e => .error e
  | .ok now =>
      .ok ((s.rows.filter fun r => r.state == .active && r.pollingRetryAt.all (dueBy now)).insertionSort
        fun a b => dueBy b.createdAt a.createdAt = true)

/-- `listSettlementReconciliationCandidates`. -/
def listSettlementReconciliationCandidates (s : Store) (now : ℤ) :
    Except StoreError (List WatchRow) :=
  match currentTime now with
  | .error e => .error e
  | .ok now =>
      let due := fun r : WatchRow =>
        Dates.toIsoText (r.reconciliationNextAttemptAt.getD r.createdAt)
      .ok ((s.rows.filter fun r => r.unsettled && r.expectedServiceTransaction.isSome &&
          r.reconciliationNextAttemptAt.all (dueBy now)).insertionSort
        fun a b => due a < due b ∨ (due a = due b ∧ dueBy b.createdAt a.createdAt = true))

/-- `getByPayerAndIdempotencyKey`. -/
def getByPayerAndIdempotencyKey (s : Store) (payer idempotencyKey : JsString) : Option WatchRow :=
  s.findPayerIdempotencyRow payer idempotencyKey

/-! ## Refunds -/

/-- The networks a refund can be recorded on. -/
def supportedRefundNetworks : List JsString :=
  [js "algorand:SGO1GKSzyE7IEPItTxCByw9x8FmnrCDexi9/cOUJOiI=",
    js "algorand:wGHE2Pwdvd7S12BL5FaOP20EGYesN73ktiC1qzkkit8="]

/-- `/^[A-Z2-7]{52}$/`. -/
def isRefundTransaction (transaction : JsString) : Bool :=
  transaction.length == 52 &&
    transaction.all fun u => (65 ≤ u && u ≤ 90) || (50 ≤ u && u ≤ 55)

/-- `/^[1-9]\d*$/`. -/
def isPositiveDecimal (amount : JsString) : Bool :=
  match amount with
  | [] => false
  | u :: rest => (49 ≤ u && u ≤ 57) && rest.all fun v => 48 ≤ v && v ≤ 57

/-- The characters of a decimal are digits. -/
theorem digit_of_isPositiveDecimal {amount : JsString} (h : isPositiveDecimal amount = true)
    {u : UInt16} (hu : u ∈ amount) : 48 ≤ u ∧ u ≤ 57 := by
  cases amount with
  | nil => simp at hu
  | cons v rest =>
      simp only [isPositiveDecimal, Bool.and_eq_true, decide_eq_true_eq, List.all_eq_true] at h
      rcases List.mem_cons.1 hu with rfl | hu
      · exact ⟨UInt16.le_trans (by decide) h.1.1, h.1.2⟩
      · exact h.2 u hu

theorem wellFormed_of_isPositiveDecimal {amount : JsString}
    (h : isPositiveDecimal amount = true) : WellFormed amount :=
  wellFormed_of_plain fun _ hu =>
    Nat.lt_of_le_of_lt (digit_of_isPositiveDecimal h hu).2 (by decide)

/-- A decimal comes back from a text column as it was bound. -/
theorem keeps_of_isPositiveDecimal (read : TextRead) {amount : JsString}
    (h : isPositiveDecimal amount = true) : read.Keeps amount :=
  TextRead.keeps_of_plain read (wellFormed_of_isPositiveDecimal h) fun hzero =>
    absurd (digit_of_isPositiveDecimal h hzero).1 (by decide)

/-- `MAX_UINT64`. -/
def maxUint64 : ℕ := 0xFFFFFFFFFFFFFFFF

/-- `assertRefundEvidence`. -/
def assertRefundEvidence (evidence : RefundEvidence) : Except StoreError Unit :=
  if isRefundTransaction evidence.transaction = false then .error .refundTransaction
  else if evidence.network ∉ supportedRefundNetworks then .error .refundNetwork
  else if isPositiveDecimal evidence.atomicAmount = false ∨
      (digitsValue? 10 0 evidence.atomicAmount).all (maxUint64 < ·) then .error .refundAmount
  else if evidence.reason.any fun reason =>
      decide (reason.length < 1) || decide (256 < utf8ByteLength reason) then .error .refundReason
  else .ok ()

/-- `recordRefundEvidence`.  The ledger is never pruned, so `AUTOINCREMENT` numbers
its rows by their position. -/
def recordRefundEvidence (s : Store) (now : ℤ) (watchId : JsString) (evidence : RefundEvidence) :
    Store × Except StoreError RefundRow :=
  match s.getWatch watchId with
  | none => (s, .error (.missingRefundWatch watchId))
  | some _ =>
      match assertRefundEvidence evidence with
      | .error e => (s, .error e)
      | .ok () =>
          match s.refunds.find? fun refund => refund.transaction == bindText evidence.transaction with
          | some existing =>
              if existing.watchId.val ≠ watchId ∨ existing.network.val ≠ evidence.network ∨
                  existing.atomicAmount.val ≠ evidence.atomicAmount ∨
                  existing.reason.map SqlText.val ≠ evidence.reason then
                (s, .error .refundConflict)
              else (s, .ok existing)
          | none =>
              match currentTime now with
              | .error e => (s, .error e)
              | .ok recordedAt =>
                  let row : RefundRow :=
                    { id := s.refunds.length + 1
                      watchId := s.config.columnText watchId
                      transaction := bindText evidence.transaction
                      network := s.config.columnText evidence.network
                      atomicAmount := s.config.columnText evidence.atomicAmount
                      reason := evidence.reason.map s.config.columnText
                      recordedAt := recordedAt }
                  ({ s with refunds := s.refunds ++ [row] }, .ok row)

/-! ## Opening an existing database -/

/-- The constructor on a database that is already there: the new limits, and the
configured budget for the open rows that have none. -/
def reopen (s : Store) (config : StoreConfig) : Store :=
  { s.update (fun r => r.openObligation && r.workUnitBudget.isNone)
      (·.repairBudget config.workUnitBudget) fun _ => rfl with config := config }

end Store

end RoundWatch
