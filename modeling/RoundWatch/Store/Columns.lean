import RoundWatch.Foundation.Columns
import RoundWatch.Foundation.IsoTexts
import RoundWatch.Store.Operations

/-!
# The columns of the watch table

What a row of `roundwatch_watches` is in SQLite: a value for each column, texts for the
times and for the enumerations.

* `WatchRow.values` — the values that the statements bind;
* `fetchRow` — what the driver returns of them: texts up to their first U+0000, and no
  integer that a number does not hold exactly;
* `mapRow`, `readRow` — the row that is made of them again;
* `readRow_values` — **what is read back** of a row whose times are dates and whose integers
  are safe, and `WatchRow.Readable`, where that is the row.
-/

namespace RoundWatch

open JsText Dates

/-! ## Values -/

/-- A value of a column. -/
inductive SqlValue where
  | null
  | integer (n : ℤ)
  | text (t : SqlText)
  deriving DecidableEq

namespace SqlValue

def nullableText : Option SqlText → SqlValue
  | none => null
  | some t => text t

def nullableInteger : Option ℤ → SqlValue
  | none => null
  | some n => integer n

/-- A time, as `toISOString` writes it. -/
def time (t : Option ℤ) : SqlValue := nullableText (t.map fun t => bindText (toIsoText t))

/-- A member of an enumeration, by its spelling. -/
def name (s : Option String) : SqlValue := nullableText (s.map fun s => bindText (js s))

/-- What the driver returns of a text: the bytes up to the first zero. -/
def cut : SqlValue → SqlValue
  | text t => text (TextRead.untilNul.returned t)
  | v => v

/-- The driver has a number for the value. -/
def isSafe : SqlValue → Bool
  | integer n => Json.isSafeInteger n
  | _ => true

def readText : SqlValue → Option SqlText
  | text t => some t
  | _ => none

def readInteger : SqlValue → Option ℤ
  | integer n => some n
  | _ => none

def readNat : SqlValue → Option ℕ
  | integer n => if 0 ≤ n then some n.toNat else none
  | _ => none

def readTime : SqlValue → Option ℤ
  | text t => timeOfIso t.val
  | _ => none

def readName {α : Type} (spelling : α → String) (members : List α) : SqlValue → Option α
  | text t => members.find? fun a => t == bindText (js (spelling a))
  | _ => none

end SqlValue

/-- A value that may be null. -/
def nullable {α : Type} (read : SqlValue → Option α) : SqlValue → Option (Option α)
  | .null => some none
  | v => (read v).map some

def WatchTerminalReason.columnText : WatchTerminalReason → String
  | .workBudgetExhausted => "work_budget_exhausted"
  | .indexerPermanentFailure => "indexer_permanent_failure"

def PollingFailureDisposition.columnText : PollingFailureDisposition → String
  | .permanent => "permanent"
  | .transient => "transient"
  | .unknown => "unknown"

def watchStates : List WatchState :=
  [.settlementPending, .active, .matched, .settlementUnknown, .expired, .indeterminate]

def watchTerminalReasons : List WatchTerminalReason :=
  [.workBudgetExhausted, .indexerPermanentFailure]

def pollingFailureDispositions : List PollingFailureDisposition :=
  [.permanent, .transient, .unknown]

/-! ## Columns -/

/-- The columns of `roundwatch_watches`, and any other that a database may have. -/
inductive WatchColumn where
  | id
  | idempotencyKey
  | state
  | expectedSender
  | expectedReceiver
  | assetId
  | atomicAmount
  | invoiceNote
  | expectedServiceTransaction
  | expectedServiceNetwork
  | expectedServicePayer
  | serviceTransaction
  | serviceNetwork
  | servicePayer
  | activationRound
  | activatedAt
  | scanAfterRound
  | createdAt
  | expiresAt
  | matchedTransaction
  | matchedRound
  | settlementReconciliationTerminal
  | closingRound
  | evidenceVersion
  | serviceReceiver
  | serviceAssetId
  | serviceAtomicAmount
  | serviceFirstValid
  | serviceLastValid
  | reconciliationAttempts
  | reconciliationNextAttemptAt
  | workUnitBudget
  | workUnitsUsed
  | terminalReason
  | pollingFailureCode
  | pollingFailureStatus
  | pollingFailureDisposition
  | pollingFailureCount
  | pollingLastFailureAt
  | pollingRetryAt
  | other (name : JsString)
  deriving DecidableEq

/-- The columns of `createWatchTable`. -/
def watchColumns : List WatchColumn :=
  [.id, .idempotencyKey, .state, .expectedSender, .expectedReceiver, .assetId, .atomicAmount,
    .invoiceNote, .expectedServiceTransaction, .expectedServiceNetwork, .expectedServicePayer,
    .serviceTransaction, .serviceNetwork, .servicePayer, .activationRound, .activatedAt,
    .scanAfterRound, .createdAt, .expiresAt, .matchedTransaction, .matchedRound,
    .settlementReconciliationTerminal, .closingRound, .evidenceVersion, .serviceReceiver,
    .serviceAssetId, .serviceAtomicAmount, .serviceFirstValid, .serviceLastValid,
    .reconciliationAttempts, .reconciliationNextAttemptAt, .workUnitBudget, .workUnitsUsed,
    .terminalReason, .pollingFailureCode, .pollingFailureStatus, .pollingFailureDisposition,
    .pollingFailureCount, .pollingLastFailureAt, .pollingRetryAt]

/-- The name of a column. -/
def WatchColumn.name : WatchColumn → JsString
  | .id => js "id"
  | .idempotencyKey => js "idempotency_key"
  | .state => js "state"
  | .expectedSender => js "expected_sender"
  | .expectedReceiver => js "expected_receiver"
  | .assetId => js "asset_id"
  | .atomicAmount => js "atomic_amount"
  | .invoiceNote => js "invoice_note"
  | .expectedServiceTransaction => js "expected_service_transaction"
  | .expectedServiceNetwork => js "expected_service_network"
  | .expectedServicePayer => js "expected_service_payer"
  | .serviceTransaction => js "service_transaction"
  | .serviceNetwork => js "service_network"
  | .servicePayer => js "service_payer"
  | .activationRound => js "activation_round"
  | .activatedAt => js "activated_at"
  | .scanAfterRound => js "scan_after_round"
  | .createdAt => js "created_at"
  | .expiresAt => js "expires_at"
  | .matchedTransaction => js "matched_transaction"
  | .matchedRound => js "matched_round"
  | .settlementReconciliationTerminal => js "settlement_reconciliation_terminal"
  | .closingRound => js "closing_round"
  | .evidenceVersion => js "evidence_version"
  | .serviceReceiver => js "service_receiver"
  | .serviceAssetId => js "service_asset_id"
  | .serviceAtomicAmount => js "service_atomic_amount"
  | .serviceFirstValid => js "service_first_valid"
  | .serviceLastValid => js "service_last_valid"
  | .reconciliationAttempts => js "reconciliation_attempts"
  | .reconciliationNextAttemptAt => js "reconciliation_next_attempt_at"
  | .workUnitBudget => js "work_unit_budget"
  | .workUnitsUsed => js "work_units_used"
  | .terminalReason => js "terminal_reason"
  | .pollingFailureCode => js "polling_failure_code"
  | .pollingFailureStatus => js "polling_failure_status"
  | .pollingFailureDisposition => js "polling_failure_disposition"
  | .pollingFailureCount => js "polling_failure_count"
  | .pollingLastFailureAt => js "polling_last_failure_at"
  | .pollingRetryAt => js "polling_retry_at"
  | .other name => name

/-- The values of a row. -/
def WatchRow.values (r : WatchRow) : WatchColumn → SqlValue
  | .id => .text r.id
  | .idempotencyKey => .text r.idempotencyKey
  | .state => .name (some r.state.name)
  | .expectedSender => .text r.expectedSender
  | .expectedReceiver => .text r.expectedReceiver
  | .assetId => .integer r.assetId
  | .atomicAmount => .text r.atomicAmount
  | .invoiceNote => .nullableText r.invoiceNote
  | .expectedServiceTransaction => .nullableText r.expectedServiceTransaction
  | .expectedServiceNetwork => .nullableText r.expectedServiceNetwork
  | .expectedServicePayer => .nullableText r.expectedServicePayer
  | .serviceTransaction => .nullableText r.serviceTransaction
  | .serviceNetwork => .nullableText r.serviceNetwork
  | .servicePayer => .nullableText r.servicePayer
  | .activationRound => .nullableInteger r.activationRound
  | .activatedAt => .time r.activatedAt
  | .scanAfterRound => .nullableInteger r.scanAfterRound
  | .createdAt => .time (some r.createdAt)
  | .expiresAt => .time r.expiresAt
  | .matchedTransaction => .nullableText r.matchedTransaction
  | .matchedRound => .nullableInteger r.matchedRound
  | .settlementReconciliationTerminal =>
      .integer (if r.settlementReconciliationTerminal then 1 else 0)
  | .closingRound => .nullableInteger r.closingRound
  | .evidenceVersion => .integer r.evidenceVersion
  | .serviceReceiver => .nullableText r.serviceReceiver
  | .serviceAssetId => .nullableInteger r.serviceAssetId
  | .serviceAtomicAmount => .nullableText r.serviceAtomicAmount
  | .serviceFirstValid => .nullableInteger r.serviceFirstValid
  | .serviceLastValid => .nullableInteger r.serviceLastValid
  | .reconciliationAttempts => .integer r.reconciliationAttempts
  | .reconciliationNextAttemptAt => .time r.reconciliationNextAttemptAt
  | .workUnitBudget => .nullableInteger (r.workUnitBudget.map Nat.cast)
  | .workUnitsUsed => .integer r.workUnitsUsed
  | .terminalReason => .name (r.terminalReason.map WatchTerminalReason.columnText)
  | .pollingFailureCode => .nullableText r.pollingFailureCode
  | .pollingFailureStatus => .nullableInteger r.pollingFailureStatus
  | .pollingFailureDisposition =>
      .name (r.pollingFailureDisposition.map PollingFailureDisposition.columnText)
  | .pollingFailureCount => .integer r.pollingFailureCount
  | .pollingLastFailureAt => .time r.pollingLastFailureAt
  | .pollingRetryAt => .time r.pollingRetryAt
  | .other _ => .null

/-- The row of a `SELECT *`.  An integer that is not safe is a `RangeError`. -/
def fetchRow (v : WatchColumn → SqlValue) : Option (WatchColumn → SqlValue) :=
  if watchColumns.all fun c => (v c).isSafe then some fun c => (v c).cut else none

/-- `mapRow`, and the fields as their readers take them. -/
def mapRow (v : WatchColumn → SqlValue) : Option WatchRow := do
  let id ← (v .id).readText
  let idempotencyKey ← (v .idempotencyKey).readText
  let state ← (v .state).readName WatchState.name watchStates
  let expectedSender ← (v .expectedSender).readText
  let expectedReceiver ← (v .expectedReceiver).readText
  let assetId ← (v .assetId).readInteger
  let atomicAmount ← (v .atomicAmount).readText
  let invoiceNote ← nullable SqlValue.readText (v .invoiceNote)
  let expectedServiceTransaction ← nullable SqlValue.readText (v .expectedServiceTransaction)
  let expectedServiceNetwork ← nullable SqlValue.readText (v .expectedServiceNetwork)
  let expectedServicePayer ← nullable SqlValue.readText (v .expectedServicePayer)
  let serviceTransaction ← nullable SqlValue.readText (v .serviceTransaction)
  let serviceNetwork ← nullable SqlValue.readText (v .serviceNetwork)
  let servicePayer ← nullable SqlValue.readText (v .servicePayer)
  let activationRound ← nullable SqlValue.readInteger (v .activationRound)
  let activatedAt ← nullable SqlValue.readTime (v .activatedAt)
  let scanAfterRound ← nullable SqlValue.readInteger (v .scanAfterRound)
  let createdAt ← (v .createdAt).readTime
  let expiresAt ← nullable SqlValue.readTime (v .expiresAt)
  let matchedTransaction ← nullable SqlValue.readText (v .matchedTransaction)
  let matchedRound ← nullable SqlValue.readInteger (v .matchedRound)
  let settlementReconciliationTerminal ← (v .settlementReconciliationTerminal).readInteger
  let closingRound ← nullable SqlValue.readInteger (v .closingRound)
  let evidenceVersion ← (v .evidenceVersion).readNat
  let serviceReceiver ← nullable SqlValue.readText (v .serviceReceiver)
  let serviceAssetId ← nullable SqlValue.readInteger (v .serviceAssetId)
  let serviceAtomicAmount ← nullable SqlValue.readText (v .serviceAtomicAmount)
  let serviceFirstValid ← nullable SqlValue.readInteger (v .serviceFirstValid)
  let serviceLastValid ← nullable SqlValue.readInteger (v .serviceLastValid)
  let reconciliationAttempts ← (v .reconciliationAttempts).readNat
  let reconciliationNextAttemptAt ← nullable SqlValue.readTime (v .reconciliationNextAttemptAt)
  let workUnitBudget ← nullable SqlValue.readNat (v .workUnitBudget)
  let workUnitsUsed ← (v .workUnitsUsed).readNat
  let terminalReason ←
    nullable (SqlValue.readName WatchTerminalReason.columnText watchTerminalReasons)
      (v .terminalReason)
  let pollingFailureCode ← nullable SqlValue.readText (v .pollingFailureCode)
  let pollingFailureStatus ← nullable SqlValue.readInteger (v .pollingFailureStatus)
  let pollingFailureDisposition ←
    nullable (SqlValue.readName PollingFailureDisposition.columnText pollingFailureDispositions)
      (v .pollingFailureDisposition)
  let pollingFailureCount ← (v .pollingFailureCount).readNat
  let pollingLastFailureAt ← nullable SqlValue.readTime (v .pollingLastFailureAt)
  let pollingRetryAt ← nullable SqlValue.readTime (v .pollingRetryAt)
  return {
    id, idempotencyKey, state, expectedSender, expectedReceiver, assetId, atomicAmount,
    invoiceNote, expectedServiceTransaction, expectedServiceNetwork, expectedServicePayer,
    serviceTransaction, serviceNetwork, servicePayer, activationRound, activatedAt,
    scanAfterRound, createdAt, expiresAt, matchedTransaction, matchedRound,
    settlementReconciliationTerminal := settlementReconciliationTerminal == 1, closingRound,
    evidenceVersion, serviceReceiver, serviceAssetId, serviceAtomicAmount, serviceFirstValid,
    serviceLastValid, reconciliationAttempts, reconciliationNextAttemptAt, workUnitBudget,
    workUnitsUsed, terminalReason, pollingFailureCode, pollingFailureStatus,
    pollingFailureDisposition, pollingFailureCount, pollingLastFailureAt, pollingRetryAt }

/-- A row, from the database. -/
def readRow (v : WatchColumn → SqlValue) : Option WatchRow := (fetchRow v).bind mapRow

/-! ## Reading what was written -/

namespace SqlValue

@[simp] theorem readText_text (t : SqlText) : (text t).readText = some t := rfl

@[simp] theorem readInteger_integer (n : ℤ) : (integer n).readInteger = some n := rfl

@[simp] theorem readNat_integer (n : ℕ) : (integer n).readNat = some n := by
  simp [readNat]

@[simp] theorem nullable_text (t : Option SqlText) : nullable readText (nullableText t) = some t := by
  cases t <;> rfl

@[simp] theorem nullable_integer (n : Option ℤ) :
    nullable readInteger (nullableInteger n) = some n := by
  cases n <;> rfl

@[simp] theorem nullable_nat (n : Option ℕ) :
    nullable readNat (nullableInteger (n.map Nat.cast)) = some n := by
  cases n with
  | none => rfl
  | some n => simp [nullableInteger, nullable]

/-- The times that a `Date` can have. -/
def IsDate (t : ℤ) : Prop := t.natAbs ≤ maxTime.natAbs

theorem readTime_time {t : ℤ} (h : IsDate t) : (time (some t)).readTime = some t := by
  show timeOfIso (bindText (toIsoText t)).val = some t
  rw [val_bindText_of_wellFormed (wellFormed_toIsoText t), timeOfIso_toIsoText h]

theorem nullable_time {t : Option ℤ} (h : ∀ u ∈ t, IsDate u) :
    nullable readTime (time t) = some t := by
  cases t with
  | none => rfl
  | some t =>
      show ((time (some t)).readTime).map some = some (some t)
      rw [readTime_time (h t rfl)]
      rfl

theorem readName_name {α : Type} {spelling : α → String} {members : List α} {a : α}
    (h : members.find? (fun b => bindText (js (spelling a)) == bindText (js (spelling b))) = some a) :
    (name (some (spelling a))).readName spelling members = some a := h

theorem nullable_name {α : Type} (spelling : α → String) (members : List α)
    (h : ∀ a, members.find? (fun b => bindText (js (spelling a)) == bindText (js (spelling b))) = some a)
    (a : Option α) : nullable (readName spelling members) (name (a.map spelling)) = some a := by
  cases a with
  | none => rfl
  | some a =>
      show ((name (some (spelling a))).readName spelling members).map some = some (some a)
      rw [readName_name (h a)]
      rfl

end SqlValue

open SqlValue

/-- The times of a row are dates. -/
structure WatchRow.Dated (r : WatchRow) : Prop where
  createdAt : IsDate r.createdAt
  activatedAt : ∀ t ∈ r.activatedAt, IsDate t
  expiresAt : ∀ t ∈ r.expiresAt, IsDate t
  reconciliationNextAttemptAt : ∀ t ∈ r.reconciliationNextAttemptAt, IsDate t
  pollingLastFailureAt : ∀ t ∈ r.pollingLastFailureAt, IsDate t
  pollingRetryAt : ∀ t ∈ r.pollingRetryAt, IsDate t

/-- The values of a row are those of the row. -/
theorem mapRow_values {r : WatchRow} (h : r.Dated) : mapRow r.values = some r := by
  have hstate : (name (some r.state.name)).readName WatchState.name watchStates = some r.state :=
    readName_name (by cases r.state <;> decide)
  have hreason := nullable_name WatchTerminalReason.columnText watchTerminalReasons
    (fun a => by cases a <;> decide) r.terminalReason
  have hdisposition := nullable_name PollingFailureDisposition.columnText
    pollingFailureDispositions (fun a => by cases a <;> decide) r.pollingFailureDisposition
  have hterminal : ((if r.settlementReconciliationTerminal = true then (1 : ℤ) else 0) == 1) =
      r.settlementReconciliationTerminal := by
    cases r.settlementReconciliationTerminal <;> rfl
  simp [mapRow, WatchRow.values, hstate, hreason, hdisposition, hterminal,
    readTime_time h.createdAt, nullable_time h.activatedAt, nullable_time h.expiresAt,
    nullable_time h.reconciliationNextAttemptAt, nullable_time h.pollingLastFailureAt,
    nullable_time h.pollingRetryAt]

/-- Two rows with the same values are one. -/
theorem eq_of_values {r r' : WatchRow} (h : r.Dated) (h' : r'.Dated)
    (hsame : r'.values = r.values) : r' = r := by
  have hread := mapRow_values h'
  rw [hsame, mapRow_values h] at hread
  exact (Option.some.inj hread).symm

/-! ## What comes back -/

/-- A row with its texts cut. -/
def WatchRow.returned (r : WatchRow) : WatchRow :=
  let cut := TextRead.untilNul.returned
  { r with
    id := cut r.id
    idempotencyKey := cut r.idempotencyKey
    expectedSender := cut r.expectedSender
    expectedReceiver := cut r.expectedReceiver
    atomicAmount := cut r.atomicAmount
    invoiceNote := r.invoiceNote.map cut
    expectedServiceTransaction := r.expectedServiceTransaction.map cut
    expectedServiceNetwork := r.expectedServiceNetwork.map cut
    expectedServicePayer := r.expectedServicePayer.map cut
    serviceTransaction := r.serviceTransaction.map cut
    serviceNetwork := r.serviceNetwork.map cut
    servicePayer := r.servicePayer.map cut
    matchedTransaction := r.matchedTransaction.map cut
    serviceReceiver := r.serviceReceiver.map cut
    serviceAtomicAmount := r.serviceAtomicAmount.map cut
    pollingFailureCode := r.pollingFailureCode.map cut }

theorem WatchRow.Dated.returned {r : WatchRow} (h : r.Dated) : r.returned.Dated :=
  ⟨h.createdAt, h.activatedAt, h.expiresAt, h.reconciliationNextAttemptAt,
    h.pollingLastFailureAt, h.pollingRetryAt⟩

theorem SqlValue.cut_nullableText (t : Option SqlText) :
    (nullableText t).cut = nullableText (t.map TextRead.untilNul.returned) := by
  cases t <;> rfl

theorem SqlValue.cut_nullableInteger (n : Option ℤ) :
    (nullableInteger n).cut = nullableInteger n := by
  cases n <;> rfl

/-- A text of the format is not cut. -/
theorem SqlValue.cut_time (t : Option ℤ) : (time t).cut = time t := by
  cases t with
  | none => rfl
  | some t =>
      have hplain : 0 ∉ (bindText (toIsoText t)).val := by
        rw [val_bindText_of_wellFormed (wellFormed_toIsoText t)]
        exact zero_notMem_toIsoText t
      exact congrArg text (TextRead.returned_of_plain _ hplain)

/-- The spellings of an enumeration are not cut. -/
theorem SqlValue.cut_name {α : Type} (spelling : α → String)
    (h : ∀ a, 0 ∉ (bindText (js (spelling a))).val) (a : Option α) :
    (name (a.map spelling)).cut = name (a.map spelling) := by
  cases a with
  | none => rfl
  | some a => exact congrArg text (TextRead.returned_of_plain _ (h a))

/-- The values of a row that comes back are the values, cut. -/
theorem values_returned (r : WatchRow) (c : WatchColumn) :
    r.returned.values c = (r.values c).cut := by
  cases c with
  | state =>
      exact (cut_name WatchState.name (fun a => by cases a <;> decide) (some r.state)).symm
  | terminalReason =>
      exact (cut_name WatchTerminalReason.columnText (fun a => by cases a <;> decide) _).symm
  | pollingFailureDisposition =>
      exact (cut_name PollingFailureDisposition.columnText (fun a => by cases a <;> decide) _).symm
  | activatedAt => exact (cut_time _).symm
  | createdAt => exact (cut_time _).symm
  | expiresAt => exact (cut_time _).symm
  | reconciliationNextAttemptAt => exact (cut_time _).symm
  | pollingLastFailureAt => exact (cut_time _).symm
  | pollingRetryAt => exact (cut_time _).symm
  | _ => first | rfl | exact (cut_nullableText _).symm | exact (cut_nullableInteger _).symm

/-- The integers of a row are safe. -/
def WatchRow.Safe (r : WatchRow) : Prop := ∀ c, (r.values c).isSafe = true

/-- No text of a row has U+0000. -/
def WatchRow.Plain (r : WatchRow) : Prop := ∀ c t, r.values c = .text t → 0 ∉ t.val

/-- **What is read back.** -/
theorem readRow_values {r : WatchRow} (h : r.Dated) (hsafe : r.Safe) :
    readRow r.values = some r.returned := by
  have hfetched : fetchRow r.values = some r.returned.values := by
    rw [fetchRow, if_pos (List.all_eq_true.2 fun c _ => hsafe c)]
    exact congrArg some (funext fun c => (values_returned r c).symm)
  rw [readRow, hfetched, Option.bind_some, mapRow_values h.returned]

/-- A row without U+0000 comes back as it is. -/
theorem returned_of_plain {r : WatchRow} (h : r.Dated) (hplain : r.Plain) : r.returned = r := by
  refine eq_of_values h h.returned (funext fun c => ?_)
  rw [values_returned]
  cases hvalue : r.values c with
  | text t => exact congrArg SqlValue.text (TextRead.returned_of_plain _ (hplain c t hvalue))
  | null => rfl
  | integer n => rfl

/-- What a row needs to be read back as it was written. -/
structure WatchRow.Readable (r : WatchRow) : Prop where
  dated : r.Dated
  safe : r.Safe
  plain : r.Plain

/-- **What is written is read back.** -/
theorem WatchRow.Readable.read {r : WatchRow} (h : r.Readable) : readRow r.values = some r := by
  rw [readRow_values h.dated h.safe, returned_of_plain h.dated h.plain]

/-- A text that was cut is not cut again. -/
theorem TextRead.returned_idem (t : SqlText) :
    untilNul.returned (untilNul.returned t) = untilNul.returned t := by
  refine returned_of_plain _ fun hzero => ?_
  rcases mem_toWellFormed hzero with hzero | hzero
  · exact absurd (List.mem_takeWhile_imp hzero) (by decide)
  · exact absurd hzero (by decide)

/-- **The row of the model.**  It stands for the row that the `INSERT` binds, with its terms as
they are read: reading either back gives the same. -/
theorem returned_preparedRow (config : StoreConfig) (id : JsString) (spec : WatchSpec)
    (intent : Option SettlementIntent) (now expiresAt : ℤ) :
    (preparedRow { config with textRead := .untilNul } id spec intent now expiresAt).returned =
      (preparedRow { config with textRead := .whole } id spec intent now expiresAt).returned := by
  simp only [WatchRow.returned, preparedRow, StoreConfig.columnText, TextRead.returned_idem,
    Option.map_map, Function.comp_def]
  rfl

/-! ## The order of the times -/

/-- `value < value'`, in a text column. -/
def SqlValue.Less : SqlValue → SqlValue → Prop
  | .text t, .text t' => t.val < t'.val
  | _, _ => False

theorem time_less {t t' : ℤ} (h : FourDigits t) (h' : FourDigits t') :
    (SqlValue.time (some t)).Less (SqlValue.time (some t')) ↔ t < t' := by
  show (bindText (toIsoText t)).val < (bindText (toIsoText t')).val ↔ t < t'
  rw [val_bindText_of_wellFormed (wellFormed_toIsoText t),
    val_bindText_of_wellFormed (wellFormed_toIsoText t'), toIsoText_lt_iff h h']

/-- **The columns are faithful.**  A row whose times are dates and whose integers are safe is
read back from its columns with its texts up to their first U+0000, so as it is if they have
none; two rows whose times are dates, with the same values, are one; and the statements compare
its times, which are texts, as times, up to the year 9999. -/
theorem columns_faithful (r : WatchRow) (h : r.Dated) :
    (r.Safe → readRow r.values = some r.returned) ∧ (r.Plain → r.returned = r) ∧
      (∀ r' : WatchRow, r'.Dated → r'.values = r.values → r' = r) ∧
      ∀ r' : WatchRow,
        (FourDigits r.createdAt → FourDigits r'.createdAt →
          ((r.values .createdAt).Less (r'.values .createdAt) ↔ r.createdAt < r'.createdAt)) ∧
        (∀ t ∈ r.pollingRetryAt, ∀ t' ∈ r'.pollingRetryAt, FourDigits t → FourDigits t' →
          ((r.values .pollingRetryAt).Less (r'.values .pollingRetryAt) ↔ t < t')) ∧
        ∀ t ∈ r.reconciliationNextAttemptAt, ∀ t' ∈ r'.reconciliationNextAttemptAt,
          FourDigits t → FourDigits t' →
            ((r.values .reconciliationNextAttemptAt).Less
              (r'.values .reconciliationNextAttemptAt) ↔ t < t') := by
  refine ⟨readRow_values h, returned_of_plain h, fun r' h' hsame => eq_of_values h h' hsame, ?_⟩
  intro r'
  refine ⟨time_less, ?_, ?_⟩
  · intro t ht t' ht'
    simp only [WatchRow.values, Option.mem_def.1 ht, Option.mem_def.1 ht']
    exact time_less
  · intro t ht t' ht'
    simp only [WatchRow.values, Option.mem_def.1 ht, Option.mem_def.1 ht']
    exact time_less

/-- A watch with a note. -/
def boundSpec (note : JsString) : WatchSpec :=
  ⟨js "order-1", js "A", js "B", 31566704, js "1", some note⟩

/-- Its row as the `INSERT` binds it, a moment after the epoch. -/
def boundSample (note : JsString) : WatchRow :=
  preparedRow { StoreConfig.default with textRead := .whole } (js "w") (boundSpec note) none 7
    1800007

theorem dated_boundSample (note : JsString) : (boundSample note).Dated :=
  ⟨show (7 : ℤ).natAbs ≤ maxTime.natAbs by decide, nofun, by
    rintro t ⟨⟩
    exact show (1800007 : ℤ).natAbs ≤ maxTime.natAbs by decide, nofun, nofun, nofun⟩

theorem safe_boundSample (note : JsString) : (boundSample note).Safe := by
  intro c
  cases c <;> rfl

/-- A note with U+0000 comes back as what stands before it. -/
theorem columns_faithful_prepared :
    readRow (boundSample [97, 0, 98]).values = some (boundSample (js "a")) := by
  obtain ⟨hread, -⟩ := columns_faithful _ (dated_boundSample [97, 0, 98])
  rw [hread (safe_boundSample _)]
  decide

end RoundWatch
