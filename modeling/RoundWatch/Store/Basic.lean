import Mathlib.Data.List.TakeWhile
import RoundWatch.Foundation.Json
import RoundWatch.Foundation.Table

/-!
# The durable store: rows, constraints and errors

`RoundWatchStore` keeps one SQLite table of watches and one of refunds.  A watch
row is written and read as `WatchRow`; the JavaScript record `mapRow` makes of a
row differs from it only in writing `undefined` for `NULL`, so one structure
stands for both.

* Text columns hold `SqlText`: SQLite keeps a bound string as UTF-8, so what
  comes back is always well formed (`bindText`).  The driver returns a text up to its
  first U+0000 only (`TextRead.returned`).  No statement compares the terms of a
  specification or the evidence of a refund, so these columns hold what is returned of
  them (`StoreConfig.columnText`).  The other texts are compared in full; what the code
  reads back of them are ids, payers and transaction ids, which are taken to hold no
  U+0000.
* Dates are their epoch milliseconds.  The columns hold ISO 8601 text, and the
  statements compare them as texts.
* A `Store` carries the unique constraints of its table as a field, so a table
  that breaks one cannot be built.
-/

namespace RoundWatch

open JsText

/-! ## Columns -/

/-- A value of a text column. -/
@[ext] structure SqlText where
  val : JsString
  wellFormed : WellFormed val
  deriving DecidableEq

/-- Binding a string to a statement: what SQLite stores, and compares. -/
def bindText (s : JsString) : SqlText := ⟨toWellFormed s, wellFormed_toWellFormed s⟩

@[simp] theorem bindText_val (t : SqlText) : bindText t.val = t := SqlText.ext t.wellFormed

@[simp] theorem val_bindText (s : JsString) : (bindText s).val = toWellFormed s := rfl

theorem val_bindText_of_wellFormed {s : JsString} (h : WellFormed s) : (bindText s).val = s := h

/-- The empty text. -/
def emptyText : SqlText := bindText []

theorem bindText_ne_empty {s : JsString} (h : s ≠ []) : bindText s ≠ emptyText := by
  intro heq
  have hval : toWellFormed s = toWellFormed [] := congrArg SqlText.val heq
  exact h (toWellFormed_eq_nil.1 hval)

/-- How the driver hands over a text. -/
inductive TextRead where
  /-- As `node:sqlite` does: the bytes up to the first zero. -/
  | untilNul
  /-- All of it. -/
  | whole
  deriving DecidableEq, Repr

namespace TextRead

/-- What a read of a text column returns. -/
def returned : TextRead → SqlText → SqlText
  | untilNul, t => bindText (t.val.takeWhile (· ≠ 0))
  | whole, t => t

/-- The strings that come back as they were bound. -/
def Keeps (read : TextRead) (s : JsString) : Prop := WellFormed s ∧ (read = untilNul → 0 ∉ s)

instance (read : TextRead) (s : JsString) : Decidable (read.Keeps s) :=
  inferInstanceAs (Decidable (_ ∧ _))

theorem takeWhile_eq_self_iff {s : JsString} : s.takeWhile (· ≠ 0) = s ↔ 0 ∉ s := by
  rw [List.takeWhile_eq_self_iff]
  simp only [decide_eq_true_eq, ne_eq]
  exact ⟨fun h hmem => h 0 hmem rfl, fun h u hu hzero => h (hzero ▸ hu)⟩

theorem returned_of_plain (read : TextRead) {t : SqlText} (h : 0 ∉ t.val) :
    read.returned t = t := by
  cases read with
  | untilNul => rw [returned, takeWhile_eq_self_iff.2 h, bindText_val]
  | whole => rfl

/-- **What comes back unchanged**: a string without unpaired surrogates and, where the driver
stops there, without U+0000. -/
theorem val_returned_bindText {read : TextRead} {s : JsString} :
    (read.returned (bindText s)).val = s ↔ read.Keeps s := by
  cases read with
  | whole => simp [returned, Keeps, WellFormed]
  | untilNul =>
      constructor
      · intro h
        have hwell : WellFormed s := by
          rw [← h]
          exact wellFormed_toWellFormed _
        refine ⟨hwell, fun _ => takeWhile_eq_self_iff.1 ?_⟩
        have hlength := congrArg List.length h
        rw [returned, val_bindText, length_toWellFormed,
          val_bindText_of_wellFormed hwell] at hlength
        exact (List.takeWhile_prefix _).eq_of_length hlength
      · rintro ⟨hwell, hplain⟩
        have hbound : (bindText s).val = s := hwell
        rw [returned_of_plain untilNul (by rw [hbound]; exact hplain rfl), hbound]

/-- What comes back from `node:sqlite` comes back from every driver. -/
theorem Keeps.all {s : JsString} (h : untilNul.Keeps s) (read : TextRead) : read.Keeps s :=
  ⟨h.1, fun _ => h.2 rfl⟩

/-- A plain string comes back from every driver. -/
theorem keeps_of_plain (read : TextRead) {s : JsString} (hwell : WellFormed s) (hplain : 0 ∉ s) :
    read.Keeps s := ⟨hwell, fun _ => hplain⟩

end TextRead

/-- The largest time value of a `Date`, in milliseconds either side of the epoch. -/
def maxTimeValue : ℤ := 8640000000000000

/-- `Number.isFinite(date.getTime())`: a time outside the range is an invalid date. -/
def validDate (t : ℤ) : Bool := -maxTimeValue ≤ t && t ≤ maxTimeValue

/-- The life of a watch. -/
inductive WatchState where
  | settlementPending
  | active
  | matched
  | settlementUnknown
  | expired
  | indeterminate
  deriving DecidableEq, Repr

/-- The spelling of a state in the `state` column. -/
def WatchState.name : WatchState → String
  | .settlementPending => "settlement_pending"
  | .active => "active"
  | .matched => "matched"
  | .settlementUnknown => "settlement_unknown"
  | .expired => "expired"
  | .indeterminate => "indeterminate"

/-- Why a watch ended without a verdict. -/
inductive WatchTerminalReason where
  | workBudgetExhausted
  | indexerPermanentFailure
  deriving DecidableEq, Repr

inductive PollingFailureDisposition where
  | permanent
  | transient
  | unknown
  deriving DecidableEq, Repr

/-- One row of `roundwatch_watches`. -/
structure WatchRow where
  id : SqlText
  idempotencyKey : SqlText
  state : WatchState
  expectedSender : SqlText
  expectedReceiver : SqlText
  assetId : ℤ
  atomicAmount : SqlText
  invoiceNote : Option SqlText
  expectedServiceTransaction : Option SqlText
  expectedServiceNetwork : Option SqlText
  expectedServicePayer : Option SqlText
  serviceTransaction : Option SqlText
  serviceNetwork : Option SqlText
  servicePayer : Option SqlText
  activationRound : Option ℤ
  activatedAt : Option ℤ
  scanAfterRound : Option ℤ
  createdAt : ℤ
  expiresAt : Option ℤ
  matchedTransaction : Option SqlText
  matchedRound : Option ℤ
  settlementReconciliationTerminal : Bool
  closingRound : Option ℤ
  evidenceVersion : ℕ
  serviceReceiver : Option SqlText
  serviceAssetId : Option ℤ
  serviceAtomicAmount : Option SqlText
  serviceFirstValid : Option ℤ
  serviceLastValid : Option ℤ
  reconciliationAttempts : ℕ
  reconciliationNextAttemptAt : Option ℤ
  workUnitBudget : Option ℕ
  workUnitsUsed : ℕ
  terminalReason : Option WatchTerminalReason
  pollingFailureCode : Option SqlText
  pollingFailureStatus : Option ℤ
  pollingFailureDisposition : Option PollingFailureDisposition
  pollingFailureCount : ℕ
  pollingLastFailureAt : Option ℤ
  pollingRetryAt : Option ℤ
  deriving DecidableEq

/-- One row of `roundwatch_refunds`. -/
structure RefundRow where
  id : ℕ
  watchId : SqlText
  transaction : SqlText
  network : SqlText
  atomicAmount : SqlText
  reason : Option SqlText
  recordedAt : ℤ
  deriving DecidableEq

/-! ## Arguments -/

/-- What a client asks to watch for. -/
structure WatchSpec where
  idempotencyKey : JsString
  expectedSender : JsString
  expectedReceiver : JsString
  assetId : ℤ
  atomicAmount : JsString
  invoiceNote : Option JsString
  deriving DecidableEq

/-- The signed service payment of a watch, taken from its payment header. -/
structure SettlementIntent where
  expectedTransaction : JsString
  network : JsString
  payer : Option JsString
  receiver : JsString
  assetId : ℤ
  atomicAmount : JsString
  firstValid : ℤ
  lastValid : ℤ
  deriving DecidableEq

/-- What a settlement reports. -/
structure SettlementEvidence where
  transaction : JsString
  network : JsString
  payer : Option JsString
  deriving DecidableEq

/-- The plan a worker selected before it asks for a work unit. -/
inductive WorkClaim where
  | polling (expectedScanAfterRound : ℤ) (expectedClosingRound : Option ℤ)
      (expectedPollingFailureCount : ℕ)
  | reconciliation (expectedServiceTransaction : JsString) (expectedReconciliationAttempts : ℕ)

inductive WorkClaimResult where
  | claimed
  | exhausted
  | inactive
  deriving DecidableEq, Repr

structure PollingFailure where
  code : JsString
  status : Option ℤ
  disposition : PollingFailureDisposition
  retryAt : Option ℤ

structure RefundEvidence where
  transaction : JsString
  network : JsString
  atomicAmount : JsString
  reason : Option JsString

/-! ## Configuration -/

/-- `assertPositiveInteger` of the constructor. -/
def positiveInteger (n : ℕ) : Prop := 0 < n ∧ (n : ℤ) ≤ Json.maxSafeInteger

instance (n : ℕ) : Decidable (positiveInteger n) := inferInstanceAs (Decidable (_ ∧ _))

/-- The limits a store is opened with, and the driver. -/
structure StoreConfig where
  watchTtlMilliseconds : ℕ
  maxOpenWatches : ℕ
  maxOpenWatchesPerPayer : ℕ
  workUnitBudget : ℕ
  /-- A database keeps its driver for life. -/
  textRead : TextRead
  ttl_positive : positiveInteger watchTtlMilliseconds
  open_positive : positiveInteger maxOpenWatches
  perPayer_positive : positiveInteger maxOpenWatchesPerPayer
  budget_positive : positiveInteger workUnitBudget

/-- What a read returns of a string that was bound. -/
def StoreConfig.columnText (config : StoreConfig) (s : JsString) : SqlText :=
  config.textRead.returned (bindText s)

theorem StoreConfig.val_columnText {config : StoreConfig} {s : JsString} :
    (config.columnText s).val = s ↔ config.textRead.Keeps s :=
  TextRead.val_returned_bindText

/-- The limits of the constructor's defaults, with `node:sqlite`. -/
def StoreConfig.default : StoreConfig where
  watchTtlMilliseconds := 30 * 60 * 1000
  maxOpenWatches := 50
  maxOpenWatchesPerPayer := 5
  workUnitBudget := 500
  textRead := .untilNul
  ttl_positive := by decide
  open_positive := by decide
  perPayer_positive := by decide
  budget_positive := by decide

/-! ## Errors -/

inductive WatchCapacityScope where
  | global
  | payer
  deriving DecidableEq, Repr

/-- Everything a store operation throws. -/
inductive StoreError where
  | invalidClock
  | ttlOverflow
  | invalidTimeValue
  | watchCapacity (scope : WatchCapacityScope)
  | legacyIdempotencyReservation
  | idempotencyConflict (existing : WatchRow)
  /-- SQLite refuses a statement that would break a unique constraint. -/
  | uniqueConstraint
  | missingSettlementWatch (id : JsString)
  | missingActivationWatch (id : JsString)
  | missingRefundWatch (id : JsString)
  | transactionMismatch (id : SqlText)
  | networkMismatch (id : SqlText)
  | payerMismatch (id : SqlText)
  | activatedByAnother (id : JsString)
  | cannotRecordSettlement (id : JsString) (state : WatchState)
  | notSettling (id : JsString) (state : WatchState)
  | activationRace (id : JsString)
  | pollingFailureCode
  | pollingFailureStatus
  | pollingFailureRetryAt
  | refundTransaction
  | refundNetwork
  | refundAmount
  | refundReason
  | refundConflict
  /-- A read of a row that is not there. -/
  | missingRow

def WatchCapacityScope.name : WatchCapacityScope → String
  | .global => "global"
  | .payer => "payer"

/-- The text of an error. -/
def StoreError.message : StoreError → String
  | .invalidClock => "RoundWatch clock returned an invalid date"
  | .ttlOverflow => "Configured RoundWatch watch TTL exceeds the date range"
  | .invalidTimeValue => "Invalid time value"
  | .watchCapacity scope => "RoundWatch " ++ scope.name ++ " open-obligation capacity is exhausted"
  | .legacyIdempotencyReservation =>
      "Idempotency key is reserved by legacy state with unknown payer ownership"
  | .idempotencyConflict _ =>
      "Idempotency key is already bound to a different watch specification"
  | .uniqueConstraint => "UNIQUE constraint failed"
  | .missingSettlementWatch id => "Cannot record settlement for missing watch " ++ text id
  | .missingActivationWatch id => "Cannot activate missing watch " ++ text id
  | .missingRefundWatch id => "Cannot record refund for missing watch " ++ text id
  | .transactionMismatch id =>
      "Watch " ++ text id.val ++ " settlement transaction does not match the prepared payment"
  | .networkMismatch id =>
      "Watch " ++ text id.val ++ " settlement network does not match the prepared payment"
  | .payerMismatch id =>
      "Watch " ++ text id.val ++ " settlement payer does not match the prepared payment"
  | .activatedByAnother id => "Watch " ++ text id ++ " was already activated by another settlement"
  | .cannotRecordSettlement id state =>
      "Watch " ++ text id ++ " cannot record settlement while " ++ state.name
  | .notSettling id state =>
      "Watch " ++ text id ++ " is " ++ state.name ++
        ", not settlement_pending or settlement_unknown"
  | .activationRace id => "Watch " ++ text id ++ " activation lost a state race"
  | .pollingFailureCode => "polling failure code must be a stable lowercase identifier"
  | .pollingFailureStatus => "polling failure status must be a valid HTTP status"
  | .pollingFailureRetryAt => "non-permanent polling failure requires a future retryAt"
  | .refundTransaction =>
      "refund transaction must be a canonical 52-character Algorand transaction ID"
  | .refundNetwork => "refund network must be a supported RoundWatch Algorand network"
  | .refundAmount => "refund atomicAmount must be a positive uint64 integer string"
  | .refundReason => "refund reason must be 1-256 UTF-8 bytes when supplied"
  | .refundConflict => "Refund transaction is already bound to different audit evidence"
  | .missingRow => "Cannot read properties of undefined"

/-! ## Constraints -/

/-- The expression the idempotency index is built on:
`COALESCE(expected_service_payer, ''), idempotency_key`. -/
def WatchRow.idempotencyScope (r : WatchRow) : SqlText × SqlText :=
  (r.expectedServicePayer.getD emptyText, r.idempotencyKey)

/-- The primary key and the unique indexes of `roundwatch_watches`. -/
structure Constraints (rows : List WatchRow) : Prop where
  ids : Table.UniqueOn (fun r => some r.id) rows
  scopes : Table.UniqueOn (fun r => some r.idempotencyScope) rows
  expected : Table.UniqueOn WatchRow.expectedServiceTransaction rows
  service : Table.UniqueOn WatchRow.serviceTransaction rows

instance (rows : List WatchRow) : Decidable (Constraints rows) :=
  decidable_of_iff
    (Table.UniqueOn (fun r : WatchRow => some r.id) rows ∧
      Table.UniqueOn (fun r : WatchRow => some r.idempotencyScope) rows ∧
      Table.UniqueOn WatchRow.expectedServiceTransaction rows ∧
      Table.UniqueOn WatchRow.serviceTransaction rows)
    ⟨fun ⟨h₁, h₂, h₃, h₄⟩ => ⟨h₁, h₂, h₃, h₄⟩, fun ⟨h₁, h₂, h₃, h₄⟩ => ⟨h₁, h₂, h₃, h₄⟩⟩

theorem Constraints.nil : Constraints [] :=
  ⟨Table.uniqueOn_nil _, Table.uniqueOn_nil _, Table.uniqueOn_nil _, Table.uniqueOn_nil _⟩

/-- The columns the constraints read. -/
structure IndexedColumns where
  id : SqlText
  idempotencyKey : SqlText
  expectedServicePayer : Option SqlText
  expectedServiceTransaction : Option SqlText
  serviceTransaction : Option SqlText

def WatchRow.indexed (r : WatchRow) : IndexedColumns :=
  ⟨r.id, r.idempotencyKey, r.expectedServicePayer, r.expectedServiceTransaction,
    r.serviceTransaction⟩

/-- An update that leaves the indexed columns alone breaks no constraint. -/
theorem Constraints.updateWhere {rows : List WatchRow} (h : Constraints rows)
    {p : WatchRow → Bool} {f : WatchRow → WatchRow} (hf : ∀ r, (f r).indexed = r.indexed) :
    Constraints (Table.updateWhere p f rows) where
  ids := h.ids.updateWhere fun r => congrArg (fun c => some c.id) (hf r)
  scopes := h.scopes.updateWhere fun r =>
    congrArg (fun c => some (c.expectedServicePayer.getD emptyText, c.idempotencyKey)) (hf r)
  expected := h.expected.updateWhere fun r =>
    congrArg IndexedColumns.expectedServiceTransaction (hf r)
  service := h.service.updateWhere fun r => congrArg IndexedColumns.serviceTransaction (hf r)

/-! ## The store -/

/-- An open database together with the limits it was opened with. -/
structure Store where
  config : StoreConfig
  rows : List WatchRow
  refunds : List RefundRow
  constraints : Constraints rows

namespace Store

/-- A fresh database. -/
def empty (config : StoreConfig) : Store := ⟨config, [], [], Constraints.nil⟩

/-- An `UPDATE` of columns that no unique index reads. -/
def update (s : Store) (p : WatchRow → Bool) (f : WatchRow → WatchRow)
    (hf : ∀ r, (f r).indexed = r.indexed) : Store :=
  { s with rows := Table.updateWhere p f s.rows, constraints := s.constraints.updateWhere hf }

/-- An `UPDATE` of indexed columns: SQLite undoes the statement when a constraint
would break. -/
def tryUpdate (s : Store) (p : WatchRow → Bool) (f : WatchRow → WatchRow) :
    Except StoreError Store :=
  if h : Constraints (Table.updateWhere p f s.rows) then
    .ok { s with rows := Table.updateWhere p f s.rows, constraints := h }
  else .error .uniqueConstraint

/-- An `INSERT`. -/
def insert (s : Store) (row : WatchRow) : Except StoreError Store :=
  if h : Constraints (s.rows ++ [row]) then
    .ok { s with rows := s.rows ++ [row], constraints := h }
  else .error .uniqueConstraint

@[simp] theorem update_rows (s : Store) (p : WatchRow → Bool) (f : WatchRow → WatchRow)
    (hf : ∀ r, (f r).indexed = r.indexed) :
    (s.update p f hf).rows = Table.updateWhere p f s.rows := rfl

@[simp] theorem update_config (s : Store) (p : WatchRow → Bool) (f : WatchRow → WatchRow)
    (hf : ∀ r, (f r).indexed = r.indexed) : (s.update p f hf).config = s.config := rfl

/-- A statement that rewrites no row leaves the store as it is. -/
theorem update_eq_self {s : Store} {p : WatchRow → Bool} {f : WatchRow → WatchRow}
    {hf : ∀ r, (f r).indexed = r.indexed} (h : Table.updateWhere p f s.rows = s.rows) :
    s.update p f hf = s := by
  cases s
  simp only [update] at h ⊢
  simp only [h]

theorem tryUpdate_ok {s s' : Store} {p : WatchRow → Bool} {f : WatchRow → WatchRow}
    (h : s.tryUpdate p f = .ok s') :
    s'.rows = Table.updateWhere p f s.rows ∧ s'.config = s.config ∧ s'.refunds = s.refunds := by
  unfold tryUpdate at h
  split at h
  · cases h
    exact ⟨rfl, rfl, rfl⟩
  · cases h

theorem insert_ok {s s' : Store} {row : WatchRow} (h : s.insert row = .ok s') :
    s'.rows = s.rows ++ [row] ∧ s'.config = s.config ∧ s'.refunds = s.refunds := by
  unfold insert at h
  split at h
  · cases h
    exact ⟨rfl, rfl, rfl⟩
  · cases h

/-- `getWatch`: the row under a primary key. -/
def getWatch (s : Store) (id : JsString) : Option WatchRow :=
  s.rows.find? fun r => r.id == bindText id

theorem getWatch_mem {s : Store} {id : JsString} {r : WatchRow} (h : s.getWatch id = some r) :
    r ∈ s.rows :=
  List.mem_of_find?_eq_some h

theorem getWatch_id {s : Store} {id : JsString} {r : WatchRow} (h : s.getWatch id = some r) :
    r.id = bindText id := by
  simpa using List.find?_some h

/-- The primary key finds its row. -/
theorem getWatch_of_mem {s : Store} {r : WatchRow} (hr : r ∈ s.rows) {id : JsString}
    (hid : r.id = bindText id) : s.getWatch id = some r :=
  s.constraints.ids.find?_eq hr rfl fun r' => by simp [hid]

/-- Rows under one primary key are one row. -/
theorem eq_of_id {s : Store} {r r' : WatchRow} (hr : r ∈ s.rows) (hr' : r' ∈ s.rows)
    (h : r.id = r'.id) : r = r' :=
  s.constraints.ids.eq_of_key hr hr' rfl (congrArg some h.symm)

end Store

end RoundWatch
