import RoundWatch.Foundation.Statements
import RoundWatch.OpenIndex.Verdict
import RoundWatch.Store.Columns

/-!
# Opening a database

What the constructor of `RoundWatchStore` does to the database it is given, in the mode
`migrate`: it makes the tables, adds the columns that an older release did not have,
rebuilds a watch table whose constraints are outdated, makes the indexes and repairs the
budgets of the open rows.

* `Database` — what a database has of the tables of the store;
* `SchemaStatement.exec` — a statement of the constructor; one that fails changes nothing,
  and the rebuild is a transaction;
* `openDatabase` — the constructor.
-/

namespace RoundWatch

open JsText SqlValue

/-! ## Databases -/

/-- `roundwatch_watches`: its columns and rows, the texts in quotes in its DDL and whether
`idempotency_key` alone is unique. -/
structure WatchTable extends ColumnTable WatchColumn SqlValue where
  quoted : List JsString
  keyUnique : Bool

/-- The two names of a watch table. -/
inductive WatchTableName where
  | watches
  | legacy
  deriving DecidableEq

/-- `roundwatch_refunds`, and the table that its foreign key names. -/
structure RefundTable where
  rows : List RefundRow
  references : WatchTableName

/-- The tables of the store in a database, and its indexes. -/
structure Database where
  watches : Option WatchTable
  legacy : Option WatchTable
  refunds : Option RefundTable
  catalog : Catalog

inductive SchemaError where
  | noSuchTable
  | noSuchColumn
  | tableExists
  | constraintFailed
  | foreignKeyFailed
  /-- `RoundWatch budget backfill requires roundwatch_open_obligations_idx …`. -/
  | openObligationsIndex
  /-- The forced repair has no use for the index. -/
  | unusableIndex
  deriving DecidableEq, Repr

/-- `DEFAULT` of a column. -/
def WatchColumn.default : WatchColumn → SqlValue
  | .settlementReconciliationTerminal | .evidenceVersion | .reconciliationAttempts
  | .workUnitsUsed | .pollingFailureCount => .integer 0
  | _ => .null

/-- `NOT NULL`. -/
def WatchColumn.required : WatchColumn → Bool
  | .idempotencyKey | .state | .expectedSender | .expectedReceiver | .assetId | .atomicAmount
  | .createdAt | .settlementReconciliationTerminal | .evidenceVersion | .reconciliationAttempts
  | .workUnitsUsed | .pollingFailureCount => true
  | _ => false

/-- A value as a key of a unique index: nulls are not compared. -/
def SqlValue.key : SqlValue → Option SqlValue
  | .null => none
  | v => some v

/-- The texts in quotes in the DDL of `createWatchTable`. -/
def stateTexts : List JsString := watchStates.map fun state => js state.name

/-- The table of `createWatchTable`, with the given rows. -/
def currentTable (rows : List (WatchColumn → SqlValue)) : WatchTable where
  columns := watchColumns
  rows := rows
  quoted := stateTexts
  keyUnique := false

/-- `CHECK (state IN (…))`. -/
def checkState : SqlValue → Bool
  | .null => true
  | .integer _ => false
  | .text t => stateTexts.contains t.val

/-- The constraints in the DDL of `createWatchTable`. -/
def TableConstraints (rows : List (WatchColumn → SqlValue)) : Prop :=
  (∀ row ∈ rows, ∀ c ∈ watchColumns, c.required = true → row c ≠ .null) ∧
    (∀ row ∈ rows, checkState (row .state) = true) ∧
    Table.UniqueOn (fun row : WatchColumn → SqlValue => (row .id).key) rows ∧
    Table.UniqueOn (fun row : WatchColumn → SqlValue => (row .serviceTransaction).key) rows

instance (rows : List (WatchColumn → SqlValue)) : Decidable (TableConstraints rows) :=
  inferInstanceAs (Decidable (_ ∧ _ ∧ _ ∧ _))

/-! ## The open obligations of a table -/

/-- `value = literal`, in a column of the kind of the literal. -/
def SqlValue.equals : SqlValue → SqlLiteral → Truth
  | .null, _ => .unknown
  | .text t, ⟨.string, value⟩ => .ofBool (t.val == value)
  | .integer n, ⟨.integer, value⟩ => .ofBool (decide (0 ≤ n) && decimal n.toNat == value)
  | _, _ => .no

/-- A row, as a predicate sees it. -/
def sqlRow (row : WatchColumn → SqlValue) : SqlRow := fun column literal =>
  match watchColumns.find? fun c => c.name == column with
  | none => .unknown
  | some c => (row c).equals literal

/-- `WHERE (OPEN_OBLIGATION_PREDICATE) AND work_unit_budget IS NULL`. -/
def lacksBudget (row : WatchColumn → SqlValue) : Bool :=
  openObligationExpr.eval (sqlRow row) == .yes && row .workUnitBudget == .null

/-- The columns of the repair. -/
def repairColumns : List WatchColumn :=
  [.state, .settlementReconciliationTerminal, .workUnitBudget]

/-- `SET work_unit_budget = ?`. -/
def withBudget (budget : ℕ) (row : WatchColumn → SqlValue) : WatchColumn → SqlValue :=
  Function.update row .workUnitBudget (.integer budget)

/-- What the repair makes of a row. -/
def repaired (budget : ℕ) (row : WatchColumn → SqlValue) : WatchColumn → SqlValue :=
  if lacksBudget row then withBudget budget row else row

/-! ## Indexes -/

/-- An index of the constructor: its DDL, the columns it reads, and its key if it is unique. -/
structure IndexDefinition where
  name : JsString
  isPartial : ℤ
  sql : JsString
  columns : List WatchColumn
  unique : Option ((WatchColumn → SqlValue) → Option (List SqlValue))

/-- A statement `CREATE … ON roundwatch_watches…`, as `sqlite_schema` keeps it. -/
def indexSql (kind name rest : String) : JsString :=
  js "CREATE " ++ js kind ++ js " " ++ js name ++ js "\n         ON roundwatch_watches" ++ js rest

def idempotencyScopeUnique : IndexDefinition where
  name := js "roundwatch_idempotency_scope_unique"
  isPartial := 0
  sql := indexSql "UNIQUE INDEX" "roundwatch_idempotency_scope_unique"
    "(\n            COALESCE(expected_service_payer, ''),\n            idempotency_key\n         )"
  columns := [.expectedServicePayer, .idempotencyKey]
  unique := some fun row => (row .idempotencyKey).key.map fun key =>
    [((row .expectedServicePayer).key.getD (.text emptyText)), key]

def expectedServiceTxUnique : IndexDefinition where
  name := js "roundwatch_expected_service_tx_unique"
  isPartial := 1
  sql := indexSql "UNIQUE INDEX" "roundwatch_expected_service_tx_unique"
    "(expected_service_transaction)\n         WHERE expected_service_transaction IS NOT NULL"
  columns := [.expectedServiceTransaction]
  unique := some fun row => (row .expectedServiceTransaction).key.map fun key => [key]

def activeCreatedIndex : IndexDefinition where
  name := js "roundwatch_active_created_idx"
  isPartial := 0
  sql := indexSql "INDEX" "roundwatch_active_created_idx" "(state, created_at)"
  columns := [.state, .createdAt]
  unique := none

def reconcileDueIndex : IndexDefinition where
  name := js "roundwatch_reconcile_due_idx"
  isPartial := 1
  sql := indexSql "INDEX" "roundwatch_reconcile_due_idx"
    ("(\n            settlement_reconciliation_terminal,\n" ++
      "            reconciliation_next_attempt_at,\n            created_at\n         )\n" ++
      "         WHERE state IN ('settlement_pending', 'settlement_unknown')\n" ++
      "           AND expected_service_transaction IS NOT NULL")
  columns := [.settlementReconciliationTerminal, .reconciliationNextAttemptAt, .createdAt, .state,
    .expectedServiceTransaction]
  unique := none

def openObligationsIndex : IndexDefinition where
  name := js "roundwatch_open_obligations_idx"
  isPartial := 1
  sql := openObligationIndexSql
  columns := [.expectedServicePayer, .servicePayer, .state, .settlementReconciliationTerminal]
  unique := none

def pollingDueIndex : IndexDefinition where
  name := js "roundwatch_polling_due_idx"
  isPartial := 1
  sql := indexSql "INDEX" "roundwatch_polling_due_idx"
    "(state, polling_retry_at, created_at)\n         WHERE state = 'active'"
  columns := [.state, .pollingRetryAt, .createdAt]
  unique := none

/-- There is an index of that name, in whatever letters. -/
def Catalog.has (catalog : Catalog) (name : JsString) : Bool :=
  catalog.schema.any fun row => row.type == js "index" && sqliteIdentifier row.name == name

def Catalog.create (catalog : Catalog) (index : IndexDefinition) : Catalog where
  indexList := catalog.indexList ++ [⟨index.name, index.isPartial⟩]
  schema := catalog.schema ++
    [⟨js "index", index.name, js "roundwatch_watches", some index.sql⟩]

def Catalog.drop (catalog : Catalog) (name : JsString) : Catalog where
  indexList := catalog.indexList.filter fun row => sqliteIdentifier row.name != name
  schema := catalog.schema.filter fun row =>
    !(row.type == js "index" && sqliteIdentifier row.name == name)

/-! ## Statements -/

namespace Database

/-- A statement about the rows and columns of `roundwatch_watches`. -/
def alterWatches (db : Database) (f : WatchTable → Except SchemaError WatchTable) :
    Except SchemaError Database :=
  match db.watches with
  | none => .error .noSuchTable
  | some t => (f t).map fun t => { db with watches := some t }

/-- `createWatchTable`. -/
def createWatchTable (db : Database) : Database :=
  match db.watches with
  | some _ => db
  | none => { db with watches := some (currentTable []) }

/-- `ALTER TABLE … RENAME TO roundwatch_watches_legacy`: the indexes go along, and so do the
foreign keys that name the table. -/
def renameWatches (db : Database) : Except SchemaError Database :=
  match db.watches with
  | none => .error .noSuchTable
  | some t =>
      if db.legacy.isSome then .error .tableExists
      else .ok
        { watches := none
          legacy := some t
          refunds := db.refunds.map fun refunds => { refunds with references := .legacy }
          catalog :=
            { indexList := []
              schema := db.catalog.schema.map fun row =>
                if sqliteIdentifier row.tblName == js "roundwatch_watches" then
                  { row with tblName := js "roundwatch_watches_legacy" }
                else row } }

/-- `INSERT INTO roundwatch_watches … SELECT … FROM roundwatch_watches_legacy`. -/
def copyLegacy (db : Database) : Except SchemaError Database :=
  match db.legacy with
  | none => .error .noSuchTable
  | some legacy => db.alterWatches fun t =>
      if ∀ c ∈ watchColumns, c ∈ legacy.columns then
        let rows := t.rows ++ (legacy.select WatchColumn.default watchColumns).rows
        if TableConstraints rows then .ok { t with rows := rows } else .error .constraintFailed
      else .error .noSuchColumn

/-- `DROP TABLE roundwatch_watches_legacy`, which a refund of one of its watches forbids. -/
def dropLegacy (db : Database) : Except SchemaError Database :=
  match db.legacy with
  | none => .error .noSuchTable
  | some legacy =>
      if db.refunds.any fun refunds => refunds.references == .legacy &&
          refunds.rows.any fun refund => legacy.rows.any fun row => row .id == .text refund.watchId
      then .error .foreignKeyFailed
      else .ok
        { db with
          legacy := none
          catalog :=
            { db.catalog with
              schema := db.catalog.schema.filter fun row =>
                sqliteIdentifier row.tblName != js "roundwatch_watches_legacy" } }

/-- The transaction of `ensureWatchStateConstraint`. -/
def rebuild (db : Database) : Except SchemaError Database :=
  db.renameWatches.bind fun renamed => renamed.createWatchTable.copyLegacy.bind dropLegacy

end Database

/-- The DDL has the current states, and no key that is unique by itself. -/
def WatchTable.current (t : WatchTable) : Bool :=
  t.quoted.contains (js "expired") && t.quoted.contains (js "indeterminate") && !t.keyUnique

/-- The statements of the constructor. -/
inductive SchemaStatement where
  | createWatchTable
  | ensureColumn (c : WatchColumn)
  | ensureWatchStateConstraint
  | createRefundAuditTable
  | createIndex (index : IndexDefinition)
  | dropIndex (name : JsString)
  | requireOpenObligationsIndex
  | repairBudgets (budget : ℕ)

/-- What a statement does.  `usable` says of the indexes whether SQLite can make the forced
repair with them. -/
def SchemaStatement.exec (usable : Catalog → Bool) :
    SchemaStatement → Database → Except SchemaError Database
  | .createWatchTable, db => .ok db.createWatchTable
  | .ensureColumn c, db => db.alterWatches fun t =>
      .ok { t with toColumnTable := t.toColumnTable.addColumn WatchColumn.default c }
  | .ensureWatchStateConstraint, db =>
      if db.watches.any WatchTable.current then .ok db else db.rebuild
  | .createRefundAuditTable, db =>
      .ok { db with refunds := some (db.refunds.getD ⟨[], .watches⟩) }
  | .createIndex index, db =>
      if db.catalog.has index.name then .ok db
      else
        match db.watches with
        | none => .error .noSuchTable
        | some t =>
            if ¬∀ c ∈ index.columns, c ∈ t.columns then .error .noSuchColumn
            else if ∀ key ∈ index.unique, Table.UniqueOn key t.rows then
              .ok { db with catalog := db.catalog.create index }
            else .error .constraintFailed
  | .dropIndex name, db => .ok { db with catalog := db.catalog.drop name }
  | .requireOpenObligationsIndex, db =>
      if hasOpenObligationPartialIndex db.catalog then .ok db else .error .openObligationsIndex
  | .repairBudgets budget, db =>
      if usable db.catalog then db.alterWatches fun t =>
        if ∀ c ∈ repairColumns, c ∈ t.columns then
          .ok { t with toColumnTable := t.toColumnTable.update lacksBudget (withBudget budget) }
        else .error .noSuchColumn
      else .error .unusableIndex

/-- The columns that `ensureColumn` is called for. -/
def ensuredColumns : List WatchColumn :=
  [.expectedServiceTransaction, .expectedServiceNetwork, .expectedServicePayer,
    .settlementReconciliationTerminal, .expiresAt, .closingRound, .evidenceVersion,
    .serviceReceiver, .serviceAssetId, .serviceAtomicAmount, .serviceFirstValid,
    .serviceLastValid, .reconciliationAttempts, .reconciliationNextAttemptAt, .workUnitBudget,
    .workUnitsUsed, .terminalReason, .pollingFailureCode, .pollingFailureStatus,
    .pollingFailureDisposition, .pollingFailureCount, .pollingLastFailureAt, .pollingRetryAt]

/-- The statements before the repair. -/
def migration : List SchemaStatement :=
  .createWatchTable :: ensuredColumns.map .ensureColumn ++
    [.ensureWatchStateConstraint, .createRefundAuditTable, .createIndex idempotencyScopeUnique,
      .createIndex expectedServiceTxUnique, .createIndex activeCreatedIndex,
      .createIndex reconcileDueIndex, .createIndex openObligationsIndex,
      .dropIndex (js "roundwatch_open_payer_idx"), .createIndex pollingDueIndex,
      .requireOpenObligationsIndex]

/-- The statements of the constructor, in their order. -/
def constructorStatements (usable : Catalog → Bool) (config : StoreConfig) :
    List (Database → Except SchemaError Database) :=
  (migration ++ [SchemaStatement.repairBudgets config.workUnitBudget]).map
    (SchemaStatement.exec usable)

/-- The constructor of `RoundWatchStore`, on the database of its path. -/
def openDatabase (usable : Catalog → Bool) (config : StoreConfig) (db : Database) :
    Database × Except SchemaError Unit :=
  Statements.run (constructorStatements usable config) db

end RoundWatch
