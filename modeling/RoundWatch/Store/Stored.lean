import RoundWatch.Store.Reopening

/-!
# A store in its database

* `Database.ofStore` — the database of a store: its rows as the values of their columns;
* `openDatabase_ofStore` — **opening refines `reopen`**: on the database of a store, the
  constructor leaves the database of the store that `reopen` makes of it;
* `openDatabase_blank` — and on a blank one the database of a new store.
-/

namespace RoundWatch

open JsText SqlValue Statements

/-- The indexes of a database that was opened. -/
def migratedCatalog : Catalog :=
  [idempotencyScopeUnique, expectedServiceTxUnique, activeCreatedIndex, reconcileDueIndex,
    openObligationsIndex, pollingDueIndex].foldl Catalog.create ⟨[], []⟩

/-- The database of a store. -/
def Database.ofStore (s : Store) : Database where
  watches := some (currentTable (s.rows.map WatchRow.values))
  legacy := none
  refunds := some ⟨s.refunds, .watches⟩
  catalog := migratedCatalog

/-- A database without tables. -/
def Database.blank : Database := ⟨none, none, none, ⟨[], []⟩⟩

/-! ## Rows -/

theorem watchValues_values (r : WatchRow) : watchValues r.values = r.values := by
  funext c
  by_cases hc : c ∈ watchColumns
  · exact if_pos hc
  · cases c with
    | other name => rfl
    | _ => exact absurd (by decide) hc

theorem reflects_values (r : WatchRow) : Reflects (sqlRow r.values) r where
  state text := by
    have hstate : r.values .state = .text (bindText (js r.state.name)) := rfl
    have hbound : (bindText (js r.state.name)).val = js r.state.name := by
      cases r.state <;> decide
    rw [sqlRow_state, hstate, SqlValue.equals, hbound]
  terminal digits := by
    have hterminal : r.values .settlementReconciliationTerminal =
        .integer (if r.settlementReconciliationTerminal then 1 else 0) := rfl
    rw [sqlRow_terminal, hterminal]
    cases r.settlementReconciliationTerminal <;> rfl

theorem lacksBudget_values (r : WatchRow) :
    lacksBudget r.values = (r.openObligation && r.workUnitBudget.isNone) := by
  have hopen := openObligationExpr_eval (reflects_values r)
  have hbudget : (r.values .workUnitBudget == .null) = r.workUnitBudget.isNone := by
    have hvalue : r.values .workUnitBudget = .nullableInteger (r.workUnitBudget.map Nat.cast) := rfl
    rw [hvalue]
    cases r.workUnitBudget <;> rfl
  have heval : (openObligationExpr.eval (sqlRow r.values) == .yes) = r.openObligation := by
    rw [Bool.eq_iff_iff, beq_iff_eq, hopen]
  rw [lacksBudget, heval, hbudget]

theorem values_repairBudget (budget : ℕ) (r : WatchRow) :
    (r.repairBudget budget).values = withBudget budget r.values := by
  funext c
  by_cases hc : c = .workUnitBudget
  · subst hc
    simp [withBudget, WatchRow.values, WatchRow.repairBudget, nullableInteger]
  · rw [withBudget, Function.update_of_ne hc]
    cases c with
    | workUnitBudget => exact absurd rfl hc
    | _ => rfl

theorem repaired_values (budget : ℕ) (r : WatchRow) :
    repaired budget r.values =
      (if r.openObligation && r.workUnitBudget.isNone then r.repairBudget budget else r).values := by
  rw [repaired, lacksBudget_values]
  split
  · exact (values_repairBudget budget r).symm
  · rfl

theorem read_values (s : Store) :
    (currentTable (s.rows.map WatchRow.values)).contents WatchColumn.default =
      s.rows.map WatchRow.values := by
  rw [ColumnTable.contents, currentTable, List.map_map]
  refine List.map_congr_left ?_
  intro r _
  exact watchValues_values r

theorem contents_ofStore (s : Store) :
    (Database.ofStore s).contents = s.rows.map WatchRow.values := by
  show ((currentTable (s.rows.map WatchRow.values)).contents WatchColumn.default).map watchValues =
    s.rows.map WatchRow.values
  rw [read_values, List.map_map]
  refine List.map_congr_left ?_
  intro r _
  exact watchValues_values r

/-- **The rows of a store are read back from its database.** -/
theorem readRows_ofStore {s : Store} (h : ∀ r ∈ s.rows, r.Readable) :
    (Database.ofStore s).contents.mapM readRow = some s.rows := by
  rw [contents_ofStore]
  generalize s.rows = rows at h
  induction rows with
  | nil => rfl
  | cons r rows ih =>
      rw [List.map_cons, List.mapM_cons, (h r (List.mem_cons_self ..)).read,
        ih fun q hq => h q (List.mem_cons_of_mem _ hq)]
      rfl

/-! ## Opening -/

theorem has_migratedCatalog : ∀ index ∈ [idempotencyScopeUnique, expectedServiceTxUnique,
    activeCreatedIndex, reconcileDueIndex, openObligationsIndex, pollingDueIndex],
    migratedCatalog.has index.name = true := by
  decide +kernel

theorem openObligations_migratedCatalog :
    hasOpenObligationPartialIndex migratedCatalog = true := by
  have hindex : (migratedCatalog.indexList.find? fun row =>
      sqliteIdentifier row.name == js "roundwatch_open_obligations_idx") =
        some ⟨js "roundwatch_open_obligations_idx", 1⟩ := by
    rfl
  have hschema : ((migratedCatalog.schema.find? fun row => row.type == js "index" &&
      row.name == js "roundwatch_open_obligations_idx" &&
        sqliteIdentifier row.tblName == js "roundwatch_watches").bind SchemaRow.sql) =
          some openObligationIndexSql := by
    rfl
  have hsql : openObligationIndexSql ≠ [] := by decide
  rw [hasOpenObligationPartialIndex, hindex]
  dsimp only
  rw [if_neg (by simp), hschema]
  dsimp only
  rw [if_neg hsql, openIndexAccepts_migration]

/-- The database of a store has nothing to migrate. -/
theorem holds_migration (usable : Catalog → Bool) (s : Store) :
    ∀ st ∈ migration, st.Holds usable (Database.ofStore s) := by
  intro st hst
  have hplain := plain_migration st hst
  cases st with
  | createWatchTable => exact ⟨_, rfl⟩
  | ensureColumn c => exact ⟨_, rfl, List.contains_iff_mem.1 hplain⟩
  | ensureWatchStateConstraint => exact ⟨_, rfl, current_currentTable _⟩
  | createRefundAuditTable => rfl
  | createIndex index => exact has_migratedCatalog index (by simpa [migration] using hst)
  | dropIndex name =>
      obtain rfl : name = js "roundwatch_open_payer_idx" := by simpa [migration] using hst
      have habsent : migratedCatalog.has (js "roundwatch_open_payer_idx") = false := by
        decide +kernel
      have hunlisted : ∀ row ∈ migratedCatalog.indexList,
          sqliteIdentifier row.name ≠ js "roundwatch_open_payer_idx" := by
        decide +kernel
      exact ⟨habsent, hunlisted⟩
  | requireOpenObligationsIndex => exact openObligations_migratedCatalog
  | repairBudgets budget => simp [migration] at hst

/-- The repair, on the database of a store. -/
theorem exec_repairBudgets_ofStore {usable : Catalog → Bool}
    (husable : usable migratedCatalog = true) (s : Store) (config : StoreConfig) :
    (SchemaStatement.repairBudgets config.workUnitBudget).exec usable (Database.ofStore s) =
      .ok (Database.ofStore (s.reopen config)) := by
  have hrows : (s.reopen config).rows.map WatchRow.values =
      (s.rows.map WatchRow.values).map (repaired config.workUnitBudget) := by
    rw [List.map_map]
    show (Table.updateWhere _ _ s.rows).map WatchRow.values = _
    rw [Table.updateWhere, List.map_map]
    refine List.map_congr_left ?_
    intro r _
    exact (repaired_values config.workUnitBudget r).symm
  have htable : (currentTable (s.rows.map WatchRow.values)).toColumnTable.update lacksBudget
      (withBudget config.workUnitBudget) =
        (currentTable ((s.reopen config).rows.map WatchRow.values)).toColumnTable := by
    rw [hrows]
    rfl
  have hcolumns : ∀ c ∈ repairColumns,
      c ∈ (currentTable (s.rows.map WatchRow.values)).columns := by
    show ∀ c ∈ repairColumns, c ∈ watchColumns
    decide
  unfold SchemaStatement.exec Database.alterWatches
  dsimp only [Database.ofStore]
  rw [if_pos husable, if_pos hcolumns, htable]
  rfl

theorem openDatabase_ofStore {usable : Catalog → Bool} (husable : usable migratedCatalog = true)
    (config : StoreConfig) (s : Store) :
    openDatabase usable config (Database.ofStore s) =
      (Database.ofStore (s.reopen config), .ok ()) := by
  have hfirst : run (migration.map (SchemaStatement.exec usable)) (Database.ofStore s) =
      (Database.ofStore s, .ok ()) := by
    refine run_of_done ?_
    intro f hf
    obtain ⟨st, hst, rfl⟩ := List.mem_map.1 hf
    exact (holds_migration usable s st hst).done
  rw [openDatabase, constructorStatements_eq, run_append_of_ok (by rw [hfirst]), hfirst,
    run_cons_ok (exec_repairBudgets_ofStore husable s config), run_nil]

/-- Every statement but the check, on a blank database. -/
theorem run_blank (usable : Catalog → Bool) (config : StoreConfig) :
    run (migration.dropLast.map (SchemaStatement.exec usable)) Database.blank =
      (Database.ofStore (Store.empty config), .ok ()) := by
  rfl

theorem openDatabase_blank {usable : Catalog → Bool} (husable : usable migratedCatalog = true)
    (config : StoreConfig) :
    openDatabase usable config Database.blank =
      (Database.ofStore (Store.empty config), .ok ()) := by
  have hcheck : Done (Database.ofStore (Store.empty config))
      (SchemaStatement.requireOpenObligationsIndex.exec usable) :=
    (holds_migration usable _ _ (by simp [migration])).done
  have hsplit : migration.map (SchemaStatement.exec usable) =
      migration.dropLast.map (SchemaStatement.exec usable) ++
        [SchemaStatement.requireOpenObligationsIndex.exec usable] := rfl
  have hfirst : run (migration.map (SchemaStatement.exec usable)) Database.blank =
      (Database.ofStore (Store.empty config), .ok ()) := by
    rw [hsplit, run_append_of_ok (by rw [run_blank usable config]), run_blank usable config,
      run_cons_ok hcheck, run_nil]
  have hempty : (Store.empty config).reopen config = Store.empty config := rfl
  rw [openDatabase, constructorStatements_eq, run_append_of_ok (by rw [hfirst]), hfirst,
    run_cons_ok (exec_repairBudgets_ofStore husable _ config), run_nil, hempty]

/-- A budget is a safe integer, so a repaired row is read back as well. -/
theorem WatchRow.Readable.repairBudget {r : WatchRow} (h : r.Readable) (config : StoreConfig) :
    (r.repairBudget config.workUnitBudget).Readable := by
  obtain ⟨hdated, hsafe, hplain⟩ := h
  refine ⟨⟨hdated.createdAt, hdated.activatedAt, hdated.expiresAt,
    hdated.reconciliationNextAttemptAt, hdated.pollingLastFailureAt, hdated.pollingRetryAt⟩,
    fun c => ?_, fun c t hvalue => ?_⟩
  · rw [values_repairBudget, withBudget, Function.update_apply]
    split
    · have hrange := config.budget_positive.2
      simp only [isSafe, Json.isSafeInteger, Bool.and_eq_true, decide_eq_true_eq]
      exact ⟨le_trans (by decide) (Int.natCast_nonneg _), hrange⟩
    · exact hsafe c
  · rw [values_repairBudget, withBudget, Function.update_apply] at hvalue
    split at hvalue
    · cases hvalue
    · exact hplain c t hvalue

theorem readable_reopen {s : Store} (h : ∀ r ∈ s.rows, r.Readable) (config : StoreConfig) :
    ∀ r ∈ (s.reopen config).rows, r.Readable := by
  intro r hr
  rcases Table.mem_updateWhere.1 hr with ⟨old, hold, -, rfl⟩ | ⟨hold, -⟩
  · exact (h old hold).repairBudget config
  · exact h r hold

/-- **Opening refines `reopen`.**  A blank database becomes the one of a new store; a database
that holds a store, opened with new limits, holds the store that `reopen` makes of it, with
the same refunds; and what it holds is read back as the rows of that store, if their times
are dates, their integers are safe and their texts have no U+0000. -/
theorem opening_refines (usable : Catalog → Bool) (husable : usable migratedCatalog = true)
    (config : StoreConfig) :
    openDatabase usable config Database.blank =
        (Database.ofStore (Store.empty config), .ok ()) ∧
      ∀ s : Store, openDatabase usable config (Database.ofStore s) =
          (Database.ofStore (s.reopen config), .ok ()) ∧
        (Database.ofStore (s.reopen config)).refundRows = s.refunds ∧
        ((∀ r ∈ s.rows, r.Readable) →
          (Database.ofStore (s.reopen config)).contents.mapM readRow =
            some (s.reopen config).rows) := by
  refine ⟨openDatabase_blank husable config, ?_⟩
  intro s
  exact ⟨openDatabase_ofStore husable config s, rfl,
    fun hreadable => readRows_ofStore (readable_reopen hreadable config)⟩

/-- An SQLite that can use the index of the constructor, and no other. -/
def usesMigrationIndex (catalog : Catalog) : Bool :=
  catalog.schema.any fun row => row.sql == some openObligationIndexSql

/-- A store of an earlier release: its open watch has no budget. -/
def unbudgetedStore : Store :=
  ((Store.empty .default).prepareWatch 7 (js "w") (boundSpec (js "a")) none).1.update
    (fun _ => true) (fun r => { r with workUnitBudget := none }) fun _ => rfl

theorem rows_unbudgetedStore :
    unbudgetedStore.rows = [{ boundSample (js "a") with workUnitBudget := none }] := by
  decide +kernel

theorem readable_unbudgetedStore : ∀ r ∈ unbudgetedStore.rows, r.Readable := by
  rw [rows_unbudgetedStore]
  intro r hr
  obtain rfl := List.mem_singleton.1 hr
  have hdated := dated_boundSample (js "a")
  refine ⟨⟨hdated.createdAt, hdated.activatedAt, hdated.expiresAt,
    hdated.reconciliationNextAttemptAt, hdated.pollingLastFailureAt, hdated.pollingRetryAt⟩,
    fun c => by cases c <;> rfl, fun c t hvalue => ?_⟩
  cases c <;> cases hvalue <;> decide

/-- Opened again, the watch has the budget of the limits, and is read back. -/
theorem opening_refines_default :
    openDatabase usesMigrationIndex StoreConfig.default Database.blank =
      (Database.ofStore (Store.empty StoreConfig.default), .ok ()) ∧
    openDatabase usesMigrationIndex StoreConfig.default (Database.ofStore unbudgetedStore) =
      (Database.ofStore (unbudgetedStore.reopen .default), .ok ()) ∧
    (Database.ofStore (unbudgetedStore.reopen .default)).contents.mapM readRow =
      some (unbudgetedStore.reopen .default).rows ∧
    ((unbudgetedStore.reopen .default).rows.map (·.workUnitBudget)) = [some 500] := by
  obtain ⟨hblank, hopened⟩ :=
    opening_refines usesMigrationIndex (by decide +kernel) StoreConfig.default
  obtain ⟨hrun, -, hread⟩ := hopened unbudgetedStore
  exact ⟨hblank, hrun, hread readable_unbudgetedStore, by decide +kernel⟩

end RoundWatch
