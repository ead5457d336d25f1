import RoundWatch.Foundation.Checks
import RoundWatch.Foundation.Runs
import RoundWatch.Store.Migration

/-!
# What opening keeps

Opening a database adds to it and loses nothing of what the store reads, also when it fails
or is cut off.

* `Kept` — what every statement keeps;
* `settled_constructorStatements` — every statement is done once and for all, so that a
  constructor that was cut off is resumed by the next one;
* `Database.contents` — what a database says in the columns of the store: every statement
  but the repair leaves it as it is.
-/

namespace RoundWatch

open JsText SqlValue Statements

/-! ## What a statement establishes -/

/-- What is there stays: the table with its columns and constraints, and the refunds. -/
structure Database.Kept (db db' : Database) : Prop where
  table : ∀ t ∈ db.watches, ∃ t' ∈ db'.watches,
    (∀ c ∈ watchColumns, c ∈ t.columns → c ∈ t'.columns) ∧ (t.current = true → t'.current = true)
  refunds : db.refunds.isSome = true → db'.refunds.isSome = true

/-- The state in which a statement has nothing to do. -/
def SchemaStatement.Holds (usable : Catalog → Bool) : SchemaStatement → Database → Prop
  | .createWatchTable, db => ∃ t, db.watches = some t
  | .ensureColumn c, db => ∃ t, db.watches = some t ∧ c ∈ t.columns
  | .ensureWatchStateConstraint, db => ∃ t, db.watches = some t ∧ t.current = true
  | .createRefundAuditTable, db => db.refunds.isSome = true
  | .createIndex index, db => db.catalog.has index.name = true
  | .dropIndex name, db =>
      db.catalog.has name = false ∧
        ∀ row ∈ db.catalog.indexList, sqliteIdentifier row.name ≠ name
  | .requireOpenObligationsIndex, db => hasOpenObligationPartialIndex db.catalog = true
  | .repairBudgets _, db =>
      usable db.catalog = true ∧ ∃ t, db.watches = some t ∧
        (∀ c ∈ repairColumns, c ∈ t.columns) ∧ ∀ row ∈ t.rows, lacksBudget row = false

/-- What a statement makes of a row. -/
def SchemaStatement.rewrite : SchemaStatement → (WatchColumn → SqlValue) → WatchColumn → SqlValue
  | .repairBudgets budget => repaired budget
  | _ => id

section Statements

variable {usable : Catalog → Bool} {db db' : Database} {st : SchemaStatement}

theorem Catalog.drop_of_absent {catalog : Catalog} {name : JsString}
    (h : catalog.has name = false)
    (h' : ∀ row ∈ catalog.indexList, sqliteIdentifier row.name ≠ name) :
    catalog.drop name = catalog := by
  obtain ⟨indexList, schema⟩ := catalog
  simp only [Catalog.has, List.any_eq_false] at h
  simp only [Catalog.drop, Catalog.mk.injEq, List.filter_eq_self]
  exact ⟨fun row hrow => by simpa using h' row hrow, fun row hrow => by
    simpa only [Bool.not_eq_true', Bool.not_eq_true] using h row hrow⟩

/-- A statement that holds has nothing to do. -/
theorem SchemaStatement.Holds.done (h : st.Holds usable db) : Done db (st.exec usable) := by
  cases st with
  | createWatchTable =>
      obtain ⟨t, ht⟩ := h
      simp [Done, exec, Database.createWatchTable, ht]
  | ensureColumn c =>
      obtain ⟨t, ht, hc⟩ := h
      simp only [Done, exec, Database.alterWatches, ht, ColumnTable.addColumn_of_mem _ _ hc]
      simp [Except.map, ← ht]
  | ensureWatchStateConstraint =>
      obtain ⟨t, ht, hcurrent⟩ := h
      simp [Done, exec, ht, hcurrent]
  | createRefundAuditTable =>
      obtain ⟨refunds, hrefunds⟩ := Option.isSome_iff_exists.1 h
      simp [Done, exec, hrefunds]
      rw [← hrefunds]
  | createIndex index => exact if_pos h
  | dropIndex name =>
      show Except.ok { db with catalog := db.catalog.drop name } = Except.ok db
      rw [Catalog.drop_of_absent h.1 h.2]
  | requireOpenObligationsIndex => exact if_pos h
  | repairBudgets budget =>
      obtain ⟨husable, t, ht, hcolumns, hrows⟩ := h
      have hupdate : t.toColumnTable.update lacksBudget (withBudget budget) = t.toColumnTable := by
        have hmap := Table.updateWhere_eq_self (f := withBudget budget) hrows
        rw [ColumnTable.update]
        exact congrArg (ColumnTable.mk t.columns) hmap
      simp only [Done, exec, husable, if_true, Database.alterWatches, ht]
      rw [if_pos hcolumns, hupdate]
      simp [Except.map, ← ht]

theorem Database.alterWatches_ok {f : WatchTable → Except SchemaError WatchTable}
    (h : db.alterWatches f = .ok db') :
    ∃ t t', db.watches = some t ∧ f t = .ok t' ∧ db' = { db with watches := some t' } := by
  unfold alterWatches at h
  split at h
  · cases h
  · rename_i t ht
    obtain ⟨t', ht', rfl⟩ := Checks.map_eq_ok.1 h
    exact ⟨t, t', ht, ht', rfl⟩

theorem Database.renameWatches_ok (h : db.renameWatches = .ok db') :
    ∃ t, db.watches = some t ∧ db'.watches = none ∧ db'.legacy = some t ∧
      db'.refunds = db.refunds.map fun refunds => { refunds with references := .legacy } := by
  unfold renameWatches at h
  split at h
  · cases h
  · rename_i t ht
    split at h
    · cases h
    · obtain rfl := Except.ok.inj h
      exact ⟨t, ht, rfl, rfl, rfl⟩

theorem Database.createWatchTable_of_none (h : db.watches = none) :
    db.createWatchTable = { db with watches := some (currentTable []) } := by
  rw [createWatchTable, h]

theorem Database.copyLegacy_ok {legacy : WatchTable} (hlegacy : db.legacy = some legacy)
    (h : db.copyLegacy = .ok db') :
    ∃ t, db.watches = some t ∧ (∀ c ∈ watchColumns, c ∈ legacy.columns) ∧
      db' = { db with watches := some { t with
        rows := t.rows ++ (legacy.select WatchColumn.default watchColumns).rows } } := by
  rw [copyLegacy, hlegacy] at h
  obtain ⟨t, t', ht, hcheck, rfl⟩ := alterWatches_ok h
  split_ifs at hcheck with hcolumns
  dsimp only at hcheck
  split_ifs at hcheck
  obtain rfl := Except.ok.inj hcheck
  exact ⟨t, ht, hcolumns, rfl⟩

theorem Database.dropLegacy_ok (h : db.dropLegacy = .ok db') :
    db'.watches = db.watches ∧ db'.refunds = db.refunds := by
  unfold dropLegacy at h
  split at h
  · cases h
  · split at h
    · cases h
    · obtain rfl := Except.ok.inj h
      exact ⟨rfl, rfl⟩

/-- **The rebuild.**  It copies the columns of the store, of every row, into a table with the
current constraints. -/
theorem Database.rebuild_ok (h : db.rebuild = .ok db') :
    ∃ t, db.watches = some t ∧ (∀ c ∈ watchColumns, c ∈ t.columns) ∧
      db'.watches = some (currentTable (t.select WatchColumn.default watchColumns).rows) ∧
      db'.refunds = db.refunds.map fun refunds => { refunds with references := .legacy } := by
  obtain ⟨renamed, hrename, h⟩ := Checks.bind_eq_ok.1 h
  obtain ⟨copied, hcopy, hdrop⟩ := Checks.bind_eq_ok.1 h
  obtain ⟨t, ht, hnone, hlegacy, hrefunds⟩ := renameWatches_ok hrename
  rw [createWatchTable_of_none hnone] at hcopy
  have hlegacy : ({ renamed with watches := some (currentTable []) } : Database).legacy = some t :=
    hlegacy
  obtain ⟨created, hcreated, hcolumns, rfl⟩ := copyLegacy_ok hlegacy hcopy
  obtain rfl := Option.some.inj hcreated
  obtain ⟨hwatches, hkept⟩ := dropLegacy_ok hdrop
  exact ⟨t, ht, hcolumns, by rw [hwatches]; rfl, by rw [hkept, ← hrefunds]⟩

theorem SchemaStatement.exec_createIndex {index : IndexDefinition}
    (h : (createIndex index).exec usable db = .ok db') :
    db' = db ∨ db' = { db with catalog := db.catalog.create index } := by
  simp only [exec] at h
  split_ifs at h
  · exact .inl (Except.ok.inj h).symm
  · split at h
    · cases h
    · split_ifs at h
      exact .inr (Except.ok.inj h).symm

/-- The table after a statement: the one before, with a column, rebuilt, or with its budgets
repaired. -/
theorem SchemaStatement.exec_table (h : st.exec usable db = .ok db') {t : WatchTable}
    (ht : db.watches = some t) : ∃ t', db'.watches = some t' ∧
      ((t' = t ∧ st.rewrite = id) ∨
        (∃ c, st = .ensureColumn c ∧
          t' = { t with toColumnTable := t.toColumnTable.addColumn WatchColumn.default c }) ∨
        (st = .ensureWatchStateConstraint ∧ (∀ c ∈ watchColumns, c ∈ t.columns) ∧
          t' = currentTable (t.select WatchColumn.default watchColumns).rows) ∨
        ∃ budget, st = .repairBudgets budget ∧ (∀ c ∈ repairColumns, c ∈ t.columns) ∧
          t' = { t with toColumnTable :=
            t.toColumnTable.update lacksBudget (withBudget budget) }) := by
  cases st with
  | createWatchTable =>
      obtain rfl := Except.ok.inj h
      exact ⟨t, by simp [Database.createWatchTable, ht], .inl ⟨rfl, rfl⟩⟩
  | ensureColumn c =>
      obtain ⟨t₀, t', ht₀, hadded, rfl⟩ := Database.alterWatches_ok h
      obtain rfl := Option.some.inj (ht.symm.trans ht₀)
      obtain rfl := Except.ok.inj hadded
      exact ⟨_, rfl, .inr (.inl ⟨c, rfl, rfl⟩)⟩
  | ensureWatchStateConstraint =>
      simp only [exec] at h
      split at h
      · obtain rfl := Except.ok.inj h
        exact ⟨t, ht, .inl ⟨rfl, rfl⟩⟩
      · obtain ⟨t₀, ht₀, hcolumns, htable, -⟩ := Database.rebuild_ok h
        obtain rfl := Option.some.inj (ht.symm.trans ht₀)
        exact ⟨_, htable, .inr (.inr (.inl ⟨rfl, hcolumns, rfl⟩))⟩
  | createRefundAuditTable =>
      obtain rfl := Except.ok.inj h
      exact ⟨t, ht, .inl ⟨rfl, rfl⟩⟩
  | createIndex index => rcases exec_createIndex h with rfl | rfl <;> exact ⟨t, ht, .inl ⟨rfl, rfl⟩⟩
  | dropIndex name =>
      obtain rfl := Except.ok.inj h
      exact ⟨t, ht, .inl ⟨rfl, rfl⟩⟩
  | requireOpenObligationsIndex =>
      simp only [exec] at h
      split_ifs at h
      obtain rfl := Except.ok.inj h
      exact ⟨t, ht, .inl ⟨rfl, rfl⟩⟩
  | repairBudgets budget =>
      simp only [exec] at h
      split_ifs at h
      obtain ⟨t₀, t', ht₀, hrepaired, rfl⟩ := Database.alterWatches_ok h
      obtain rfl := Option.some.inj (ht.symm.trans ht₀)
      split_ifs at hrepaired with hcolumns
      obtain rfl := Except.ok.inj hrepaired
      exact ⟨_, rfl, .inr (.inr (.inr ⟨budget, rfl, hcolumns, rfl⟩))⟩

/-- A database without the table gets an empty one, or none. -/
theorem SchemaStatement.exec_none (h : st.exec usable db = .ok db') (hnone : db.watches = none) :
    db'.watches = none ∨ db'.watches = some (currentTable []) := by
  cases st with
  | createWatchTable =>
      obtain rfl := Except.ok.inj h
      rw [Database.createWatchTable_of_none hnone]
      exact .inr rfl
  | ensureColumn c =>
      obtain ⟨t, t', ht, -⟩ := Database.alterWatches_ok h
      rw [hnone] at ht
      cases ht
  | ensureWatchStateConstraint =>
      simp only [exec, hnone, Option.any_none, Bool.false_eq_true, if_false] at h
      obtain ⟨t, ht, -⟩ := Database.rebuild_ok h
      rw [hnone] at ht
      cases ht
  | createRefundAuditTable =>
      obtain rfl := Except.ok.inj h
      exact .inl hnone
  | createIndex index => rcases exec_createIndex h with rfl | rfl <;> exact .inl hnone
  | dropIndex name =>
      obtain rfl := Except.ok.inj h
      exact .inl hnone
  | requireOpenObligationsIndex =>
      simp only [exec] at h
      split_ifs at h
      obtain rfl := Except.ok.inj h
      exact .inl hnone
  | repairBudgets budget =>
      simp only [exec] at h
      split_ifs at h
      obtain ⟨t, t', ht, -⟩ := Database.alterWatches_ok h
      rw [hnone] at ht
      cases ht

/-- Which statements change neither the indexes nor what they are made of. -/
def SchemaStatement.keepsCatalog : SchemaStatement → Bool
  | .ensureWatchStateConstraint | .createIndex _ | .dropIndex _ => false
  | _ => true

theorem SchemaStatement.exec_catalog (h : st.exec usable db = .ok db')
    (hst : st.keepsCatalog = true) : db'.catalog = db.catalog := by
  cases st with
  | createWatchTable =>
      obtain rfl := Except.ok.inj h
      unfold Database.createWatchTable
      split <;> rfl
  | ensureColumn c =>
      obtain ⟨t, t', -, -, rfl⟩ := Database.alterWatches_ok h
      rfl
  | createRefundAuditTable =>
      obtain rfl := Except.ok.inj h
      rfl
  | requireOpenObligationsIndex =>
      simp only [exec] at h
      split_ifs at h
      obtain rfl := Except.ok.inj h
      rfl
  | repairBudgets budget =>
      simp only [exec] at h
      split_ifs at h
      obtain ⟨t, t', -, -, rfl⟩ := Database.alterWatches_ok h
      rfl
  | ensureWatchStateConstraint => cases hst
  | createIndex index => cases hst
  | dropIndex name => cases hst

/-- The refunds on record. -/
def Database.refundRows (db : Database) : List RefundRow :=
  db.refunds.elim [] RefundTable.rows

/-- **No statement touches a refund.** -/
theorem SchemaStatement.exec_refunds (h : st.exec usable db = .ok db') :
    db'.refundRows = db.refundRows ∧ (db.refunds.isSome = true → db'.refunds.isSome = true) := by
  cases st with
  | createWatchTable =>
      obtain rfl := Except.ok.inj h
      unfold Database.createWatchTable
      split <;> exact ⟨rfl, id⟩
  | ensureColumn c =>
      obtain ⟨t, t', -, -, rfl⟩ := Database.alterWatches_ok h
      exact ⟨rfl, id⟩
  | ensureWatchStateConstraint =>
      simp only [exec] at h
      split_ifs at h
      · obtain rfl := Except.ok.inj h
        exact ⟨rfl, id⟩
      · obtain ⟨t, -, -, -, hrefunds⟩ := Database.rebuild_ok h
        unfold Database.refundRows
        rw [hrefunds]
        cases db.refunds <;> simp
  | createRefundAuditTable =>
      obtain rfl := Except.ok.inj h
      unfold Database.refundRows
      cases db.refunds <;> simp
  | createIndex index => rcases exec_createIndex h with rfl | rfl <;> exact ⟨rfl, id⟩
  | dropIndex name =>
      obtain rfl := Except.ok.inj h
      exact ⟨rfl, id⟩
  | requireOpenObligationsIndex =>
      simp only [exec] at h
      split_ifs at h
      obtain rfl := Except.ok.inj h
      exact ⟨rfl, id⟩
  | repairBudgets budget =>
      simp only [exec] at h
      split_ifs at h
      obtain ⟨t, t', -, -, rfl⟩ := Database.alterWatches_ok h
      exact ⟨rfl, id⟩

theorem current_currentTable (rows : List (WatchColumn → SqlValue)) :
    (currentTable rows).current = true := by
  show (stateTexts.contains (js "expired") && stateTexts.contains (js "indeterminate") &&
    !false) = true
  decide

/-- **What every statement keeps.** -/
theorem SchemaStatement.exec_kept (h : st.exec usable db = .ok db') : db.Kept db' := by
  refine ⟨?_, (exec_refunds h).2⟩
  intro t ht
  obtain ⟨t', ht', hcases⟩ := exec_table h ht
  refine ⟨t', ht', ?_⟩
  rcases hcases with ⟨rfl, -⟩ | ⟨c, -, rfl⟩ | ⟨-, hcolumns, rfl⟩ | ⟨budget, -, -, rfl⟩
  · exact ⟨fun c _ hc => hc, id⟩
  · exact ⟨fun c' _ hc' => (ColumnTable.mem_addColumn _ _).2 (.inl hc'), id⟩
  · exact ⟨fun c hc _ => hc, fun _ => current_currentTable _⟩
  · exact ⟨fun c _ hc => hc, id⟩

theorem Catalog.has_create {catalog : Catalog} {index : IndexDefinition} {name : JsString} :
    (catalog.create index).has name = true ↔
      catalog.has name = true ∨ sqliteIdentifier index.name = name := by
  simp [Catalog.has, Catalog.create, List.any_append]

theorem Catalog.has_drop {catalog : Catalog} {name name' : JsString} :
    (catalog.drop name').has name = true ↔ catalog.has name = true ∧ name ≠ name' := by
  simp only [Catalog.has, Catalog.drop, List.any_filter, List.any_eq_true, Bool.and_eq_true,
    Bool.not_eq_true', beq_iff_eq]
  constructor
  · rintro ⟨row, hrow, hkept, htype, rfl⟩
    refine ⟨⟨row, hrow, htype, rfl⟩, ?_⟩
    rintro rfl
    simp [htype] at hkept
  · rintro ⟨⟨row, hrow, htype, rfl⟩, hne⟩
    exact ⟨row, hrow, by simp [hne], htype, rfl⟩

/-- The names of the statements are those of the store, in small letters. -/
def SchemaStatement.plain : SchemaStatement → Bool
  | .ensureColumn c => watchColumns.contains c
  | .createIndex index => sqliteIdentifier index.name == index.name
  | _ => true

/-- A statement that was done has nothing left to do. -/
theorem SchemaStatement.exec_holds (h : st.exec usable db = .ok db') (hplain : st.plain = true) :
    st.Holds usable db' := by
  cases st with
  | createWatchTable =>
      obtain rfl := Except.ok.inj h
      show ∃ t, db.createWatchTable.watches = some t
      cases hnone : db.watches with
      | none => exact ⟨_, by rw [Database.createWatchTable_of_none hnone]⟩
      | some t => exact ⟨t, by simp [Database.createWatchTable, hnone]⟩
  | ensureColumn c =>
      obtain ⟨t, t', -, hadded, rfl⟩ := Database.alterWatches_ok h
      obtain rfl := Except.ok.inj hadded
      exact ⟨_, rfl, (ColumnTable.mem_addColumn _ _).2 (.inr rfl)⟩
  | ensureWatchStateConstraint =>
      simp only [exec] at h
      split_ifs at h with hcurrent
      · obtain rfl := Except.ok.inj h
        exact (Option.any_eq_true _ _).1 hcurrent
      · obtain ⟨t, -, -, htable, -⟩ := Database.rebuild_ok h
        exact ⟨_, htable, current_currentTable _⟩
  | createRefundAuditTable =>
      obtain rfl := Except.ok.inj h
      rfl
  | createIndex index =>
      simp only [exec] at h
      split_ifs at h with hhas
      · obtain rfl := Except.ok.inj h
        exact hhas
      · split at h
        · cases h
        · split_ifs at h
          obtain rfl := Except.ok.inj h
          exact Catalog.has_create.2 (.inr (beq_iff_eq.1 hplain))
  | dropIndex name =>
      obtain rfl := Except.ok.inj h
      refine ⟨?_, ?_⟩
      · rw [← Bool.not_eq_true, Catalog.has_drop]
        simp
      · simp [Catalog.drop]
  | requireOpenObligationsIndex =>
      simp only [exec] at h
      split_ifs at h with hindex
      obtain rfl := Except.ok.inj h
      exact hindex
  | repairBudgets budget =>
      simp only [exec] at h
      split_ifs at h with husable
      obtain ⟨t, t', -, hrepaired, rfl⟩ := Database.alterWatches_ok h
      split_ifs at hrepaired with hcolumns
      obtain rfl := Except.ok.inj hrepaired
      refine ⟨husable, _, rfl, hcolumns, ?_⟩
      intro row hrow
      obtain ⟨old, -, rfl⟩ := List.mem_map.1 hrow
      split
      · simp [lacksBudget, withBudget]
      · rename_i hsome
        exact Bool.not_eq_true _ ▸ hsome

/-- Whether a later statement leaves what an earlier one did. -/
def SchemaStatement.leaves (g : SchemaStatement) : SchemaStatement → Bool
  | .createWatchTable | .ensureColumn _ | .ensureWatchStateConstraint
  | .createRefundAuditTable => true
  | .createIndex index =>
      match g with
      | .ensureWatchStateConstraint => false
      | .dropIndex name => index.name != name
      | _ => true
  | .dropIndex name =>
      match g with
      | .ensureWatchStateConstraint => false
      | .createIndex index => sqliteIdentifier index.name != name
      | _ => true
  | .requireOpenObligationsIndex => g.keepsCatalog
  | .repairBudgets _ => false

/-- **What was done stays done**, through every later statement that leaves it. -/
theorem SchemaStatement.Holds.kept {g : SchemaStatement} (hst : st.Holds usable db)
    (hplain : st.plain = true) (hleaves : g.leaves st = true) (h : g.exec usable db = .ok db') :
    st.Holds usable db' := by
  have hkept := exec_kept h
  cases st with
  | createWatchTable =>
      obtain ⟨t, ht⟩ := hst
      obtain ⟨t', ht', -⟩ := hkept.table t ht
      exact ⟨t', ht'⟩
  | ensureColumn c =>
      obtain ⟨t, ht, hc⟩ := hst
      obtain ⟨t', ht', hcolumns, -⟩ := hkept.table t ht
      exact ⟨t', ht', hcolumns c (List.contains_iff_mem.1 hplain) hc⟩
  | ensureWatchStateConstraint =>
      obtain ⟨t, ht, hcurrent⟩ := hst
      obtain ⟨t', ht', -, hstill⟩ := hkept.table t ht
      exact ⟨t', ht', hstill hcurrent⟩
  | createRefundAuditTable => exact hkept.refunds hst
  | createIndex index =>
      by_cases hcatalog : g.keepsCatalog = true
      · show db'.catalog.has index.name = true
        rw [exec_catalog h hcatalog]
        exact hst
      · cases g with
        | ensureWatchStateConstraint => cases hleaves
        | createIndex other =>
            rcases exec_createIndex h with rfl | rfl
            · exact hst
            · exact Catalog.has_create.2 (.inl hst)
        | dropIndex name =>
            obtain rfl := Except.ok.inj h
            exact Catalog.has_drop.2 ⟨hst, by simpa [leaves] using hleaves⟩
        | _ => exact absurd rfl hcatalog
  | dropIndex name =>
      obtain ⟨habsent, hunlisted⟩ := hst
      by_cases hcatalog : g.keepsCatalog = true
      · show db'.catalog.has name = false ∧
          ∀ row ∈ db'.catalog.indexList, sqliteIdentifier row.name ≠ name
        rw [exec_catalog h hcatalog]
        exact ⟨habsent, hunlisted⟩
      · cases g with
        | ensureWatchStateConstraint => cases hleaves
        | createIndex other =>
            rcases exec_createIndex h with rfl | rfl
            · exact ⟨habsent, hunlisted⟩
            · have hother : sqliteIdentifier other.name ≠ name := by simpa [leaves] using hleaves
              refine ⟨?_, ?_⟩
              · rw [← Bool.not_eq_true, Catalog.has_create]
                simp [habsent, hother]
              · intro row hrow
                rcases List.mem_append.1 hrow with hrow | hrow
                · exact hunlisted row hrow
                · rw [List.mem_singleton.1 hrow]
                  exact hother
        | dropIndex other =>
            obtain rfl := Except.ok.inj h
            refine ⟨?_, fun row hrow => hunlisted row (List.mem_of_mem_filter hrow)⟩
            rw [← Bool.not_eq_true, Catalog.has_drop]
            simp [habsent]
        | _ => exact absurd rfl hcatalog
  | requireOpenObligationsIndex =>
      show hasOpenObligationPartialIndex db'.catalog = true
      rw [exec_catalog h hleaves]
      exact hst
  | repairBudgets budget => cases hleaves

theorem SchemaStatement.keeps {g : SchemaStatement} (hplain : st.plain = true)
    (hleaves : g.leaves st = true) : Keeps (st.exec usable) (g.exec usable) := by
  intro db db' hdone h
  exact ((exec_holds hdone hplain).kept hplain hleaves h).done

theorem leaves_migration : migration.Pairwise fun st g => g.leaves st = true := by
  decide +kernel

theorem plain_migration : ∀ st ∈ migration, st.plain = true := by
  decide +kernel

theorem leaves_repairBudgets (budget : ℕ) :
    ∀ st ∈ migration, (SchemaStatement.repairBudgets budget).leaves st = true := by
  have hno : ∀ st ∈ migration, (SchemaStatement.repairBudgets 0).leaves st = true := by
    decide +kernel
  intro st hst
  rw [← hno st hst]
  cases st <;> rfl

/-- **Every statement of the constructor is done once and for all.** -/
theorem settled_constructorStatements (usable : Catalog → Bool) (config : StoreConfig) :
    Settled (constructorStatements usable config) := by
  have hplain : ∀ st ∈ migration ++ [SchemaStatement.repairBudgets config.workUnitBudget],
      st.plain = true := by
    intro st hst
    rcases List.mem_append.1 hst with hst | hst
    · exact plain_migration st hst
    · rw [List.mem_singleton.1 hst]
      rfl
  constructor
  · intro f hf db db' h
    obtain ⟨st, hst, rfl⟩ := List.mem_map.1 hf
    exact (SchemaStatement.exec_holds h (hplain st hst)).done
  · rw [constructorStatements, List.pairwise_map]
    have hleaves : (migration ++ [SchemaStatement.repairBudgets config.workUnitBudget]).Pairwise
        fun st g => g.leaves st = true := by
      refine List.pairwise_append.2 ⟨leaves_migration, List.pairwise_singleton _ _, ?_⟩
      intro st hst g hg
      rw [List.mem_singleton.1 hg]
      exact leaves_repairBudgets _ st hst
    exact hleaves.imp_of_mem fun hst _ hleaves => SchemaStatement.keeps (hplain _ hst) hleaves

end Statements

/-! ## What a database says -/

/-- A row in the columns of the store. -/
def watchValues (row : WatchColumn → SqlValue) : WatchColumn → SqlValue :=
  (currentTable []).read WatchColumn.default row

/-- What a database says of its watches. -/
def Database.contents (db : Database) : List (WatchColumn → SqlValue) :=
  db.watches.elim [] fun t => (t.contents WatchColumn.default).map watchValues

theorem sqlRow_state (row : WatchColumn → SqlValue) (l : SqlLiteral) :
    sqlRow row (js "state") l = (row .state).equals l := by
  have hfind : (watchColumns.find? fun c => c.name == js "state") = some .state := by
    decide +kernel
  rw [sqlRow, hfind]

theorem sqlRow_terminal (row : WatchColumn → SqlValue) (l : SqlLiteral) :
    sqlRow row (js "settlement_reconciliation_terminal") l =
      (row .settlementReconciliationTerminal).equals l := by
  have hfind : (watchColumns.find? fun c => c.name == js "settlement_reconciliation_terminal") =
      some .settlementReconciliationTerminal := by
    decide +kernel
  rw [sqlRow, hfind]

/-- The repair reads three columns. -/
theorem lacksBudget_congr {row row' : WatchColumn → SqlValue}
    (h : ∀ c ∈ repairColumns, row c = row' c) : lacksBudget row = lacksBudget row' := by
  have hstate := h .state (by decide)
  have hterminal := h .settlementReconciliationTerminal (by decide)
  have hbudget := h .workUnitBudget (by decide)
  simp only [lacksBudget, openObligationExpr, SqlExpr.eval, List.map_cons, List.map_nil,
    sqlRow_state, sqlRow_terminal, hstate, hterminal, hbudget]

section Contents

variable {t : ColumnTable WatchColumn SqlValue}

theorem lacksBudget_read (h : ∀ c ∈ repairColumns, c ∈ t.columns) (row : WatchColumn → SqlValue) :
    lacksBudget (t.read WatchColumn.default row) = lacksBudget row :=
  lacksBudget_congr fun c hc => if_pos (h c hc)

theorem read_withBudget (h : ∀ c ∈ repairColumns, c ∈ t.columns) (budget : ℕ)
    (row : WatchColumn → SqlValue) :
    t.read WatchColumn.default (withBudget budget row) =
      withBudget budget (t.read WatchColumn.default row) := by
  funext c
  by_cases hc : c = .workUnitBudget
  · subst hc
    simp [ColumnTable.read, withBudget, h .workUnitBudget (by decide)]
  · simp [ColumnTable.read, withBudget, hc]

theorem read_repaired (h : ∀ c ∈ repairColumns, c ∈ t.columns) (budget : ℕ)
    (row : WatchColumn → SqlValue) :
    t.read WatchColumn.default (repaired budget row) =
      repaired budget (t.read WatchColumn.default row) := by
  unfold repaired
  rw [lacksBudget_read h]
  split
  · exact read_withBudget h budget row
  · rfl

theorem watchValues_repaired (budget : ℕ) (row : WatchColumn → SqlValue) :
    watchValues (repaired budget row) = repaired budget (watchValues row) :=
  read_repaired (by decide) budget row

theorem watchValues_watchValues (row : WatchColumn → SqlValue) :
    watchValues (watchValues row) = watchValues row := by
  funext c
  by_cases hc : c ∈ watchColumns <;> simp [watchValues, ColumnTable.read, currentTable, hc]

/-- The rebuild, in the columns of the store. -/
theorem contents_rebuilt (h : ∀ c ∈ watchColumns, c ∈ t.columns) :
    ((t.select WatchColumn.default watchColumns).contents WatchColumn.default).map watchValues =
      (t.contents WatchColumn.default).map watchValues := by
  rw [ColumnTable.contents_select _ _ h, List.map_map]
  refine List.map_congr_left ?_
  intro row _
  exact watchValues_watchValues row

/-- The repair, in the columns of the store. -/
theorem contents_repaired (h : ∀ c ∈ repairColumns, c ∈ t.columns) (budget : ℕ) :
    ((t.update lacksBudget (withBudget budget)).contents WatchColumn.default).map watchValues =
      ((t.contents WatchColumn.default).map watchValues).map (repaired budget) := by
  rw [ColumnTable.contents_update _ _ (lacksBudget_read h) (read_withBudget h budget),
    List.map_map, List.map_map]
  refine List.map_congr_left ?_
  intro row _
  exact watchValues_repaired budget row

end Contents

section Statements

variable {usable : Catalog → Bool} {db db' : Database} {st : SchemaStatement}

/-- **What a statement says anew.**  Only the repair changes what a database says, and only
a missing budget of an open row. -/
theorem SchemaStatement.exec_contents (h : st.exec usable db = .ok db') :
    db'.contents = db.contents.map st.rewrite := by
  cases hwatches : db.watches with
  | none =>
      unfold Database.contents
      rw [hwatches]
      rcases exec_none h hwatches with hstill | hcreated
      · rw [hstill]
        rfl
      · rw [hcreated]
        rfl
  | some t =>
      obtain ⟨t', ht', hcases⟩ := exec_table h hwatches
      have hcontents : db.contents = (t.contents WatchColumn.default).map watchValues := by
        rw [Database.contents, hwatches]
        rfl
      have hcontents' : db'.contents = (t'.contents WatchColumn.default).map watchValues := by
        rw [Database.contents, ht']
        rfl
      rcases hcases with ⟨rfl, hid⟩ | ⟨c, rfl, rfl⟩ | ⟨rfl, hcolumns, rfl⟩ |
        ⟨budget, rfl, hcolumns, rfl⟩
      · rw [hcontents', hid, List.map_id, ← hcontents]
      · rw [hcontents', ColumnTable.contents_addColumn, ← hcontents]
        exact (List.map_id _).symm
      · have hrebuilt := contents_rebuilt hcolumns
        rw [← hcontents] at hrebuilt
        rw [hcontents']
        exact hrebuilt.trans (List.map_id _).symm
      · rw [hcontents', contents_repaired hcolumns budget, ← hcontents]
        rfl

/-- A repair with another budget has as little left to do. -/
theorem done_repairBudgets {budget budget' : ℕ}
    (h : Done db ((SchemaStatement.repairBudgets budget).exec usable)) :
    Done db ((SchemaStatement.repairBudgets budget').exec usable) := by
  have hholds : (SchemaStatement.repairBudgets budget).Holds usable db :=
    SchemaStatement.exec_holds h rfl
  have hsame : (SchemaStatement.repairBudgets budget').Holds usable db := hholds
  exact hsame.done

end Statements

/-! ## Openings -/

/-- A row whose budget was repaired: it was open and had none. -/
def BudgetRepaired (row row' : WatchColumn → SqlValue) : Prop :=
  lacksBudget row = true ∧ ∃ budget, positiveInteger budget ∧ row' = withBudget budget row

theorem lacksBudget_withBudget (budget : ℕ) (row : WatchColumn → SqlValue) :
    lacksBudget (withBudget budget row) = false := by
  simp [lacksBudget, withBudget]

/-- A row is repaired once. -/
theorem BudgetRepaired.trans {rows rows' rows'' : List (WatchColumn → SqlValue)}
    (h : Table.Rewrites BudgetRepaired rows rows') (h' : Table.Rewrites BudgetRepaired rows' rows'') :
    Table.Rewrites BudgetRepaired rows rows'' := by
  induction h generalizing rows'' with
  | nil => exact h'
  | @cons row row' rows rows' hrow _ ih =>
      cases h' with
      | @cons _ row'' _ rows'' hrow' hrest =>
          refine .cons ?_ (ih hrest)
          rcases hrow with rfl | hrow
          · exact hrow'
          · -- a repaired row has a budget, and is left alone
            obtain ⟨hlacking, budget, hbudget, rfl⟩ := hrow
            rcases hrow' with rfl | ⟨hlacks, -⟩
            · exact .inr ⟨hlacking, budget, hbudget, rfl⟩
            · rw [lacksBudget_withBudget] at hlacks
              cases hlacks

/-- The constructor, cut off behind some statements. -/
def attempt (usable : Catalog → Bool) (db : Database) (a : StoreConfig × ℕ) : Database :=
  (run ((constructorStatements usable a.1).take a.2) db).1

section Openings

variable {usable : Catalog → Bool}

theorem rewrites_repaired {config : StoreConfig} (rows : List (WatchColumn → SqlValue)) :
    Table.Rewrites BudgetRepaired rows (rows.map (repaired config.workUnitBudget)) :=
  Table.rewrites_updateWhere fun _ _ hlacks => ⟨hlacks, _, config.budget_positive, rfl⟩

/-- What is on record stays on record, row by row, but for the repair. -/
structure Database.Carried (db db' : Database) : Prop where
  contents : Table.Rewrites BudgetRepaired db.contents db'.contents
  refunds : db'.refundRows = db.refundRows

theorem Database.Carried.refl (db : Database) : db.Carried db := ⟨Table.Rewrites.refl _ _, rfl⟩

theorem Database.Carried.trans {db db' db'' : Database} (h : db.Carried db')
    (h' : db'.Carried db'') : db.Carried db'' :=
  ⟨BudgetRepaired.trans h.contents h'.contents, h'.refunds.trans h.refunds⟩

/-- The statements before the repair change no row. -/
theorem rewrite_migration : ∀ st ∈ migration, st.rewrite = id := by
  intro st hst
  cases st with
  | repairBudgets budget => simp [migration] at hst
  | _ => rfl

/-- What a constructor keeps when it is cut off. -/
theorem carried_attempt (usable : Catalog → Bool) (db : Database) (a : StoreConfig × ℕ) :
    db.Carried (attempt usable db a) := by
  refine run_invariant (I := db.Carried) ?_ (.refl db)
  intro f hf db₁ db₂ hcarried hstep
  obtain ⟨st, hst, rfl⟩ := List.mem_map.1 (List.mem_of_mem_take hf)
  refine hcarried.trans ⟨?_, (SchemaStatement.exec_refunds hstep).1⟩
  rw [SchemaStatement.exec_contents hstep]
  rcases List.mem_append.1 hst with hst | hst
  · rw [rewrite_migration st hst, List.map_id]
    exact Table.Rewrites.refl _ _
  · rw [List.mem_singleton.1 hst]
    exact rewrites_repaired _

/-- **Opening loses nothing.**  However often a database is opened, with whatever limits,
whatever release wrote it, and also where the constructor fails or is cut off behind any of
its statements: it keeps every watch, in its place, with every value of every column that
the store reads, or the default of a column that was not there; only an open row without a
budget may have one now.  It keeps every refund. -/
theorem openings_keep (usable : Catalog → Bool) (db : Database)
    (attempts : List (StoreConfig × ℕ)) :
    Table.Rewrites BudgetRepaired db.contents (Runs.run (attempt usable) db attempts).contents ∧
      (Runs.run (attempt usable) db attempts).refundRows = db.refundRows := by
  have h : db.Carried (Runs.run (attempt usable) db attempts) :=
    Runs.run_invariant' (fun db' a h => h.trans (carried_attempt usable db' a)) attempts (.refl db)
  exact ⟨h.contents, h.refunds⟩

theorem constructorStatements_eq (usable : Catalog → Bool) (config : StoreConfig) :
    constructorStatements usable config = migration.map (SchemaStatement.exec usable) ++
      [(SchemaStatement.repairBudgets config.workUnitBudget).exec usable] := by
  rw [constructorStatements, List.map_append]
  rfl

/-- The statements before the repair change nothing that the database says. -/
theorem contents_migration (db : Database) :
    (run (migration.map (SchemaStatement.exec usable)) db).1.contents = db.contents := by
  refine run_invariant (I := fun db' : Database => db'.contents = db.contents) ?_ rfl
  intro f hf db₁ db₂ hkept hstep
  obtain ⟨st, hst, rfl⟩ := List.mem_map.1 hf
  show db₂.contents = db.contents
  rw [SchemaStatement.exec_contents hstep, rewrite_migration st hst, List.map_id]
  exact hkept

/-- The contents after a constructor that ran through. -/
theorem contents_openDatabase {config : StoreConfig} {db : Database}
    (h : (openDatabase usable config db).2 = .ok ()) :
    (openDatabase usable config db).1.contents =
      db.contents.map (repaired config.workUnitBudget) := by
  unfold openDatabase at h ⊢
  rw [constructorStatements_eq] at h ⊢
  have hfirst := run_ok_of_append h
  rw [run_append_of_ok hfirst] at h ⊢
  rw [SchemaStatement.exec_contents (run_singleton_ok h), contents_migration]
  rfl

/-- **A start is resumed.**  A constructor that was cut off, again and again and behind any
statements, and at last runs through ends exactly as one that ran through at once; and
where it has, opening the database again, with whatever limits, changes nothing. -/
theorem openings_resume (usable : Catalog → Bool) (config : StoreConfig) (db : Database)
    (cuts : List ℕ) :
    openDatabase usable config (Runs.run (attempt usable) db (cuts.map fun k => (config, k))) =
        openDatabase usable config db ∧
      ((openDatabase usable config db).2 = .ok () →
        (openDatabase usable config db).1.contents =
            db.contents.map (repaired config.workUnitBudget) ∧
          ∀ config', openDatabase usable config' (openDatabase usable config db).1 =
            ((openDatabase usable config db).1, .ok ())) := by
  have hsettled := settled_constructorStatements usable config
  constructor
  · induction cuts generalizing db with
    | nil => rfl
    | cons k cuts ih =>
        rw [List.map_cons, Runs.run_cons, ih]
        have hresume := run_resume (hsettled.take k)
          ((constructorStatements usable config).drop k) db
        rwa [List.take_append_drop] at hresume
  · intro hok
    refine ⟨contents_openDatabase hok, ?_⟩
    intro config'
    refine run_of_done ?_
    intro f hf
    have hdone := done_of_run hsettled hok
    obtain ⟨st, hst, rfl⟩ := List.mem_map.1 hf
    rcases List.mem_append.1 hst with hst | hst
    · exact hdone _ (List.mem_map_of_mem (List.mem_append_left _ hst))
    · rw [List.mem_singleton.1 hst]
      exact done_repairBudgets (hdone _ (List.mem_map_of_mem (List.mem_append_right _
        (List.mem_singleton.2 rfl))))

end Openings

end RoundWatch
