import RoundWatch.Workers.ReconcilerBudget

/-!
# The work budget bounds the service obligation

* `UnchargedStore` — the databases a process may start with;
* `BudgetKept` — what the durable budget promises about a process;
* `budget_of_run` — it is kept in every run.
-/

namespace RoundWatch

open JsText

/-- A database nothing has been charged in: an empty one, or one from before the column
`work_units_used`, which is added with the default 0. -/
structure UnchargedStore extends Store where
  uncharged : ∀ r ∈ rows, r.workUnitsUsed = 0

/-! ## The invariant over runs -/

/-- A process that has just opened its database, at any point of a database's life. -/
theorem Budgeted.boot (s : UnchargedStore) : Budgeted s.toStore (.boot s.toStore) where
  history := ⟨[], rfl⟩
  rows r hr := by
    have hzero := s.uncharged r hr
    exact ⟨hzero, fun _ _ => by simp [hzero], fun _ => hzero, Or.inl rfl⟩
  known := fun _ ho => by cases ho
  log := .nil
  turns := rfl
  polling := by
    constructor
    · intro _ _ _ hsweep
      cases hsweep
    · intro _ _ _ _ _ _ hsweep
      cases hsweep
  reconciling := fun _ _ hs => by cases hs

/-- **The invariant holds in every run.** -/
theorem budgeted_run (cfg : WorkerConfig) (s : UnchargedStore) (es : List Event) :
    Budgeted s.toStore (System.run cfg (.boot s.toStore) es) :=
  Runs.run_invariant' (I := Budgeted s.toStore) (fun _ e h => h.step e) es (.boot s)

/-- What a process does to its database from some state on is a history of operations. -/
theorem Budgeted.exists_history {origin : Store} {σ : System} (h : Budgeted origin σ)
    (cfg : WorkerConfig) (es : List Event) :
    ∃ ops, (System.run cfg σ es).store = σ.store.run ops := by
  have hσ : Budgeted σ.store σ := { h with history := ⟨[], rfl⟩ }
  exact (Runs.run_invariant' (I := Budgeted σ.store) (fun _ e h => h.step e) es hσ).history

/-! ## Budgets -/

/-- A budget that is set stays as it is. -/
theorem RowChange.workUnitBudget {op : StoreOp} {r r' : WatchRow} (h : RowChange op r r')
    {budget : ℕ} (hbudget : r.workUnitBudget = some budget) :
    r'.workUnitBudget = some budget := by
  cases h with
  | repairBudget _ hnone =>
      rw [hnone] at hbudget
      cases hbudget
  | _ => exact hbudget

theorem Store.exists_run_of_budget {s : Store} {r : WatchRow} (hr : r ∈ s.rows) {budget : ℕ}
    (hbudget : r.workUnitBudget = some budget) (ops : List StoreOp) :
    ∃ r' ∈ (s.run ops).rows, r'.id = r.id ∧ r'.workUnitBudget = some budget := by
  induction ops generalizing s r with
  | nil => exact ⟨r, hr, rfl, hbudget⟩
  | cons op ops ih =>
      obtain ⟨r', hr', rfl | hchange⟩ := Store.exists_apply_of_mem hr op
      · exact ih hr' hbudget
      · obtain ⟨r'', hr'', hid, hkept⟩ := ih hr' (hchange.workUnitBudget hbudget)
        exact ⟨r'', hr'', hid.trans hchange.sameWatch.id, hkept⟩

/-- Every watch that was created in a history has a budget. -/
theorem Store.budget_of_created {s : Store} (ops : List StoreOp) :
    ∀ r ∈ (s.run ops).rows, r.workUnitBudget.isSome ∨ ∃ r₀ ∈ s.rows, r₀.id = r.id := by
  refine Store.forall_rows_run (P := fun r => r.workUnitBudget.isSome ∨
    ∃ r₀ ∈ s.rows, r₀.id = r.id) (fun _ _ _ _ _ _ => Or.inl rfl) ?_ ops
    fun r hr => Or.inr ⟨r, hr, rfl⟩
  rintro op r r' hchange (hbudget | ⟨r₀, hr₀, hid⟩)
  · obtain ⟨budget, hbudget⟩ := Option.isSome_iff_exists.1 hbudget
    exact Or.inl (Option.isSome_iff_exists.2 ⟨budget, hchange.workUnitBudget hbudget⟩)
  · exact Or.inr ⟨r₀, hr₀, hid.trans hchange.sameWatch.id.symm⟩

/-! ## The promise -/

/-- What a restart with a configuration makes of a row: an open row without a budget gets
the configured one, and any other row stays as it is. -/
def BudgetRepair (config : StoreConfig) (r r' : WatchRow) : Prop :=
  if r.openObligation ∧ r.workUnitBudget = none then
    r' = { r with workUnitBudget := some config.workUnitBudget }
  else r' = r

/-- **The promise of the durable work budget**, for a process whose database started as
`origin`. -/
structure BudgetKept (cfg : WorkerConfig) (origin : Store) (σ : System) : Prop where
  /-- Only watches from before there were budgets have none. -/
  created : ∀ r ∈ σ.store.rows, r.workUnitBudget.isSome ∨ ∃ r₀ ∈ origin.rows, r₀.id = r.id
  /-- A budget never changes. -/
  constant : ∀ r ∈ σ.store.rows, ∀ budget, r.workUnitBudget = some budget → ∀ later,
    ∃ r' ∈ (System.run cfg σ later).store.rows, r'.id = r.id ∧ r'.workUnitBudget = some budget
  /-- The used units are the claims that succeeded. -/
  used : ∀ r ∈ σ.store.rows, r.workUnitsUsed = (claimedTurns r.id σ.log).length
  within : ∀ r ∈ σ.store.rows, ∀ budget, r.workUnitBudget = some budget → r.workUnitsUsed ≤ budget
  /-- A watch without a budget is never worked on. -/
  unbudgeted : ∀ r ∈ σ.store.rows, r.workUnitBudget = none → r.workUnitsUsed = 0
  exhausted : ∀ r ∈ σ.store.rows, exhaustions r.id σ.log ≤ 1 ∧
    (exhaustions r.id σ.log ≠ 0 → r.workUnitBudget = some r.workUnitsUsed)
  /-- Every request has its claim before it. -/
  claimed : ∀ later earlier turn id, σ.log = later ++ .requested turn id :: earlier →
    ∃ kind, .claimed turn kind id ∈ earlier
  /-- A turn makes four requests at most, or three. -/
  limited : ∀ turn kind id, .claimed turn kind id ∈ σ.log → requestsIn σ.log turn ≤ kind.limit
  /-- The guard of a turn never throws. -/
  unguarded : ∀ turn, .overspent turn ∉ σ.log
  ceiling : ∀ r ∈ σ.store.rows, ∀ budget, r.workUnitBudget = some budget →
    ∀ bound, maxBackgroundIndexerRequestsForWorkBudget budget = .ok bound →
      (requestTurns r.id σ.log).length ≤ bound
  restart : ∀ config, List.Forall₂ (BudgetRepair config) σ.store.rows
    (σ.step cfg (.restart config)).store.rows

theorem Store.forall₂_reopen (s : Store) (config : StoreConfig) :
    List.Forall₂ (BudgetRepair config) s.rows (s.reopen config).rows := by
  refine List.forall₂_map_right_iff.2 (List.forall₂_same.2 fun r _ => ?_)
  unfold BudgetRepair
  by_cases hrepair : r.openObligation = true ∧ r.workUnitBudget = none
  · simp [hrepair, WatchRow.repairBudget]
  · rw [if_neg hrepair]
    have hselect : (r.openObligation && r.workUnitBudget.isNone) = false := by
      cases hbudget : r.workUnitBudget <;> simp_all
    simp [hselect]

/-- The ceiling of a budget is four requests for each unit. -/
theorem maxBackgroundIndexerRequestsForWorkBudget_eq_ok {budget bound : ℕ}
    (h : maxBackgroundIndexerRequestsForWorkBudget budget = .ok bound) :
    bound = budget * maxBackgroundRequests := by
  unfold maxBackgroundIndexerRequestsForWorkBudget at h
  split at h
  · cases h
  · split at h
    · cases h
    · cases h
      rfl

/-- **The budget bounds the obligation.**  In every run, with sweeps, hooks, failures and
restarts in any order, the process keeps its promise. -/
theorem budget_of_run (cfg : WorkerConfig) (s : UnchargedStore) (es : List Event) :
    BudgetKept cfg s.toStore (System.run cfg (.boot s.toStore) es) := by
  have h := budgeted_run cfg s es
  obtain ⟨ops, hops⟩ := h.history
  refine
    { created := ?_
      constant := fun r hr budget hbudget later => ?_
      used := fun r hr => (h.rows r hr).used
      within := fun r hr => (h.rows r hr).within
      unbudgeted := fun r hr => (h.rows r hr).unbudgeted
      exhausted := fun r hr => ?_
      claimed := fun _ _ _ _ hlog => h.log.claimed_of_requested hlog
      limited := fun _ _ _ hclaimed => h.log.requestsIn_le hclaimed
      unguarded := h.log.not_overspent
      ceiling := fun r hr budget hbudget bound hbound => ?_
      restart := fun config => Store.forall₂_reopen _ config }
  · rw [hops]
    exact Store.budget_of_created ops
  · obtain ⟨ops', hops'⟩ := h.exists_history cfg later
    rw [hops']
    exact Store.exists_run_of_budget hr hbudget ops'
  · rcases (h.rows r hr).exhausted with hnever | ⟨honce, -, hbudget⟩
    · exact ⟨by omega, fun hsome => absurd hnever hsome⟩
    · exact ⟨by omega, fun _ => hbudget⟩
  · have hcharged := h.rows r hr
    calc (requestTurns r.id _).length
        ≤ (claimedTurns r.id _).length * maxBackgroundRequests := h.log.requestTurns_le r.id
      _ ≤ budget * maxBackgroundRequests :=
          Nat.mul_le_mul_right _ (hcharged.used ▸ hcharged.within budget hbudget)
      _ = bound := (maxBackgroundIndexerRequestsForWorkBudget_eq_ok hbound).symm

end RoundWatch
