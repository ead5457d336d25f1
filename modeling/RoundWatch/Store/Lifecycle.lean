import RoundWatch.Store.Change

/-!
# The life of a watch

* `WatchRow.finished` — the states no operation leaves, and `RowChange.eq_of_finished`:
  under the guards of every statement a finished row stays as it is.
* `Lifecycle` — what the columns of a row say about each other in every reachable
  state, with one lemma that every change keeps it.
* `lifecycle_of_run` puts both together over histories of any length.
-/

namespace RoundWatch

open JsText

namespace WatchRow

/-- The obligation of the watch has come to its end. -/
def finished (r : WatchRow) : Bool :=
  r.state == .matched || r.state == .expired || r.state == .indeterminate ||
    (r.state == .settlementUnknown && r.settlementReconciliationTerminal)

/-- The service payment of the watch was seen on chain. -/
def funded (r : WatchRow) : Bool :=
  r.state == .active || r.state == .matched || r.state == .expired

end WatchRow

/-! ## Finished rows -/

theorem WatchRow.not_finished_of_active {r : WatchRow} (h : r.state = .active) :
    r.finished = false := by
  simp [finished, h]

theorem WatchRow.not_finished_of_unsettled {r : WatchRow} (h : r.unsettled) :
    r.finished = false := by
  simp only [unsettled, settling, Bool.and_eq_true, Bool.or_eq_true, beq_iff_eq,
    Bool.not_eq_true'] at h
  obtain ⟨hstate | hstate, hflag⟩ := h
  · simp [finished, hstate]
  · simp [finished, hstate, hflag]

theorem WatchRow.not_finished_of_eligible {now : ℤ} {claim : WorkClaim} {r : WatchRow}
    (h : Store.eligible claim now r) : r.finished = false := by
  cases claim with
  | polling scan closing failures =>
      simp only [Store.eligible, Bool.and_eq_true, beq_iff_eq] at h
      exact not_finished_of_active h.1.1.1.1.1.1
  | reconciliation transaction attempts =>
      simp only [Store.eligible, Bool.and_eq_true] at h
      exact not_finished_of_unsettled h.1.1.1

/-- Finished rows are open obligations no more. -/
theorem WatchRow.not_finished_of_openObligation {r : WatchRow} (h : r.openObligation) :
    r.finished = false := by
  simp only [openObligation, Bool.or_eq_true, Bool.and_eq_true, beq_iff_eq,
    Bool.not_eq_true'] at h
  obtain (hstate | hstate) | ⟨hstate, hflag⟩ := h
  · simp [finished, hstate]
  · simp [finished, hstate]
  · simp [finished, hstate, hflag]

/-- **No statement touches a finished row.**  `markSettlementInvalid` may still select
one, and then writes the values that are already there. -/
theorem RowChange.eq_of_finished {op : StoreOp} {r r' : WatchRow} (h : RowChange op r r')
    (hfin : r.finished) : r' = r := by
  cases h with
  | recordCandidate _ hopen _ =>
      exact absurd hfin (by simp [WatchRow.not_finished_of_unsettled hopen])
  | activate _ hopen _ => exact absurd hfin (by simp [WatchRow.not_finished_of_unsettled hopen])
  | settleUnknown _ hpending => exact absurd hfin (by simp [WatchRow.finished, hpending])
  | settleInvalid _ hsettling =>
      simp only [WatchRow.settling, Bool.or_eq_true, beq_iff_eq] at hsettling
      rcases hsettling with hstate | hstate
      · exact absurd hfin (by simp [WatchRow.finished, hstate])
      · have hflag : r.settlementReconciliationTerminal = true := by
          simpa [WatchRow.finished, hstate] using hfin
        cases r
        simp only at hstate hflag
        simp [WatchRow.settleInvalid, hstate, hflag]
  | charge _ heligible _ =>
      exact absurd hfin (by simp [WatchRow.not_finished_of_eligible heligible])
  | exhaust _ heligible _ =>
      exact absurd hfin (by simp [WatchRow.not_finished_of_eligible heligible])
  | recordFailure _ hactive =>
      exact absurd hfin (by simp [WatchRow.not_finished_of_active hactive])
  | clearFailure _ hactive =>
      exact absurd hfin (by simp [WatchRow.not_finished_of_active hactive])
  | matchWith _ hactive => exact absurd hfin (by simp [WatchRow.not_finished_of_active hactive])
  | advanceTo _ hactive _ _ =>
      exact absurd hfin (by simp [WatchRow.not_finished_of_active hactive])
  | closeAt _ hactive _ => exact absurd hfin (by simp [WatchRow.not_finished_of_active hactive])
  | expire _ hactive _ _ _ _ =>
      exact absurd hfin (by simp [WatchRow.not_finished_of_active hactive])
  | deferUntil _ hopen => exact absurd hfin (by simp [WatchRow.not_finished_of_unsettled hopen])
  | repairBudget hopen _ =>
      exact absurd hfin (by simp [WatchRow.not_finished_of_openObligation hopen])

/-- A finished row is in the table for good. -/
theorem Store.mem_run_of_finished {s : Store} {r : WatchRow} (hr : r ∈ s.rows)
    (hfin : r.finished) (ops : List StoreOp) : r ∈ (s.run ops).rows := by
  induction ops generalizing s with
  | nil => exact hr
  | cons op ops ih =>
      obtain ⟨r', hr', heq | hchange⟩ := Store.exists_apply_of_mem hr op
      · exact ih (heq ▸ hr')
      · exact ih (hchange.eq_of_finished hfin ▸ hr')

/-! ## The lifecycle invariant -/

/-- What the columns of a row say about each other. -/
structure Lifecycle (r : WatchRow) : Prop where
  /-- Matched rows, and only they, name a transaction. -/
  matchedTransaction : r.state = .matched ↔ r.matchedTransaction.isSome
  /-- Matched rows, and only they, name a round. -/
  matchedRound : r.state = .matched ↔ r.matchedRound.isSome
  /-- An expired row has been scanned through its closing round. -/
  expired : r.state = .expired → r.evidenceVersion = 1 ∧ ∃ closing scanned,
    r.closingRound = some closing ∧ r.scanAfterRound = some scanned ∧ closing ≤ scanned
  /-- Indeterminate rows, and only they, name a reason. -/
  indeterminate : r.state = .indeterminate ↔ r.terminalReason.isSome
  /-- The terminal flag belongs to rejected and indeterminate rows. -/
  terminalFlag : r.settlementReconciliationTerminal →
    r.state = .settlementUnknown ∨ r.state = .indeterminate
  /-- A funded row has a service transaction and is scanned from its activation on. -/
  funded : r.funded → r.serviceTransaction.isSome ∧ ∃ activated scanned,
    r.activationRound = some activated ∧ r.scanAfterRound = some scanned ∧ activated ≤ scanned

theorem Lifecycle.preparedRow (config : StoreConfig) (id : JsString) (spec : WatchSpec)
    (intent : Option SettlementIntent) (now expiresAt : ℤ) :
    Lifecycle (preparedRow config id spec intent now expiresAt) := by
  constructor <;> simp [RoundWatch.preparedRow, WatchRow.funded]

/-- An active row is neither matched nor indeterminate, so what those states name is
not there. -/
theorem Lifecycle.of_active {r : WatchRow} (h : Lifecycle r) (hactive : r.state = .active) :
    r.matchedTransaction = none ∧ r.matchedRound = none ∧ r.terminalReason = none ∧
      r.settlementReconciliationTerminal = false := by
  have h₁ := h.matchedTransaction
  have h₂ := h.matchedRound
  have h₃ := h.indeterminate
  have h₄ := h.terminalFlag
  rw [hactive] at h₁ h₂ h₃ h₄
  exact ⟨by simpa using h₁, by simpa using h₂, by simpa using h₃, by simpa using h₄⟩

theorem Lifecycle.of_settling {r : WatchRow} (h : Lifecycle r) (hsettling : r.settling) :
    r.matchedTransaction = none ∧ r.matchedRound = none ∧ r.terminalReason = none := by
  have h₁ := h.matchedTransaction
  have h₂ := h.matchedRound
  have h₃ := h.indeterminate
  simp only [WatchRow.settling, Bool.or_eq_true, beq_iff_eq] at hsettling
  rcases hsettling with hstate | hstate
  · rw [hstate] at h₁ h₂ h₃
    exact ⟨by simpa using h₁, by simpa using h₂, by simpa using h₃⟩
  · rw [hstate] at h₁ h₂ h₃
    exact ⟨by simpa using h₁, by simpa using h₂, by simpa using h₃⟩

theorem WatchRow.settling_of_unsettled {r : WatchRow} (h : r.unsettled) :
    r.settling ∧ r.settlementReconciliationTerminal = false := by
  simpa [unsettled] using h

/-- A claim is made on an active or on a settling row. -/
theorem WatchRow.active_or_unsettled_of_eligible {now : ℤ} {claim : WorkClaim} {r : WatchRow}
    (h : Store.eligible claim now r) : r.state = .active ∨ r.unsettled := by
  cases claim with
  | polling scan closing failures =>
      simp only [Store.eligible, Bool.and_eq_true, beq_iff_eq] at h
      exact Or.inl h.1.1.1.1.1.1
  | reconciliation transaction attempts =>
      simp only [Store.eligible, Bool.and_eq_true] at h
      exact Or.inr h.1.1.1

/-- A settling row that becomes another settling row, whatever its flag. -/
theorem Lifecycle.settle {r : WatchRow} (h : Lifecycle r) (hsettling : r.settling) (flag : Bool) :
    Lifecycle { r with
      state := .settlementUnknown, settlementReconciliationTerminal := flag } := by
  obtain ⟨h₁, h₂, h₃⟩ := h.of_settling hsettling
  constructor <;> simp [WatchRow.funded, h₁, h₂, h₃]

/-- A row that is given up names its reason. -/
theorem Lifecycle.giveUp {r : WatchRow} (h₁ : r.matchedTransaction = none)
    (h₂ : r.matchedRound = none) (reason : WatchTerminalReason) (flag : Bool) :
    Lifecycle { r with
      state := .indeterminate, terminalReason := some reason,
      settlementReconciliationTerminal := flag } := by
  constructor <;> simp [WatchRow.funded, h₁, h₂]

theorem Lifecycle.recordFailure {r : WatchRow} (h : Lifecycle r) (hactive : r.state = .active)
    (failure : PollingFailure) (now : ℤ) (retryAt : Option ℤ) :
    Lifecycle (r.recordFailure failure now retryAt) := by
  obtain ⟨h₁, h₂, h₃, h₄⟩ := h.of_active hactive
  by_cases hpermanent : failure.disposition = .permanent
  · constructor <;> simp [WatchRow.recordFailure, hpermanent, WatchRow.funded, h₁, h₂]
  · constructor
    · simpa [WatchRow.recordFailure, hpermanent] using h.matchedTransaction
    · simpa [WatchRow.recordFailure, hpermanent] using h.matchedRound
    · simpa [WatchRow.recordFailure, hpermanent] using h.expired
    · simpa [WatchRow.recordFailure, hpermanent] using h.indeterminate
    · simpa [WatchRow.recordFailure, hpermanent] using h.terminalFlag
    · simpa [WatchRow.recordFailure, hpermanent, WatchRow.funded] using h.funded

/-- **Every change keeps the lifecycle.** -/
theorem Lifecycle.change {op : StoreOp} {r r' : WatchRow} (h : Lifecycle r)
    (hchange : RowChange op r r') : Lifecycle r' := by
  cases hchange with
  | recordCandidate _ _ _ =>
      exact ⟨h.matchedTransaction, h.matchedRound, h.expired, h.indeterminate, h.terminalFlag,
        h.funded⟩
  | @activate now id evidence round _ _ hopen _ =>
      obtain ⟨hsettling, hflag⟩ := WatchRow.settling_of_unsettled hopen
      obtain ⟨h₁, h₂, h₃⟩ := h.of_settling hsettling
      constructor <;> simp [WatchRow.activate, h₁, h₂, h₃, hflag]
  | settleUnknown _ hpending => exact h.settle (by simp [WatchRow.settling, hpending]) false
  | settleInvalid _ hsettling => exact h.settle hsettling true
  | charge _ _ _ =>
      exact ⟨h.matchedTransaction, h.matchedRound, h.expired, h.indeterminate, h.terminalFlag,
        h.funded⟩
  | exhaust _ heligible _ =>
      rcases WatchRow.active_or_unsettled_of_eligible heligible with hactive | hopen
      · obtain ⟨h₁, h₂, -, -⟩ := h.of_active hactive
        exact Lifecycle.giveUp h₁ h₂ .workBudgetExhausted true
      · obtain ⟨h₁, h₂, -⟩ := h.of_settling (WatchRow.settling_of_unsettled hopen).1
        exact Lifecycle.giveUp h₁ h₂ .workBudgetExhausted true
  | recordFailure _ hactive => exact h.recordFailure hactive _ _ _
  | clearFailure _ _ =>
      exact ⟨h.matchedTransaction, h.matchedRound, h.expired, h.indeterminate, h.terminalFlag,
        h.funded⟩
  | matchWith _ hactive =>
      obtain ⟨-, -, hreason, hflag⟩ := h.of_active hactive
      have hfunded := h.funded (by simp [WatchRow.funded, hactive])
      refine ⟨?_, ?_, ?_, ?_, ?_, fun _ => hfunded⟩
      all_goals simp [WatchRow.matchWith, hreason, hflag]
  | @advanceTo _ expectedRound round _ _ hactive hscan hlt =>
      obtain ⟨hpaid, activated, scanned, hactivated, hscanned, hle⟩ :=
        h.funded (by simp [WatchRow.funded, hactive])
      have heq : scanned = expectedRound := by simpa [hscan] using hscanned.symm
      refine ⟨h.matchedTransaction, h.matchedRound, ?_, h.indeterminate, h.terminalFlag, ?_⟩
      · intro hexpired
        exact absurd (hactive.symm.trans hexpired) (by simp)
      · exact fun _ => ⟨hpaid, activated, round, hactivated, rfl, by omega⟩
  | closeAt _ hactive _ =>
      refine ⟨h.matchedTransaction, h.matchedRound, ?_, h.indeterminate, h.terminalFlag, h.funded⟩
      intro hexpired
      exact absurd (hactive.symm.trans hexpired) (by simp)
  | expire _ hactive hversion hscan hclosing hle =>
      obtain ⟨h₁, h₂, h₃, h₄⟩ := h.of_active hactive
      have hfunded := h.funded (by simp [WatchRow.funded, hactive])
      refine ⟨?_, ?_, fun _ => ⟨hversion, _, _, hclosing, hscan, hle⟩, ?_, ?_, fun _ => hfunded⟩
      all_goals simp [WatchRow.expire, h₁, h₂, h₃, h₄]
  | deferUntil _ _ =>
      exact ⟨h.matchedTransaction, h.matchedRound, h.expired, h.indeterminate, h.terminalFlag,
        h.funded⟩
  | repairBudget _ _ =>
      exact ⟨h.matchedTransaction, h.matchedRound, h.expired, h.indeterminate, h.terminalFlag,
        h.funded⟩

theorem Lifecycle.run {s : Store} (h : ∀ r ∈ s.rows, Lifecycle r) (ops : List StoreOp) :
    ∀ r ∈ (s.run ops).rows, Lifecycle r :=
  Store.forall_rows_run Lifecycle.preparedRow (fun _ _ _ hchange h => h.change hchange) ops h

/-- **The watch lifecycle.**  After any history of operations from an empty store, a
finished row keeps every one of its columns whatever happens later, and every row
satisfies the lifecycle invariant. -/
theorem lifecycle_of_run (config : StoreConfig) (ops : List StoreOp) :
    (∀ r ∈ ((Store.empty config).run ops).rows, r.finished → ∀ later : List StoreOp,
      (((Store.empty config).run ops).run later).getWatch r.id.val = some r) ∧
    ∀ r ∈ ((Store.empty config).run ops).rows, Lifecycle r := by
  refine ⟨fun r hr hfin later => ?_, Lifecycle.run (by simp [Store.empty]) ops⟩
  have hmem := Store.mem_run_of_finished hr hfin later
  exact Store.getWatch_of_mem hmem (bindText_val r.id).symm

end RoundWatch
