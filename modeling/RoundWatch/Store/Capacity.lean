import RoundWatch.Store.Evidence

/-!
# Admission capacity

`prepareWatch` is the only operation that counts open obligations, so the limits hold
over a run because nothing else opens one:

* `RowChange.openObligation` — no change re-opens a row;
* `RowChange.obligationPayer` — no change of an attributed row moves it to another
  payer;
* `Store.countOpenObligations_apply_le` — hence no operation but a creation raises a
  count, and `Store.WithinLimits.apply` — a creation stays within the limits.
-/

namespace RoundWatch

open JsText

/-! ## One row -/

/-- **No change re-opens a row.** -/
theorem RowChange.openObligation {op : StoreOp} {r r' : WatchRow} (hchange : RowChange op r r')
    (hopen : r'.openObligation) : r.openObligation := by
  by_contra hclosed
  cases hchange with
  | recordCandidate _ _ _ => exact hclosed hopen
  | activate _ hunsettled _ =>
      apply hclosed
      simp only [WatchRow.unsettled, WatchRow.settling, Bool.and_eq_true, Bool.or_eq_true,
        beq_iff_eq, Bool.not_eq_true'] at hunsettled
      rcases hunsettled with ⟨hstate | hstate, hflag⟩
      · simp [WatchRow.openObligation, hstate]
      · simp [WatchRow.openObligation, hstate, hflag]
  | settleUnknown _ hpending => exact hclosed (by simp [WatchRow.openObligation, hpending])
  | settleInvalid _ _ => simp [WatchRow.openObligation, WatchRow.settleInvalid] at hopen
  | charge _ _ _ => exact hclosed hopen
  | exhaust _ _ _ => simp [WatchRow.openObligation, WatchRow.exhaust] at hopen
  | recordFailure _ hactive => exact hclosed (by simp [WatchRow.openObligation, hactive])
  | clearFailure _ _ => exact hclosed hopen
  | matchWith _ hactive => exact hclosed (by simp [WatchRow.openObligation, hactive])
  | advanceTo _ _ _ _ => exact hclosed hopen
  | closeAt _ _ _ => exact hclosed hopen
  | expire _ hactive _ _ _ _ => exact hclosed (by simp [WatchRow.openObligation, hactive])
  | deferUntil _ _ => exact hclosed hopen
  | repairBudget _ _ => exact hclosed hopen

/-- The row was prepared for a known payer. -/
def WatchRow.attributed (r : WatchRow) : Prop := r.expectedServicePayer.isSome

theorem RowChange.attributed {op : StoreOp} {r r' : WatchRow} (hchange : RowChange op r r')
    (h : r.attributed) : r'.attributed := by
  obtain ⟨payer, hpayer⟩ := Option.isSome_iff_exists.1 h
  cases hchange <;>
    simp [WatchRow.attributed, WatchRow.recordCandidate, WatchRow.activate,
      WatchRow.settleUnknown, WatchRow.settleInvalid, WatchRow.charge, WatchRow.exhaust,
      WatchRow.recordFailure, WatchRow.clearFailure, WatchRow.matchWith, WatchRow.advanceTo,
      WatchRow.closeAt, WatchRow.expire, WatchRow.deferUntil, WatchRow.repairBudget, hpayer]

/-- **No change moves an attributed row to another payer.** -/
theorem RowChange.obligationPayer {op : StoreOp} {r r' : WatchRow} (hchange : RowChange op r r')
    (h : r.attributed) : r'.obligationPayer = r.obligationPayer := by
  obtain ⟨payer, hpayer⟩ := Option.isSome_iff_exists.1 h
  cases hchange <;>
    simp [WatchRow.obligationPayer, WatchRow.recordCandidate, WatchRow.activate,
      WatchRow.settleUnknown, WatchRow.settleInvalid, WatchRow.charge, WatchRow.exhaust,
      WatchRow.recordFailure, WatchRow.clearFailure, WatchRow.matchWith, WatchRow.advanceTo,
      WatchRow.closeAt, WatchRow.expire, WatchRow.deferUntil, WatchRow.repairBudget, hpayer]

/-! ## The whole table -/

namespace Store

/-- Every row was prepared for a known payer. -/
def Attributed (s : Store) : Prop := ∀ r ∈ s.rows, r.attributed

/-- **Only a creation raises a count.** -/
theorem countOpenObligations_apply_le {s : Store} (hattr : s.Attributed) {op : StoreOp}
    (hno : ∀ now id spec intent expiresAt, op = .prepareWatch now id spec intent →
      ¬ Created s now id spec intent expiresAt (s.apply op)) (payer : Option JsString) :
    (s.apply op).countOpenObligations payer ≤ s.countOpenObligations payer := by
  rcases s.apply_cases op with ⟨now, id, spec, intent, expiresAt, hop, hcreated⟩ | hrewrites
  · exact absurd hcreated (hno now id spec intent expiresAt hop)
  · cases payer with
    | none => exact hrewrites.countP_le fun r _ r' hchange hopen => hchange.openObligation hopen
    | some p =>
        refine hrewrites.countP_le fun r hr r' hchange hcount => ?_
        simp only [Bool.and_eq_true] at hcount ⊢
        rw [← hchange.obligationPayer (hattr r hr)]
        exact ⟨hchange.openObligation hcount.1, hcount.2⟩

/-- The open obligations of the table, and those of each payer, are within the limits
it was opened with. -/
structure WithinLimits (s : Store) : Prop where
  attributed : s.Attributed
  globalLimit : s.countOpenObligations none ≤ s.config.maxOpenWatches
  payerLimit : ∀ p, s.countOpenObligations (some p) ≤ s.config.maxOpenWatchesPerPayer

end Store

/-- A preparation names its payer, and the database is only opened again with the
same limits. -/
def StoreOp.respects (config : StoreConfig) : StoreOp → Prop
  | .prepareWatch _ _ _ intent => (Store.truthyPayer intent).isSome
  | .reopen config' => config' = config
  | _ => True

namespace Store

theorem expectedServicePayer_preparedRow {intent : Option SettlementIntent} {p : JsString}
    (hp : truthyPayer intent = some p) (config : StoreConfig) (id : JsString) (spec : WatchSpec)
    (now expiresAt : ℤ) :
    (preparedRow config id spec intent now expiresAt).expectedServicePayer =
      some (bindText p) := by
  simp only [truthyPayer, Option.filter_eq_some_iff] at hp
  simp [preparedRow, hp.1]

/-- A creation adds its row to the global count and to its own payer's. -/
theorem countOpenObligations_created {s s' : Store} {now : ℤ} {id : JsString} {spec : WatchSpec}
    {intent : Option SettlementIntent} {expiresAt : ℤ} {p : JsString}
    (hp : truthyPayer intent = some p) (h : Created s now id spec intent expiresAt s') :
    s'.countOpenObligations none = s.countOpenObligations none + 1 ∧
      ∀ q, s'.countOpenObligations (some q) =
        s.countOpenObligations (some q) + if bindText p = bindText q then 1 else 0 := by
  have hpayer := expectedServicePayer_preparedRow hp s.config id spec now expiresAt
  refine ⟨?_, fun q => ?_⟩
  · simp [countOpenObligations, h.rows, List.countP_append, WatchRow.openObligation, preparedRow]
  · have hopen : (preparedRow s.config id spec intent now expiresAt).openObligation = true := by
      simp [WatchRow.openObligation, preparedRow]
    simp [countOpenObligations, h.rows, List.countP_append, hopen, WatchRow.obligationPayer,
      hpayer]

theorem config_apply_of_respects {s : Store} {op : StoreOp} (hop : op.respects s.config) :
    (s.apply op).config = s.config :=
  config_apply fun config heq => by
    rw [heq] at hop
    exact hop

/-- **One operation stays within the limits.** -/
theorem WithinLimits.apply {s : Store} (h : s.WithinLimits) {op : StoreOp}
    (hop : op.respects s.config) : (s.apply op).WithinLimits := by
  have hattr : (s.apply op).Attributed := by
    intro r' hr'
    rcases s.apply_cases op with ⟨now, id, spec, intent, expiresAt, rfl, hcreated⟩ | hrewrites
    · rw [hcreated.rows, List.mem_append, List.mem_singleton] at hr'
      rcases hr' with hr' | rfl
      · exact h.attributed r' hr'
      · obtain ⟨p, hp⟩ := Option.isSome_iff_exists.1 hop
        simp [WatchRow.attributed, expectedServicePayer_preparedRow hp]
    · obtain ⟨r, hr, rfl | hchange⟩ := hrewrites.exists_of_mem_right hr'
      · exact h.attributed _ hr
      · exact hchange.attributed (h.attributed r hr)
  by_cases hcreates : ∃ now id spec intent expiresAt, op = .prepareWatch now id spec intent ∧
      Created s now id spec intent expiresAt (s.apply op)
  · obtain ⟨now, id, spec, intent, expiresAt, rfl, hcreated⟩ := hcreates
    obtain ⟨p, hp⟩ := Option.isSome_iff_exists.1 hop
    obtain ⟨hglobal, hpayer⟩ := countOpenObligations_created hp hcreated
    refine ⟨hattr, ?_, fun q => ?_⟩
    · have := hcreated.globalCapacity
      rw [hglobal, hcreated.config]
      omega
    · have hlimit := h.payerLimit q
      rw [hpayer q, hcreated.config]
      split
      · rename_i heq
        have hlt := hcreated.payerCapacity p hp
        have hcount : s.countOpenObligations (some p) = s.countOpenObligations (some q) := by
          simp only [countOpenObligations, heq]
        omega
      · omega
  · have hno : ∀ now id spec intent expiresAt, op = .prepareWatch now id spec intent →
        ¬ Created s now id spec intent expiresAt (s.apply op) := by
      intro now id spec intent expiresAt heq hcreated
      exact hcreates ⟨now, id, spec, intent, expiresAt, heq, hcreated⟩
    refine ⟨hattr, ?_, fun q => ?_⟩
    · rw [config_apply_of_respects hop]
      exact Nat.le_trans (countOpenObligations_apply_le h.attributed hno none) h.globalLimit
    · rw [config_apply_of_respects hop]
      exact Nat.le_trans (countOpenObligations_apply_le h.attributed hno (some q)) (h.payerLimit q)

theorem WithinLimits.run {s : Store} (h : s.WithinLimits) {ops : List StoreOp}
    (hops : ∀ op ∈ ops, op.respects s.config) :
    (s.run ops).WithinLimits ∧ (s.run ops).config = s.config := by
  induction ops generalizing s with
  | nil => exact ⟨h, rfl⟩
  | cons op ops ih =>
      have hop := hops op (List.mem_cons_self ..)
      have hconfig := config_apply_of_respects hop
      obtain ⟨hrun, hrunConfig⟩ := ih (h.apply hop) fun op' hop' => by
        rw [hconfig]
        exact hops op' (List.mem_cons_of_mem _ hop')
      exact ⟨hrun, hrunConfig.trans hconfig⟩

theorem WithinLimits.empty (config : StoreConfig) : (Store.empty config).WithinLimits where
  attributed := by simp [Attributed, Store.empty]
  globalLimit := by simp [countOpenObligations, Store.empty]
  payerLimit := by simp [countOpenObligations, Store.empty]

/-- A call that throws leaves the store as it is. -/
theorem prepareWatch_error {s : Store} {now : ℤ} {id : JsString} {spec : WatchSpec}
    {intent : Option SettlementIntent} {e : StoreError}
    (h : (s.prepareWatch now id spec intent).2 = .error e) :
    (s.prepareWatch now id spec intent).1 = s := by
  rcases s.prepareWatch_cases now id spec intent with ⟨e', he⟩ | ⟨w, -, -, -, hw⟩ |
    ⟨s', expiresAt, -, hok⟩
  · rw [he]
  · rw [hw]
  · rw [hok] at h
    cases h

/-- The answer of a call that created a watch. -/
theorem Created.result {s : Store} {now : ℤ} {id : JsString} {spec : WatchSpec}
    {intent : Option SettlementIntent} {expiresAt : ℤ}
    (h : Created s now id spec intent expiresAt (s.prepareWatch now id spec intent).1) :
    ∃ watch, (s.prepareWatch now id spec intent).2 = .ok ⟨watch, true⟩ := by
  have hlength : (s.prepareWatch now id spec intent).1.rows.length = s.rows.length + 1 := by
    simp [h.rows]
  rcases s.prepareWatch_cases now id spec intent with ⟨e, he⟩ | ⟨w, -, -, -, hw⟩ |
    ⟨s', expiresAt', -, hok⟩
  · simp [he] at hlength
  · simp [hw] at hlength
  · exact ⟨_, by rw [hok]⟩

/-- **Admission capacity.**  Over any history on a store that starts empty, whose
limits are fixed and whose preparations all name their payer:

* the open obligations, and those of each payer, are within the limits;
* a call that meets a limit leaves the store as it is;
* an operation that is not a creation raises no count. -/
theorem capacity_of_run (config : StoreConfig) (ops : List StoreOp)
    (hops : ∀ op ∈ ops, op.respects config) :
    let s := (Store.empty config).run ops
    s.countOpenObligations none ≤ config.maxOpenWatches ∧
    (∀ payer, s.countOpenObligations (some payer) ≤ config.maxOpenWatchesPerPayer) ∧
    (∀ now id spec intent scope,
      (s.prepareWatch now id spec intent).2 = .error (.watchCapacity scope) →
        (s.prepareWatch now id spec intent).1 = s) ∧
    (∀ op, (∀ now id spec intent, op = .prepareWatch now id spec intent →
        ∀ watch, (s.prepareWatch now id spec intent).2 ≠ .ok ⟨watch, true⟩) →
      ∀ payer, (s.apply op).countOpenObligations payer ≤ s.countOpenObligations payer) := by
  intro s
  obtain ⟨hlimits, hconfig⟩ := (WithinLimits.empty config).run hops
  have hconfig : s.config = config := hconfig
  refine ⟨hconfig ▸ hlimits.globalLimit, fun payer => hconfig ▸ hlimits.payerLimit payer,
    fun now id spec intent scope h => prepareWatch_error h, fun op hno payer => ?_⟩
  refine countOpenObligations_apply_le hlimits.attributed ?_ payer
  rintro now id spec intent expiresAt rfl hcreated
  obtain ⟨watch, hwatch⟩ := hcreated.result
  exact hno now id spec intent rfl watch hwatch

/-- The limits over the preparation and the activation of one watch. -/
theorem capacity_of_run_activation :
    let ops : List StoreOp := [.prepareWatch 0 (js "w") sampleSpec (some sampleIntent),
      .activateWatch 1 (js "w") sampleEvidence 10]
    ((Store.empty .default).run ops).countOpenObligations (some (js "PAYER")) = 1 ∧
      ((Store.empty .default).run ops).countOpenObligations none ≤
        StoreConfig.default.maxOpenWatches :=
  ⟨by decide, (capacity_of_run .default
    [.prepareWatch 0 (js "w") sampleSpec (some sampleIntent),
      .activateWatch 1 (js "w") sampleEvidence 10]
    (by
      intro op hop
      simp only [List.mem_cons, List.not_mem_nil, or_false] at hop
      rcases hop with rfl | rfl
      · show (truthyPayer (some sampleIntent)).isSome
        decide
      · trivial)).1⟩

end Store

end RoundWatch
