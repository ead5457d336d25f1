import RoundWatch.Foundation.Runs
import RoundWatch.Store.Operations

/-!
# What an operation can do to the store

Every invariant of the store is proved against this module instead of against the
statements themselves:

* `StoreOp`, `Store.apply` — the operations as values, and a history as a run;
* `RowChange op r r'` — the changes an operation makes to a row, each with the
  guard of its `WHERE` clause;
* `Created` and `prepareWatch_cases` — the three outcomes of `prepareWatch`;
* `apply_cases` — an operation appends one prepared row or rewrites rows by
  `RowChange`.
-/

namespace RoundWatch

open JsText

/-! ## Operations as values -/

/-- A call of one of the fourteen operations, or the opening of the database that
is already there. -/
inductive StoreOp where
  | prepareWatch (now : ℤ) (id : JsString) (spec : WatchSpec) (intent : Option SettlementIntent)
  | recordSettlementCandidate (id : JsString) (evidence : SettlementEvidence)
  | activateWatch (now : ℤ) (id : JsString) (evidence : SettlementEvidence) (activationRound : ℤ)
  | markSettlementUnknown (id : JsString)
  | markSettlementInvalid (id : JsString)
  | claimWorkUnit (now : ℤ) (id : JsString) (claim : WorkClaim)
  | recordPollingFailure (now : ℤ) (id : JsString) (failure : PollingFailure)
  | clearPollingFailure (id : JsString)
  | markMatched (id transaction : JsString) (round : ℤ)
  | advanceScanRound (id : JsString) (expectedRound round : ℤ)
  | setClosingRound (id : JsString) (round : ℤ)
  | markExpired (id : JsString) (expectedScanRound closingRound : ℤ)
  | recordReconciliationFailure (id : JsString) (nextAttemptAt : ℤ)
  | recordRefundEvidence (now : ℤ) (watchId : JsString) (evidence : RefundEvidence)
  | reopen (config : StoreConfig)

namespace Store

/-- The store an operation leaves behind, whether it returned or threw. -/
def apply (s : Store) : StoreOp → Store
  | .prepareWatch now id spec intent => (s.prepareWatch now id spec intent).1
  | .recordSettlementCandidate id evidence => (s.recordSettlementCandidate id evidence).1
  | .activateWatch now id evidence round => (s.activateWatch now id evidence (some round)).1
  | .markSettlementUnknown id => s.markSettlementUnknown id
  | .markSettlementInvalid id => s.markSettlementInvalid id
  | .claimWorkUnit now id claim => (s.claimWorkUnit now id claim).1
  | .recordPollingFailure now id failure => (s.recordPollingFailure now id failure).1
  | .clearPollingFailure id => s.clearPollingFailure id
  | .markMatched id transaction round => (s.markMatched id transaction round).1
  | .advanceScanRound id expectedRound round => (s.advanceScanRound id expectedRound round).1
  | .setClosingRound id round => (s.setClosingRound id round).1
  | .markExpired id expectedScanRound closingRound =>
      (s.markExpired id expectedScanRound closingRound).1
  | .recordReconciliationFailure id nextAttemptAt =>
      (s.recordReconciliationFailure id nextAttemptAt).1
  | .recordRefundEvidence now watchId evidence => (s.recordRefundEvidence now watchId evidence).1
  | .reopen config => s.reopen config

end Store

/-! ## Changes of a row -/

/-- A permanent failure ends the watch; any other keeps a retry time. -/
def failureRetry (failure : PollingFailure) : Option ℤ :=
  if failure.disposition = .permanent then none else failure.retryAt

/-- The changes the statements make, under their guards. -/
inductive RowChange : StoreOp → WatchRow → WatchRow → Prop
  | recordCandidate {id evidence} {r : WatchRow} : r.id = bindText id → r.unsettled →
      assertSettlementEvidenceMatches r evidence = .ok () →
      RowChange (.recordSettlementCandidate id evidence) r (r.recordCandidate evidence)
  | activate {now id evidence round} {r : WatchRow} : r.id = bindText id → r.unsettled →
      assertSettlementEvidenceMatches r evidence = .ok () →
      RowChange (.activateWatch now id evidence round) r (r.activate evidence (some round) now)
  | settleUnknown {id} {r : WatchRow} : r.id = bindText id → r.state = .settlementPending →
      RowChange (.markSettlementUnknown id) r r.settleUnknown
  | settleInvalid {id} {r : WatchRow} : r.id = bindText id → r.settling →
      RowChange (.markSettlementInvalid id) r r.settleInvalid
  | charge {now id claim} {r : WatchRow} : r.id = bindText id → Store.eligible claim now r →
      Store.hasWorkUnit r → RowChange (.claimWorkUnit now id claim) r r.charge
  | exhaust {now id claim} {r : WatchRow} : r.id = bindText id → Store.eligible claim now r →
      Store.outOfWork r → RowChange (.claimWorkUnit now id claim) r r.exhaust
  | recordFailure {now id failure} {r : WatchRow} : r.id = bindText id → r.state = .active →
      RowChange (.recordPollingFailure now id failure) r
        (r.recordFailure failure now (failureRetry failure))
  | clearFailure {id} {r : WatchRow} : r.id = bindText id → r.state = .active →
      RowChange (.clearPollingFailure id) r r.clearFailure
  | matchWith {id transaction round} {r : WatchRow} : r.id = bindText id → r.state = .active →
      RowChange (.markMatched id transaction round) r (r.matchWith transaction round)
  | advanceTo {id expectedRound round} {r : WatchRow} : r.id = bindText id → r.state = .active →
      r.scanAfterRound = some expectedRound → expectedRound < round →
      RowChange (.advanceScanRound id expectedRound round) r (r.advanceTo round)
  | closeAt {id round} {r : WatchRow} : r.id = bindText id → r.state = .active →
      r.evidenceVersion = 1 → RowChange (.setClosingRound id round) r (r.closeAt round)
  | expire {id expectedScanRound closingRound} {r : WatchRow} : r.id = bindText id →
      r.state = .active → r.evidenceVersion = 1 → r.scanAfterRound = some expectedScanRound →
      r.closingRound = some closingRound → closingRound ≤ expectedScanRound →
      RowChange (.markExpired id expectedScanRound closingRound) r r.expire
  | deferUntil {id nextAttemptAt} {r : WatchRow} : r.id = bindText id → r.unsettled →
      RowChange (.recordReconciliationFailure id nextAttemptAt) r (r.deferUntil nextAttemptAt)
  | repairBudget {config : StoreConfig} {r : WatchRow} : r.openObligation →
      r.workUnitBudget = none →
      RowChange (.reopen config) r (r.repairBudget config.workUnitBudget)

/-- No statement rewrites the identity or the specification of a watch. -/
structure SameWatch (r r' : WatchRow) : Prop where
  id : r'.id = r.id
  idempotencyKey : r'.idempotencyKey = r.idempotencyKey
  expectedSender : r'.expectedSender = r.expectedSender
  expectedReceiver : r'.expectedReceiver = r.expectedReceiver
  assetId : r'.assetId = r.assetId
  atomicAmount : r'.atomicAmount = r.atomicAmount
  invoiceNote : r'.invoiceNote = r.invoiceNote
  createdAt : r'.createdAt = r.createdAt
  expiresAt : r'.expiresAt = r.expiresAt
  evidenceVersion : r'.evidenceVersion = r.evidenceVersion
  serviceReceiver : r'.serviceReceiver = r.serviceReceiver
  serviceAssetId : r'.serviceAssetId = r.serviceAssetId
  serviceAtomicAmount : r'.serviceAtomicAmount = r.serviceAtomicAmount
  serviceFirstValid : r'.serviceFirstValid = r.serviceFirstValid
  serviceLastValid : r'.serviceLastValid = r.serviceLastValid

theorem SameWatch.refl (r : WatchRow) : SameWatch r r := by constructor <;> rfl

theorem SameWatch.trans {r r' r'' : WatchRow} (h : SameWatch r r') (h' : SameWatch r' r'') :
    SameWatch r r'' where
  id := h'.id.trans h.id
  idempotencyKey := h'.idempotencyKey.trans h.idempotencyKey
  expectedSender := h'.expectedSender.trans h.expectedSender
  expectedReceiver := h'.expectedReceiver.trans h.expectedReceiver
  assetId := h'.assetId.trans h.assetId
  atomicAmount := h'.atomicAmount.trans h.atomicAmount
  invoiceNote := h'.invoiceNote.trans h.invoiceNote
  createdAt := h'.createdAt.trans h.createdAt
  expiresAt := h'.expiresAt.trans h.expiresAt
  evidenceVersion := h'.evidenceVersion.trans h.evidenceVersion
  serviceReceiver := h'.serviceReceiver.trans h.serviceReceiver
  serviceAssetId := h'.serviceAssetId.trans h.serviceAssetId
  serviceAtomicAmount := h'.serviceAtomicAmount.trans h.serviceAtomicAmount
  serviceFirstValid := h'.serviceFirstValid.trans h.serviceFirstValid
  serviceLastValid := h'.serviceLastValid.trans h.serviceLastValid

theorem RowChange.sameWatch {op : StoreOp} {r r' : WatchRow} (h : RowChange op r r') :
    SameWatch r r' := by
  cases h <;> constructor <;> rfl

namespace Store

/-! ## The outcomes of `prepareWatch` -/

/-- `prepareWatch` created a watch. -/
structure Created (s : Store) (now : ℤ) (id : JsString) (spec : WatchSpec)
    (intent : Option SettlementIntent) (expiresAt : ℤ) (s' : Store) : Prop where
  clock : validDate now
  expiry : s.expiryFrom now = .ok expiresAt
  fresh : s.findIdempotencyRow spec.idempotencyKey (truthyPayer intent) = none
  globalCapacity : s.countOpenObligations none < s.config.maxOpenWatches
  payerCapacity : ∀ p, truthyPayer intent = some p →
    s.countOpenObligations (some p) < s.config.maxOpenWatchesPerPayer
  rows : s'.rows = s.rows ++ [preparedRow s.config id spec intent now expiresAt]
  config : s'.config = s.config
  refunds : s'.refunds = s.refunds

theorem currentTime_eq {now t : ℤ} (h : currentTime now = .ok t) : t = now ∧ validDate now := by
  unfold currentTime at h
  split at h
  · cases h
    exact ⟨rfl, by assumption⟩
  · cases h

/-- The row just inserted is the row found under its id. -/
theorem getWatch_insert {s s' : Store} {row : WatchRow} {id : JsString}
    (h : s.insert row = .ok s') (hid : row.id = bindText id) : s'.getWatch id = some row := by
  have hmem : row ∈ s'.rows := by simp [(insert_ok h).1]
  exact getWatch_of_mem hmem hid

theorem expiryFrom_error {s : Store} {now : ℤ} {e : StoreError}
    (h : s.expiryFrom now = .error e) : e = .ttlOverflow := by
  unfold expiryFrom at h
  split at h
  · cases h
  · cases h
    rfl

theorem insert_error {s : Store} {row : WatchRow} {e : StoreError}
    (h : s.insert row = .error e) : e = .uniqueConstraint := by
  unfold insert at h
  split at h
  · cases h
  · cases h
    rfl

theorem createWatch_cases (s : Store) (now : ℤ) (id : JsString) (spec : WatchSpec)
    (intent : Option SettlementIntent) :
    (∃ e, (∀ existing, e ≠ .idempotencyConflict existing) ∧
      s.createWatch now id spec intent = (s, .error e)) ∨
      ∃ s' expiresAt, s.expiryFrom now = .ok expiresAt ∧
        s.countOpenObligations none < s.config.maxOpenWatches ∧
        (∀ p, truthyPayer intent = some p →
          s.countOpenObligations (some p) < s.config.maxOpenWatchesPerPayer) ∧
        s.insert (preparedRow s.config id spec intent now expiresAt) = .ok s' ∧
        s.createWatch now id spec intent =
          (s', .ok ⟨preparedRow s.config id spec intent now expiresAt, true⟩) := by
  unfold createWatch
  split
  · exact Or.inl ⟨_, by simp, rfl⟩
  · rename_i hglobal
    split
    · exact Or.inl ⟨_, by simp, rfl⟩
    · rename_i hpayer
      cases hexp : s.expiryFrom now with
      | error e => exact Or.inl ⟨e, by simp [expiryFrom_error hexp], rfl⟩
      | ok expiresAt =>
          dsimp only
          cases hins : s.insert (preparedRow s.config id spec intent now expiresAt) with
          | error e => exact Or.inl ⟨e, by simp [insert_error hins], rfl⟩
          | ok s' =>
              dsimp only
              rw [getWatch_insert hins rfl]
              refine Or.inr ⟨s', expiresAt, rfl, Nat.lt_of_not_le hglobal, ?_, hins, rfl⟩
              intro p hp
              simpa [hp] using hpayer

/-- **The outcomes of `prepareWatch`.**  It throws and changes nothing, returns the
watch that holds the key, or creates one. -/
theorem prepareWatch_cases (s : Store) (now : ℤ) (id : JsString) (spec : WatchSpec)
    (intent : Option SettlementIntent) :
    (∃ e, s.prepareWatch now id spec intent = (s, .error e)) ∨
    (∃ existing, s.findIdempotencyRow spec.idempotencyKey (truthyPayer intent) = some existing ∧
      ((truthyPayer intent).isSome → existing.expectedServicePayer.isSome) ∧
      watchSpecMatches existing spec ∧
      s.prepareWatch now id spec intent = (s, .ok ⟨existing, false⟩)) ∨
    ∃ s' expiresAt, Created s now id spec intent expiresAt s' ∧
      s.prepareWatch now id spec intent =
        (s', .ok ⟨preparedRow s.config id spec intent now expiresAt, true⟩) := by
  unfold prepareWatch
  cases hclock : currentTime now with
  | error e => exact Or.inl ⟨e, rfl⟩
  | ok t =>
      obtain ⟨rfl, hvalid⟩ := currentTime_eq hclock
      simp only [inTransaction]
      cases hfind : s.findIdempotencyRow spec.idempotencyKey (truthyPayer intent) with
      | some existing =>
          by_cases howner : ((truthyPayer intent).isSome &&
              existing.expectedServicePayer.isNone) = true
          · exact Or.inl ⟨.legacyIdempotencyReservation, by simp [howner]⟩
          · by_cases hspec : watchSpecMatches existing spec = true
            · refine Or.inr (Or.inl ⟨existing, rfl, ?_, hspec, by simp [howner, hspec]⟩)
              intro hpayer
              by_contra hnone
              exact howner (by simpa [hpayer] using hnone)
            · exact Or.inl ⟨.idempotencyConflict existing, by simp [howner, hspec]⟩
      | none =>
          rcases createWatch_cases s t id spec intent with
            ⟨e, -, he⟩ | ⟨s', expiresAt, hexp, hglobal, hpayer, hins, hok⟩
          · exact Or.inl ⟨e, by simp [he]⟩
          · obtain ⟨hrows, hconfig, hrefunds⟩ := insert_ok hins
            exact Or.inr (Or.inr ⟨s', expiresAt,
              ⟨hvalid, hexp, hfind, hglobal, hpayer, hrows, hconfig, hrefunds⟩, by simp [hok]⟩)

/-! ## What the other operations do -/

theorem hasId_iff {id : JsString} {r : WatchRow} : hasId id r = true ↔ r.id = bindText id := by
  simp [hasId]

/-- A predicate that pins the id selects one row at most, so a statement that did not
change one row changed none. -/
theorem update_eq_self_of_changes_ne_one {s : Store} {id : JsString} {p : WatchRow → Bool}
    (hp : ∀ r, p r = true → hasId id r = true) (hne : Table.changes p s.rows ≠ 1)
    {f : WatchRow → WatchRow} {hf : ∀ r, (f r).indexed = r.indexed} : s.update p f hf = s := by
  have hle := s.constraints.ids.changes_le_one (k := bindText id) (p := p)
    fun r hr => congrArg some (hasId_iff.1 (hp r hr))
  have hzero : Table.changes p s.rows = 0 := by omega
  exact update_eq_self (Table.updateWhere_eq_self (Table.changes_eq_zero.1 hzero))

/-- A predicate that pins the id changed one row exactly when it selects some row. -/
theorem changes_eq_one_iff {s : Store} {id : JsString} {p : WatchRow → Bool}
    (hp : ∀ r, p r = true → hasId id r = true) :
    Table.changes p s.rows = 1 ↔ ∃ r ∈ s.rows, p r = true :=
  s.constraints.ids.changes_eq_one (k := bindText id)
    fun r hr => congrArg some (hasId_iff.1 (hp r hr))

theorem rewrites_recordSettlementCandidate (s : Store) (id : JsString)
    (evidence : SettlementEvidence) :
    Table.Rewrites (RowChange (.recordSettlementCandidate id evidence)) s.rows
      (s.recordSettlementCandidate id evidence).1.rows := by
  unfold recordSettlementCandidate
  cases hget : s.getWatch id with
  | none => exact Table.Rewrites.refl _ _
  | some existing =>
      dsimp only
      cases hmatch : assertSettlementEvidenceMatches existing evidence with
      | error e => exact Table.Rewrites.refl _ _
      | ok u =>
          dsimp only
          split_ifs
          · exact Table.Rewrites.refl _ _
          · exact Table.Rewrites.refl _ _
          · exact Table.Rewrites.refl _ _
          · cases htry : s.tryUpdate (fun r => hasId id r && r.unsettled)
                (·.recordCandidate evidence) with
            | error e => exact Table.Rewrites.refl _ _
            | ok s' =>
                have hrows : Table.Rewrites (RowChange (.recordSettlementCandidate id evidence))
                    s.rows s'.rows := by
                  rw [(tryUpdate_ok htry).1]
                  refine Table.rewrites_updateWhere fun r hr hp => ?_
                  simp only [Bool.and_eq_true, hasId_iff] at hp
                  have heq : existing = r :=
                    eq_of_id (getWatch_mem hget) hr ((getWatch_id hget).trans hp.1.symm)
                  exact .recordCandidate hp.1 hp.2 (heq ▸ hmatch)
                dsimp only
                split <;> exact hrows

theorem rewrites_activateWatch (s : Store) (now : ℤ) (id : JsString)
    (evidence : SettlementEvidence) (round : ℤ) :
    Table.Rewrites (RowChange (.activateWatch now id evidence round)) s.rows
      (s.activateWatch now id evidence (some round)).1.rows := by
  unfold activateWatch
  cases hget : s.getWatch id with
  | none => exact Table.Rewrites.refl _ _
  | some existing =>
      dsimp only
      cases hmatch : assertSettlementEvidenceMatches existing evidence with
      | error e => exact Table.Rewrites.refl _ _
      | ok u =>
          dsimp only
          split
          · split <;> exact Table.Rewrites.refl _ _
          · split
            · exact Table.Rewrites.refl _ _
            cases hclock : currentTime now with
            | error e => exact Table.Rewrites.refl _ _
            | ok t =>
                obtain ⟨rfl, -⟩ := currentTime_eq hclock
                dsimp only
                cases htry : s.tryUpdate (fun r => hasId id r && r.unsettled)
                    (·.activate evidence (some round) t) with
                | error e => exact Table.Rewrites.refl _ _
                | ok s' =>
                    have hrows : Table.Rewrites (RowChange (.activateWatch t id evidence round))
                        s.rows s'.rows := by
                      rw [(tryUpdate_ok htry).1]
                      refine Table.rewrites_updateWhere fun r hr hp => ?_
                      simp only [Bool.and_eq_true, hasId_iff] at hp
                      have heq : existing = r :=
                        eq_of_id (getWatch_mem hget) hr ((getWatch_id hget).trans hp.1.symm)
                      exact .activate hp.1 hp.2 (heq ▸ hmatch)
                    dsimp only
                    split_ifs
                    · exact hrows
                    · split <;> exact hrows

theorem hasId_of_claimable {now : ℤ} {id : JsString} {claim : WorkClaim} {r : WatchRow}
    (h : claimable now id claim r = true) : hasId id r = true := by
  simp only [claimable, Bool.and_eq_true] at h
  exact h.1.1

theorem hasId_of_exhaustible {now : ℤ} {id : JsString} {claim : WorkClaim} {r : WatchRow}
    (h : exhaustible now id claim r = true) : hasId id r = true := by
  simp only [exhaustible, Bool.and_eq_true] at h
  exact h.1.1

/-- **The outcomes of `claimWorkUnit`.**  Only one of its two statements ever changes
a row. -/
theorem claimWorkUnit_cases (s : Store) (now : ℤ) (id : JsString) (claim : WorkClaim) :
    s.claimWorkUnit now id claim = (s, .error .invalidClock) ∨
    (∃ r ∈ s.rows, claimable now id claim r = true ∧ s.claimWorkUnit now id claim =
      (s.update (claimable now id claim) WatchRow.charge fun _ => rfl, .ok .claimed)) ∨
    (∃ r ∈ s.rows, exhaustible now id claim r = true ∧ s.claimWorkUnit now id claim =
      (s.update (exhaustible now id claim) WatchRow.exhaust fun _ => rfl, .ok .exhausted)) ∨
    s.claimWorkUnit now id claim = (s, .ok .inactive) := by
  by_cases hvalid : validDate now = true
  · have hclock : currentTime now = .ok now := by simp [currentTime, hvalid]
    by_cases hone : Table.changes (claimable now id claim) s.rows = 1
    · obtain ⟨r, hr, hclaim⟩ := (changes_eq_one_iff fun _ => hasId_of_claimable).1 hone
      exact Or.inr (Or.inl ⟨r, hr, hclaim, by simp [claimWorkUnit, hclock, hone]⟩)
    · have hself : s.update (claimable now id claim) WatchRow.charge (fun _ => rfl) = s :=
        update_eq_self_of_changes_ne_one (fun _ => hasId_of_claimable) hone
      by_cases hex : Table.changes (exhaustible now id claim) s.rows = 1
      · obtain ⟨r, hr, hexh⟩ := (changes_eq_one_iff fun _ => hasId_of_exhaustible).1 hex
        exact Or.inr (Or.inr (Or.inl ⟨r, hr, hexh, by
          simp [claimWorkUnit, hclock, hone, hself, hex]⟩))
      · have hself' : s.update (exhaustible now id claim) WatchRow.exhaust (fun _ => rfl) = s :=
          update_eq_self_of_changes_ne_one (fun _ => hasId_of_exhaustible) hex
        exact Or.inr (Or.inr (Or.inr (by
          simp [claimWorkUnit, hclock, hone, hself, hex, hself'])))
  · have hclock : currentTime now = .error .invalidClock := by simp [currentTime, hvalid]
    exact Or.inl (by simp [claimWorkUnit, hclock])

/-- A claim on a row that is not eligible changes nothing. -/
theorem claimWorkUnit_of_not_eligible {s : Store} {now : ℤ} {id : JsString} {claim : WorkClaim}
    (h : ∀ r, s.getWatch id = some r → eligible claim now r = false) :
    s.claimWorkUnit now id claim = (s, .error .invalidClock) ∨
      s.claimWorkUnit now id claim = (s, .ok .inactive) := by
  have hno : ∀ r ∈ s.rows, hasId id r = true → eligible claim now r = false := fun r hr hid =>
    h r (getWatch_of_mem hr (hasId_iff.1 hid))
  rcases s.claimWorkUnit_cases now id claim with hcase | ⟨r, hr, hp, -⟩ | ⟨r, hr, hp, -⟩ | hcase
  · exact Or.inl hcase
  · simp only [claimable, Bool.and_eq_true] at hp
    exact absurd hp.1.2 (by simp [hno r hr hp.1.1])
  · simp only [exhaustible, Bool.and_eq_true] at hp
    exact absurd hp.1.2 (by simp [hno r hr hp.1.1])
  · exact Or.inr hcase

/-- A claim that succeeds charges the row under the id, which was eligible. -/
theorem claimWorkUnit_claimed {s : Store} {now : ℤ} {id : JsString} {claim : WorkClaim}
    (h : (s.claimWorkUnit now id claim).2 = .ok .claimed) :
    (s.claimWorkUnit now id claim).1 =
        s.update (claimable now id claim) WatchRow.charge (fun _ => rfl) ∧
      ∃ r, s.getWatch id = some r ∧ claimable now id claim r = true := by
  rcases s.claimWorkUnit_cases now id claim with hcase | ⟨r, hr, hp, hcase⟩ | ⟨r, hr, hp, hcase⟩ |
    hcase
  · simp [hcase] at h
  · exact ⟨by rw [hcase], r, getWatch_of_mem hr (hasId_iff.1 (hasId_of_claimable hp)), hp⟩
  · simp [hcase] at h
  · simp [hcase] at h

theorem rewrites_claimWorkUnit (s : Store) (now : ℤ) (id : JsString) (claim : WorkClaim) :
    Table.Rewrites (RowChange (.claimWorkUnit now id claim)) s.rows
      (s.claimWorkUnit now id claim).1.rows := by
  rcases s.claimWorkUnit_cases now id claim with h | ⟨_, _, _, h⟩ | ⟨_, _, _, h⟩ | h
  · rw [h]
    exact Table.Rewrites.refl _ _
  · rw [h]
    refine Table.rewrites_updateWhere fun r _ hp => ?_
    simp only [claimable, Bool.and_eq_true, hasId_iff] at hp
    exact .charge hp.1.1 hp.1.2 hp.2
  · rw [h]
    refine Table.rewrites_updateWhere fun r _ hp => ?_
    simp only [exhaustible, Bool.and_eq_true, hasId_iff] at hp
    exact .exhaust hp.1.1 hp.1.2 hp.2
  · rw [h]
    exact Table.Rewrites.refl _ _

theorem retryTime_ok {failure : PollingFailure} {failedAt : ℤ} {retryAt : Option ℤ}
    (h : retryTime failure failedAt = .ok retryAt) : retryAt = failureRetry failure := by
  unfold retryTime at h
  split at h
  · cases h
    simp [failureRetry, *]
  · rename_i hdisp
    cases hretry : failure.retryAt with
    | none => simp [hretry] at h
    | some t =>
        simp only [hretry] at h
        split at h
        · cases h
          simp [failureRetry, hdisp, hretry]
        · cases h

theorem rewrites_recordPollingFailure (s : Store) (now : ℤ) (id : JsString)
    (failure : PollingFailure) :
    Table.Rewrites (RowChange (.recordPollingFailure now id failure)) s.rows
      (s.recordPollingFailure now id failure).1.rows := by
  unfold recordPollingFailure
  split
  · exact Table.Rewrites.refl _ _
  · split
    · exact Table.Rewrites.refl _ _
    cases hclock : currentTime now with
    | error e => exact Table.Rewrites.refl _ _
    | ok t =>
        obtain ⟨rfl, -⟩ := currentTime_eq hclock
        dsimp only
        cases hretry : retryTime failure t with
        | error e => exact Table.Rewrites.refl _ _
        | ok retryAt =>
            rw [retryTime_ok hretry]
            refine Table.rewrites_updateWhere fun r _ hp => ?_
            simp only [Bool.and_eq_true, hasId_iff, beq_iff_eq] at hp
            exact .recordFailure hp.1 hp.2

theorem rewrites_advanceScanRound (s : Store) (id : JsString) (expectedRound round : ℤ) :
    Table.Rewrites (RowChange (.advanceScanRound id expectedRound round)) s.rows
      (s.advanceScanRound id expectedRound round).1.rows := by
  unfold advanceScanRound
  split
  · exact Table.Rewrites.refl _ _
  · refine Table.rewrites_updateWhere fun r _ hp => ?_
    simp only [Bool.and_eq_true, hasId_iff, beq_iff_eq] at hp
    obtain ⟨⟨⟨hid, hactive⟩, hscan⟩, hlt⟩ := hp
    exact .advanceTo hid hactive hscan (by simpa [hscan] using hlt)

/-! ## All operations -/

/-- **What one operation can do.**  It appends the row of a created watch, or it
rewrites rows by `RowChange`. -/
theorem apply_cases (s : Store) (op : StoreOp) :
    (∃ now id spec intent expiresAt, op = .prepareWatch now id spec intent ∧
      Created s now id spec intent expiresAt (s.apply op)) ∨
    Table.Rewrites (RowChange op) s.rows (s.apply op).rows := by
  cases op with
  | prepareWatch now id spec intent =>
      rcases s.prepareWatch_cases now id spec intent with ⟨e, he⟩ | ⟨w, -, -, -, hw⟩ |
        ⟨s', expiresAt, hcreated, hok⟩
      · right
        simp only [apply, he]
        exact Table.Rewrites.refl _ _
      · right
        simp only [apply, hw]
        exact Table.Rewrites.refl _ _
      · left
        refine ⟨now, id, spec, intent, expiresAt, rfl, ?_⟩
        simpa only [apply, hok] using hcreated
  | recordSettlementCandidate id evidence =>
      exact Or.inr (s.rewrites_recordSettlementCandidate id evidence)
  | activateWatch now id evidence round =>
      exact Or.inr (s.rewrites_activateWatch now id evidence round)
  | markSettlementUnknown id =>
      refine Or.inr (Table.rewrites_updateWhere fun r _ hp => ?_)
      simp only [Bool.and_eq_true, hasId_iff, beq_iff_eq] at hp
      exact .settleUnknown hp.1 hp.2
  | markSettlementInvalid id =>
      refine Or.inr (Table.rewrites_updateWhere fun r _ hp => ?_)
      simp only [Bool.and_eq_true, hasId_iff] at hp
      exact .settleInvalid hp.1 hp.2
  | claimWorkUnit now id claim => exact Or.inr (s.rewrites_claimWorkUnit now id claim)
  | recordPollingFailure now id failure =>
      exact Or.inr (s.rewrites_recordPollingFailure now id failure)
  | clearPollingFailure id =>
      refine Or.inr (Table.rewrites_updateWhere fun r _ hp => ?_)
      simp only [Bool.and_eq_true, hasId_iff, beq_iff_eq] at hp
      exact .clearFailure hp.1 hp.2
  | markMatched id transaction round =>
      refine Or.inr (Table.rewrites_updateWhere fun r _ hp => ?_)
      simp only [Bool.and_eq_true, hasId_iff, beq_iff_eq] at hp
      exact .matchWith hp.1 hp.2
  | advanceScanRound id expectedRound round =>
      exact Or.inr (s.rewrites_advanceScanRound id expectedRound round)
  | setClosingRound id round =>
      refine Or.inr (Table.rewrites_updateWhere fun r _ hp => ?_)
      simp only [Bool.and_eq_true, hasId_iff, beq_iff_eq] at hp
      exact .closeAt hp.1.1 hp.1.2 hp.2
  | markExpired id expectedScanRound closingRound =>
      refine Or.inr (Table.rewrites_updateWhere fun r _ hp => ?_)
      simp only [Bool.and_eq_true, hasId_iff, beq_iff_eq, decide_eq_true_eq] at hp
      obtain ⟨⟨⟨⟨⟨hid, hactive⟩, hversion⟩, hscan⟩, hclosing⟩, hle⟩ := hp
      exact .expire hid hactive hversion hscan hclosing hle
  | recordReconciliationFailure id nextAttemptAt =>
      right
      simp only [apply, recordReconciliationFailure]
      split
      · refine Table.rewrites_updateWhere fun r _ hp => ?_
        simp only [Bool.and_eq_true, hasId_iff] at hp
        exact .deferUntil hp.1 hp.2
      · exact Table.Rewrites.refl _ _
  | recordRefundEvidence now watchId evidence =>
      right
      have hrows : (s.apply (.recordRefundEvidence now watchId evidence)).rows = s.rows := by
        simp only [apply, recordRefundEvidence]
        repeat' split
        all_goals rfl
      rw [hrows]
      exact Table.Rewrites.refl _ _
  | reopen config =>
      refine Or.inr (Table.rewrites_updateWhere fun r _ hp => ?_)
      simp only [Bool.and_eq_true, Option.isNone_iff_eq_none] at hp
      exact .repairBudget hp.1 hp.2

/-- Only opening the database again sets its limits. -/
theorem config_apply {s : Store} {op : StoreOp}
    (hop : ∀ config, op = .reopen config → config = s.config) :
    (s.apply op).config = s.config := by
  cases op with
  | prepareWatch now id spec intent =>
      rcases s.prepareWatch_cases now id spec intent with ⟨e, he⟩ | ⟨w, -, -, -, hw⟩ |
        ⟨s', expiresAt, hcreated, hok⟩
      · simp only [apply, he]
      · simp only [apply, hw]
      · simp only [apply, hok, hcreated.config]
  | recordSettlementCandidate id evidence =>
      simp only [apply, recordSettlementCandidate]
      repeat' split
      all_goals first | rfl | exact (tryUpdate_ok (by assumption)).2.1
  | activateWatch now id evidence round =>
      simp only [apply, activateWatch]
      repeat' split
      all_goals first | rfl | exact (tryUpdate_ok (by assumption)).2.1
  | claimWorkUnit now id claim =>
      show (s.claimWorkUnit now id claim).1.config = s.config
      rcases s.claimWorkUnit_cases now id claim with h | ⟨_, _, _, h⟩ | ⟨_, _, _, h⟩ | h <;>
        rw [h] <;> rfl
  | recordPollingFailure now id failure =>
      simp only [apply, recordPollingFailure]
      repeat' split
      all_goals rfl
  | advanceScanRound id expectedRound round =>
      simp only [apply, advanceScanRound]
      split <;> rfl
  | recordReconciliationFailure id nextAttemptAt =>
      simp only [apply, recordReconciliationFailure]
      split <;> rfl
  | recordRefundEvidence now watchId evidence =>
      simp only [apply, recordRefundEvidence]
      repeat' split
      all_goals rfl
  | reopen config => exact hop config rfl
  | _ => rfl

/-- What an operation keeps of every row it may change, and gives to every row it
creates, it keeps of all rows. -/
theorem forall_rows_apply {P : WatchRow → Prop} {s : Store} {op : StoreOp}
    (hrows : ∀ r ∈ s.rows, P r)
    (hcreate : ∀ config id spec intent now expiresAt,
      P (preparedRow config id spec intent now expiresAt))
    (hchange : ∀ r r', r ∈ s.rows → RowChange op r r' → P r → P r') :
    ∀ r ∈ (s.apply op).rows, P r := by
  intro r' hr'
  rcases s.apply_cases op with ⟨now, id, spec, intent, expiresAt, -, hcreated⟩ | hrewrites
  · rw [hcreated.rows, List.mem_append, List.mem_singleton] at hr'
    rcases hr' with hr' | rfl
    · exact hrows r' hr'
    · exact hcreate ..
  · obtain ⟨r, hr, heq | hrr'⟩ := hrewrites.exists_of_mem_right hr'
    · exact heq ▸ hrows r hr
    · exact hchange r r' hr hrr' (hrows r hr)

/-- What became of a row after one operation. -/
theorem exists_apply_of_mem {s : Store} {r : WatchRow} (hr : r ∈ s.rows) (op : StoreOp) :
    ∃ r' ∈ (s.apply op).rows, r' = r ∨ RowChange op r r' := by
  rcases s.apply_cases op with ⟨now, id, spec, intent, expiresAt, -, hcreated⟩ | hrewrites
  · exact ⟨r, by simp [hcreated.rows, hr], Or.inl rfl⟩
  · exact hrewrites.exists_of_mem hr

/-- A history of operations. -/
abbrev run (s : Store) (ops : List StoreOp) : Store := Runs.run apply s ops

/-- The run rule for facts about every row. -/
theorem forall_rows_run {P : WatchRow → Prop}
    (hcreate : ∀ config id spec intent now expiresAt,
      P (preparedRow config id spec intent now expiresAt))
    (hchange : ∀ op r r', RowChange op r r' → P r → P r') {s : Store} (ops : List StoreOp)
    (hrows : ∀ r ∈ s.rows, P r) : ∀ r ∈ (s.run ops).rows, P r :=
  Runs.run_invariant' (I := fun s : Store => ∀ r ∈ s.rows, P r)
    (fun _ op h => forall_rows_apply h hcreate fun r r' _ => hchange op r r') ops hrows

/-- The run rule for what becomes of one row: a reflexive and transitive relation
that every change of an invariant row respects relates the row to the one it
became. -/
theorem exists_run_of_mem {P : WatchRow → Prop} {R : WatchRow → WatchRow → Prop}
    (hrefl : ∀ r, R r r) (htrans : ∀ {r r' r''}, R r r' → R r' r'' → R r r'')
    (hchange : ∀ op r r', RowChange op r r' → P r → P r' ∧ R r r') {s : Store} {r : WatchRow}
    (hr : r ∈ s.rows) (hP : P r) (ops : List StoreOp) : ∃ r' ∈ (s.run ops).rows, R r r' := by
  induction ops generalizing s r with
  | nil => exact ⟨r, hr, hrefl r⟩
  | cons op ops ih =>
      obtain ⟨r', hr', rfl | hrr'⟩ := exists_apply_of_mem hr op
      · exact ih hr' hP
      · obtain ⟨hP', hR⟩ := hchange op r r' hrr' hP
        obtain ⟨r'', hr'', hR'⟩ := ih hr' hP'
        exact ⟨r'', hr'', htrans hR hR'⟩

end Store

end RoundWatch
