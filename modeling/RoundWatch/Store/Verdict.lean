import RoundWatch.Store.Evidence

/-!
# What a settlement makes of a row

The columns a settlement decides are read as one `SettlementVerdict`, and every
operation the two activation paths call is described by the verdict it leaves:
`activateWatch`, `markSettlementInvalid`, the charge of a work unit and the deferral.
-/

namespace RoundWatch

open JsText

/-- How far the settlement of a row has come. -/
inductive SettlementVerdict where
  | activated (round : Option ℤ)
  /-- `settlement_unknown`, terminally. -/
  | rejected
  | retryable
  | closed
  deriving DecidableEq, Repr

def WatchRow.settlementVerdict (r : WatchRow) : SettlementVerdict :=
  match r.state with
  | .active | .matched => .activated r.activationRound
  | .settlementPending | .settlementUnknown =>
      if r.settlementReconciliationTerminal then .rejected else .retryable
  | .expired | .indeterminate => .closed

namespace WatchRow

theorem verdict_of_unsettled {r : WatchRow} (h : r.unsettled) :
    r.settlementVerdict = .retryable := by
  simp only [unsettled, settling, Bool.and_eq_true, Bool.or_eq_true, beq_iff_eq,
    Bool.not_eq_true'] at h
  obtain ⟨hstate | hstate, hterminal⟩ := h
  · simp [settlementVerdict, hstate, hterminal]
  · simp [settlementVerdict, hstate, hterminal]

@[simp] theorem verdict_activate (r : WatchRow) (evidence : SettlementEvidence)
    (round : Option ℤ) (at_ : ℤ) :
    (r.activate evidence round at_).settlementVerdict = .activated round := rfl

@[simp] theorem verdict_settleInvalid (r : WatchRow) :
    r.settleInvalid.settlementVerdict = .rejected := rfl

@[simp] theorem verdict_charge (r : WatchRow) :
    r.charge.settlementVerdict = r.settlementVerdict := rfl

@[simp] theorem verdict_deferUntil (r : WatchRow) (at_ : ℤ) :
    (r.deferUntil at_).settlementVerdict = r.settlementVerdict := rfl

/-- A settling row that is not open any more has been given up. -/
theorem verdict_of_given_up {r : WatchRow} (hsettling : r.settling) (h : r.unsettled = false) :
    r.settlementVerdict = .rejected := by
  have hterminal : r.settlementReconciliationTerminal = true := by
    simpa [unsettled, hsettling] using h
  simp only [settling, Bool.or_eq_true, beq_iff_eq] at hsettling
  obtain hstate | hstate := hsettling
  · simp [settlementVerdict, hstate, hterminal]
  · simp [settlementVerdict, hstate, hterminal]

theorem not_active_of_unsettled {r : WatchRow} (h : r.unsettled) :
    ¬ (r.state = .active ∨ r.state = .matched) := by
  have hsettling := settling_of_unsettled h
  rintro (hstate | hstate)
  · simp [settling, hstate] at hsettling
  · simp [settling, hstate] at hsettling

end WatchRow

namespace Store

/-! ## Reading a row back -/

/-- What an update makes of the row under an id. -/
theorem getWatch_of_updateWhere {s s' : Store} {p : WatchRow → Bool} {f : WatchRow → WatchRow}
    (hrows : s'.rows = Table.updateWhere p f s.rows) (hf : ∀ r, (f r).id = r.id)
    (id : JsString) :
    s'.getWatch id = (s.getWatch id).map fun r => if p r then f r else r := by
  have hid : ((fun r : WatchRow => r.id == bindText id) ∘ fun r => if p r then f r else r) =
      fun r : WatchRow => r.id == bindText id := by
    funext r
    simp only [Function.comp_apply]
    split
    · rw [hf r]
    · rfl
  rw [getWatch, hrows, Table.updateWhere, List.find?_map, hid]
  rfl

theorem getWatch_update (s : Store) {p : WatchRow → Bool} {f : WatchRow → WatchRow}
    (hf : ∀ r, (f r).indexed = r.indexed) (id : JsString) :
    (s.update p f hf).getWatch id = (s.getWatch id).map fun r => if p r then f r else r :=
  getWatch_of_updateWhere rfl (fun r => congrArg IndexedColumns.id (hf r)) id

/-! ## The service index -/

/-- Another row has the transaction as its service transaction. -/
def boundElsewhere (s : Store) (row : WatchRow) (transaction : JsString) : Bool :=
  s.rows.any fun r => r.id != row.id && r.serviceTransaction == some (bindText transaction)

theorem boundElsewhere_update (s : Store) {p : WatchRow → Bool} {f : WatchRow → WatchRow}
    {hf : ∀ r, (f r).indexed = r.indexed} {row row' : WatchRow} (hid : row'.id = row.id)
    (transaction : JsString) :
    (s.update p f hf).boundElsewhere row' transaction = s.boundElsewhere row transaction := by
  rw [boundElsewhere, boundElsewhere, update_rows, Table.updateWhere, List.any_map]
  refine List.any_congr rfl fun r => ?_
  simp only [Function.comp_apply, hid]
  split
  · have hkey : (f r).id = r.id := congrArg IndexedColumns.id (hf r)
    have hservice : (f r).serviceTransaction = r.serviceTransaction :=
      congrArg IndexedColumns.serviceTransaction (hf r)
    rw [hkey, hservice]
  · rfl

variable {s : Store} {row : WatchRow} {id : JsString} {evidence : SettlementEvidence}

/-- An open row can be given a service transaction exactly when no other row has it. -/
theorem constraints_activate (hget : s.getWatch id = some row) (hopen : row.unsettled)
    (round : Option ℤ) (at_ : ℤ) :
    Constraints (Table.updateWhere (fun r => hasId id r && r.unsettled)
      (·.activate evidence round at_) s.rows) ↔
      s.boundElsewhere row evidence.transaction = false := by
  have hmem := getWatch_mem hget
  have hselect : ∀ r ∈ s.rows, (hasId id r && r.unsettled) = false ↔ r.id ≠ row.id := by
    intro r hr
    constructor
    · rintro hp heq
      have hrow : r = row := eq_of_id hr hmem heq
      simp [hrow, hasId_iff.2 (getWatch_id hget), hopen] at hp
    · intro hne
      have hother : hasId id r = false := by
        rw [Bool.eq_false_iff, Ne, hasId_iff]
        exact fun heq => hne (heq.trans (getWatch_id hget).symm)
      simp [hother]
  have hone : Table.changes (fun r => hasId id r && r.unsettled) s.rows = 1 := by
    have hpins : ∀ r : WatchRow, (hasId id r && r.unsettled) = true → hasId id r = true :=
      fun r hr => (Bool.and_eq_true _ _ ▸ hr).1
    refine (changes_eq_one_iff hpins).2 ⟨row, hmem, ?_⟩
    simp [hasId_iff.2 (getWatch_id hget), hopen]
  have hservice := s.constraints.service.updateWhere_one (k := bindText evidence.transaction)
    (f := (·.activate evidence round at_)) hone fun _ => rfl
  have hfree : s.boundElsewhere row evidence.transaction = false ↔
      ∀ r ∈ s.rows, (hasId id r && r.unsettled) = false →
        r.serviceTransaction ≠ some (bindText evidence.transaction) := by
    rw [boundElsewhere, List.any_eq_false]
    refine forall₂_congr fun r hr => ?_
    rw [hselect r hr]
    simp
  rw [hfree, ← hservice]
  refine ⟨fun h => h.service, fun h => ⟨?_, ?_, ?_, h⟩⟩
  · exact s.constraints.ids.updateWhere fun _ => rfl
  · exact s.constraints.scopes.updateWhere fun _ => rfl
  · exact s.constraints.expected.updateWhere fun _ => rfl

/-! ## What the operations leave -/

/-- `activateWatch` of an open row whose evidence agrees. -/
theorem getWatch_activateWatch (hget : s.getWatch id = some row) (hopen : row.unsettled)
    (hmatch : assertSettlementEvidenceMatches row evidence = .ok ()) {now : ℤ}
    (hnow : validDate now) (round : Option ℤ) :
    (s.activateWatch now id evidence round).1.getWatch id =
      some (if s.boundElsewhere row evidence.transaction then row
        else row.activate evidence round now) := by
  have hsettling : row.settling = true := (WatchRow.settling_of_unsettled hopen).1
  have hclock : currentTime now = .ok now := by simp [currentTime, hnow]
  have hp : (hasId id row && row.unsettled) = true := by
    simp [hasId_iff.2 (getWatch_id hget), hopen]
  have hpins : ∀ r : WatchRow, (hasId id r && r.unsettled) = true → hasId id r = true :=
    fun r hr => (Bool.and_eq_true _ _ ▸ hr).1
  have hone : Table.changes (fun r => hasId id r && r.unsettled) s.rows = 1 :=
    (changes_eq_one_iff hpins).2 ⟨row, getWatch_mem hget, hp⟩
  simp only [activateWatch, hget, hmatch, WatchRow.not_active_of_unsettled hopen, if_false,
    hsettling, Bool.true_eq_false, hclock]
  cases hbound : s.boundElsewhere row evidence.transaction with
  | true =>
      have hbroken : ¬ Constraints (Table.updateWhere (fun r => hasId id r && r.unsettled)
          (·.activate evidence round now) s.rows) := by
        rw [constraints_activate hget hopen, hbound]
        exact Bool.true_eq_false_eq_False
      simp [tryUpdate, hbroken, hget]
  | false =>
      have hkept : Constraints (Table.updateWhere (fun r => hasId id r && r.unsettled)
          (·.activate evidence round now) s.rows) :=
        (constraints_activate hget hopen round now).2 hbound
      let bound : Store :=
        { s with
          rows := Table.updateWhere (fun r => hasId id r && r.unsettled)
            (·.activate evidence round now) s.rows
          constraints := hkept }
      have hrows : bound.rows = Table.updateWhere (fun r => hasId id r && r.unsettled)
          (·.activate evidence round now) s.rows := rfl
      have hread := getWatch_of_updateWhere hrows (fun _ => rfl) id
      rw [hget, Option.map_some, if_pos hp] at hread
      simp only [bound] at hread
      simp [tryUpdate, hkept, hone, hread]

/-- `activateWatch` of a row that is not open leaves it as it is. -/
theorem getWatch_activateWatch_of_not_unsettled (hget : s.getWatch id = some row)
    (hclosed : row.unsettled = false) (evidence : SettlementEvidence) (now : ℤ)
    (round : Option ℤ) :
    (s.activateWatch now id evidence round).1.getWatch id = some row := by
  have hp : (hasId id row && row.unsettled) = false := by simp [hclosed]
  simp only [activateWatch, hget]
  cases assertSettlementEvidenceMatches row evidence with
  | error e => exact hget
  | ok _ =>
      dsimp only
      split
      · split <;> exact hget
      · split
        · exact hget
        · cases currentTime now with
          | error e => exact hget
          | ok t =>
              dsimp only
              cases htry : s.tryUpdate (fun r => hasId id r && r.unsettled)
                  (·.activate evidence round t) with
              | error e => exact hget
              | ok s' =>
                  have hread : s'.getWatch id = some row := by
                    rw [getWatch_of_updateWhere (tryUpdate_ok htry).1 (fun _ => rfl) id, hget,
                      Option.map_some, hp]
                    rfl
                  dsimp only
                  split
                  · exact hread
                  · rw [hread]
                    exact hread

/-- `markSettlementInvalid` gives up a settling row and nothing else. -/
theorem getWatch_markSettlementInvalid (hget : s.getWatch id = some row) :
    (s.markSettlementInvalid id).getWatch id =
      some (if row.settling then row.settleInvalid else row) := by
  have hread := getWatch_update s (p := fun r => hasId id r && r.settling)
    (f := WatchRow.settleInvalid) (fun _ => rfl) id
  rw [hget, Option.map_some, hasId_iff.2 (getWatch_id hget), Bool.true_and] at hread
  exact hread

/-- A deferral leaves the verdict alone. -/
theorem verdict_recordReconciliationFailure (s : Store) (id id' : JsString) (at_ : ℤ) :
    ((s.recordReconciliationFailure id at_).1.getWatch id').map WatchRow.settlementVerdict =
      (s.getWatch id').map WatchRow.settlementVerdict := by
  unfold recordReconciliationFailure
  split
  · have hread := getWatch_update s (p := fun r => hasId id r && r.unsettled)
      (f := (·.deferUntil at_)) (fun _ => rfl) id'
    refine (congrArg (Option.map WatchRow.settlementVerdict) hread).trans ?_
    rw [Option.map_map]
    refine congrArg (Option.map · _) (funext fun r => ?_)
    simp only [Function.comp_apply]
    split <;> rfl
  · rfl

/-- A row whose evidence was accepted is on record with it: it is settling, active or
matched, and expects the transaction of the evidence if it expects any. -/
theorem recordSettlementCandidate_ok {s' : Store}
    (h : s.recordSettlementCandidate id evidence = (s', .ok row)) :
    s'.getWatch id = some row ∧ (row.state = .active ∨ row.state = .matched ∨ row.settling) ∧
      ∀ tx, row.expectedServiceTransaction = some tx → tx.val ≠ [] →
        tx = bindText evidence.transaction := by
  have hexpects : ∀ {r : WatchRow}, assertSettlementEvidenceMatches r evidence = .ok () →
      ∀ tx, r.expectedServiceTransaction = some tx → tx.val ≠ [] →
        tx = bindText evidence.transaction := by
    intro r hmatch tx htx hne
    refine eq_bindText_of_not_differs (assertSettlementEvidenceMatches_ok.1 hmatch).1 htx ?_
    rintro rfl
    exact hne (by simp [emptyText, toWellFormed])
  unfold recordSettlementCandidate at h
  cases hget : s.getWatch id with
  | none => simp [hget] at h
  | some existing =>
      simp only [hget] at h
      cases hmatch : assertSettlementEvidenceMatches existing evidence with
      | error e => simp [hmatch] at h
      | ok u =>
          simp only [hmatch] at h
          split_ifs at h with hactive hsame hsettling
          · cases h
            exact ⟨hget, hactive.elim Or.inl fun h => Or.inr (Or.inl h), hexpects hmatch⟩
          · simp at h
          · simp at h
          · cases htry : s.tryUpdate (fun r => hasId id r && r.unsettled)
                (·.recordCandidate evidence) with
            | error e => simp [htry] at h
            | ok s₁ =>
                have hread := getWatch_of_updateWhere (tryUpdate_ok htry).1 (fun _ => rfl) id
                rw [hget, Option.map_some] at hread
                simp only [htry, hread, Prod.mk.injEq, Except.ok.injEq] at h
                obtain ⟨rfl, rfl⟩ := h
                have hsettled : existing.settling = true := by simpa using hsettling
                refine ⟨hread, Or.inr (Or.inr ?_), fun tx htx hne => ?_⟩
                · split
                  · exact hsettled
                  · exact hsettled
                · split at htx
                  · cases hstored : existing.expectedServiceTransaction with
                    | none =>
                        simp only [WatchRow.recordCandidate, hstored] at htx
                        exact (Option.some.inj htx).symm
                    | some stored =>
                        simp only [WatchRow.recordCandidate, hstored] at htx
                        cases htx
                        exact hexpects hmatch _ hstored hne
                  · exact hexpects hmatch _ htx hne

end Store

end RoundWatch
