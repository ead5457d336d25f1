import RoundWatch.Store.Verdict
import RoundWatch.Workers.Run

/-!
# The two activation paths

The after-settle hook and the reconciler test the same evidence.  Both are run here from
one state, the hook with the answer to its lookup and the reconciler through its whole
turn, and their effect on the row is compared as a `SettlementVerdict`.

* `verdict_resumeHook`, `verdict_reconcilerTurn` — the two decisions, as tables;
* `activation_paths_agree_iff` — when they are one;
* `paths_disagree` — a row without purchase terms, which the hook rejects for good and
  the reconciler keeps.
-/

namespace RoundWatch

open JsText

/-! ## The situation -/

/-- A hook that waits for its lookup, with the record that accepted its evidence. -/
structure Settled (σ : System) (k : ℕ) (hook : SettlementHook) (row : WatchRow) : Prop where
  waits : σ.hooks k = some hook
  canonical : isCanonicalTransactionId hook.evidence.transaction
  accepted : ∃ s : Store,
    s.recordSettlementCandidate hook.watchId hook.evidence = (σ.store, .ok row)

/-- `onAfterSettle` leaves its hook so. -/
theorem settled_afterSettle {σ : System} {id : JsString} {evidence : SettlementEvidence}
    {row : WatchRow} (hrow : (σ.store.recordSettlementCandidate id evidence).2 = .ok row)
    (hcanonical : isCanonicalTransactionId evidence.transaction) :
    Settled (σ.afterSettle id evidence) σ.nextHook ⟨id, evidence⟩ row where
  waits := by simp [System.afterSettle, hrow, hcanonical, System.openHook, System.perform]
  canonical := hcanonical
  accepted := by
    refine ⟨σ.store, Prod.ext ?_ hrow⟩
    simp [System.afterSettle, hrow, hcanonical, Store.apply]

/-- The answer to the request of a turn brings the transfer. -/
def ReconcileTurn.brings (turn : ReconcileTurn) (answer : Answer) (t : IndexedAssetTransfer) :
    Prop :=
  match turn.point with
  | .lookup =>
      lookupAssetTransfer turn.terms.transaction.val .reconciliation answer = .ok (some t)
  | .tip => False
  | .search _ => ∃ page, searchTransactionPage turn.terms.transaction.val answer = .ok page ∧
      page.transactions.find? (fun found => found.transaction == turn.terms.transaction.val) =
        some t

namespace System

/-- The turn of the reconciler that is under way, while its requests are answered. -/
def answerTurn (cfg : WorkerConfig) (σ : System) : List (Answer × Clock) → System
  | [] => σ
  | (answer, clock) :: rest =>
      match σ.reconciler.sweep.map ReconcileSweep.phase with
      | some (.serving _) => (σ.resumeReconcile cfg answer clock).answerTurn cfg rest
      | _ => σ

/-- A whole turn of the reconciler. -/
def reconcilerTurn (cfg : WorkerConfig) (σ : System) (loop : ReconcileLoop) (watch : WatchRow)
    (clock : Clock) (answers : List (Answer × Clock)) : System :=
  (σ.reconcileWatch cfg loop watch clock).answerTurn cfg answers

/-- One of the answers brings the transfer to the turn that is under way. -/
def Brings (cfg : WorkerConfig) (t : IndexedAssetTransfer) : System → List (Answer × Clock) → Prop
  | _, [] => False
  | σ, (answer, clock) :: rest => ∃ loop turn,
      σ.reconciler.sweep = some { toReconcileLoop := loop, phase := .serving turn } ∧
        (turn.brings answer t ∨ Brings cfg t (σ.resumeReconcile cfg answer clock) rest)

/-- The sweep waits for an answer. -/
def waitsForAnswer (σ : System) : Prop :=
  ∃ loop turn, σ.reconciler.sweep = some { toReconcileLoop := loop, phase := .serving turn }

end System

/-- The turn of a watch can rest on its row: every term is on record, and the transaction
to look for is not empty. -/
def WatchRow.reconcilable (r : WatchRow) : Bool :=
  r.immutableTerms?.isSome && r.expectedServiceTransaction.any (·.val ≠ [])

/-- **The two paths take the same decision** on a row, and neither gives up a row that
lacks a term. -/
structure PathsAgree (row : WatchRow) (hooked reconciled : System) : Prop where
  same : (hooked.store.getWatch row.id.val).map WatchRow.settlementVerdict =
    (reconciled.store.getWatch row.id.val).map WatchRow.settlementVerdict
  spared : row.immutableTerms? = none → row.settlementVerdict ≠ .rejected →
    (hooked.store.getWatch row.id.val).map WatchRow.settlementVerdict ≠ some .rejected ∧
      (reconciled.store.getWatch row.id.val).map WatchRow.settlementVerdict ≠ some .rejected

/-- When they do: the row is not open; or it has its terms, and a matching transfer finds
the evidence still agreeing with the row or the transaction bound to another watch; or it
lacks a term, and the hook's activation of it would throw. -/
def PathsMeet (s : Store) (row : WatchRow) (evidence : SettlementEvidence)
    (t : IndexedAssetTransfer) : Prop :=
  row.unsettled = false ∨
  (row.reconcilable = true ∧ (confirmsSettlement evidence t row = true →
    (assertSettlementEvidenceMatches row evidence).isOk = true ∨
      s.boundElsewhere row evidence.transaction = true)) ∨
  (row.reconcilable = false ∧ confirmsSettlement evidence t row = true ∧
    ((assertSettlementEvidenceMatches row evidence).isOk = false ∨
      s.boundElsewhere row evidence.transaction = true))

instance (s : Store) (row : WatchRow) (evidence : SettlementEvidence) (t : IndexedAssetTransfer) :
    Decidable (PathsMeet s row evidence t) := inferInstanceAs (Decidable (_ ∨ _))

/-! ## The hook -/

section

variable {σ : System} {k : ℕ} {hook : SettlementHook} {row : WatchRow} {t : IndexedAssetTransfer}

theorem Store.getWatch_val {s : Store} {row : WatchRow} {id : JsString}
    (h : row.id = bindText id) : s.getWatch row.id.val = s.getWatch id := by
  rw [Store.getWatch, Store.getWatch, bindText_val, h]

theorem Settled.get (h : Settled σ k hook row) : σ.store.getWatch hook.watchId = some row := by
  obtain ⟨s, hs⟩ := h.accepted
  exact (Store.recordSettlementCandidate_ok hs).1

/-- The verdict the hook leaves. -/
def hookVerdict (s : Store) (row : WatchRow) (evidence : SettlementEvidence)
    (t : IndexedAssetTransfer) : SettlementVerdict :=
  if row.unsettled then
    if confirmsSettlement evidence t row then
      if (assertSettlementEvidenceMatches row evidence).isOk &&
          !s.boundElsewhere row evidence.transaction then .activated (some t.round)
      else .retryable
    else .rejected
  else row.settlementVerdict

/-- **The decision of the hook.** -/
theorem verdict_resumeHook (h : Settled σ k hook row) {answer : Answer} {clock : Clock}
    (hlookup : lookupAssetTransfer hook.evidence.transaction .activation answer = .ok (some t))
    (hnow : validDate clock.record) :
    ((σ.resumeHook k answer clock).store.getWatch hook.watchId).map WatchRow.settlementVerdict =
      some (hookVerdict σ.store row hook.evidence t) := by
  have hget := h.get
  have hobserved : ((σ.endHook k).observeLookup hook.evidence.transaction answer).store =
      σ.store := by
    unfold System.observeLookup
    split <;> rfl
  simp only [System.resumeHook, h.waits, hlookup, hobserved, hget]
  cases hmatches : confirmsSettlement hook.evidence t row with
  | false =>
      rw [if_neg (by simp), System.perform_store, hobserved, Store.apply,
        Store.getWatch_markSettlementInvalid hget]
      cases hopen : row.unsettled with
      | true => simp [hookVerdict, hopen, hmatches, (WatchRow.settling_of_unsettled hopen).1]
      | false =>
          cases hsettling : row.settling with
          | true => simp [hookVerdict, hopen, WatchRow.verdict_of_given_up hsettling hopen]
          | false => simp [hookVerdict, hopen]
  | true =>
      rw [if_pos rfl, System.perform_store, hobserved, Store.apply]
      cases hopen : row.unsettled with
      | false =>
          rw [Store.getWatch_activateWatch_of_not_unsettled hget hopen]
          simp [hookVerdict, hopen]
      | true =>
          cases haccepts : assertSettlementEvidenceMatches row hook.evidence with
          | error e =>
              have hsame : σ.store.activateWatch clock.record hook.watchId hook.evidence
                  (some t.round) = (σ.store, .error e) := by
                simp [Store.activateWatch, hget, haccepts]
              rw [hsame, hget]
              simp [hookVerdict, hopen, hmatches, haccepts, Except.isOk, Except.toBool,
                WatchRow.verdict_of_unsettled hopen]
          | ok u =>
              rw [Store.getWatch_activateWatch hget hopen haccepts hnow]
              cases hbound : σ.store.boundElsewhere row hook.evidence.transaction with
              | true =>
                  simp [hookVerdict, hopen, hmatches, haccepts, hbound,
                    WatchRow.verdict_of_unsettled hopen]
              | false =>
                  simp [hookVerdict, hopen, hmatches, haccepts, hbound, Except.isOk,
                    Except.toBool]

end

/-! ## The reconciler -/

/-- A turn on a watch is under way, and its claim was the last thing that touched the store. -/
structure Under (s : Store) (row : WatchRow) (terms : ImmutableTerms) (σ : System)
    (loop : ReconcileLoop) (turn : ReconcileTurn) : Prop where
  store : σ.store = s
  sweep : σ.reconciler.sweep = some { toReconcileLoop := loop, phase := .serving turn }
  watch : turn.watch = row
  terms : turn.terms = terms

section

variable {cfg : WorkerConfig} {σ : System} {s : Store} {row : WatchRow} {terms : ImmutableTerms}
  {loop : ReconcileLoop} {turn : ReconcileTurn} {t : IndexedAssetTransfer}

namespace System

theorem not_waitsForAnswer_reconciled (σ : System) (loop : ReconcileLoop) (watch : WatchRow)
    (result : Except TurnError CustomerTurnOutcome) :
    ¬ (σ.reconciled loop watch result).waitsForAnswer := by
  rintro ⟨loop', turn, h⟩
  simp [reconciled, setReconcileSweep] at h

@[simp] theorem answerTurn_reconciled (σ : System) (loop : ReconcileLoop) (watch : WatchRow)
    (result : Except TurnError CustomerTurnOutcome) (answers : List (Answer × Clock)) :
    (σ.reconciled loop watch result).answerTurn cfg answers = σ.reconciled loop watch result := by
  cases answers with
  | nil => rfl
  | cons a rest => simp [answerTurn, reconciled, setReconcileSweep]

@[simp] theorem store_observeLookup (σ : System) (transaction : JsString) (answer : Answer) :
    (σ.observeLookup transaction answer).store = σ.store := by
  unfold observeLookup
  split <;> rfl

/-- A request that is sent leaves the turn under way. -/
theorem under_requestReconcile {canonical : Bool} (hstore : σ.store = s)
    (hwatch : turn.watch = row) (hterms : turn.terms = terms)
    (hwaits : (σ.requestReconcile loop turn canonical).waitsForAnswer) :
    ∃ turn', Under s row terms (σ.requestReconcile loop turn canonical) loop turn' := by
  unfold requestReconcile at hwaits ⊢
  split at hwaits
  · exact absurd hwaits (not_waitsForAnswer_reconciled _ _ _ _)
  · rename_i hopen
    cases hspend : spend maxReconciliationRequests "settlement reconciliation turn" turn.used with
    | error e =>
        simp only [hspend] at hwaits
        exact absurd hwaits (not_waitsForAnswer_reconciled _ _ _ _)
    | ok used =>
        cases canonical with
        | false =>
            simp only [hspend, Bool.false_eq_true, if_false] at hwaits
            exact absurd hwaits (not_waitsForAnswer_reconciled _ _ _ _)
        | true =>
            refine ⟨{ turn with used := used }, ?_⟩
            simp only [hopen, if_true]
            exact ⟨hstore, rfl, hwatch, hterms⟩

end System

/-- **An answer that keeps the turn waiting keeps it under way.** -/
theorem Under.resume (h : Under s row terms σ loop turn) {answer : Answer} {clock : Clock}
    (hwaits : (σ.resumeReconcile cfg answer clock).waitsForAnswer) :
    ∃ turn', Under s row terms (σ.resumeReconcile cfg answer clock) loop turn' := by
  have hserved : ∀ {σ' : System} {watch : WatchRow}
      {result : Except TurnError CustomerTurnOutcome},
      (σ'.reconciled loop watch result).waitsForAnswer → False :=
    fun hw => System.not_waitsForAnswer_reconciled _ _ _ _ hw
  cases hpoint : turn.point with
  | lookup =>
      simp only [System.resumeReconcile, h.sweep, hpoint, System.afterLookup] at hwaits ⊢
      split at hwaits
      · exact (hserved hwaits).elim
      · unfold System.applyConfirmed at hwaits
        dsimp only at hwaits
        split at hwaits
        · exact (hserved hwaits).elim
        · exact (hserved hwaits).elim
      · refine System.under_requestReconcile ?_ h.watch h.terms hwaits
        rw [System.store_observeLookup, h.store]
  | tip =>
      simp only [System.resumeReconcile, h.sweep, hpoint, System.afterTip] at hwaits ⊢
      split at hwaits
      · exact (hserved hwaits).elim
      · rename_i currentRound hround
        split at hwaits
        · exact (hserved hwaits).elim
        · rename_i hcovered
          simp only [hcovered, if_false]
          exact System.under_requestReconcile h.store h.watch h.terms hwaits
  | search session =>
      simp only [System.resumeReconcile, h.sweep, hpoint, System.afterSearch] at hwaits
      split at hwaits
      · exact (hserved hwaits).elim
      · split at hwaits
        · unfold System.applyConfirmed at hwaits
          dsimp only at hwaits
          split at hwaits
          · exact (hserved hwaits).elim
          · exact (hserved hwaits).elim
        · split at hwaits
          · split at hwaits
            · exact (hserved hwaits).elim
            · exact (hserved hwaits).elim
          · split at hwaits
            · exact (hserved hwaits).elim
            · exact (hserved hwaits).elim

/-- **The answer that brings the transfer leads to `applyConfirmed`.** -/
theorem Under.resume_brings (h : Under s row terms σ loop turn) {answer : Answer}
    (hbrings : turn.brings answer t) (cfg : WorkerConfig) (clock : Clock) :
    ∃ σ' : System, σ'.store = s ∧
      σ.resumeReconcile cfg answer clock = σ'.applyConfirmed cfg loop turn t clock := by
  unfold ReconcileTurn.brings at hbrings
  cases hpoint : turn.point with
  | lookup =>
      simp only [hpoint] at hbrings
      refine ⟨σ.observeLookup turn.terms.transaction.val answer, ?_, ?_⟩
      · rw [System.store_observeLookup, h.store]
      · simp [System.resumeReconcile, h.sweep, hpoint, System.afterLookup, hbrings]
  | tip =>
      simp only [hpoint] at hbrings
  | search session =>
      simp only [hpoint] at hbrings
      obtain ⟨page, hpage, hfound⟩ := hbrings
      refine ⟨σ.observeBody answer (.searched turn.terms.transaction.val session.nextToken), ?_, ?_⟩
      · rw [System.store_observeBody, h.store]
      · simp [System.resumeReconcile, h.sweep, hpoint, System.afterSearch, hpage, hfound]

/-- So a turn that is brought the transfer ends with it. -/
theorem Under.answerTurn {answers : List (Answer × Clock)} (h : Under s row terms σ loop turn)
    (hbrings : System.Brings cfg t σ answers) :
    ∃ (σ' : System) (loop' : ReconcileLoop) (turn' : ReconcileTurn) (a : Answer × Clock), a ∈ answers ∧ σ'.store = s ∧ turn'.watch = row ∧ turn'.terms = terms ∧
      turn'.brings a.1 t ∧
      σ.answerTurn cfg answers = σ'.applyConfirmed cfg loop' turn' t a.2 := by
  induction answers generalizing σ loop turn with
  | nil => exact hbrings.elim
  | cons a rest ih =>
      obtain ⟨answer, clock⟩ := a
      obtain ⟨loop₁, turn₁, hsweep, hbrings⟩ := hbrings
      have heq := Option.some.inj (h.sweep.symm.trans hsweep)
      simp only [ReconcileSweep.mk.injEq, ReconcilePhase.serving.injEq] at heq
      obtain ⟨rfl, rfl⟩ := heq
      have hstep : σ.answerTurn cfg ((answer, clock) :: rest) =
          (σ.resumeReconcile cfg answer clock).answerTurn cfg rest := by
        simp [System.answerTurn, h.sweep]
      rcases hbrings with hnow | hlater
      · obtain ⟨σ', hstore, hresume⟩ := h.resume_brings hnow cfg clock
        refine ⟨σ', loop, turn, (answer, clock), List.mem_cons_self, hstore, h.watch, h.terms,
          hnow, ?_⟩
        rw [hstep, hresume]
        unfold System.applyConfirmed
        dsimp only
        split
        · exact System.answerTurn_reconciled _ _ _ _ _
        · exact System.answerTurn_reconciled _ _ _ _ _
      · have hwaits : (σ.resumeReconcile cfg answer clock).waitsForAnswer := by
          cases rest with
          | nil => exact hlater.elim
          | cons b rest =>
              obtain ⟨loop₂, turn₂, hsweep₂, -⟩ := hlater
              exact ⟨loop₂, turn₂, hsweep₂⟩
        obtain ⟨turn₂, hunder⟩ := h.resume hwaits
        obtain ⟨σ', loop', turn', a, ha, hrest⟩ := ih hunder hlater
        rw [hstep]
        exact ⟨σ', loop', turn', a, List.mem_cons_of_mem _ ha, hrest⟩

/-- The transfer a request brings is the transaction it asked for. -/
theorem ReconcileTurn.transaction_of_brings {answer : Answer} (h : turn.brings answer t) :
    t.transaction = turn.terms.transaction.val := by
  unfold brings at h
  split at h
  · obtain ⟨_, _, _, _, _, hid⟩ := lookupAssetTransfer_eq_some h
    exact hid
  · exact h.elim
  · obtain ⟨page, -, hfound⟩ := h
    exact eq_of_beq (List.find?_some (p := fun found : IndexedAssetTransfer =>
      found.transaction == turn.terms.transaction.val) hfound)

/-- A column that is there, compared with a value: the other way round. -/
theorem some_beq_some {α : Type} [BEq α] [LawfulBEq α] (a b : α) :
    (some a == some b) = (b == a) := by
  rw [Bool.eq_iff_iff, beq_iff_eq, beq_iff_eq, Option.some.injEq]
  exact eq_comm

/-- On a row that has its terms the two tests are one. -/
theorem confirmsTerms_eq {network : JsString} {evidence : SettlementEvidence}
    (hterms : row.immutableTerms? = some terms)
    (hnetwork : row.expectedServiceNetwork.map SqlText.val = some network)
    (htransaction : terms.transaction.val = evidence.transaction) :
    confirmsTerms network t terms = confirmsSettlement evidence t row := by
  obtain ⟨-, -, hnet, hpayer, hreceiver, hasset, hamount, hfirst, hlast, -⟩ :=
    WatchRow.immutableTerms?_eq_some.1 hterms
  rw [hnet] at hnetwork
  have hsame : terms.network.val = network := by simpa using hnetwork
  simp only [confirmsTerms, confirmsSettlement, hpayer, hreceiver, hasset, hamount, hfirst, hlast,
    htransaction, hsame, Option.map_some, Option.getD_some, some_beq_some, beq_self_eq_true,
    Bool.and_true]

/-- The verdict the reconciler leaves. -/
def reconcilerVerdict (s : Store) (row : WatchRow) (evidence : SettlementEvidence)
    (t : IndexedAssetTransfer) : SettlementVerdict :=
  if row.unsettled && row.reconcilable then
    if confirmsSettlement evidence t row then
      if s.boundElsewhere row evidence.transaction then .retryable else .activated (some t.round)
    else .rejected
  else row.settlementVerdict

/-- A turn of the reconciler on the row: the configured network is the one the row expects,
scheduling is open, and a row that is open is due and has a work unit left. -/
structure DueTurn (cfg : WorkerConfig) (σ : System) (row : WatchRow) (clock : Clock) : Prop where
  network : row.expectedServiceNetwork.map SqlText.val = some cfg.network
  scheduled : σ.reconciler.shutdownStarted = false
  claims : row.unsettled = true → ∀ transaction, row.expectedServiceTransaction = some transaction →
    (σ.store.claimWorkUnit clock.claim row.id.val
      (.reconciliation transaction.val row.reconciliationAttempts)).2 = .ok .claimed

/-- What `applyConfirmed` makes of the charged row. -/
theorem verdict_applyConfirmed {evidence : SettlementEvidence} {clock : Clock} {s₀ : Store}
    (hread : σ.store.getWatch row.id.val = some row.charge) (hopen : row.unsettled)
    (hbound : σ.store.boundElsewhere row.charge evidence.transaction =
      s₀.boundElsewhere row evidence.transaction)
    (hreconcilable : row.reconcilable) (hwatch : turn.watch = row) (hterms : turn.terms = terms)
    (hrow : row.immutableTerms? = some terms)
    (hnetwork : row.expectedServiceNetwork.map SqlText.val = some cfg.network)
    (htransaction : terms.transaction.val = evidence.transaction)
    (hfound : t.transaction = terms.transaction.val) (hnow : validDate clock.record) :
    ((σ.applyConfirmed cfg loop turn t clock).store.getWatch row.id.val).map
      WatchRow.settlementVerdict = some (reconcilerVerdict s₀ row evidence t) := by
  have hopen' : row.charge.unsettled = true := hopen
  unfold System.applyConfirmed
  dsimp only
  rw [hterms, confirmsTerms_eq hrow hnetwork htransaction]
  cases hconfirms : confirmsSettlement evidence t row with
  | false =>
      rw [if_neg (by simp)]
      simp only [System.reconciled, System.setReconcileSweep_store, System.perform_store,
        System.setAbsenceSession_store, Store.apply, hwatch]
      rw [Store.getWatch_markSettlementInvalid hread]
      simp [reconcilerVerdict, hopen, hreconcilable, hconfirms,
        (WatchRow.settling_of_unsettled hopen').1]
  | true =>
      rw [if_pos rfl]
      simp only [System.reconciled, System.setReconcileSweep_store, System.perform_store,
        System.setAbsenceSession_store, Store.apply, hwatch]
      obtain ⟨-, htx, hnet, hpayer, -⟩ := WatchRow.immutableTerms?_eq_some.1 hrow
      have hsender : t.sender = terms.payer.val := by
        simp only [confirmsSettlement, Bool.and_eq_true, hpayer, Option.map_some,
          beq_iff_eq] at hconfirms
        exact (Option.some.inj hconfirms.1.1.1.1.1.2).symm
      rw [hnet] at hnetwork
      have hsame : terms.network.val = cfg.network := by simpa using hnetwork
      have haccepts : assertSettlementEvidenceMatches row.charge
          { transaction := t.transaction, network := cfg.network, payer := some t.sender } =
            .ok () := by
        rw [assertSettlementEvidenceMatches_ok]
        simp [WatchRow.charge, differs, htx, hnet, hpayer, hfound, hsame, hsender]
      rw [Store.getWatch_activateWatch hread hopen' haccepts hnow]
      dsimp only
      rw [hfound, htransaction, hbound]
      cases hb : s₀.boundElsewhere row evidence.transaction with
      | true =>
          simp [reconcilerVerdict, hopen, hreconcilable, hconfirms, hb,
            WatchRow.verdict_of_unsettled hopen]
      | false => simp [reconcilerVerdict, hopen, hreconcilable, hconfirms, hb]

/-- A turn behind its claim: a row that cannot be reconciled is deferred, any other waits for
an answer or is left alone. -/
theorem reconcileClaimed_cases (cfg : WorkerConfig) (σ : System) (loop : ReconcileLoop)
    (number : ℕ) (row : WatchRow) (clock : Clock) (hscheduled : σ.reconciler.shutdownStarted = false)
    (hcanonical : ∀ tx, row.expectedServiceTransaction = some tx →
      isCanonicalTransactionId tx.val = true) :
    (row.immutableTerms? = none ∧
      σ.reconcileClaimed cfg loop number row clock = σ.deferred cfg loop row clock .nothing) ∨
    ∃ terms turn, row.immutableTerms? = some terms ∧
      Under σ.store row terms (σ.reconcileClaimed cfg loop number row clock) loop turn := by
  cases hterms : row.immutableTerms? with
  | none => exact Or.inl ⟨rfl, by simp [System.reconcileClaimed, hterms]⟩
  | some terms =>
      refine Or.inr ⟨terms, ?_⟩
      have htx := hcanonical _ (WatchRow.immutableTerms?_eq_some.1 hterms).2.1
      have hopen : (σ.retainAbsenceSession row.id (some row)).reconciler.shutdownStarted =
          false := by
        unfold System.retainAbsenceSession
        split
        · split
          · exact hscheduled
          · exact hscheduled
        · exact hscheduled
      have hstore := σ.store_retainAbsenceSession row.id (some row)
      have hspend : spend maxReconciliationRequests "settlement reconciliation turn" 0 =
          .ok 1 := rfl
      simp only [System.reconcileClaimed, hterms]
      split
      · rename_i session _
        simp only [System.requestSearch, System.requestReconcile, hopen, Bool.false_eq_true,
          if_false, hspend, htx, if_true]
        exact ⟨_, trivial, hstore, rfl, rfl, rfl⟩
      · simp only [System.requestLookup, System.requestReconcile, hopen, Bool.false_eq_true,
          if_false, hspend, htx, if_true]
        exact ⟨_, trivial, hstore, rfl, rfl, rfl⟩

/-- The decision of a turn behind its claim; `s₀` is the store before it. -/
theorem verdict_reconcileClaimed {evidence : SettlementEvidence} {s₀ : Store} {tx : SqlText}
    {number : ℕ} {clock : Clock} {answers : List (Answer × Clock)}
    (hread : σ.store.getWatch row.id.val = some row.charge) (hopen : row.unsettled)
    (hbound : σ.store.boundElsewhere row.charge evidence.transaction =
      s₀.boundElsewhere row evidence.transaction)
    (htx : row.expectedServiceTransaction = some tx) (hval : tx.val = evidence.transaction)
    (hcanonical : isCanonicalTransactionId evidence.transaction)
    (hnetwork : row.expectedServiceNetwork.map SqlText.val = some cfg.network)
    (hscheduled : σ.reconciler.shutdownStarted = false)
    (hclocks : ∀ a ∈ answers, validDate a.2.record)
    (hbrings : (σ.reconcileClaimed cfg loop number row clock).waitsForAnswer →
      System.Brings cfg t (σ.reconcileClaimed cfg loop number row clock) answers) :
    (((σ.reconcileClaimed cfg loop number row clock).answerTurn cfg answers).store.getWatch
      row.id.val).map WatchRow.settlementVerdict = some (reconcilerVerdict s₀ row evidence t) := by
  have hne : tx.val ≠ [] := by
    rintro hempty
    rw [← hval, hempty] at hcanonical
    simp [isCanonicalTransactionId] at hcanonical
  rcases reconcileClaimed_cases cfg σ loop number row clock hscheduled
    (fun tx' htx' => by
      cases htx.symm.trans htx'
      rw [hval]
      exact hcanonical) with ⟨hnone, hdeferred⟩ | ⟨terms, turn, hterms, hunder⟩
  · have hnot : row.reconcilable = false := by simp [WatchRow.reconcilable, hnone]
    rw [hdeferred, System.deferred, System.answerTurn_reconciled]
    simp only [System.reconciled, System.setReconcileSweep_store, System.deferWatch,
      System.perform_store, Store.apply]
    rw [Store.verdict_recordReconciliationFailure, hread]
    simp [reconcilerVerdict, hnot]
  · have hreconcilable : row.reconcilable = true := by
      simp [WatchRow.reconcilable, hterms, htx, hne]
    have hval' : terms.transaction.val = evidence.transaction := by
      have hexpected := (WatchRow.immutableTerms?_eq_some.1 hterms).2.1
      cases htx.symm.trans hexpected
      exact hval
    obtain ⟨σ', loop', turn', a, ha, hs, hwatch, hturn', hbrought, hend⟩ :=
      hunder.answerTurn (hbrings ⟨loop, turn, hunder.sweep⟩)
    have hfound := ReconcileTurn.transaction_of_brings hbrought
    rw [hend]
    exact verdict_applyConfirmed (hs ▸ hread) hopen (hs ▸ hbound) hreconcilable hwatch hturn' hterms
      hnetwork hval' (hturn' ▸ hfound) (hclocks a ha)

/-- **The decision of the reconciler.** -/
theorem verdict_reconcilerTurn {k : ℕ} {hook : SettlementHook} (h : Settled σ k hook row)
    {clock : Clock} (hdue : DueTurn cfg σ row clock) {answers : List (Answer × Clock)}
    (hclocks : ∀ a ∈ answers, validDate a.2.record)
    (hbrings : (σ.reconcileWatch cfg loop row clock).waitsForAnswer →
      System.Brings cfg t (σ.reconcileWatch cfg loop row clock) answers) :
    ((σ.reconcilerTurn cfg loop row clock answers).store.getWatch row.id.val).map
      WatchRow.settlementVerdict = some (reconcilerVerdict σ.store row hook.evidence t) := by
  obtain ⟨s₀, haccepted⟩ := h.accepted
  obtain ⟨hget, -, hexpects⟩ := Store.recordSettlementCandidate_ok haccepted
  have hid : row.id = bindText hook.watchId := Store.getWatch_id hget
  have hread : σ.store.getWatch row.id.val = some row := by rw [Store.getWatch_val hid, hget]
  unfold System.reconcilerTurn
  cases hfilter : row.expectedServiceTransaction.filter (·.val ≠ []) with
  | none =>
      have hnot : row.reconcilable = false := by
        rw [Option.filter_eq_none_iff] at hfilter
        cases htx : row.expectedServiceTransaction with
        | none => simp [WatchRow.reconcilable, htx]
        | some tx =>
            have hempty : tx.val = [] := by simpa using hfilter tx htx
            simp [WatchRow.reconcilable, htx, hempty]
      simp only [System.reconcileWatch, hfilter, System.answerTurn_reconciled]
      simp [System.reconciled, hread, reconcilerVerdict, hnot]
  | some tx =>
      obtain ⟨htx, hne⟩ := Option.filter_eq_some_iff.1 hfilter
      have hne' : tx.val ≠ [] := by simpa using hne
      have hsame : tx = bindText hook.evidence.transaction := hexpects tx htx hne'
      have hval : tx.val = hook.evidence.transaction := by
        rw [hsame, val_bindText_of_wellFormed (wellFormed_of_canonical h.canonical)]
      cases hopen : row.unsettled with
      | false =>
          have hineligible : ∀ r, σ.store.getWatch row.id.val = some r → Store.eligible
              (.reconciliation tx.val row.reconciliationAttempts) clock.claim r = false := by
            intro r hr
            cases hread.symm.trans hr
            simp [Store.eligible, hopen]
          have hkept : ∀ kind, ((σ.claimUnit kind clock.claim row.id
              (.reconciliation tx.val row.reconciliationAttempts)).store) = σ.store := by
            intro kind
            rw [System.store_claimUnit]
            rcases Store.claimWorkUnit_of_not_eligible hineligible with hcase | hcase
            · rw [hcase]
            · rw [hcase]
          rcases Store.claimWorkUnit_of_not_eligible hineligible with hcase | hcase
          · simp only [System.reconcileWatch, hfilter, hcase, System.answerTurn_reconciled]
            simp [System.reconciled, hkept, hread, reconcilerVerdict, hopen]
          · simp only [System.reconcileWatch, hfilter, hcase, System.answerTurn_reconciled]
            simp [System.reconciled, hkept, hread, reconcilerVerdict, hopen]
      | true =>
          have hclaimed := hdue.claims hopen tx htx
          obtain ⟨hcharge, r, hr, hp⟩ := Store.claimWorkUnit_claimed hclaimed
          cases hread.symm.trans hr
          have hturn : σ.reconcileWatch cfg loop row clock = (σ.claimUnit .reconciliation
              clock.claim row.id (.reconciliation tx.val row.reconciliationAttempts)).reconcileClaimed
                cfg loop σ.turns row clock := by
            simp only [System.reconcileWatch, hfilter, hclaimed]
          have hstore := σ.store_claimUnit .reconciliation clock.claim row.id
            (.reconciliation tx.val row.reconciliationAttempts)
          have hscheduled := hdue.scheduled
          rw [← σ.reconciler_claimUnit .reconciliation clock.claim row.id
            (.reconciliation tx.val row.reconciliationAttempts)] at hscheduled
          rw [hturn] at hbrings ⊢
          refine verdict_reconcileClaimed ?_ hopen ?_ htx hval h.canonical hdue.network hscheduled
            hclocks hbrings
          · have hupdated := Store.getWatch_update σ.store (f := WatchRow.charge)
              (p := Store.claimable clock.claim row.id.val
                (.reconciliation tx.val row.reconciliationAttempts)) (fun _ => rfl) row.id.val
            rw [hread, Option.map_some, if_pos hp] at hupdated
            rw [hstore, hcharge, hupdated]
          · rw [hstore, hcharge]
            exact Store.boundElsewhere_update _ rfl _

/-- **When the two paths agree.**  The hook and the turn of the reconciler decide alike on a
transfer exactly when `PathsMeet`. -/
theorem activation_paths_agree_iff {k : ℕ} {hook : SettlementHook} (h : Settled σ k hook row)
    {answer : Answer} {hookClock clock : Clock} {answers : List (Answer × Clock)}
    (hlookup : lookupAssetTransfer hook.evidence.transaction .activation answer = .ok (some t))
    (hnow : validDate hookClock.record) (hdue : DueTurn cfg σ row clock)
    (hclocks : ∀ a ∈ answers, validDate a.2.record)
    (hbrings : (σ.reconcileWatch cfg loop row clock).waitsForAnswer →
      System.Brings cfg t (σ.reconcileWatch cfg loop row clock) answers) :
    PathsAgree row (σ.resumeHook k answer hookClock)
        (σ.reconcilerTurn cfg loop row clock answers) ↔
      PathsMeet σ.store row hook.evidence t := by
  have hid : row.id = bindText hook.watchId := Store.getWatch_id h.get
  have hhook := verdict_resumeHook h hlookup hnow
  rw [← Store.getWatch_val hid] at hhook
  have hturn := verdict_reconcilerTurn h hdue hclocks hbrings
  have hmeet : hookVerdict σ.store row hook.evidence t =
      reconcilerVerdict σ.store row hook.evidence t ↔ PathsMeet σ.store row hook.evidence t := by
    cases hopen : row.unsettled with
    | false => simp [hookVerdict, reconcilerVerdict, PathsMeet, hopen]
    | true =>
        have hretryable := WatchRow.verdict_of_unsettled hopen
        cases hreconcilable : row.reconcilable <;>
          cases hconfirms : confirmsSettlement hook.evidence t row <;>
          cases haccepts : (assertSettlementEvidenceMatches row hook.evidence).isOk <;>
          cases hbound : σ.store.boundElsewhere row hook.evidence.transaction <;>
          simp [hookVerdict, reconcilerVerdict, PathsMeet, hopen, hretryable, hreconcilable,
            hconfirms, haccepts, hbound]
  rw [← hmeet]
  constructor
  · intro hagree
    have hsame := hagree.same
    rw [hhook, hturn] at hsame
    exact Option.some.inj hsame
  · intro hsame
    refine ⟨by rw [hhook, hturn, hsame], fun hnone hspared => ?_⟩
    have hkept : reconcilerVerdict σ.store row hook.evidence t = row.settlementVerdict := by
      simp [reconcilerVerdict, WatchRow.reconcilable, hnone]
    rw [hhook, hturn, hsame, hkept]
    simp [hspared]

end

/-! ## Samples -/

/-- The settlement of the sample watch, with a canonical id. -/
def canonicalEvidence : SettlementEvidence :=
  { sampleEvidence with transaction := List.replicate 52 65 }

/-- The confirmed service payment. -/
def servicePayment : IndexedAssetTransfer where
  transaction := canonicalEvidence.transaction
  sender := js "PAYER"
  receiver := js "SERVICE"
  assetId := 31566704
  atomicAmount := js "100000"
  round := 10

/-- A lookup answered with it. -/
def servicePaymentBody : Json :=
  .obj [(js "transaction", .obj [(js "id", .str servicePayment.transaction),
    (js "tx-type", .str (js "axfer")), (js "sender", .str servicePayment.sender),
    (js "confirmed-round", .num servicePayment.round), (js "round-time", .num 1000),
    (js "asset-transfer-transaction", .obj [(js "receiver", .str servicePayment.receiver),
      (js "asset-id", .num servicePayment.assetId), (js "amount", .num 100000)])])]

/-- The sample watch is prepared. -/
def preparedSystem (intent : Option SettlementIntent) : System :=
  System.run sampleWorker (.boot (.empty .default))
    [.call ⟨.prepareWatch 0 (js "w") sampleSpec intent, rfl⟩]

/-- And its payment settles. -/
def settledSystem (intent : Option SettlementIntent) : System :=
  (preparedSystem intent).afterSettle (js "w") canonicalEvidence

/-- Its row. -/
def settledRow (intent : Option SettlementIntent) : WatchRow :=
  (preparedRow .default (js "w") sampleSpec intent 0 1800000).recordCandidate canonicalEvidence

/-- The sample intent, with a canonical id. -/
def canonicalIntent : SettlementIntent :=
  { sampleIntent with expectedTransaction := canonicalEvidence.transaction }

def idleLoop : ReconcileLoop := ⟨0, [], .zero⟩

theorem lookup_servicePayment (purpose : IndexerRequestPurpose) :
    lookupAssetTransfer canonicalEvidence.transaction purpose (.body servicePaymentBody) =
      .ok (some servicePayment) := by
  rfl

theorem settled_sample {intent : Option SettlementIntent}
    (hrow : ((preparedSystem intent).store.recordSettlementCandidate (js "w")
      canonicalEvidence).2 = .ok (settledRow intent)) (hnext : (preparedSystem intent).nextHook = 0) :
    Settled (settledSystem intent) 0 ⟨js "w", canonicalEvidence⟩ (settledRow intent) := by
  have hsettled := settled_afterSettle hrow (by decide)
  rw [hnext] at hsettled
  exact hsettled

theorem activation_paths_agree_iff_complete :
    PathsAgree (settledRow (some canonicalIntent))
        ((settledSystem (some canonicalIntent)).resumeHook 0 (.body servicePaymentBody) (.at 1000))
        ((settledSystem (some canonicalIntent)).reconcilerTurn sampleWorker idleLoop
          (settledRow (some canonicalIntent)) (.at 1000)
          [(.body servicePaymentBody, .at 1000)]) ↔
      PathsMeet (settledSystem (some canonicalIntent)).store (settledRow (some canonicalIntent))
        canonicalEvidence servicePayment := by
  refine activation_paths_agree_iff (settled_sample rfl rfl) (lookup_servicePayment _) (by decide)
    ⟨by decide, rfl, ?_⟩ (by decide) fun _ => ⟨idleLoop, _, rfl, Or.inl rfl⟩
  rintro - transaction htransaction
  cases htransaction
  rfl

/-- **The two paths disagree on a row without purchase terms.**  The watch was prepared with
no settlement intent, so its evidence version is 0; its payment is confirmed.  The hook
gives the row up, where the reconciler defers it. -/
theorem paths_disagree :
    (settledRow none).immutableTerms? = none ∧
      Settled (settledSystem none) 0 ⟨js "w", canonicalEvidence⟩ (settledRow none) ∧
      DueTurn sampleWorker (settledSystem none) (settledRow none) (.at 1000) ∧
      lookupAssetTransfer canonicalEvidence.transaction .activation (.body servicePaymentBody) =
        .ok (some servicePayment) ∧
      ¬ ((settledSystem none).reconcileWatch sampleWorker idleLoop (settledRow none)
        (.at 1000)).waitsForAnswer ∧
      ¬ PathsAgree (settledRow none)
        ((settledSystem none).resumeHook 0 (.body servicePaymentBody) (.at 1000))
        ((settledSystem none).reconcilerTurn sampleWorker idleLoop (settledRow none) (.at 1000)
          []) := by
  refine ⟨by decide, settled_sample rfl rfl, ⟨by decide, rfl, ?_⟩, lookup_servicePayment _, ?_, ?_⟩
  · rintro - transaction htransaction
    cases htransaction
    rfl
  · exact System.not_waitsForAnswer_reconciled _ _ _ _
  · intro hagree
    have hsame : (some SettlementVerdict.rejected) = some .retryable := hagree.same
    cases hsame

end RoundWatch
