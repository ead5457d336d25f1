import RoundWatch.Foundation.Base32
import RoundWatch.Indexer.Parse
import RoundWatch.Store.Evidence

/-!
# The refund ledger

A ledger row is never touched again, and its transaction is looked up by its text.  The
text is only checked against the alphabet, so one transaction has sixteen spellings.

* `transactionId` — the 32 bytes a transaction text stands for, as a number;
* `Recorded` — what every row says, and that rows have transactions of their own;
* `refund_recorded_twice` — two spellings of one transaction are two rows;
* `refund_ledger_of_canonical_run` — where every accepted text is canonical and comes back
  as it was bound, the ledger has each transaction once.
-/

namespace RoundWatch

open JsText

/-- The 32 bytes a transaction text stands for, as a number. -/
def transactionId (transaction : JsString) : Option ℕ :=
  if transaction.length = 52 then Base32.decode? transaction else none

theorem base32_alphabet {u : UInt16} :
    (Base32.digit? u).isSome ↔ ((65 ≤ u && u ≤ 90) || (50 ≤ u && u ≤ 55)) = true := by
  rw [Base32.digit?_isSome]
  simp [UInt16.le_iff_toNat_le]

/-- The accepted texts are the ones that stand for some bytes. -/
theorem transactionId_isSome {transaction : JsString} :
    (transactionId transaction).isSome ↔ Store.isRefundTransaction transaction = true := by
  simp only [Store.isRefundTransaction, Bool.and_eq_true, beq_iff_eq, List.all_eq_true,
    transactionId]
  split
  · rename_i hlength
    rw [Base32.decode?, Option.isSome_map, Base32.value?_isSome]
    simp only [base32_alphabet, hlength, true_and]
  · rename_i hlength
    simp [hlength]

theorem isRefundTransaction_of_canonical {transaction : JsString}
    (h : isCanonicalTransactionId transaction = true) :
    Store.isRefundTransaction transaction = true := by
  simp only [isCanonicalTransactionId, Bool.and_eq_true] at h
  simp only [Store.isRefundTransaction, Bool.and_eq_true]
  exact h.1

/-- The last symbol of a canonical id carries one bit. -/
theorem base32_of_canonical {transaction : JsString}
    (h : isCanonicalTransactionId transaction = true) : Base32.Canonical transaction := by
  simp only [isCanonicalTransactionId, Bool.and_eq_true, beq_iff_eq] at h
  obtain ⟨⟨hlength, -⟩, hlast⟩ := h
  intro n hn
  have hspare : Base32.spareBits transaction = 4 := by rw [Base32.spareBits, hlength]
  rw [hspare]
  rcases List.eq_nil_or_concat transaction with rfl | ⟨front, u, rfl⟩
  · cases hlength
  · rw [List.concat_eq_append] at hn hlast
    rw [Base32.value?_concat] at hn
    obtain ⟨m, -, hm⟩ := Option.bind_eq_some_iff.mp hn
    obtain ⟨d, hd, rfl⟩ := Option.map_eq_some_iff.mp hm
    have hbit : u = 65 ∨ u = 81 := by simpa using hlast
    rcases hbit with rfl | rfl
    · have hzero : d = 0 := (Option.some.inj hd).symm
      omega
    · have hsixteen : d = 16 := (Option.some.inj hd).symm
      omega

/-- **A transaction has one canonical text.** -/
theorem transactionId_inj {t t' : JsString} (h : isCanonicalTransactionId t = true)
    (h' : isCanonicalTransactionId t' = true) (heq : transactionId t = transactionId t') :
    t = t' := by
  have hlength : ∀ s, isCanonicalTransactionId s = true → s.length = 52 := fun s hs => by
    simp only [isCanonicalTransactionId, Bool.and_eq_true, beq_iff_eq] at hs
    exact hs.1.1
  obtain ⟨n, hn⟩ := Option.isSome_iff_exists.1
    (transactionId_isSome.2 (isRefundTransaction_of_canonical h))
  have hn' := heq ▸ hn
  rw [transactionId, if_pos (hlength t h)] at hn
  rw [transactionId, if_pos (hlength t' h')] at hn'
  exact Base32.decode?_inj ((hlength t h).trans (hlength t' h').symm) (base32_of_canonical h)
    (base32_of_canonical h') hn hn'

/-! ## Rows and their evidence -/

namespace RefundRow

/-- The evidence a row holds. -/
def evidence (row : RefundRow) : RefundEvidence :=
  ⟨row.transaction.val, row.network.val, row.atomicAmount.val, row.reason.map SqlText.val⟩

/-- The row has the watch, the network, the amount and the reason. -/
def Agrees (row : RefundRow) (watchId : JsString) (evidence : RefundEvidence) : Prop :=
  row.watchId.val = watchId ∧ row.network.val = evidence.network ∧
    row.atomicAmount.val = evidence.atomicAmount ∧
    row.reason.map SqlText.val = evidence.reason

end RefundRow

/-- Evidence whose transaction is spelled canonically, and whose other texts hold neither an
unpaired surrogate nor U+0000. -/
structure CanonicalRefund (watchId : JsString) (evidence : RefundEvidence) : Prop where
  transaction : isCanonicalTransactionId evidence.transaction = true
  watch : TextRead.untilNul.Keeps watchId
  reason : ∀ reason, evidence.reason = some reason → TextRead.untilNul.Keeps reason

/-- Evidence that is canonical if it is accepted at all. -/
def AcceptedCanonical (watchId : JsString) (evidence : RefundEvidence) : Prop :=
  Store.assertRefundEvidence evidence = .ok () → CanonicalRefund watchId evidence

/-- The refunds of a step are canonical. -/
def StoreOp.canonical : StoreOp → Prop
  | .recordRefundEvidence _ watchId evidence => AcceptedCanonical watchId evidence
  | _ => True

namespace Store

/-- The row `recordRefundEvidence` inserts. -/
def refundRow (s : Store) (now : ℤ) (watchId : JsString) (evidence : RefundEvidence) :
    RefundRow where
  id := s.refunds.length + 1
  watchId := s.config.columnText watchId
  transaction := bindText evidence.transaction
  network := s.config.columnText evidence.network
  atomicAmount := s.config.columnText evidence.atomicAmount
  reason := evidence.reason.map s.config.columnText
  recordedAt := now

theorem assertRefundEvidence_ok {evidence : RefundEvidence} :
    assertRefundEvidence evidence = .ok () ↔
      isRefundTransaction evidence.transaction = true ∧
      evidence.network ∈ supportedRefundNetworks ∧
      (isPositiveDecimal evidence.atomicAmount = true ∧
        (digitsValue? 10 0 evidence.atomicAmount).all (maxUint64 < ·) = false) ∧
      (evidence.reason.any fun reason =>
        decide (reason.length < 1) || decide (256 < utf8ByteLength reason)) = false := by
  rw [assertRefundEvidence]
  split
  next h => simp [h]
  next htransaction =>
    split
    next h => simp [h]
    next hnetwork =>
      split
      next h => rcases h with h | h <;> simp [h]
      next hamount =>
        rw [not_or, Bool.not_eq_false, Bool.not_eq_true] at hamount
        split
        next h =>
          rw [h]
          simp
        next hreason =>
          exact iff_of_true rfl ⟨by simpa using htransaction, not_not.mp hnetwork, hamount,
            by simpa using hreason⟩

/-- **The outcomes of `recordRefundEvidence`.**  It refuses and changes nothing, returns the
row of the transaction, which agrees, or appends a row for a transaction that has none. -/
theorem recordRefundEvidence_cases (s : Store) (now : ℤ) (watchId : JsString)
    (evidence : RefundEvidence) :
    (∃ e, s.recordRefundEvidence now watchId evidence = (s, .error e)) ∨
    (∃ row ∈ s.refunds, assertRefundEvidence evidence = .ok () ∧
      row.transaction = bindText evidence.transaction ∧ row.Agrees watchId evidence ∧
      s.recordRefundEvidence now watchId evidence = (s, .ok row)) ∨
    ((s.getWatch watchId).isSome ∧ assertRefundEvidence evidence = .ok () ∧
      (∀ row ∈ s.refunds, row.transaction ≠ bindText evidence.transaction) ∧
      s.recordRefundEvidence now watchId evidence =
        ({ s with refunds := s.refunds ++ [s.refundRow now watchId evidence] },
          .ok (s.refundRow now watchId evidence))) := by
  rw [recordRefundEvidence]
  cases hwatch : s.getWatch watchId with
  | none => exact Or.inl ⟨_, rfl⟩
  | some watch =>
      dsimp only
      cases hvalid : assertRefundEvidence evidence with
      | error e => exact Or.inl ⟨e, rfl⟩
      | ok u =>
          dsimp only
          cases hfind : s.refunds.find? fun refund =>
              refund.transaction == bindText evidence.transaction with
          | some row =>
              dsimp only
              split
              · exact Or.inl ⟨_, rfl⟩
              · rename_i hsame
                simp only [not_or, not_not] at hsame
                exact Or.inr (Or.inl ⟨row, List.mem_of_find?_eq_some hfind, rfl,
                  by simpa using List.find?_some hfind, hsame, rfl⟩)
          | none =>
              dsimp only
              cases hclock : currentTime now with
              | error e => exact Or.inl ⟨e, rfl⟩
              | ok t =>
                  obtain ⟨rfl, -⟩ := currentTime_eq hclock
                  refine Or.inr (Or.inr ⟨rfl, rfl, fun row hrow heq => ?_, rfl⟩)
                  exact List.find?_eq_none.mp hfind row hrow (by simpa using heq)

/-- Only `recordRefundEvidence` writes the ledger. -/
theorem refunds_apply {s : Store} {op : StoreOp}
    (hop : ∀ now watchId evidence, op ≠ .recordRefundEvidence now watchId evidence) :
    (s.apply op).refunds = s.refunds := by
  cases op with
  | prepareWatch now id spec intent =>
      rcases s.prepareWatch_cases now id spec intent with ⟨e, he⟩ | ⟨w, -, -, -, hw⟩ |
        ⟨s', expiresAt, hcreated, hok⟩
      · simp only [apply, he]
      · simp only [apply, hw]
      · simp only [apply, hok, hcreated.refunds]
  | recordSettlementCandidate id evidence =>
      simp only [apply, recordSettlementCandidate]
      repeat' split
      all_goals first | rfl | exact (tryUpdate_ok (by assumption)).2.2
  | activateWatch now id evidence round =>
      simp only [apply, activateWatch]
      repeat' split
      all_goals first | rfl | exact (tryUpdate_ok (by assumption)).2.2
  | claimWorkUnit now id claim =>
      show (s.claimWorkUnit now id claim).1.refunds = s.refunds
      rcases s.claimWorkUnit_cases now id claim with h | ⟨_, _, _, h⟩ | ⟨_, _, _, h⟩ | h <;>
        rw [h] <;> rfl
  | recordPollingFailure now id failure =>
      simp only [apply, recordPollingFailure]
      repeat' split
      all_goals rfl
  | advanceScanRound id expectedRound round =>
      simp only [apply, advanceScanRound]
      split <;> rfl
  | recordReconciliationFailure id nextAttemptAt =>
      simp only [apply, recordReconciliationFailure]
      split <;> rfl
  | recordRefundEvidence now watchId evidence => exact absurd rfl (hop now watchId evidence)
  | _ => rfl

/-- **The ledger is append-only.** -/
theorem refunds_apply_append (s : Store) (op : StoreOp) : s.refunds <+: (s.apply op).refunds := by
  by_cases hop : ∃ now watchId evidence, op = .recordRefundEvidence now watchId evidence
  · obtain ⟨now, watchId, evidence, rfl⟩ := hop
    rw [apply]
    rcases s.recordRefundEvidence_cases now watchId evidence with ⟨e, he⟩ | ⟨row, -, -, -, -, hrow⟩ |
      ⟨-, -, -, hnew⟩
    · exact he ▸ List.prefix_refl _
    · exact hrow ▸ List.prefix_refl _
    · rw [hnew]
      exact List.prefix_append _ _
  · have hsame := refunds_apply (s := s) fun now watchId evidence heq =>
      hop ⟨now, watchId, evidence, heq⟩
    exact hsame ▸ List.prefix_refl _

theorem refunds_run_append (s : Store) (ops : List StoreOp) :
    s.refunds <+: (s.run ops).refunds :=
  Runs.run_relation (R := fun s s' : Store => s.refunds <+: s'.refunds)
    (fun _ => List.prefix_refl _) List.IsPrefix.trans refunds_apply_append s ops

/-- A watch is not taken away. -/
theorem getWatch_apply_isSome {s : Store} {id : JsString} (h : (s.getWatch id).isSome)
    (op : StoreOp) : ((s.apply op).getWatch id).isSome := by
  obtain ⟨r, hr⟩ := Option.isSome_iff_exists.1 h
  obtain ⟨r', hr', heq⟩ := exists_apply_of_mem (getWatch_mem hr) op
  have hid : r'.id = bindText id := by
    rcases heq with rfl | hchange
    · exact getWatch_id hr
    · exact hchange.sameWatch.id.trans (getWatch_id hr)
  rw [getWatch_of_mem hr' hid]
  rfl

/-! ## The ledger of a canonical run -/

theorem wellFormed_of_isRefundTransaction {transaction : JsString}
    (h : isRefundTransaction transaction = true) : WellFormed transaction := by
  simp only [isRefundTransaction, Bool.and_eq_true, List.all_eq_true] at h
  refine wellFormed_of_plain fun u hu => ?_
  have hlow : u ≤ 90 := by
    have hunit := h.2 u hu
    simp only [Bool.or_eq_true, Bool.and_eq_true, decide_eq_true_eq] at hunit
    rcases hunit with hunit | hunit
    · exact hunit.2
    · exact UInt16.le_trans hunit.2 (by decide)
  exact Nat.lt_of_le_of_lt hlow (by decide)

theorem keeps_of_supportedRefundNetworks {network : JsString}
    (h : network ∈ supportedRefundNetworks) : TextRead.untilNul.Keeps network := by
  simp only [supportedRefundNetworks, List.mem_cons, List.not_mem_nil, or_false] at h
  rcases h with rfl | rfl <;> decide

/-- A row that was inserted for canonical evidence holds it as it was given. -/
theorem refundRow_evidence (s : Store) (now : ℤ) {watchId : JsString}
    {evidence : RefundEvidence} (hvalid : assertRefundEvidence evidence = .ok ())
    (hcanonical : CanonicalRefund watchId evidence) :
    (s.refundRow now watchId evidence).evidence = evidence ∧
      (s.refundRow now watchId evidence).watchId.val = watchId := by
  obtain ⟨htransaction, hnetwork, ⟨hamount, -⟩, -⟩ := assertRefundEvidence_ok.1 hvalid
  have hreason : (evidence.reason.map s.config.columnText).map SqlText.val = evidence.reason := by
    cases h : evidence.reason with
    | none => rfl
    | some reason =>
        exact congrArg some (StoreConfig.val_columnText.2 ((hcanonical.reason reason h).all _))
  refine ⟨?_, StoreConfig.val_columnText.2 (hcanonical.watch.all _)⟩
  rw [RefundRow.evidence, refundRow]
  dsimp only
  rw [val_bindText_of_wellFormed (wellFormed_of_isRefundTransaction htransaction),
    StoreConfig.val_columnText.2 ((keeps_of_supportedRefundNetworks hnetwork).all _),
    StoreConfig.val_columnText.2 (keeps_of_isPositiveDecimal _ hamount), hreason]

/-- Every row has a transaction of its own, spelled canonically, and holds valid evidence
for a watch that is there. -/
structure Recorded (s : Store) : Prop where
  transactions : Table.UniqueOn (fun row => some row.transaction) s.refunds
  canonical : ∀ row ∈ s.refunds, isCanonicalTransactionId row.transaction.val = true
  watch : ∀ row ∈ s.refunds, (s.getWatch row.watchId.val).isSome
  valid : ∀ row ∈ s.refunds, assertRefundEvidence row.evidence = .ok ()

theorem recorded_empty (config : StoreConfig) : Recorded (Store.empty config) where
  transactions := Table.uniqueOn_nil _
  canonical row hrow := by cases hrow
  watch row hrow := by cases hrow
  valid row hrow := by cases hrow

theorem recorded_refundRow {s : Store} (h : Recorded s) {now : ℤ} {watchId : JsString}
    {evidence : RefundEvidence} (hcanonical : CanonicalRefund watchId evidence)
    (hwatch : (s.getWatch watchId).isSome) (hvalid : assertRefundEvidence evidence = .ok ())
    (hnew : ∀ row ∈ s.refunds, row.transaction ≠ bindText evidence.transaction) :
    Recorded { s with refunds := s.refunds ++ [s.refundRow now watchId evidence] } := by
  obtain ⟨hevidence, hid⟩ := refundRow_evidence s now hvalid hcanonical
  have hrows : ∀ row ∈ s.refunds ++ [s.refundRow now watchId evidence],
      row ∈ s.refunds ∨ row = s.refundRow now watchId evidence := fun row hrow => by
    rwa [List.mem_append, List.mem_singleton] at hrow
  refine ⟨?_, fun row hrow => ?_, fun row hrow => ?_, fun row hrow => ?_⟩
  · rw [Table.UniqueOn, List.filterMap_append, List.nodup_append]
    refine ⟨h.transactions, List.nodup_singleton _, fun t ht t' ht' => ?_⟩
    obtain ⟨row, hrow, hkey⟩ := List.mem_filterMap.mp ht
    obtain rfl := Option.some.inj hkey
    rw [List.mem_singleton.mp ht']
    exact hnew row hrow
  · rcases hrows row hrow with hrow | rfl
    · exact h.canonical row hrow
    · have htext : (s.refundRow now watchId evidence).transaction.val = evidence.transaction :=
        congrArg RefundEvidence.transaction hevidence
      rw [htext]
      exact hcanonical.transaction
  · rcases hrows row hrow with hrow | rfl
    · exact h.watch row hrow
    · rw [hid]
      exact hwatch
  · rcases hrows row hrow with hrow | rfl
    · exact h.valid row hrow
    · rw [hevidence]
      exact hvalid

/-- **The step lemma.** -/
theorem recorded_apply {s : Store} (h : Recorded s) {op : StoreOp} (hop : op.canonical) :
    Recorded (s.apply op) := by
  by_cases hrefund : ∃ now watchId evidence, op = .recordRefundEvidence now watchId evidence
  · obtain ⟨now, watchId, evidence, rfl⟩ := hrefund
    rw [apply]
    rcases s.recordRefundEvidence_cases now watchId evidence with ⟨e, he⟩ | ⟨row, -, -, -, -, hrow⟩ |
      ⟨hwatch, hvalid, hnew, heq⟩
    · rw [he]
      exact h
    · rw [hrow]
      exact h
    · rw [heq]
      exact recorded_refundRow h (hop hvalid) hwatch hvalid hnew
  · have hsame := refunds_apply (s := s) fun now watchId evidence heq =>
      hrefund ⟨now, watchId, evidence, heq⟩
    constructor <;> rw [hsame]
    · exact h.transactions
    · exact h.canonical
    · exact fun row hrow => getWatch_apply_isSome (h.watch row hrow) op
    · exact h.valid

/-- **The run lemma.** -/
theorem recorded_run (config : StoreConfig) {ops : List StoreOp}
    (hops : ∀ op ∈ ops, op.canonical) : Recorded ((Store.empty config).run ops) :=
  Runs.run_invariant (I := Recorded) (fun _ _ hop h => recorded_apply h hop)
    (Runs.admissible_of_forall (p := StoreOp.canonical) hops) (recorded_empty config)

/-- The text of a transaction that is in the ledger is the row's. -/
theorem Recorded.text_eq {s : Store} (h : Recorded s) {row : RefundRow} (hrow : row ∈ s.refunds)
    {watchId : JsString} {evidence : RefundEvidence}
    (hcanonical : CanonicalRefund watchId evidence)
    (hsame : transactionId evidence.transaction = transactionId row.transaction.val) :
    evidence.transaction = row.transaction.val :=
  transactionId_inj hcanonical.transaction (h.canonical row hrow) hsame

/-- Evidence for the transaction of a row, with the other columns of the row, is accepted. -/
theorem Recorded.accepts {s : Store} (h : Recorded s) {row : RefundRow} (hrow : row ∈ s.refunds)
    {watchId : JsString} {evidence : RefundEvidence} (hagrees : row.Agrees watchId evidence)
    (hsame : transactionId evidence.transaction = transactionId row.transaction.val) :
    assertRefundEvidence evidence = .ok () := by
  obtain ⟨-, hnetwork, hamount, hreason⟩ := hagrees
  obtain ⟨-, hrowNetwork, hrowAmount, hrowReason⟩ := assertRefundEvidence_ok.1 (h.valid row hrow)
  refine assertRefundEvidence_ok.2 ⟨?_, hnetwork ▸ hrowNetwork, hamount ▸ hrowAmount,
    hreason ▸ hrowReason⟩
  rw [← transactionId_isSome, hsame, transactionId_isSome]
  exact isRefundTransaction_of_canonical (h.canonical row hrow)

/-- **Resubmitting a refund.**  Equal evidence is answered with the row. -/
theorem Recorded.resubmit {s : Store} (h : Recorded s) {row : RefundRow}
    (hrow : row ∈ s.refunds) {watchId : JsString} {evidence : RefundEvidence}
    (hcanonical : AcceptedCanonical watchId evidence)
    (hsame : transactionId evidence.transaction = transactionId row.transaction.val)
    (hagrees : row.Agrees watchId evidence) (now : ℤ) :
    s.recordRefundEvidence now watchId evidence = (s, .ok row) := by
  have htext := h.text_eq hrow (hcanonical (h.accepts hrow hagrees hsame)) hsame
  obtain ⟨rfl, hnetwork, hamount, hreason⟩ := hagrees
  have hevidence : evidence = row.evidence := by
    cases evidence
    simp only at htext hnetwork hamount hreason
    simp [RefundRow.evidence, htext, ← hnetwork, ← hamount, ← hreason]
  obtain ⟨watch, hwatch⟩ := Option.isSome_iff_exists.1 (h.watch row hrow)
  have hvalid := h.valid row hrow
  have hfind : s.refunds.find? (fun refund => refund.transaction == bindText evidence.transaction)
      = some row :=
    h.transactions.find?_eq hrow rfl fun row' => by simp [htext]
  rw [recordRefundEvidence, hwatch]
  dsimp only
  rw [hevidence, hvalid]
  dsimp only
  rw [← hevidence, hfind]
  simp [hnetwork, hamount, hreason]

/-- Evidence that differs is refused. -/
theorem Recorded.conflict {s : Store} (h : Recorded s) {row : RefundRow}
    (hrow : row ∈ s.refunds) {watchId : JsString} {evidence : RefundEvidence}
    (hcanonical : AcceptedCanonical watchId evidence)
    (hsame : transactionId evidence.transaction = transactionId row.transaction.val)
    (hdiffers : ¬ row.Agrees watchId evidence) (now : ℤ) :
    (s.recordRefundEvidence now watchId evidence).1 = s ∧
      ∃ e, (s.recordRefundEvidence now watchId evidence).2 = .error e := by
  have hkey : assertRefundEvidence evidence = .ok () →
      row.transaction = bindText evidence.transaction := fun hvalid => by
    rw [h.text_eq hrow (hcanonical hvalid) hsame, bindText_val]
  rcases s.recordRefundEvidence_cases now watchId evidence with ⟨e, he⟩ |
    ⟨row', hrow', hvalid, hkey', hagrees, -⟩ | ⟨-, hvalid, hnew, -⟩
  · rw [he]
    exact ⟨rfl, e, rfl⟩
  · have hsame : row' = row :=
      h.transactions.eq_of_key hrow' hrow (congrArg some hkey') (congrArg some (hkey hvalid))
    exact absurd (hsame ▸ hagrees) hdiffers
  · exact absurd (hkey hvalid) (hnew row hrow)

/-- Rows with texts of their own have transactions of their own. -/
theorem Recorded.nodup {s : Store} (h : Recorded s) :
    (s.refunds.map fun row => transactionId row.transaction.val).Nodup := by
  have htexts : (s.refunds.map RefundRow.transaction).Nodup := by
    rw [← List.filterMap_eq_map]
    exact h.transactions
  refine List.Nodup.map_on (fun row hrow row' hrow' heq => ?_) htexts.of_map
  have htext := transactionId_inj (h.canonical row hrow) (h.canonical row' hrow') heq
  exact h.transactions.eq_of_key hrow hrow' rfl (congrArg some (SqlText.ext htext.symm))

/-- **The refund ledger.**  Over any history on a store that starts empty and in which every
refund that is accepted is spelled canonically, with a watch and a reason that come back as
they were bound:

* no two rows stand for one transaction;
* no row ever changes or goes away;
* evidence for a transaction in the ledger is answered with its row if it is equal, and is
  refused with nothing changed if it differs;
* a row that is returned holds the evidence as it was given. -/
theorem refund_ledger_of_canonical_run (config : StoreConfig) (ops : List StoreOp)
    (hops : ∀ op ∈ ops, op.canonical) :
    let s := (Store.empty config).run ops
    (s.refunds.map fun row => transactionId row.transaction.val).Nodup ∧
    (∀ later, s.refunds <+: (s.run later).refunds) ∧
    (∀ row ∈ s.refunds, ∀ now watchId evidence, AcceptedCanonical watchId evidence →
      transactionId evidence.transaction = transactionId row.transaction.val →
      (row.Agrees watchId evidence → s.recordRefundEvidence now watchId evidence = (s, .ok row)) ∧
      (¬ row.Agrees watchId evidence → (s.recordRefundEvidence now watchId evidence).1 = s ∧
        ∃ e, (s.recordRefundEvidence now watchId evidence).2 = .error e)) ∧
    ∀ now watchId evidence row, AcceptedCanonical watchId evidence →
      (s.recordRefundEvidence now watchId evidence).2 = .ok row →
      row ∈ (s.recordRefundEvidence now watchId evidence).1.refunds ∧
        row.Agrees watchId evidence ∧ row.transaction.val = evidence.transaction := by
  intro s
  have hrecorded : Recorded s := recorded_run config hops
  refine ⟨hrecorded.nodup, s.refunds_run_append, fun row hrow now watchId evidence hcanonical
    hsame => ?_, fun now watchId evidence row hcanonical hok => ?_⟩
  · exact ⟨fun hagrees => hrecorded.resubmit hrow hcanonical hsame hagrees now,
      fun hdiffers => hrecorded.conflict hrow hcanonical hsame hdiffers now⟩
  · rcases s.recordRefundEvidence_cases now watchId evidence with ⟨e, he⟩ |
      ⟨row', hrow', hvalid, hkey, hagrees, heq⟩ | ⟨-, hvalid, -, heq⟩
    · rw [he] at hok
      cases hok
    · rw [heq] at hok
      cases hok
      have htransaction := (assertRefundEvidence_ok.1 hvalid).1
      rw [heq]
      refine ⟨hrow', hagrees, ?_⟩
      rw [hkey, val_bindText_of_wellFormed (wellFormed_of_isRefundTransaction htransaction)]
    · rw [heq] at hok
      cases hok
      obtain ⟨hevidence, hid⟩ := refundRow_evidence s now hvalid (hcanonical hvalid)
      rw [heq]
      refine ⟨List.mem_append_right _ (List.mem_singleton_self _), ⟨hid, ?_, ?_, ?_⟩, ?_⟩
      · exact congrArg RefundEvidence.network hevidence
      · exact congrArg RefundEvidence.atomicAmount hevidence
      · exact congrArg RefundEvidence.reason hevidence
      · exact congrArg RefundEvidence.transaction hevidence

/-- A transaction of which all bytes are zero, in its canonical spelling. -/
def zeroTransaction : JsString := List.replicate 52 65

/-- Another spelling of it: the last symbol is a `B`. -/
def zeroTransaction' : JsString := List.replicate 51 65 ++ [66]

/-- A refund of a watch. -/
def sampleRefund (transaction : JsString) : RefundEvidence where
  transaction := transaction
  network := js "algorand:SGO1GKSzyE7IEPItTxCByw9x8FmnrCDexi9/cOUJOiI="
  atomicAmount := js "100000"
  reason := none

/-- A transaction whose last bit is set. -/
def oneTransaction : JsString := List.replicate 51 65 ++ [81]

/-- Two refunds of a watch, one call without a transaction, and one refund once more. -/
def refundCalls : List StoreOp :=
  [.prepareWatch 0 (js "w") sampleSpec (some sampleIntent),
    .recordRefundEvidence 1 (js "w") (sampleRefund zeroTransaction),
    .recordRefundEvidence 2 (js "w") (sampleRefund (js "unknown")),
    .recordRefundEvidence 3 (js "w")
      { sampleRefund oneTransaction with reason := some (js "late") },
    .recordRefundEvidence 4 (js "w") (sampleRefund zeroTransaction)]

/-- The row of a refund of that watch. -/
def refundOf (id : ℕ) (recordedAt : ℤ) (evidence : RefundEvidence) : RefundRow where
  id := id
  watchId := bindText (js "w")
  transaction := bindText evidence.transaction
  network := bindText evidence.network
  atomicAmount := bindText evidence.atomicAmount
  reason := evidence.reason.map bindText
  recordedAt := recordedAt

theorem canonical_refundCalls : ∀ op ∈ refundCalls, op.canonical := by
  intro op hop
  simp only [refundCalls, List.mem_cons, List.not_mem_nil, or_false] at hop
  rcases hop with rfl | rfl | rfl | rfl | rfl
  · trivial
  · exact fun _ => ⟨by decide, by decide, nofun⟩
  · intro hvalid
    exact absurd (assertRefundEvidence_ok.1 hvalid).1 (by decide)
  · refine fun _ => ⟨by decide, by decide, fun reason hreason => ?_⟩
    obtain rfl := Option.some.inj hreason
    decide
  · exact fun _ => ⟨by decide, by decide, nofun⟩

theorem refund_ledger_of_canonical_run_once :
    let s := (Store.empty .default).run refundCalls
    s.refunds.length = 2 ∧
      (s.refunds.map fun row => transactionId row.transaction.val).Nodup ∧
      s.recordRefundEvidence 5 (js "w") (sampleRefund zeroTransaction) =
        (s, .ok (refundOf 1 1 (sampleRefund zeroTransaction))) ∧
      (s.recordRefundEvidence 5 (js "w") (sampleRefund oneTransaction)).1 = s := by
  intro s
  have hledger := refund_ledger_of_canonical_run .default refundCalls canonical_refundCalls
  have hzero : refundOf 1 1 (sampleRefund zeroTransaction) ∈ s.refunds := List.mem_cons_self
  have hone : refundOf 2 3 { sampleRefund oneTransaction with reason := some (js "late") } ∈
      s.refunds := List.mem_cons_of_mem _ List.mem_cons_self
  refine ⟨by decide, hledger.1, ?_, ?_⟩
  · exact (hledger.2.2.1 _ hzero 5 (js "w") (sampleRefund zeroTransaction)
      (fun _ => ⟨by decide, by decide, nofun⟩) rfl).1 ⟨by decide, by decide, by decide, by decide⟩
  · exact ((hledger.2.2.1 _ hone 5 (js "w") (sampleRefund oneTransaction)
      (fun _ => ⟨by decide, by decide, nofun⟩) rfl).2
      fun hagrees => absurd hagrees.2.2.2 (by decide)).1

/-- **Two rows for one transaction.**  The ledger takes both spellings. -/
theorem refund_recorded_twice : ¬ ∀ (config : StoreConfig) (ops : List StoreOp),
    (((Store.empty config).run ops).refunds.map fun row =>
      transactionId row.transaction.val).Nodup := by
  intro h
  have htwice := h .default [.prepareWatch 0 (js "w") sampleSpec (some sampleIntent),
    .recordRefundEvidence 1 (js "w") (sampleRefund zeroTransaction),
    .recordRefundEvidence 2 (js "w") (sampleRefund zeroTransaction')]
  exact absurd htwice (by decide)

end Store

end RoundWatch
