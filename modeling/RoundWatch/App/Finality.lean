import RoundWatch.App.Recovery
import RoundWatch.Store.Verdict
import Mathlib.Algebra.Order.BigOperators.Group.List
import Mathlib.Algebra.Order.Monoid.Canonical.Defs
import Mathlib.Algebra.Order.Ring.Nat

/-!
# Final answers of the recovery route

Clients act on a recovery answer for good, so an answer that says it is final has to stay.

* `AnsweredBy` — the row a request is answered from, and `AnsweredBy.later`: it stays that row;
* `Lasting` — confirmation and the end of a row only come;
* `exists_recovered_iff` — when some run of the store makes an open watch recoverable;
* `recovery_answers_final` — what a later answer to the same request can be.
-/

namespace RoundWatch

open JsText

/-! ## The row behind an answer -/

/-- The row a recovery request is answered from. -/
structure AnsweredBy (s : Store) (spec : WatchSpec) (payer : JsString) (r : WatchRow) : Prop where
  row : r ∈ s.rows
  held : Holds payer spec.idempotencyKey r
  exact : exactMatch r spec payer = true

/-- An evolved row still has the terms and the payer of the request. -/
theorem Evolves.exactMatch {r r' : WatchRow} (h : Evolves r r') {spec : WatchSpec}
    {payer : JsString} (hexact : RoundWatch.exactMatch r spec payer = true) :
    RoundWatch.exactMatch r' spec payer = true := by
  simp only [RoundWatch.exactMatch, Bool.and_eq_true, beq_iff_eq] at hexact ⊢
  obtain ⟨⟨⟨⟨⟨hsender, hreceiver⟩, hasset⟩, hamount⟩, hnote⟩, hpayer⟩ := hexact
  obtain ⟨p, hp, hval⟩ := Option.map_eq_some_iff.mp hpayer
  rw [h.same.expectedSender, h.same.expectedReceiver, h.same.assetId, h.same.atomicAmount,
    h.same.invoiceNote, h.expectedPayer p hp]
  exact ⟨⟨⟨⟨⟨hsender, hreceiver⟩, hasset⟩, hamount⟩, hnote⟩, congrArg some hval⟩

section Routes

variable {isValidAlgorandAddress : JsString → Bool} {usdcAssetId : ℤ} {s : Store} {body : Json}

/-- What the route answers from a row. -/
def recoveryReply (r : WatchRow) : RecoveryReply :=
  if r.settlementConfirmed && r.handedBack then .recovered (publicWatch r)
  else .notRecoverable r.state (recoveryDisposition r)

/-- The request names a specification and a payer. -/
structure RecoveryRequest (isValidAlgorandAddress : JsString → Bool) (usdcAssetId : ℤ)
    (body : Json) (spec : WatchSpec) (payer : JsString) : Prop where
  spec : parseWatchSpec isValidAlgorandAddress usdcAssetId body = .ok spec
  payer : (stringField body "servicePayer").filter isValidAlgorandAddress = some payer

/-- A request is answered from its row. -/
theorem recoverWatch_of_answered {spec : WatchSpec} {payer : JsString} {r : WatchRow}
    (hrequest : RecoveryRequest isValidAlgorandAddress usdcAssetId body spec payer)
    (h : AnsweredBy s spec payer r) :
    recoverWatch isValidAlgorandAddress usdcAssetId s body = recoveryReply r := by
  have hfilter : (some r).filter (exactMatch · spec payer) = some r := by
    simp [Option.filter, h.exact]
  rw [recoverWatch, hrequest.spec, hrequest.payer]
  dsimp only
  rw [Store.getByPayerAndIdempotencyKey, Store.findPayerIdempotencyRow_eq h.row h.held, hfilter]
  rfl

/-- **The outcomes of the recovery route.**  The request is refused, its watch is not found,
or it is answered from a row. -/
theorem recoverWatch_cases (isValidAlgorandAddress : JsString → Bool) (usdcAssetId : ℤ)
    (s : Store) (body : Json) :
    recoverWatch isValidAlgorandAddress usdcAssetId s body = .invalidRequest ∨
      recoverWatch isValidAlgorandAddress usdcAssetId s body = .notFound ∨
      ∃ spec payer r, RecoveryRequest isValidAlgorandAddress usdcAssetId body spec payer ∧
        AnsweredBy s spec payer r := by
  cases hspec : parseWatchSpec isValidAlgorandAddress usdcAssetId body with
  | error e => exact Or.inl (by simp [recoverWatch, hspec])
  | ok spec =>
      cases hpayer : (stringField body "servicePayer").filter isValidAlgorandAddress with
      | none => exact Or.inl (by simp [recoverWatch, hspec, hpayer])
      | some payer =>
          cases hfind : (s.getByPayerAndIdempotencyKey payer spec.idempotencyKey).filter
              (exactMatch · spec payer) with
          | none => exact Or.inr (Or.inl (by simp [recoverWatch, hspec, hpayer, hfind]))
          | some r =>
              obtain ⟨hfound, hexact⟩ := Option.filter_eq_some_iff.mp hfind
              obtain ⟨hrow, hheld⟩ := Store.findPayerIdempotencyRow_some hfound
              exact Or.inr (Or.inr ⟨spec, payer, r, ⟨hspec, hpayer⟩, hrow, hheld, hexact⟩)

end Routes

/-! ## What a row keeps -/

/-- A later row of a watch: a payment on record stays, and what is over stays over. -/
structure Lasting (r r' : WatchRow) : Prop where
  evolves : Evolves r r'
  /-- A row that has left settlement does not go back. -/
  left : r.settling = false → r'.settling = false ∧ r'.serviceTransaction = r.serviceTransaction
  /-- A rejected settlement stays as it is. -/
  finished : r.finished = true → r' = r

theorem Lasting.refl (r : WatchRow) : Lasting r r := ⟨.refl r, fun h => ⟨h, rfl⟩, fun _ => rfl⟩

theorem Lasting.trans {r r' r'' : WatchRow} (h : Lasting r r') (h' : Lasting r' r'') :
    Lasting r r'' where
  evolves := h.evolves.trans h'.evolves
  left hleft := by
    obtain ⟨hleft', hsame⟩ := h.left hleft
    obtain ⟨hleft'', hsame'⟩ := h'.left hleft'
    exact ⟨hleft'', hsame'.trans hsame⟩
  finished hfinished := by
    have hsame := h.finished hfinished
    subst hsame
    exact h'.finished hfinished

/-- **Every change lasts.** -/
theorem RowChange.lasting {op : StoreOp} {r r' : WatchRow} (hchange : RowChange op r r')
    (h : Paid r) : Lasting r r' := by
  refine ⟨hchange.evolves h, fun hleft => ?_, hchange.eq_of_finished⟩
  have hopen : r.unsettled = true → False := fun hopen => by
    rw [(WatchRow.settling_of_unsettled hopen).1] at hleft
    cases hleft
  cases hchange with
  | recordCandidate _ hunsettled _ => exact (hopen hunsettled).elim
  | activate _ hunsettled _ => exact (hopen hunsettled).elim
  | settleUnknown _ hpending => simp [WatchRow.settling, hpending] at hleft
  | settleInvalid _ hsettling =>
      rw [hsettling] at hleft
      cases hleft
  | charge _ _ _ => exact ⟨hleft, rfl⟩
  | exhaust _ _ _ => exact ⟨rfl, rfl⟩
  | @recordFailure _ _ failure _ _ hactive =>
      refine ⟨?_, rfl⟩
      by_cases hpermanent : failure.disposition = .permanent
      · simp [WatchRow.settling, WatchRow.recordFailure, hpermanent]
      · simp [WatchRow.settling, WatchRow.recordFailure, hpermanent, hactive]
  | clearFailure _ _ => exact ⟨hleft, rfl⟩
  | matchWith _ _ => exact ⟨rfl, rfl⟩
  | advanceTo _ _ _ _ => exact ⟨hleft, rfl⟩
  | closeAt _ _ _ => exact ⟨hleft, rfl⟩
  | expire _ _ _ _ _ _ => exact ⟨rfl, rfl⟩
  | deferUntil _ hunsettled => exact (hopen hunsettled).elim
  | repairBudget _ _ => exact ⟨hleft, rfl⟩

theorem Store.lasting_run {s : Store} {r : WatchRow} (hr : r ∈ s.rows) (h : Paid r)
    (ops : List StoreOp) : ∃ r' ∈ (s.run ops).rows, Lasting r r' :=
  Store.exists_run_of_mem Lasting.refl Lasting.trans
    (fun _ _ _ hchange hP => ⟨hP.change hchange, hchange.lasting hP⟩) hr h ops

/-- The row behind an answer stays behind the answers to the request. -/
theorem AnsweredBy.later {s : Store} {spec : WatchSpec} {payer : JsString} {r : WatchRow}
    (h : AnsweredBy s spec payer r) (hpaid : Paid r) (ops : List StoreOp) :
    ∃ r', AnsweredBy (s.run ops) spec payer r' ∧ Lasting r r' := by
  obtain ⟨r', hr', hlasting⟩ := Store.lasting_run h.row hpaid ops
  exact ⟨r', ⟨hr', hlasting.evolves.holds h.held, hlasting.evolves.exactMatch h.exact⟩, hlasting⟩

/-! ## The answers -/

/-- A row is handed back once it has left settlement. -/
theorem WatchRow.handedBack_eq (r : WatchRow) : r.handedBack = !r.settling := by
  cases hstate : r.state <;> simp [handedBack, settling, hstate]

theorem WatchRow.settlementConfirmed_congr {r r' : WatchRow}
    (h : r'.serviceTransaction = r.serviceTransaction) :
    r'.settlementConfirmed = r.settlementConfirmed := by
  rw [settlementConfirmed, settlementConfirmed, h]

/-- A watch that was handed back is handed back again. -/
theorem Lasting.recovered {r r' : WatchRow} (h : Lasting r r') {watch : PublicWatch}
    (hreply : recoveryReply r = .recovered watch) :
    ∃ watch', recoveryReply r' = .recovered watch' ∧ watch'.id = watch.id := by
  rw [recoveryReply] at hreply
  split at hreply
  · rename_i hready
    cases hreply
    rw [Bool.and_eq_true, WatchRow.handedBack_eq, Bool.not_eq_true'] at hready
    obtain ⟨hleft, hsame⟩ := h.left hready.2
    refine ⟨publicWatch r', ?_, h.evolves.same.id⟩
    rw [recoveryReply, if_pos]
    rw [WatchRow.settlementConfirmed_congr hsame, WatchRow.handedBack_eq, hleft, hready.1]
    rfl
  · cases hreply

theorem recoveryDisposition_terminal {r : WatchRow} :
    (recoveryDisposition r).terminal = true ↔
      r.settling = false ∨ r.state = .settlementUnknown ∧
        r.settlementReconciliationTerminal = true := by
  cases hstate : r.state <;> cases hflag : r.settlementReconciliationTerminal <;>
    simp [recoveryDisposition, WatchRow.settling, hstate, hflag]

theorem recoveryDisposition_retryable {r : WatchRow} :
    (recoveryDisposition r).retryable = true ↔
      r.state = .settlementPending ∨ r.state = .settlementUnknown ∧
        r.settlementReconciliationTerminal = false := by
  cases hstate : r.state <;> cases hflag : r.settlementReconciliationTerminal <;>
    simp [recoveryDisposition, hstate, hflag]

/-- The row behind a request that is not recoverable. -/
theorem notRecoverable_of_recoveryReply {r : WatchRow} {state : WatchState}
    {recovery : RecoveryDisposition} (h : recoveryReply r = .notRecoverable state recovery) :
    r.state = state ∧ recoveryDisposition r = recovery ∧
      (r.settlementConfirmed && r.handedBack) = false := by
  rw [recoveryReply] at h
  split at h
  · cases h
  · rename_i hready
    cases h
    exact ⟨rfl, rfl, by simpa using hready⟩

/-- A watch that is over without a payment stays so. -/
theorem Lasting.terminal {r r' : WatchRow} (h : Lasting r r') {state : WatchState}
    {recovery : RecoveryDisposition} (hreply : recoveryReply r = .notRecoverable state recovery)
    (hterminal : recovery.terminal = true) : ∃ state' recovery',
      recoveryReply r' = .notRecoverable state' recovery' ∧ recovery'.terminal = true := by
  obtain ⟨rfl, rfl, hready⟩ := notRecoverable_of_recoveryReply hreply
  rcases recoveryDisposition_terminal.1 hterminal with hleft | ⟨hstate, hflag⟩
  · obtain ⟨hleft', hsame⟩ := h.left hleft
    refine ⟨r'.state, recoveryDisposition r', ?_, recoveryDisposition_terminal.2 (Or.inl hleft')⟩
    rw [WatchRow.handedBack_eq, hleft, Bool.not_false, Bool.and_true] at hready
    rw [recoveryReply, WatchRow.settlementConfirmed_congr hsame, hready]
    rfl
  · have hsame := h.finished (by simp [WatchRow.finished, hstate, hflag])
    rw [hsame]
    exact ⟨r.state, recoveryDisposition r, hreply, hterminal⟩

/-! ## From an open watch to an answer -/

namespace Store

variable {s : Store}

/-- There is a transaction that no row has. -/
theorem exists_free_transaction (s : Store) :
    ∃ t : JsString, t ≠ [] ∧ ∀ r ∈ s.rows, r.serviceTransaction ≠ some (bindText t) := by
  let size : WatchRow → ℕ := fun r => (r.serviceTransaction.map fun t => t.val.length).getD 0
  refine ⟨List.replicate ((s.rows.map size).sum + 1) 65, by simp, fun r hr heq => ?_⟩
  have hle : size r ≤ (s.rows.map size).sum :=
    List.le_sum_of_mem (List.mem_map_of_mem hr)
  have hsize : size r = (s.rows.map size).sum + 1 := by
    simp [size, heq]
  omega

/-- No row has the transaction that is expected of the row. -/
def ExpectationFree (s : Store) (r : WatchRow) : Prop :=
  ∀ e, r.expectedServiceTransaction = some e → e ≠ emptyText →
    ∀ r' ∈ s.rows, r'.serviceTransaction ≠ some e

/-- The settlement of an open row that the row agrees with. -/
theorem exists_settlement {r : WatchRow} (hfree : s.ExpectationFree r) :
    ∃ evidence, assertSettlementEvidenceMatches r evidence = .ok () ∧
      evidence.transaction ≠ [] ∧
      ∀ r' ∈ s.rows, r'.serviceTransaction ≠ some (bindText evidence.transaction) := by
  have hnetwork : ∃ network, differs r.expectedServiceNetwork network = false := by
    cases r.expectedServiceNetwork with
    | none => exact ⟨[], rfl⟩
    | some n => exact ⟨n.val, by simp [differs]⟩
  obtain ⟨network, hnetwork⟩ := hnetwork
  have htransaction : ∃ t, differs r.expectedServiceTransaction t = false ∧ t ≠ [] ∧
      ∀ r' ∈ s.rows, r'.serviceTransaction ≠ some (bindText t) := by
    obtain ⟨t, hne, hunused⟩ := s.exists_free_transaction
    cases hexpected : r.expectedServiceTransaction with
    | none => exact ⟨t, rfl, hne, hunused⟩
    | some e =>
        by_cases hempty : e = emptyText
        · exact ⟨t, by simp [differs, hempty, emptyText, toWellFormed], hne, hunused⟩
        · refine ⟨e.val, by simp [differs], fun hnil => hempty (SqlText.ext hnil), ?_⟩
          rw [bindText_val]
          exact hfree e hexpected hempty
  obtain ⟨t, hmatches, hne, hunused⟩ := htransaction
  exact ⟨⟨t, network, none⟩, assertSettlementEvidenceMatches_ok.2
    ⟨hmatches, hnetwork, fun _ hpayer => by cases hpayer⟩,
    hne, hunused⟩

end Store

section Routes

variable {isValidAlgorandAddress : JsString → Bool} {usdcAssetId : ℤ} {s : Store} {body : Json}
  {spec : WatchSpec} {payer : JsString} {r : WatchRow}

/-- **An open watch can be recovered.**  Its settlement leads to an answer that hands it
back. -/
theorem exists_recovered
    (hrequest : RecoveryRequest isValidAlgorandAddress usdcAssetId body spec payer)
    (h : AnsweredBy s spec payer r) (hopen : r.unsettled) (hfree : s.ExpectationFree r) :
    ∃ later watch, recoverWatch isValidAlgorandAddress usdcAssetId (s.run later) body =
      .recovered watch := by
  obtain ⟨evidence, hmatch, hne, hunused⟩ := Store.exists_settlement hfree
  have hget : s.getWatch r.id.val = some r := Store.getWatch_of_mem h.row (bindText_val r.id).symm
  have hunbound : s.boundElsewhere r evidence.transaction = false := by
    rw [Store.boundElsewhere, List.any_eq_false]
    intro r' hr'
    simp [hunused r' hr']
  have hclock : validDate 0 = true := by decide
  have hactive := Store.getWatch_activateWatch hget hopen hmatch hclock (some 0)
  rw [hunbound, if_neg Bool.false_ne_true] at hactive
  refine ⟨[.activateWatch 0 r.id.val evidence 0], publicWatch (r.activate evidence (some 0) 0), ?_⟩
  have hanswered : AnsweredBy (s.run [.activateWatch 0 r.id.val evidence 0]) spec payer
      (r.activate evidence (some 0) 0) :=
    ⟨Store.getWatch_mem hactive, ⟨h.held.payer, h.held.key⟩, h.exact⟩
  rw [recoverWatch_of_answered hrequest hanswered, recoveryReply, if_pos]
  simp [WatchRow.settlementConfirmed, WatchRow.handedBack, WatchRow.activate, hne]

/-- **When an open watch can be recovered.** -/
theorem exists_recovered_iff
    (hrequest : RecoveryRequest isValidAlgorandAddress usdcAssetId body spec payer)
    (hpaid : ∀ r ∈ s.rows, Paid r) (h : AnsweredBy s spec payer r) (hopen : r.unsettled) :
    (∃ later watch, recoverWatch isValidAlgorandAddress usdcAssetId (s.run later) body =
      .recovered watch) ↔ s.ExpectationFree r := by
  refine ⟨?_, exists_recovered hrequest h hopen⟩
  rintro ⟨later, watch, hrecovered⟩ e hexpected hne other hother hbound
  obtain ⟨r', hr', hlasting⟩ := h.later (hpaid r h.row) later
  rw [recoverWatch_of_answered hrequest hr', recoveryReply] at hrecovered
  split at hrecovered
  · rename_i hready
    rw [Bool.and_eq_true] at hready
    obtain ⟨t, ht⟩ : ∃ t, r'.serviceTransaction = some t := by
      cases ht : r'.serviceTransaction with
      | none => simp [WatchRow.settlementConfirmed, ht] at hready
      | some t => exact ⟨t, rfl⟩
    -- The payment of the row would be the expected one, which the other row has.
    obtain ⟨other', hother', hlasts⟩ := Store.lasting_run hother (hpaid other hother) later
    have hpaid' : Paid r' := Paid.run hpaid later r' hr'.row
    have hsame : e = t :=
      hpaid'.expected e t (hlasting.evolves.expectedTransaction e hexpected) hne ht
    have hrow : r' = other' := (s.run later).constraints.service.eq_of_key hr'.row hother'
      (hsame ▸ ht) (hlasts.evolves.transaction e hbound)
    have hid : r.id = other.id := by
      rw [← hlasting.evolves.same.id, ← hlasts.evolves.same.id, hrow]
    have hself : r = other := Store.eq_of_id h.row hother hid
    have hnone := ((hpaid r h.row).unpaid (WatchRow.settling_of_unsettled hopen).1).1
    rw [hself, hbound] at hnone
    cases hnone
  · cases hrecovered

end Routes

/-- A row that is answered as retryable is an open settlement obligation. -/
theorem WatchRow.unsettled_of_retryable {r : WatchRow} (h : Lifecycle r)
    (hretry : (recoveryDisposition r).retryable = true) : r.unsettled := by
  rcases recoveryDisposition_retryable.1 hretry with hstate | ⟨hstate, hflag⟩
  · have hflag : r.settlementReconciliationTerminal = false := by
      by_contra hset
      rw [Bool.not_eq_false] at hset
      rcases h.terminalFlag hset with h' | h' <;> rw [hstate] at h' <;> cases h'
    simp [unsettled, settling, hstate, hflag]
  · simp [unsettled, settling, hstate, hflag]

/-- **Which recovery answers are final.**  A watch that was handed back is handed back for
ever, and an answer that is final stays final.  A request that may be retried belongs to an
open settlement, which can still lead to a watch exactly if the transaction it expects is not
the payment of another row. -/
theorem recovery_answers_final (isValidAlgorandAddress : JsString → Bool) (usdcAssetId : ℤ)
    (config : StoreConfig) (ops : List StoreOp) (body : Json) :
    let s := (Store.empty config).run ops
    let recover := fun s => recoverWatch isValidAlgorandAddress usdcAssetId s body
    (∀ watch, recover s = .recovered watch → ∀ later, ∃ watch',
      recover (s.run later) = .recovered watch' ∧ watch'.id = watch.id) ∧
    (∀ state recovery, recover s = .notRecoverable state recovery → recovery.terminal = true →
      ∀ later, ∃ state' recovery',
        recover (s.run later) = .notRecoverable state' recovery' ∧ recovery'.terminal = true) ∧
    ∀ state recovery, recover s = .notRecoverable state recovery → recovery.retryable = true →
      ∃ spec payer r,
        RecoveryRequest isValidAlgorandAddress usdcAssetId body spec payer ∧
        AnsweredBy s spec payer r ∧ r.state = state ∧
        (state = .settlementPending ∨
          state = .settlementUnknown ∧ r.settlementReconciliationTerminal = false) ∧
        ((∃ later watch, recover (s.run later) = .recovered watch) ↔ s.ExpectationFree r) := by
  intro s recover
  have hpaid : ∀ r ∈ s.rows, Paid r := Paid.run (by simp [Store.empty]) ops
  have hlife : ∀ r ∈ s.rows, Lifecycle r := Lifecycle.run (by simp [Store.empty]) ops
  have hcases := recoverWatch_cases isValidAlgorandAddress usdcAssetId s body
  refine ⟨fun watch hreply later => ?_, fun state recovery hreply hterminal later => ?_,
    fun state recovery hreply hretry => ?_⟩
  · rcases hcases with hnone | hnone | ⟨spec, payer, r, hrequest, h⟩
    · cases hnone.symm.trans hreply
    · cases hnone.symm.trans hreply
    · obtain ⟨r', hr', hlasting⟩ := h.later (hpaid r h.row) later
      obtain ⟨watch', hwatch', hid⟩ :=
        hlasting.recovered ((recoverWatch_of_answered hrequest h).symm.trans hreply)
      exact ⟨watch', (recoverWatch_of_answered hrequest hr').trans hwatch', hid⟩
  · rcases hcases with hnone | hnone | ⟨spec, payer, r, hrequest, h⟩
    · cases hnone.symm.trans hreply
    · cases hnone.symm.trans hreply
    · obtain ⟨r', hr', hlasting⟩ := h.later (hpaid r h.row) later
      obtain ⟨state', recovery', hreply', hterminal'⟩ :=
        hlasting.terminal ((recoverWatch_of_answered hrequest h).symm.trans hreply) hterminal
      exact ⟨state', recovery', (recoverWatch_of_answered hrequest hr').trans hreply', hterminal'⟩
  · rcases hcases with hnone | hnone | ⟨spec, payer, r, hrequest, h⟩
    · cases hnone.symm.trans hreply
    · cases hnone.symm.trans hreply
    · obtain ⟨rfl, rfl, -⟩ := notRecoverable_of_recoveryReply
        ((recoverWatch_of_answered hrequest h).symm.trans hreply)
      have hopen := WatchRow.unsettled_of_retryable (hlife r h.row) hretry
      exact ⟨spec, payer, r, hrequest, h, rfl, recoveryDisposition_retryable.1 hretry,
        exists_recovered_iff hrequest hpaid h hopen⟩

/-! ## A retry without an end -/

/-- A watch without an intent was settled by the transaction that the first watch expects. -/
def takenHistory : List StoreOp :=
  [.prepareWatch 0 (js "w") (requestSpec (js "invoice-1")) (some requestIntent),
    .prepareWatch 0 (js "v") { requestSpec (js "invoice-2") with idempotencyKey := js "order-0002" }
      none,
    .activateWatch 0 (js "v") ⟨js "TX", js "algorand:mainnet", none⟩ 0]

/-- The recovery request of the first watch. -/
def takenRequest : Json :=
  .obj ((js "servicePayer", .str probeAddress) :: requestFields (js "invoice-1"))

/-- **A retry without an end.**  The route asks to retry, but the transaction that the watch
expects is the payment of another watch, so no run of the store leads to an answer. -/
theorem retryable_forever :
    let s := (Store.empty .default).run takenHistory
    (∃ state recovery, recoverWatch isKnownAddress 31566704 s takenRequest =
      .notRecoverable state recovery ∧ recovery.retryable = true) ∧
    ¬ ∃ later watch, recoverWatch isKnownAddress 31566704 (s.run later) takenRequest =
      .recovered watch := by
  intro s
  obtain ⟨recovery, hreply, hretry⟩ : ∃ recovery, recoverWatch isKnownAddress 31566704 s
      takenRequest = .notRecoverable .settlementPending recovery ∧ recovery.retryable = true :=
    ⟨_, rfl, rfl⟩
  refine ⟨⟨_, _, hreply, hretry⟩, fun hrecovered => ?_⟩
  rcases recoverWatch_cases isKnownAddress 31566704 s takenRequest with
    hnone | hnone | ⟨spec, payer, r, hrequest, h⟩
  · cases hnone.symm.trans hreply
  · cases hnone.symm.trans hreply
  · have hpending : r.state = .settlementPending :=
      (notRecoverable_of_recoveryReply ((recoverWatch_of_answered hrequest h).symm.trans hreply)).1
    have hrows : ∀ r ∈ s.rows, r.state = .settlementPending →
        r.unsettled ∧ r.expectedServiceTransaction = some (bindText (js "TX")) := by decide
    have htaken : ∃ r ∈ s.rows, r.serviceTransaction = some (bindText (js "TX")) := by decide
    obtain ⟨hopen, hexpected⟩ := hrows r h.row hpending
    obtain ⟨v, hv, hpaid⟩ := htaken
    have hfree := (exists_recovered_iff hrequest (Paid.run (by simp [Store.empty]) takenHistory) h
      hopen).1 hrecovered
    exact hfree _ hexpected (by decide) v hv hpaid

end RoundWatch
