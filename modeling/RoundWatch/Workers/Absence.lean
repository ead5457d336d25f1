import RoundWatch.Workers.ReconcilerSound
import Mathlib.Data.Set.Defs

/-!
# A valid service payment is never turned down

With a provider that is honest about the chain, a watch whose settlement was turned down
for good has no valid service payment there.

* `Ledger`, `HonestPayments` — the transfers of the chain, and what an honest provider
  answers to a lookup and to a search for a transaction;
* `Pays` — the payment the settlement terms speak of;
* `rejection_sound` — in every run.
-/

namespace RoundWatch

open JsText

/-- The asset transfers of a chain, under canonical ids. -/
structure Ledger where
  transfers : Set IndexedAssetTransfer
  canonical : ∀ p ∈ transfers, isCanonicalTransactionId p.transaction

/-- The answers in a log are honest about the transfers of the chain. -/
structure HonestPayments (ledger : Ledger) (log : List Observation) : Prop where
  /-- A lookup that is answered with a body shows the transfer of the chain. -/
  lookup : ∀ transaction body, .lookedUp transaction (some body) ∈ log →
    ∀ p ∈ ledger.transfers, p.transaction = transaction →
      ∃ item, body.get? "transaction" = some item ∧ ShowsTransfer item p
  /-- What a search shows under the id of a transfer is that transfer. -/
  search : ∀ transaction token body items, .searched transaction token body ∈ log →
    body.get? "transactions" = some (.arr items) → ∀ item ∈ items, ∀ p ∈ ledger.transfers,
      item.get? "id" = some (.str p.transaction) → ShowsTransfer item p
  /-- A search from its first page to its last, all of them current at the round of a
  transfer with that id, shows it. -/
  complete : ∀ transaction pages, Logged log transaction pages →
    Paging.CompleteRead SearchPage.next SearchPage.Serves pages →
    ∀ p ∈ ledger.transfers, p.transaction = transaction →
      (∀ page ∈ pages, ∃ current, page.body.get? "current-round" = some (.num current) ∧
        p.round ≤ current) →
      ∃ page ∈ pages, ∃ items, page.body.get? "transactions" = some (.arr items) ∧
        ∃ item ∈ items, ShowsTransfer item p

/-- The transfer is the service payment with the recorded terms, confirmed while it was
valid. -/
structure Pays (p : IndexedAssetTransfer) (terms : ImmutableTerms) : Prop where
  transaction : p.transaction = terms.transaction.val
  payer : p.sender = terms.payer.val
  receiver : p.receiver = terms.receiver.val
  assetId : p.assetId = terms.assetId
  atomicAmount : p.atomicAmount = terms.atomicAmount.val
  firstValid : terms.firstValid ≤ p.round
  lastValid : p.round ≤ terms.lastValid

theorem confirmsTerms_of_pays {p : IndexedAssetTransfer} {terms : ImmutableTerms}
    (h : Pays p terms) : confirmsTerms terms.network.val p terms = true := by
  simp [confirmsTerms, h.transaction, h.payer, h.receiver, h.assetId, h.atomicAmount,
    h.firstValid, h.lastValid]

section Ledger

variable {ledger : Ledger} {log : List Observation}

/-- What is shown under the id of a transfer is that transfer. -/
theorem Shown.eq_of_honest (hhonest : HonestPayments ledger log) {transaction : JsString}
    {t : IndexedAssetTransfer} (h : Shown log transaction t) {p : IndexedAssetTransfer}
    (hp : p ∈ ledger.transfers) (hid : p.transaction = transaction) : t = p := by
  obtain ⟨item, hshows, ht, ⟨body, hmem, hitem⟩ | ⟨token, body, items, hmem, hitems, hitem⟩⟩ := h
  · obtain ⟨item', hitem', hshows'⟩ := hhonest.lookup transaction body hmem p hp hid
    cases hitem.symm.trans hitem'
    exact hshows.unique hshows'
  · refine hshows.unique (hhonest.search transaction token body items hmem hitems item hitem p hp ?_)
    rw [hid, ← ht]
    exact hshows.transactionId

/-- A transfer that a search proved absent after a round is confirmed later, if at all. -/
theorem AbsentAfter.not_paid (hhonest : HonestPayments ledger log) {transaction : JsString}
    {lastValid : ℤ} (h : AbsentAfter log transaction lastValid) {p : IndexedAssetTransfer}
    (hp : p ∈ ledger.transfers) (hid : p.transaction = transaction) : lastValid < p.round := by
  obtain ⟨pages, hlogged, hread, hempty⟩ := h
  by_contra hearly
  have hcurrent : ∀ page ∈ pages, ∃ current,
      page.body.get? "current-round" = some (.num current) ∧ p.round ≤ current := by
    intro page hpage
    obtain ⟨current, hpageEmpty, hlt⟩ := hempty page hpage
    exact ⟨current, hpageEmpty.currentRound, by omega⟩
  obtain ⟨page, hpage, items, hitems, item, hitem, -⟩ :=
    hhonest.complete transaction pages hlogged hread p hp hid hcurrent
  -- but the page is empty
  obtain ⟨current, hpageEmpty, -⟩ := hempty page hpage
  cases hitems.symm.trans hpageEmpty.transactions
  cases hitem

/-- Nothing on the chain pays for terms that were turned down. -/
theorem Rejected.not_paid (hhonest : HonestPayments ledger log) {terms : ImmutableTerms}
    (h : Rejected terms.network.val log terms) {p : IndexedAssetTransfer}
    (hp : p ∈ ledger.transfers) : ¬ Pays p terms := by
  intro hpays
  rcases h with hempty | ⟨t, hshown, hother⟩ | habsent
  · have hcanonical := ledger.canonical p hp
    rw [hpays.transaction, hempty] at hcanonical
    cases hcanonical
  · rw [hshown.eq_of_honest hhonest hp hpays.transaction, confirmsTerms_of_pays hpays] at hother
    cases hother
  · have hlate := habsent.not_paid hhonest hp hpays.transaction
    exact absurd hpays.lastValid (Int.not_le.2 hlate)

end Ledger

/-- **A valid service payment is never turned down.**  In every run of the process whose
lookups and searches an honest provider answered: when a watch with complete settlement
terms on the configured network is `settlement_unknown` for good, the chain holds no
transfer that pays for it. -/
theorem rejection_sound (ledger : Ledger) (cfg : WorkerConfig) (config : StoreConfig)
    (es : List Event)
    (hhonest : HonestPayments ledger (System.run cfg (.boot (.empty config)) es).log) :
    ∀ watch ∈ (System.run cfg (.boot (.empty config)) es).store.rows, ∀ terms,
      watch.immutableTerms? = some terms → terms.network.val = cfg.network →
      watch.state = .settlementUnknown → watch.settlementReconciliationTerminal = true →
      ∀ p ∈ ledger.transfers, ¬ Pays p terms := by
  intro watch hwatch terms hterms hnetwork hstate hterminal p hp
  have hrejected := ((sound_run cfg config es).rows watch hwatch).trail.rejected terms hterms
    hstate hterminal
  rw [← hnetwork] at hrejected
  exact hrejected.not_paid hhonest hp

/-! ## A sample -/

/-- A canonical transaction id. -/
def sampleTransaction : JsString := List.replicate 52 65

/-- The sample intent, with a canonical id. -/
def pendingIntent : SettlementIntent := { sampleIntent with expectedTransaction := sampleTransaction }

/-- A transfer with the sample terms under another id. -/
def otherPayment : IndexedAssetTransfer where
  transaction := List.replicate 51 66 ++ [65]
  sender := js "PAYER"
  receiver := js "SERVICE"
  assetId := 31566704
  atomicAmount := js "100000"
  round := 500

def otherLedger : Ledger where
  transfers := {p | p = otherPayment}
  canonical := by
    rintro p rfl
    decide

/-- The payment of the sample watch never arrives, and the reconciler proves it absent. -/
def absenceHistory : List Event :=
  [.call ⟨.prepareWatch 0 (js "w") sampleSpec (some pendingIntent), rfl⟩,
    .call ⟨.markSettlementUnknown (js "w"), rfl⟩,
    .reconcile (.at 1000),
    .resumeReconcile (.status 404 false none) (.at 1001),
    .resumeReconcile (.body (tipBody 2000)) (.at 1002),
    .resumeReconcile (.body (blankBody 2000)) (.at 1003)]

/-- An answer that agrees with the other ledger. -/
def agreesWithOtherLedger : Observation → Bool
  | .lookedUp _ found => found.isNone
  | .searched transaction _ body =>
      transaction == sampleTransaction &&
        match body.get? "transactions" with
        | some (.arr items) => items.isEmpty
        | _ => true
  | _ => true

theorem honestPayments_of_agrees {log : List Observation}
    (h : log.all agreesWithOtherLedger = true) : HonestPayments otherLedger log := by
  rw [List.all_eq_true] at h
  have hother : otherPayment.transaction ≠ sampleTransaction := by decide
  refine ⟨fun transaction body hmem => ?_, fun transaction token body items hmem hitems => ?_,
    fun transaction pages hlogged hread p hp hid => ?_⟩
  · exact absurd (h _ hmem) (by simp [agreesWithOtherLedger])
  · have hempty := h _ hmem
    simp only [agreesWithOtherLedger, hitems, Bool.and_eq_true, List.isEmpty_iff] at hempty
    rw [hempty.2]
    exact fun item hitem => by cases hitem
  · -- every search in the log is for the sample transaction
    obtain ⟨page, hpage⟩ := List.exists_mem_of_ne_nil pages hread.ne_nil
    have hmem : page.observation transaction ∈ log := by
      simpa using hlogged.subset (List.mem_map_of_mem hpage)
    have hsample := h _ hmem
    simp only [SearchPage.observation, agreesWithOtherLedger, Bool.and_eq_true, beq_iff_eq]
      at hsample
    cases hp
    exact absurd (hid.trans hsample.1) hother

theorem rejection_sound_absent_payment :
    ∃ watch ∈ (System.run sampleWorker (.boot (.empty .default)) absenceHistory).store.rows,
      watch.state = .settlementUnknown ∧ watch.settlementReconciliationTerminal = true ∧
      ∃ terms, watch.immutableTerms? = some terms ∧
        ∀ p ∈ otherLedger.transfers, ¬ Pays p terms := by
  have hrejected : (System.run sampleWorker (.boot (.empty .default)) absenceHistory).store.rows.any
      (fun watch => watch.state == .settlementUnknown && watch.settlementReconciliationTerminal &&
        watch.immutableTerms?.any fun terms => terms.network.val == sampleWorker.network) = true := by
    decide +kernel
  obtain ⟨watch, hwatch, hcolumns⟩ := List.any_eq_true.1 hrejected
  simp only [Bool.and_eq_true, beq_iff_eq, Option.any_eq_true] at hcolumns
  obtain ⟨⟨hstate, hterminal⟩, terms, hterms, hnetwork⟩ := hcolumns
  exact ⟨watch, hwatch, hstate, hterminal, terms, hterms, rejection_sound otherLedger sampleWorker
    .default absenceHistory (honestPayments_of_agrees (by decide +kernel)) watch hwatch terms hterms
    hnetwork hstate hterminal⟩

end RoundWatch
