import RoundWatch.Store.Lifecycle

/-!
# Payment evidence is written once

* `Paid` — the invariant: a settling row has no actual payment yet, and an actual
  payment is the one that was expected.
* `Evolves` — what a later state of a row may change: specification, payment
  evidence, activation and closing round are never overwritten, the scan never goes
  back.
* `activateWatch_of_paid` — a second activation changes nothing; which call is
  answered with the record and which one throws.
* `evidence_of_run` puts them together over histories of any length.
-/

namespace RoundWatch

open JsText

/-! ## The invariant -/

/-- What a row knows of its service payment. -/
structure Paid (r : WatchRow) : Prop where
  /-- Before activation there is no actual payment and nothing to scan. -/
  unpaid : r.settling → r.serviceTransaction = none ∧ r.serviceNetwork = none ∧
    r.servicePayer = none ∧ r.activationRound = none ∧ r.scanAfterRound = none
  /-- The actual payment is the expected one. -/
  expected : ∀ e t, r.expectedServiceTransaction = some e → e ≠ emptyText →
    r.serviceTransaction = some t → e = t

theorem Paid.preparedRow (config : StoreConfig) (id : JsString) (spec : WatchSpec)
    (intent : Option SettlementIntent) (now expiresAt : ℤ) :
    Paid (preparedRow config id spec intent now expiresAt) := by
  constructor <;> simp [RoundWatch.preparedRow]

/-- A stored text that does not differ from a string is the string's own stored form. -/
theorem eq_bindText_of_not_differs {stored : Option SqlText} {given : JsString}
    (h : differs stored given = false) {t : SqlText} (ht : stored = some t) (hne : t ≠ emptyText) :
    t = bindText given := by
  simp only [differs, ht, Bool.and_eq_false_iff, bne_eq_false_iff_eq] at h
  rcases h with h | h
  · exact absurd (SqlText.ext h) hne
  · rw [← h, bindText_val]

/-- What evidence that passes the check agrees with. -/
theorem assertSettlementEvidenceMatches_ok {r : WatchRow} {evidence : SettlementEvidence} :
    assertSettlementEvidenceMatches r evidence = .ok () ↔
      differs r.expectedServiceTransaction evidence.transaction = false ∧
      differs r.expectedServiceNetwork evidence.network = false ∧
      ∀ payer, evidence.payer = some payer → payer ≠ [] →
        differs r.expectedServicePayer payer = false := by
  unfold assertSettlementEvidenceMatches
  cases h₁ : differs r.expectedServiceTransaction evidence.transaction with
  | true => simp
  | false =>
      cases h₂ : differs r.expectedServiceNetwork evidence.network with
      | true => simp
      | false =>
          cases hpayer : evidence.payer with
          | none => simp
          | some payer => simp

/-- A row that is not settling has no settlement columns left to protect. -/
theorem Paid.of_not_settling {r r' : WatchRow} (h : Paid r) (hstate : r'.settling = false)
    (hexpected : r'.expectedServiceTransaction = r.expectedServiceTransaction)
    (hservice : r'.serviceTransaction = r.serviceTransaction) : Paid r' where
  unpaid hsettling := absurd hsettling (by simp [hstate])
  expected e t he hne ht := h.expected e t (hexpected ▸ he) hne (hservice ▸ ht)

/-- **Every change keeps the payment columns in order.** -/
theorem Paid.change {op : StoreOp} {r r' : WatchRow} (h : Paid r) (hchange : RowChange op r r') :
    Paid r' := by
  cases hchange with
  | recordCandidate _ hopen _ =>
      have hunpaid := h.unpaid (WatchRow.settling_of_unsettled hopen).1
      refine ⟨fun _ => hunpaid, fun e t _ _ ht => ?_⟩
      exact absurd (hunpaid.1.symm.trans ht) (by simp)
  | @activate now id evidence round _ _ _ hmatch =>
      refine ⟨fun hsettling => absurd hsettling (by simp [WatchRow.activate, WatchRow.settling]),
        fun e t he hne ht => ?_⟩
      have heq := eq_bindText_of_not_differs (assertSettlementEvidenceMatches_ok.1 hmatch).1 he hne
      rw [heq]
      exact Option.some.inj ht
  | settleUnknown _ hpending =>
      exact ⟨fun _ => h.unpaid (by simp [WatchRow.settling, hpending]), h.expected⟩
  | settleInvalid _ hsettling => exact ⟨fun _ => h.unpaid hsettling, h.expected⟩
  | charge _ _ _ => exact ⟨h.unpaid, h.expected⟩
  | exhaust _ _ _ => exact h.of_not_settling rfl rfl rfl
  | @recordFailure _ _ failure _ _ hactive =>
      refine h.of_not_settling ?_ rfl rfl
      by_cases hpermanent : failure.disposition = .permanent
      · simp [WatchRow.settling, WatchRow.recordFailure, hpermanent]
      · simp [WatchRow.settling, WatchRow.recordFailure, hpermanent, hactive]
  | clearFailure _ _ => exact ⟨h.unpaid, h.expected⟩
  | matchWith _ _ => exact h.of_not_settling rfl rfl rfl
  | advanceTo _ hactive _ _ =>
      exact h.of_not_settling (by simp [WatchRow.settling, WatchRow.advanceTo, hactive]) rfl rfl
  | closeAt _ hactive _ =>
      exact h.of_not_settling (by simp [WatchRow.settling, WatchRow.closeAt, hactive]) rfl rfl
  | expire _ _ _ _ _ _ => exact h.of_not_settling rfl rfl rfl
  | deferUntil _ _ => exact ⟨h.unpaid, h.expected⟩
  | repairBudget _ _ => exact ⟨h.unpaid, h.expected⟩

theorem Paid.run {s : Store} (h : ∀ r ∈ s.rows, Paid r) (ops : List StoreOp) :
    ∀ r ∈ (s.run ops).rows, Paid r :=
  Store.forall_rows_run Paid.preparedRow (fun _ _ _ hchange h => h.change hchange) ops h

/-! ## Write-once columns -/

/-- A column that is never overwritten. -/
def WriteOnce {α : Type} (a b : Option α) : Prop := ∀ v, a = some v → b = some v

theorem WriteOnce.refl {α : Type} (a : Option α) : WriteOnce a a := fun _ h => h

theorem WriteOnce.trans {α : Type} {a b c : Option α} (h : WriteOnce a b) (h' : WriteOnce b c) :
    WriteOnce a c := fun v hv => h' v (h v hv)

theorem WriteOnce.of_none {α : Type} {a : Option α} (h : a = none) (b : Option α) :
    WriteOnce a b := fun v hv => absurd (h.symm.trans hv) (by simp)

/-- `COALESCE(column, value)`. -/
theorem WriteOnce.coalesce {α : Type} (a b : Option α) : WriteOnce a (a <|> b) := by
  intro v hv
  simp [hv]

/-- A column that only grows. -/
def Grows (a b : Option ℤ) : Prop := ∀ v, a = some v → ∃ v', b = some v' ∧ v ≤ v'

theorem Grows.refl (a : Option ℤ) : Grows a a := fun v hv => ⟨v, hv, Int.le_refl v⟩

theorem Grows.trans {a b c : Option ℤ} (h : Grows a b) (h' : Grows b c) : Grows a c := by
  intro v hv
  obtain ⟨v', hv', hle⟩ := h v hv
  obtain ⟨v'', hv'', hle'⟩ := h' v' hv'
  exact ⟨v'', hv'', Int.le_trans hle hle'⟩

/-- What may become of a row. -/
structure Evolves (r r' : WatchRow) : Prop where
  same : SameWatch r r'
  expectedTransaction : WriteOnce r.expectedServiceTransaction r'.expectedServiceTransaction
  expectedNetwork : WriteOnce r.expectedServiceNetwork r'.expectedServiceNetwork
  expectedPayer : WriteOnce r.expectedServicePayer r'.expectedServicePayer
  transaction : WriteOnce r.serviceTransaction r'.serviceTransaction
  network : WriteOnce r.serviceNetwork r'.serviceNetwork
  payer : WriteOnce r.servicePayer r'.servicePayer
  activation : WriteOnce r.activationRound r'.activationRound
  closing : WriteOnce r.closingRound r'.closingRound
  scan : Grows r.scanAfterRound r'.scanAfterRound

theorem Evolves.refl (r : WatchRow) : Evolves r r :=
  ⟨.refl r, .refl _, .refl _, .refl _, .refl _, .refl _, .refl _, .refl _, .refl _, .refl _⟩

theorem Evolves.trans {r r' r'' : WatchRow} (h : Evolves r r') (h' : Evolves r' r'') :
    Evolves r r'' where
  same := h.same.trans h'.same
  expectedTransaction := h.expectedTransaction.trans h'.expectedTransaction
  expectedNetwork := h.expectedNetwork.trans h'.expectedNetwork
  expectedPayer := h.expectedPayer.trans h'.expectedPayer
  transaction := h.transaction.trans h'.transaction
  network := h.network.trans h'.network
  payer := h.payer.trans h'.payer
  activation := h.activation.trans h'.activation
  closing := h.closing.trans h'.closing
  scan := h.scan.trans h'.scan

/-- **Every change of a row is an evolution.** -/
theorem RowChange.evolves {op : StoreOp} {r r' : WatchRow} (hchange : RowChange op r r')
    (h : Paid r) : Evolves r r' := by
  have hsame := hchange.sameWatch
  cases hchange with
  | recordCandidate _ _ _ =>
      exact ⟨hsame, .coalesce _ _, .coalesce _ _, .coalesce _ _, .refl _, .refl _, .refl _,
        .refl _, .refl _, .refl _⟩
  | activate _ hopen _ =>
      obtain ⟨h₁, h₂, h₃, h₄, h₅⟩ := h.unpaid (WatchRow.settling_of_unsettled hopen).1
      refine ⟨hsame, .refl _, .refl _, .refl _, .of_none h₁ _, .of_none h₂ _, .of_none h₃ _,
        .of_none h₄ _, .refl _, ?_⟩
      intro v hv
      exact absurd (h₅.symm.trans hv) (by simp)
  | @advanceTo _ expectedRound round _ _ _ hscan hlt =>
      refine ⟨hsame, .refl _, .refl _, .refl _, .refl _, .refl _, .refl _, .refl _, .refl _, ?_⟩
      intro v hv
      have heq : v = expectedRound := Option.some.inj (hv.symm.trans hscan)
      exact ⟨round, rfl, by omega⟩
  | closeAt _ _ _ =>
      exact ⟨hsame, .refl _, .refl _, .refl _, .refl _, .refl _, .refl _, .refl _,
        .coalesce _ _, .refl _⟩
  | _ =>
      exact ⟨hsame, .refl _, .refl _, .refl _, .refl _, .refl _, .refl _, .refl _, .refl _,
        .refl _⟩

theorem Store.evolves_run {s : Store} {r : WatchRow} (hr : r ∈ s.rows) (h : Paid r)
    (ops : List StoreOp) : ∃ r' ∈ (s.run ops).rows, Evolves r r' :=
  Store.exists_run_of_mem Evolves.refl Evolves.trans
    (fun _ _ _ hchange hP => ⟨hP.change hchange, hchange.evolves hP⟩) hr h ops

/-! ## The second activation -/

/-- The evidence agrees with what the row expects of network and payer. -/
def agreesWith (r : WatchRow) (evidence : SettlementEvidence) : Prop :=
  differs r.expectedServiceNetwork evidence.network = false ∧
    ∀ payer, evidence.payer = some payer → payer ≠ [] →
      differs r.expectedServicePayer payer = false

/-- The settlement that `activateWatch` answers with the record as it stands. -/
def isRecorded (r : WatchRow) (evidence : SettlementEvidence) : Prop :=
  (r.state = .active ∨ r.state = .matched) ∧
    r.serviceTransaction.map SqlText.val = some evidence.transaction ∧ agreesWith r evidence

/-- The recorded transaction never contradicts the expected one. -/
theorem Paid.not_differs {r : WatchRow} (h : Paid r) {transaction : JsString}
    (hsame : r.serviceTransaction.map SqlText.val = some transaction) :
    differs r.expectedServiceTransaction transaction = false := by
  cases hexpected : r.expectedServiceTransaction with
  | none => rfl
  | some e =>
      obtain ⟨t, ht, rfl⟩ := Option.map_eq_some_iff.1 hsame
      by_cases hempty : e = emptyText
      · simp [differs, hempty, emptyText, toWellFormed]
      · simp [differs, h.expected e t hexpected hempty ht]

/-- **A second activation changes nothing.**  The same settlement of a watch that is
active or matched is answered with the record; every other call throws. -/
theorem Store.activateWatch_of_paid {s : Store} {r : WatchRow} (hr : r ∈ s.rows) (h : Paid r)
    (hpaid : r.serviceTransaction.isSome) (now : ℤ) (evidence : SettlementEvidence)
    (round : Option ℤ) :
    (s.activateWatch now r.id.val evidence round).1 = s ∧
      (isRecorded r evidence → (s.activateWatch now r.id.val evidence round).2 = .ok r) ∧
      (¬ isRecorded r evidence →
        ∃ e, (s.activateWatch now r.id.val evidence round).2 = .error e) := by
  have hget : s.getWatch r.id.val = some r := getWatch_of_mem hr (bindText_val r.id).symm
  have hsettling : r.settling = false := by
    cases hs : r.settling with
    | false => rfl
    | true => simp [(h.unpaid hs).1] at hpaid
  simp only [activateWatch, hget]
  cases hmatch : assertSettlementEvidenceMatches r evidence with
  | error e =>
      refine ⟨rfl, fun hrec => ?_, fun _ => ⟨e, rfl⟩⟩
      have hok := assertSettlementEvidenceMatches_ok.2 ⟨h.not_differs hrec.2.1, hrec.2.2⟩
      exact absurd (hmatch.symm.trans hok) (by simp)
  | ok u =>
      by_cases hstate : r.state = .active ∨ r.state = .matched
      · by_cases hsame : sameServiceTransaction r evidence.transaction = true
        · simp only [hstate, hsame, if_true]
          refine ⟨trivial, fun _ => trivial, fun hrec => absurd ⟨hstate, ?_, ?_⟩ hrec⟩
          · simpa [sameServiceTransaction] using hsame
          · exact (assertSettlementEvidenceMatches_ok.1 hmatch).2
        · simp only [hstate, hsame, if_true, Bool.false_eq_true, if_false]
          refine ⟨trivial, fun hrec => ?_, fun _ => ⟨_, rfl⟩⟩
          exact absurd hrec.2.1 (by simpa [sameServiceTransaction] using hsame)
      · simp only [hstate, hsettling, if_false, if_true]
        exact ⟨trivial, fun hrec => absurd hrec.1 hstate, fun _ => ⟨_, rfl⟩⟩

/-- **Payment evidence is write-once, and one payment funds one watch.**  After any
history of operations from an empty store:

* whatever happens later, a row only evolves;
* the actual service transaction of a row is its expected one;
* a further activation of a paid watch leaves the store as it is, and returns the
  record exactly when it repeats the recorded settlement of a watch that is active or
  matched;
* no two rows hold the same service transaction, nor the same expected one. -/
theorem evidence_of_run (config : StoreConfig) (ops : List StoreOp) :
    let s := (Store.empty config).run ops
    (∀ r ∈ s.rows, ∀ later : List StoreOp, ∃ r',
      (s.run later).getWatch r.id.val = some r' ∧ Evolves r r') ∧
    (∀ r ∈ s.rows, ∀ e t, r.expectedServiceTransaction = some e → e ≠ emptyText →
      r.serviceTransaction = some t → e = t) ∧
    (∀ r ∈ s.rows, r.serviceTransaction.isSome → ∀ now evidence round,
      (s.activateWatch now r.id.val evidence round).1 = s ∧
      (isRecorded r evidence → (s.activateWatch now r.id.val evidence round).2 = .ok r) ∧
      (¬ isRecorded r evidence →
        ∃ e, (s.activateWatch now r.id.val evidence round).2 = .error e)) ∧
    (∀ r ∈ s.rows, ∀ r' ∈ s.rows, r ≠ r' →
      (∀ t, r.serviceTransaction = some t → r'.serviceTransaction ≠ some t) ∧
      (∀ t, r.expectedServiceTransaction = some t → r'.expectedServiceTransaction ≠ some t)) := by
  intro s
  have hpaid : ∀ r ∈ s.rows, Paid r := Paid.run (by simp [Store.empty]) ops
  refine ⟨fun r hr later => ?_, fun r hr => (hpaid r hr).expected, fun r hr hsome now evidence
    round => Store.activateWatch_of_paid hr (hpaid r hr) hsome now evidence round, ?_⟩
  · obtain ⟨r', hr', hevolves⟩ := Store.evolves_run hr (hpaid r hr) later
    refine ⟨r', Store.getWatch_of_mem hr' ?_, hevolves⟩
    rw [bindText_val, hevolves.same.id]
  · intro r hr r' hr' hne
    refine ⟨fun t ht ht' => hne ?_, fun t ht ht' => hne ?_⟩
    · exact s.constraints.service.eq_of_key hr hr' ht ht'
    · exact s.constraints.expected.eq_of_key hr hr' ht ht'

/-- A watch, its signed service payment and the settlement of that payment. -/
def sampleSpec : WatchSpec where
  idempotencyKey := js "order-1"
  expectedSender := js "SENDER"
  expectedReceiver := js "RECEIVER"
  assetId := 31566704
  atomicAmount := js "1000000"
  invoiceNote := none

def sampleIntent : SettlementIntent where
  expectedTransaction := js "TX"
  network := js "algorand:mainnet"
  payer := some (js "PAYER")
  receiver := js "SERVICE"
  assetId := 31566704
  atomicAmount := js "100000"
  firstValid := 1
  lastValid := 1000

def sampleEvidence : SettlementEvidence where
  transaction := js "TX"
  network := js "algorand:mainnet"
  payer := some (js "PAYER")

/-- A watch that was activated at round 10 and expired there. -/
def expiredHistory : List StoreOp :=
  [.prepareWatch 0 (js "w") sampleSpec (some sampleIntent),
    .activateWatch 1 (js "w") sampleEvidence 10,
    .setClosingRound (js "w") 10,
    .markExpired (js "w") 10 10]

/-- Repeating the settlement of an expired watch throws instead of returning the
record. -/
theorem activateWatch_throws_after_expiry :
    let s := (Store.empty .default).run expiredHistory
    (s.getWatch (js "w")).bind WatchRow.serviceTransaction =
        some (bindText sampleEvidence.transaction) ∧
      (s.activateWatch 2 (js "w") sampleEvidence (some 10)).2 =
        .error (.notSettling (js "w") .expired) := by
  exact ⟨by decide, rfl⟩

end RoundWatch
