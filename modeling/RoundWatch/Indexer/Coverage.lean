import RoundWatch.Indexer.Grammar

/-!
# No query hides a payment

The four query variants against the exact match: whatever `matchesWatch` accepts inside the
window is asked for by the query of every variant, and the checks on the answer let it
through.

* `CanonicalAmount` — an amount in positive decimals, which every query can be built from;
* `PaymentItem` — an item that is a plain payment, before any filter;
* `scan_admits_match` — the query selects the payment and the parser returns it.
-/

namespace RoundWatch

open JsText Checks

/-- The amount of a watch is a positive decimal without leading zeros. -/
def CanonicalAmount (watch : WatchTerms) : Prop :=
  ∃ n : ℕ, 0 < n ∧ watch.atomicAmount.val = decimal n

/-- A well-formed top-level asset transfer without inner transactions, asset sender and close
destination, whose record is `t`. -/
def PaymentItem (item : Json) (t : IndexedWatchTransaction) : Prop :=
  ∃ p fields, TransferItem (some item) true p fields ∧
    Json.lookup p.record (js "inner-txns") = none ∧ p.assetSender = none ∧ p.closeTo = none ∧
    RecordOf p t

/-- Every variant finds an amount to filter by, or filters by none. -/
theorem planAmount_of_canonical {watch : WatchTerms} (h : CanonicalAmount watch)
    (variant : ScanQueryVariant) : ∃ amount, planAmount watch variant = .ok amount := by
  obtain ⟨n, hpos, hn⟩ := h
  unfold planAmount
  split
  · exact ⟨none, rfl⟩
  · have hamount : checkExactAmount watch.atomicAmount.val = .ok (n : ℤ) := by
      rw [checkExactAmount, hn, bigInt?_decimal]
      exact if_neg (by omega)
    rw [hamount]
    exact ⟨some n, rfl⟩

theorem buildScanQueryPlan_of_canonical {watch : WatchTerms} (h : CanonicalAmount watch)
    (variant : ScanQueryVariant) :
    buildScanQueryPlan watch variant = .ok (scanPlan watch variant) := by
  obtain ⟨amount, hamount⟩ := planAmount_of_canonical h variant
  rw [buildScanQueryPlan, hamount]
  rfl

/-- A query can be built for every window of rounds. -/
theorem exists_buildWatchSearchUrl {watch : WatchTerms} (h : CanonicalAmount watch)
    {minRound maxRound : ℤ} (hrange : safeRange minRound maxRound = .ok ())
    (variant : ScanQueryVariant) (token : Option JsString) :
    ∃ query, buildWatchSearchUrl variant watch minRound maxRound token = .ok query := by
  obtain ⟨amount, hamount⟩ := planAmount_of_canonical h variant
  refine ⟨_, bind_eq_ok.2 ⟨(), hrange, bind_eq_ok.2 ⟨_, buildScanQueryPlan_of_canonical h variant,
    bind_eq_ok.2 ⟨amount, hamount, rfl⟩⟩⟩⟩

/-- The payment of an item has its amount in decimals. -/
theorem PaymentItem.amount {item : Json} {t : IndexedWatchTransaction} (h : PaymentItem item t) :
    ∃ n : ℕ, t.atomicAmount = decimal n := by
  obtain ⟨p, fields, hp, -, -, -, ht⟩ := h
  obtain ⟨n, -, -, hn⟩ := hp.amount
  exact ⟨n, ht.atomicAmount.symm.trans hn⟩

/-- A match passes the filters of every plan made for its watch. -/
theorem passesFilters_of_matchesWatch {watch : WatchTerms} {p : ParsedAssetTransferEnvelope}
    {t : IndexedWatchTransaction} (ht : RecordOf p t) (hmatch : matchesWatch t watch = true)
    (variant : ScanQueryVariant) : PassesFilters watch (scanPlan watch variant) p := by
  obtain ⟨activation, expires, -, -, -, hsender, hreceiver, hasset, hamount, -, hnote⟩ :=
    matchesWatch_iff.1 hmatch
  refine ⟨ht.assetId.trans hasset, ?_, fun _ => ht.atomicAmount.trans hamount, fun hnoted => ?_⟩
  · by_cases hD : variant = .D
    · simpa [scanPlan, hD] using ht.receiver.trans hreceiver
    · simpa [scanPlan, hD] using Or.inl (ht.sender.trans hsender)
  · have hsome : watch.invoiceNote.isSome := by
      simp only [scanPlan, Bool.and_eq_true] at hnoted
      exact hnoted.2
    obtain ⟨invoiceNote, hinvoice⟩ := Option.isSome_iff_exists.1 hsome
    rw [hinvoice] at hnote
    cases hactual : t.note with
    | none => simp [noteMatches, hactual] at hnote
    | some note =>
        simp only [noteMatches, hactual, beq_iff_eq] at hnote
        exact ⟨note, invoiceNote, ht.note.trans hactual, hinvoice, hnote ▸ List.prefix_rfl⟩

/-- **No query hides a payment.**  A payment in the window that matches the watch is selected
by the query of every variant, and read from its item as it stands. -/
theorem scan_admits_match (variant : ScanQueryVariant) (watch : WatchTerms)
    (minRound maxRound : ℤ) (token : Option JsString) (item : Json) (index : ℕ)
    (t : IndexedWatchTransaction) (hamount : CanonicalAmount watch)
    (hrange : safeRange minRound maxRound = .ok ()) (hitem : PaymentItem item t)
    (hmin : minRound ≤ t.round) (hmax : t.round ≤ maxRound) (hmatch : matchesWatch t watch = true) :
    ∃ query plan, buildWatchSearchUrl variant watch minRound maxRound token = .ok query ∧
      query.Selects t ∧ buildScanQueryPlan watch variant = .ok plan ∧
      parseWatchTransaction item index minRound maxRound watch plan = .ok (some t) := by
  obtain ⟨query, hquery⟩ := exists_buildWatchSearchUrl hamount hrange variant token
  refine ⟨query, scanPlan watch variant, hquery,
    selects_of_matchesWatch hquery hmatch hitem.amount hmin hmax,
    buildScanQueryPlan_of_canonical hamount variant, ?_⟩
  obtain ⟨p, fields, hp, hinner, hsender, hclose, ht⟩ := hitem
  refine parseWatchTransaction_direct.2 ⟨p, ⟨⟨fields, hp⟩, hinner, ?_, ?_⟩, hsender, hclose,
    hp.closed hclose, ht⟩
  · rw [ht.round]
    exact ⟨hmin, hmax⟩
  · exact passesFilters_of_matchesWatch ht hmatch variant

/-- A watch for an invoice. -/
def invoiceWatch : WatchTerms where
  expectedSender := bindText (js "PAYER")
  expectedReceiver := bindText (js "MERCHANT")
  assetId := 10458941
  atomicAmount := bindText (js "2500000")
  invoiceNote := some (bindText (js "inv"))
  activationRound := some 10
  expiresAt := some 2000000

/-- Its payment. -/
def invoicePayment : IndexedWatchTransaction where
  transaction := List.replicate 52 65
  sender := js "PAYER"
  receiver := js "MERCHANT"
  assetId := 10458941
  atomicAmount := js "2500000"
  round := 20
  roundTime := 1000
  note := some (js "aW52")

/-- The envelope of the payment. -/
def invoiceTransfer : List (JsString × Json) :=
  [(js "receiver", .str (js "MERCHANT")), (js "asset-id", .num 10458941),
    (js "amount", .num 2500000), (js "close-amount", .num 0)]

/-- The item of the payment. -/
def invoiceItem : Json :=
  .obj [(js "id", .str (List.replicate 52 65)), (js "tx-type", .str (js "axfer")),
    (js "sender", .str (js "PAYER")), (js "note", .str (js "aW52")),
    (js "confirmed-round", .num 20), (js "round-time", .num 1000),
    (js "asset-transfer-transaction", .obj invoiceTransfer)]

theorem paymentItem_invoice : PaymentItem invoiceItem invoicePayment := by
  have hparse : ∃ p, parseAssetTransferEnvelope (some invoiceItem) "" true = .ok p ∧
      Json.lookup p.record (js "inner-txns") = none ∧ p.assetSender = none ∧ p.closeTo = none ∧
      RecordOf p invoicePayment :=
    ⟨_, rfl, rfl, rfl, rfl, rfl, rfl, rfl, rfl, rfl, rfl, rfl, rfl⟩
  obtain ⟨p, hp, hrest⟩ := hparse
  obtain ⟨fields, hp⟩ := parseAssetTransferEnvelope_iff.1 hp
  exact ⟨p, fields, hp, hrest⟩

theorem scan_admits_match_invoice :
    ∃ query plan, buildWatchSearchUrl .C invoiceWatch 11 110 none = .ok query ∧
      query.Selects invoicePayment ∧ buildScanQueryPlan invoiceWatch .C = .ok plan ∧
      parseWatchTransaction invoiceItem 0 11 110 invoiceWatch plan = .ok (some invoicePayment) :=
  scan_admits_match .C invoiceWatch 11 110 none invoiceItem 0 invoicePayment
    ⟨2500000, by decide, by decide +kernel⟩ rfl paymentItem_invoice (by decide) (by decide)
    (by decide +kernel)

end RoundWatch
