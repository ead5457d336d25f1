import Mathlib.Data.List.Induction
import RoundWatch.Workers.PollerTraffic
import RoundWatch.Workers.ReconcilerSound

/-!
# A match is genuine

Whatever the provider answers, a watch is matched on the evidence of an item that is,
field by field, the payment its row waits for.  The row waits for what was specified where
the columns give the specification back.

* `Specified` — the specification a watch of a run was created for, and
  `exists_specified`, that there is one;
* `ShowsPayment` — what the raw fields of the item say; `Genuine` — that an answer to a
  query of the watch shows such an item;
* `match_genuine` — of the runs whose specifications have no U+0000, every match is genuine;
* `match_of_cut_note` — a note with U+0000 is matched by what stands before it.
-/

namespace RoundWatch

open JsText

/-! ## The specification of a watch -/

/-- The watch was created in the run, for the specification. -/
def Specified (cfg : WorkerConfig) (σ : System) (es : List Event) (watch : WatchRow)
    (spec : WatchSpec) : Prop :=
  ∃ before now id intent hop after created,
    es = before ++ .call ⟨.prepareWatch now id spec intent, hop⟩ :: after ∧
    ((System.run cfg σ before).store.prepareWatch now id spec intent).2 = .ok ⟨created, true⟩ ∧
    SameWatch created watch

/-- **Where a row comes from.**  It was there, or this step created it. -/
theorem Traffic.exists_of_mem_step {cfg : WorkerConfig} {σ : System}
    (h : Traffic cfg (fun _ => True) σ) (e : Event) {r' : WatchRow}
    (hr' : r' ∈ (σ.step cfg e).store.rows) : (∃ r ∈ σ.store.rows, SameWatch r r') ∨
      ∃ now id spec intent hop, e = .call ⟨.prepareWatch now id spec intent, hop⟩ ∧
        (σ.store.prepareWatch now id spec intent).2 = .ok ⟨r', true⟩ := by
  have hlaw : RowLaw fun r' => ∃ r ∈ σ.store.rows, SameWatch r r' := by
    rintro op r r' hchange ⟨r₀, hr₀, hsame⟩ -
    exact ⟨r₀, hr₀, hsame.trans hchange.sameWatch⟩
  have hrows : Traffic cfg (fun r' => ∃ r ∈ σ.store.rows, SameWatch r r') σ :=
    ⟨fun r hr => ⟨r, hr, .refl r⟩, h.asked, h.covers, h.sweeps⟩
  have hother : e.Keeps (fun r' => ∃ r ∈ σ.store.rows, SameWatch r r') →
      ∃ r ∈ σ.store.rows, SameWatch r r' := fun he => (hrows.step hlaw he).rows r' hr'
  cases e with
  | call op =>
      obtain ⟨op, hop⟩ := op
      by_cases hprepare : ∃ now id spec intent, op = .prepareWatch now id spec intent
      · obtain ⟨now, id, spec, intent, rfl⟩ := hprepare
        simp only [System.step, System.perform_store, Store.apply] at hr'
        rcases σ.store.prepareWatch_cases now id spec intent with ⟨e, he⟩ | ⟨w, -, -, -, hw⟩ |
          ⟨s', expiresAt, hcreated, hok⟩
        · exact Or.inl ⟨r', by simpa [he] using hr', .refl r'⟩
        · exact Or.inl ⟨r', by simpa [hw] using hr', .refl r'⟩
        · rw [hok, hcreated.rows, List.mem_append, List.mem_singleton] at hr'
          rcases hr' with hr' | rfl
          · exact Or.inl ⟨r', hr', .refl r'⟩
          · exact Or.inr ⟨now, id, spec, intent, hop, rfl, by rw [hok]⟩
      · refine Or.inl (hother ⟨?_, ?_⟩)
        · rintro r r' hchange ⟨r₀, hr₀, hsame⟩
          exact ⟨r₀, hr₀, hsame.trans hchange.sameWatch⟩
        · intro now id spec intent heq
          exact absurd ⟨now, id, spec, intent, heq⟩ hprepare
  | _ => exact Or.inl (hother trivial)

/-- Every watch of a run was specified. -/
theorem exists_specified (cfg : WorkerConfig) (config : StoreConfig) (es : List Event) :
    ∀ watch ∈ (System.run cfg (.boot (.empty config)) es).store.rows,
      ∃ spec, Specified cfg (.boot (.empty config)) es watch spec := by
  induction es using List.reverseRecOn with
  | nil =>
      intro watch hwatch
      cases hwatch
  | append_singleton es e ih =>
      intro watch hwatch
      have htraffic : Traffic cfg (fun _ => True) (System.run cfg (.boot (.empty config)) es) :=
        traffic_run cfg (fun _ _ _ _ _ _ => trivial) config fun e _ => by
          cases e <;> simp [Event.Keeps]
      rw [System.run, Runs.run_append] at hwatch
      rcases htraffic.exists_of_mem_step e hwatch with ⟨r, hr, hsame⟩ |
        ⟨now, id, spec, intent, hop, rfl, hcreated⟩
      · obtain ⟨spec, before, now, id, intent, hop, after, created, rfl, hcreated, hsame'⟩ :=
          ih r hr
        exact ⟨spec, before, now, id, intent, hop, after ++ [e], created, by simp, hcreated,
          hsame'.trans hsame⟩
      · exact ⟨spec, es, now, id, intent, hop, [], watch, rfl, hcreated, .refl watch⟩

/-- The texts of a specification as the create route takes them, with a note without U+0000. -/
structure WatchSpec.Plain (spec : WatchSpec) : Prop where
  expectedSender : TextRead.untilNul.Keeps spec.expectedSender
  expectedReceiver : TextRead.untilNul.Keeps spec.expectedReceiver
  atomicAmount : TextRead.untilNul.Keeps spec.atomicAmount
  invoiceNote : ∀ note, spec.invoiceNote = some note → 0 ∉ note

/-- A watch that is specified is specified plainly. -/
def Event.SpecifiesPlainly : Event → Prop
  | .call ⟨.prepareWatch _ _ spec _, _⟩ => spec.Plain
  | _ => True

/-- The row waits for what was specified; of the note it has the bytes. -/
structure WaitsFor (watch : WatchRow) (spec : WatchSpec) : Prop where
  expectedSender : watch.expectedSender.val = spec.expectedSender
  expectedReceiver : watch.expectedReceiver.val = spec.expectedReceiver
  assetId : watch.assetId = spec.assetId
  atomicAmount : watch.atomicAmount.val = spec.atomicAmount
  invoiceNote : ∀ invoice, spec.invoiceNote = some invoice → ∃ note,
    watch.invoiceNote = some note ∧ utf8Bytes note.val = utf8Bytes invoice

/-- A note without U+0000 keeps its bytes in its column. -/
theorem utf8Bytes_columnText (config : StoreConfig) {note : JsString} (h : 0 ∉ note) :
    utf8Bytes (config.columnText note).val = utf8Bytes note := by
  have hplain : 0 ∉ (bindText note).val := fun hzero => by
    rcases mem_toWellFormed hzero with hzero | hzero
    · exact h hzero
    · exact absurd hzero (by decide)
  rw [StoreConfig.columnText, TextRead.returned_of_plain _ hplain, val_bindText,
    utf8Bytes_toWellFormed]

theorem WaitsFor.preparedRow {spec : WatchSpec} (h : spec.Plain) (config : StoreConfig)
    (id : JsString) (intent : Option SettlementIntent) (now expiresAt : ℤ) :
    WaitsFor (preparedRow config id spec intent now expiresAt) spec where
  expectedSender := StoreConfig.val_columnText.2 (h.expectedSender.all _)
  expectedReceiver := StoreConfig.val_columnText.2 (h.expectedReceiver.all _)
  assetId := rfl
  atomicAmount := StoreConfig.val_columnText.2 (h.atomicAmount.all _)
  invoiceNote invoice hinvoice :=
    ⟨config.columnText invoice, by simp [RoundWatch.preparedRow, hinvoice],
      utf8Bytes_columnText config (h.invoiceNote invoice hinvoice)⟩

theorem WaitsFor.same {watch watch' : WatchRow} {spec : WatchSpec} (h : WaitsFor watch spec)
    (hsame : SameWatch watch watch') : WaitsFor watch' spec := by
  obtain ⟨hsender, hreceiver, hasset, hamount, hnote⟩ := h
  exact ⟨hsame.expectedSender ▸ hsender, hsame.expectedReceiver ▸ hreceiver,
    hsame.assetId.trans hasset, hsame.atomicAmount ▸ hamount, hsame.invoiceNote ▸ hnote⟩

/-- A watch that was specified plainly waits for what was specified. -/
theorem Specified.waitsFor {cfg : WorkerConfig} {σ : System} {es : List Event}
    (hes : ∀ e ∈ es, e.SpecifiesPlainly) {watch : WatchRow} {spec : WatchSpec}
    (h : Specified cfg σ es watch spec) : WaitsFor watch spec := by
  obtain ⟨before, now, id, intent, hop, after, created, rfl, hcreated, hsame⟩ := h
  have hplain : spec.Plain := hes (.call ⟨.prepareWatch now id spec intent, hop⟩) (by simp)
  rcases (System.run cfg σ before).store.prepareWatch_cases now id spec intent with ⟨e, he⟩ |
    ⟨w, -, -, -, hw⟩ | ⟨s', expiresAt, -, hok⟩
  · simp [he] at hcreated
  · simp [hw] at hcreated
  · rw [hok] at hcreated
    injection hcreated with hcreated
    injection hcreated with hrow _
    exact (hrow ▸ WaitsFor.preparedRow hplain ..).same hsame

/-! ## The evidence of a match -/

/-- The fields of an item are the payment that was specified for a watch, confirmed in a
round. -/
structure ShowsPayment (item : Json) (spec : WatchSpec) (watch : WatchRow) (transaction : SqlText)
    (round : ℤ) : Prop where
  canonical : isCanonicalTransactionId transaction.val
  transactionId : item.get? "id" = some (.str transaction.val)
  txType : item.get? "tx-type" = some (.str (js "axfer"))
  confirmedRound : item.get? "confirmed-round" = some (.num round)
  /-- It is no clawback, no close-out, and calls nothing. -/
  assetSender : transferField item "sender" = none
  closeTo : transferField item "close-to" = none
  innerTransactions : item.get? "inner-txns" = none
  sender : item.get? "sender" = some (.str spec.expectedSender)
  receiver : transferField item "receiver" = some (.str spec.expectedReceiver)
  assetId : transferField item "asset-id" = some (.num spec.assetId)
  amount : ∃ n : ℕ, transferField item "amount" = some (.num n) ∧ spec.atomicAmount = decimal n
  /-- An invoice note is there byte for byte. -/
  note : ∀ invoice, spec.invoiceNote = some invoice → ∃ encoded,
    item.get? "note" = some (.str encoded) ∧ Base64.decode encoded = utf8Bytes invoice
  /-- It is later than the activation and earlier than the deadline. -/
  activation : ∃ activationRound, watch.activationRound = some activationRound ∧
    activationRound < round
  deadline : ∃ roundTime expiresAt, item.get? "round-time" = some (.num roundTime) ∧
    watch.expiresAt = some expiresAt ∧ roundTime * 1000 < expiresAt

/-- An answer to a query of the watch's own, current at the last round of its window, shows
the payment confirmed inside the window. -/
def Genuine (cfg : WorkerConfig) (log : List Observation) (spec : WatchSpec) (watch : WatchRow)
    (transaction : SqlText) (round : ℤ) : Prop :=
  ∃ minRound maxRound token query fetcher body items item current,
    buildWatchSearchUrl cfg.scanQueryVariant watch.terms minRound maxRound token = .ok query ∧
    .scanned fetcher query body ∈ log ∧
    body.get? "transactions" = some (.arr items) ∧ item ∈ items ∧
    ShowsPayment item spec watch transaction round ∧ minRound ≤ round ∧ round ≤ maxRound ∧
    body.get? "current-round" = some (.num current) ∧ maxRound ≤ current

/-- An item that shows a match shows the payment the row waits for. -/
theorem ShowsDirectTransfer.showsPayment {item : Json} {t : IndexedWatchTransaction}
    (h : ShowsDirectTransfer item t) {watch : WatchRow} {spec : WatchSpec}
    (hwaits : WaitsFor watch spec) (hmatch : matchesWatch t watch.terms = true) :
    ShowsPayment item spec watch (bindText t.transaction) t.round := by
  obtain ⟨activationRound, expiresAt, hactivation, hexpires, hafter, hsender, hreceiver, hasset,
    hamount, hbefore, hnote⟩ := matchesWatch_iff.1 hmatch
  have hid : (bindText t.transaction).val = t.transaction := wellFormed_of_canonical h.canonical
  have hsender : t.sender = spec.expectedSender := hsender.trans hwaits.expectedSender
  have hreceiver : t.receiver = spec.expectedReceiver := hreceiver.trans hwaits.expectedReceiver
  have hasset : t.assetId = spec.assetId := Eq.trans hasset hwaits.assetId
  have hamount : t.atomicAmount = spec.atomicAmount := Eq.trans hamount hwaits.atomicAmount
  refine
    { canonical := by rw [hid]; exact h.canonical
      transactionId := by rw [hid]; exact h.transactionId
      txType := h.txType
      confirmedRound := h.round
      assetSender := h.assetSender
      closeTo := h.closeTo
      innerTransactions := h.innerTransactions
      sender := hsender ▸ h.sender
      receiver := hreceiver ▸ h.receiver
      assetId := hasset ▸ h.assetId
      amount := ?_
      note := ?_
      activation := ⟨activationRound, hactivation, hafter⟩
      deadline := ⟨t.roundTime, expiresAt, h.roundTime, hexpires, hbefore⟩ }
  · obtain ⟨n, hn, hdecimal⟩ := h.amount
    exact ⟨n, hn, hamount.symm.trans hdecimal⟩
  · intro invoice hinvoice
    obtain ⟨note, hterms, hbytes⟩ := hwaits.invoiceNote invoice hinvoice
    have hterms : watch.terms.invoiceNote = some note := hterms
    cases hactual : t.note with
    | none => simp [noteMatches, hterms, hactual] at hnote
    | some encoded =>
        simp only [noteMatches, hterms, hactual, beq_iff_eq] at hnote
        exact ⟨encoded, by rw [h.note, hactual]; rfl, hnote.trans hbytes⟩

/-- **A match is genuine.**  In every run of the process whose specifications have no U+0000,
with a provider that answers whatever it likes, a watch that is matched with a transaction at
a round was specified in the run, and behind it there is an answer that shows the payment of
that specification. -/
theorem match_genuine (cfg : WorkerConfig) (config : StoreConfig) (es : List Event)
    (hes : ∀ e ∈ es, e.SpecifiesPlainly) :
    let σ := System.run cfg (.boot (.empty config)) es
    ∀ watch ∈ σ.store.rows, watch.state = .matched →
      ∃ spec transaction round, Specified cfg (.boot (.empty config)) es watch spec ∧
        watch.matchedTransaction = some transaction ∧ watch.matchedRound = some round ∧
        Genuine cfg σ.log spec watch transaction round := by
  intro σ watch hwatch hmatched
  obtain ⟨spec, hspec⟩ := exists_specified cfg config es watch hwatch
  have hsound := (sound_run cfg config es).rows watch hwatch
  obtain ⟨transaction, htransaction⟩ :=
    Option.isSome_iff_exists.1 (hsound.lifecycle.matchedTransaction.1 hmatched)
  obtain ⟨round, hround⟩ :=
    Option.isSome_iff_exists.1 (hsound.lifecycle.matchedRound.1 hmatched)
  obtain ⟨minRound, maxRound, token, query, fetcher, body, items, item, t, hquery, hmem, hitems,
    hitem, hshows, hmatch, hmin, hmax, ⟨current, hcurrent, hcovers⟩, rfl, rfl⟩ :=
    hsound.trail.matched transaction round htransaction hround
  exact ⟨spec, _, _, hspec, htransaction, hround, minRound, maxRound, token, query, fetcher, body,
    items, item, current, hquery, hmem, hitems, hitem,
    hshows.showsPayment (hspec.waitsFor hes) hmatch, hmin, hmax, hcurrent, hcovers⟩

/-- The item of the payment the sample watch waits for. -/
def paymentItem : Json :=
  .obj [(js "id", .str (js "AAAAAAAAAAAAAAAAAAAAAAAAAAAAAAAAAAAAAAAAAAAAAAAAAAAA")),
    (js "tx-type", .str (js "axfer")), (js "sender", .str sampleSpec.expectedSender),
    (js "confirmed-round", .num 20), (js "round-time", .num 1000),
    (js "asset-transfer-transaction", .obj [(js "receiver", .str sampleSpec.expectedReceiver),
      (js "asset-id", .num sampleSpec.assetId), (js "amount", .num 1000000)])]

/-- The payment with the note `a`. -/
def notedItem : Json :=
  .obj [(js "id", .str (js "AAAAAAAAAAAAAAAAAAAAAAAAAAAAAAAAAAAAAAAAAAAAAAAAAAAA")),
    (js "tx-type", .str (js "axfer")), (js "sender", .str sampleSpec.expectedSender),
    (js "note", .str (js "YQ==")),
    (js "confirmed-round", .num 20), (js "round-time", .num 1000),
    (js "asset-transfer-transaction", .obj [(js "receiver", .str sampleSpec.expectedReceiver),
      (js "asset-id", .num sampleSpec.assetId), (js "amount", .num 1000000)])]

/-- The sample watch, with a note. -/
def notedSpec (note : JsString) : WatchSpec := { sampleSpec with invoiceNote := some note }

/-- It is shown the payment on the first page it reads. -/
def notedHistory (note : JsString) : List Event :=
  [.call ⟨.prepareWatch 0 (js "w") (notedSpec note) (some sampleIntent), rfl⟩,
    .call ⟨.activateWatch 2 (js "w") sampleEvidence 10, rfl⟩,
    .poll (.at 1000),
    .resumePoll 0 (.body (tipBody 50)) (.at 1000),
    .resumePoll 0 (.body (.obj [(js "transactions", .arr [notedItem]),
      (js "current-round", .num 50)])) (.at 1000)]

/-- The process behind it. -/
def notedSystem (note : JsString) : System :=
  System.run sampleWorker (.boot (.empty .default)) (notedHistory note)

theorem match_genuine_first_page :
    ∃ watch ∈ (notedSystem (js "a")).store.rows, watch.state = .matched ∧
      ∃ spec transaction round, watch.matchedTransaction = some transaction ∧
        watch.matchedRound = some round ∧
        Genuine sampleWorker (notedSystem (js "a")).log spec watch transaction round := by
  have hmatched : (notedSystem (js "a")).store.rows.any (·.state == .matched) = true := by
    decide +kernel
  obtain ⟨watch, hwatch, hstate⟩ := List.any_eq_true.1 hmatched
  have hstate : watch.state = .matched := by simpa using hstate
  have hplain : ∀ e ∈ notedHistory (js "a"), e.SpecifiesPlainly := by
    intro e he
    simp only [notedHistory, List.mem_cons, List.not_mem_nil, or_false] at he
    rcases he with rfl | rfl | rfl | rfl | rfl
    · refine ⟨by decide, by decide, by decide, fun note hnote => ?_⟩
      obtain rfl := Option.some.inj hnote
      decide
    · trivial
    · trivial
    · trivial
    · trivial
  obtain ⟨spec, transaction, round, -, htransaction, hround, hgenuine⟩ :=
    match_genuine sampleWorker .default (notedHistory (js "a")) hplain watch hwatch hstate
  exact ⟨watch, hwatch, hstate, spec, transaction, round, htransaction, hround, hgenuine⟩

/-- A note with U+0000 in it. -/
def cutNote : JsString := [97, 0, 98]

/-- No item of a page that was read carries the note. -/
def Observation.lacksNote (note : JsString) : Observation → Bool
  | .scanned _ _ body =>
      match body.get? "transactions" with
      | some (.arr items) => items.all fun item =>
          match item.get? "note" with
          | some (.str encoded) => Base64.decode encoded != utf8Bytes note
          | _ => true
      | _ => true
  | _ => true

/-- **A note that is cut.**  The watch was specified with a note that has U+0000 in it and is
matched, though no payment with that note was ever shown. -/
theorem match_of_cut_note :
    ∃ watch ∈ (notedSystem cutNote).store.rows, watch.state = .matched ∧
      Specified sampleWorker (.boot (.empty .default)) (notedHistory cutNote) watch
        (notedSpec cutNote) ∧
      ∀ transaction round, ¬ Genuine sampleWorker (notedSystem cutNote).log (notedSpec cutNote)
        watch transaction round := by
  have hmatched : (notedSystem cutNote).store.rows.any (·.state == .matched) = true := by
    decide +kernel
  have hlacks : (notedSystem cutNote).log.all (·.lacksNote cutNote) = true := by decide +kernel
  obtain ⟨watch, hwatch, hstate⟩ := List.any_eq_true.1 hmatched
  have hstate : watch.state = .matched := by simpa using hstate
  obtain ⟨spec, before, now, id, intent, hop, after, created, hhistory, hcreated, hsame⟩ :=
    exists_specified sampleWorker .default (notedHistory cutNote) watch hwatch
  have hcall : Event.call ⟨.prepareWatch now id spec intent, hop⟩ ∈ notedHistory cutNote :=
    hhistory ▸ by simp
  obtain ⟨rfl, rfl, rfl, rfl⟩ : now = 0 ∧ id = js "w" ∧ spec = notedSpec cutNote ∧
      intent = some sampleIntent := by
    simpa [notedHistory, Subtype.ext_iff] using hcall
  have hspecified : Specified sampleWorker (.boot (.empty .default)) (notedHistory cutNote) watch
      (notedSpec cutNote) := ⟨before, 0, _, _, hop, after, created, hhistory, hcreated, hsame⟩
  refine ⟨watch, hwatch, hstate, hspecified, ?_⟩
  rintro transaction round ⟨_, _, _, query, fetcher, body, items, item, _, -, hscanned, hitems,
    hitem, hshows, -⟩
  obtain ⟨encoded, hencoded, hbytes⟩ := hshows.note cutNote rfl
  have hbody := List.all_eq_true.1 hlacks _ hscanned
  simp only [Observation.lacksNote, hitems, List.all_eq_true] at hbody
  have hlack := hbody item hitem
  simp [hencoded, hbytes] at hlack

end RoundWatch
