import RoundWatch.App.Requests

/-!
# Recovering a paid watch

A customer who paid repeats the request to find the watch again.  The note goes
through a column, so the repetition works exactly when the column gives it back:

* `parseWatchSpec_ok` — what an accepted body looks like; everything but the key and
  the note is plain ASCII.
* `created_row` — the created row after any later operations: still the payer's, its
  terms as written.
* `recoverable_iff` — the watch is recoverable, and its key never answers for another
  key, if and only if the note is returned as it was bound and the key shows no U+FFFD
  once stored.
-/

namespace RoundWatch

open JsText

/-! ## What an accepted body looks like -/

/-- The documented shape of an Algorand address: 58 base-32 characters. -/
def AddressText (a : JsString) : Prop :=
  a.length = 58 ∧ ∀ u ∈ a, (65 ≤ u ∧ u ≤ 90) ∨ (50 ≤ u ∧ u ≤ 55)

theorem AddressText.wellFormed {a : JsString} (h : AddressText a) : WellFormed a := by
  refine wellFormed_of_plain fun u hu => ?_
  rcases h.2 u hu with hu | hu
  · exact Nat.lt_of_le_of_lt hu.2 (by decide)
  · exact Nat.lt_of_le_of_lt hu.2 (by decide)

/-- An address comes back from a text column as it was bound. -/
theorem AddressText.keeps {a : JsString} (h : AddressText a) (read : TextRead) : read.Keeps a := by
  refine TextRead.keeps_of_plain read h.wellFormed fun hzero => ?_
  rcases h.2 0 hzero with hu | hu <;> exact absurd hu.1 (by decide)

theorem AddressText.ne_nil {a : JsString} (h : AddressText a) : a ≠ [] := by
  rintro rfl
  exact absurd h.1 (by decide)

section Routes

variable {isValidAlgorandAddress : JsString → Bool} {usdcAssetId : ℤ}

/-- The fields of an accepted body. -/
structure Accepted (isValidAlgorandAddress : JsString → Bool) (usdcAssetId : ℤ) (body : Json)
    (spec : WatchSpec) : Prop where
  isObject : ∃ fields, body = .obj fields
  key : stringField body "idempotencyKey" = some spec.idempotencyKey
  keyLength : 8 ≤ spec.idempotencyKey.length ∧ spec.idempotencyKey.length ≤ 128
  sender : stringField body "expectedSender" = some spec.expectedSender
  senderValid : isValidAlgorandAddress spec.expectedSender
  receiver : stringField body "expectedReceiver" = some spec.expectedReceiver
  receiverValid : isValidAlgorandAddress spec.expectedReceiver
  asset : spec.assetId = usdcAssetId
  amount : stringField body "atomicAmount" = some spec.atomicAmount
  amountLength : spec.atomicAmount.length ≤ maxSafeAtomicAmountDigits
  amountDecimal : Store.isPositiveDecimal spec.atomicAmount
  amountRange : (digitsValue? 10 0 spec.atomicAmount).all (maxSafeAtomicAmount < ·) = false
  note : noteField body = .ok spec.invoiceNote

theorem parseWatchSpec_ok {body : Json} {spec : WatchSpec} :
    parseWatchSpec isValidAlgorandAddress usdcAssetId body = .ok spec ↔
      Accepted isValidAlgorandAddress usdcAssetId body spec := by
  constructor
  · intro h
    unfold parseWatchSpec at h
    cases body with
    | obj fields =>
        dsimp only at h
        split at h
        · cases h
        rename_i key hkey
        split at h
        · cases h
        rename_i sender hsender
        split at h
        · cases h
        rename_i receiver hreceiver
        split at h
        · cases h
        rename_i amount hamount
        split at h
        · cases h
        rename_i hrange
        split at h
        · cases h
        rename_i note hnote
        cases h
        simp only [addressField, Option.filter_eq_some_iff, Bool.and_eq_true,
          decide_eq_true_eq] at hkey hsender hreceiver hamount
        exact ⟨⟨fields, rfl⟩, hkey.1, hkey.2, hsender.1, hsender.2, hreceiver.1, hreceiver.2,
          rfl, hamount.1, hamount.2.1, hamount.2.2, by simpa using hrange, hnote⟩
    | _ => cases h
  · intro h
    obtain ⟨fields, rfl⟩ := h.isObject
    have hkey : (stringField (.obj fields) "idempotencyKey").filter
        (fun key => decide (8 ≤ key.length) && decide (key.length ≤ 128)) =
          some spec.idempotencyKey := by
      simp [Option.filter_eq_some_iff, h.key, h.keyLength.1, h.keyLength.2]
    have hsender : addressField isValidAlgorandAddress (.obj fields) "expectedSender" =
        some spec.expectedSender := by
      simp [addressField, Option.filter_eq_some_iff, h.sender, h.senderValid]
    have hreceiver : addressField isValidAlgorandAddress (.obj fields) "expectedReceiver" =
        some spec.expectedReceiver := by
      simp [addressField, Option.filter_eq_some_iff, h.receiver, h.receiverValid]
    have hamount : (stringField (.obj fields) "atomicAmount").filter
        (fun amount => decide (amount.length ≤ maxSafeAtomicAmountDigits) &&
          Store.isPositiveDecimal amount) = some spec.atomicAmount := by
      simp [Option.filter_eq_some_iff, h.amount, h.amountLength, h.amountDecimal]
    simp only [parseWatchSpec, hkey, hsender, hreceiver, hamount, h.amountRange, h.note,
      Bool.false_eq_true, if_false, ← h.asset]

/-- The two bodies agree on the five fields of a specification. -/
def SameRequest (body body' : Json) : Prop :=
  ∀ name ∈ ["idempotencyKey", "expectedSender", "expectedReceiver", "atomicAmount",
    "invoiceNote"], body'.get? name = body.get? name

theorem stringField_congr {body body' : Json} {name : String}
    (h : body'.get? name = body.get? name) :
    stringField body' name = stringField body name := by
  simp only [stringField, h]

/-- A body that repeats the five fields is parsed to the same specification. -/
theorem Accepted.congr {body body' : Json} {spec : WatchSpec}
    (h : Accepted isValidAlgorandAddress usdcAssetId body spec) (hsame : SameRequest body body')
    (hobject : ∃ fields, body' = .obj fields) :
    Accepted isValidAlgorandAddress usdcAssetId body' spec where
  isObject := hobject
  key := (stringField_congr (hsame _ (by simp))).trans h.key
  keyLength := h.keyLength
  sender := (stringField_congr (hsame _ (by simp))).trans h.sender
  senderValid := h.senderValid
  receiver := (stringField_congr (hsame _ (by simp))).trans h.receiver
  receiverValid := h.receiverValid
  asset := h.asset
  amount := (stringField_congr (hsame _ (by simp))).trans h.amount
  amountLength := h.amountLength
  amountDecimal := h.amountDecimal
  amountRange := h.amountRange
  note := by
    have hnote : body'.get? "invoiceNote" = body.get? "invoiceNote" := hsame _ (by simp)
    simpa only [noteField, hnote] using h.note

theorem acceptCreate_ok {body : Json} {spec : WatchSpec} :
    acceptCreate isValidAlgorandAddress usdcAssetId body = .ok spec ↔
      Accepted isValidAlgorandAddress usdcAssetId body spec ∧
        validateNewWatchAdmission spec = none := by
  unfold acceptCreate
  cases hparse : parseWatchSpec isValidAlgorandAddress usdcAssetId body with
  | error e =>
      refine ⟨fun h => by simp at h, fun h => ?_⟩
      rw [parseWatchSpec_ok.2 h.1] at hparse
      cases hparse
  | ok parsed =>
      have haccepted := parseWatchSpec_ok.1 hparse
      dsimp only
      cases hfresh : validateNewWatchAdmission parsed with
      | some e =>
          refine ⟨fun h => by simp at h, fun h => ?_⟩
          have heq : parsed = spec := by
            simpa [hparse] using parseWatchSpec_ok.2 h.1
          rw [heq, h.2] at hfresh
          cases hfresh
      | none =>
          refine ⟨fun h => ?_, fun h => ?_⟩
          · cases h
            exact ⟨haccepted, hfresh⟩
          · simpa [hparse] using parseWatchSpec_ok.2 h.1

/-! ## The created row -/

/-- A watch that `prepareWatch` created for a payer, as later operations leave it. -/
structure Kept (payer : JsString) (spec : WatchSpec) (watch r : WatchRow) : Prop where
  same : SameWatch watch r
  holds : Holds payer spec.idempotencyKey r
  paid : Paid r
  expected : ∃ e, r.expectedServiceTransaction = some e ∧ e ≠ emptyText

/-- What the created row holds of its specification. -/
structure Written (config : StoreConfig) (spec : WatchSpec) (watch : WatchRow) : Prop where
  sender : watch.expectedSender = config.columnText spec.expectedSender
  receiver : watch.expectedReceiver = config.columnText spec.expectedReceiver
  asset : watch.assetId = spec.assetId
  amount : watch.atomicAmount = config.columnText spec.atomicAmount
  note : watch.invoiceNote = spec.invoiceNote.map config.columnText

theorem Evolves.holds {r r' : WatchRow} (h : Evolves r r') {payer key : JsString}
    (hheld : Holds payer key r) : Holds payer key r' :=
  ⟨h.expectedPayer _ hheld.payer, h.same.idempotencyKey.trans hheld.key⟩

theorem Written.preparedRow (config : StoreConfig) (id : JsString) (spec : WatchSpec)
    (intent : Option SettlementIntent) (now expiresAt : ℤ) :
    Written config spec (preparedRow config id spec intent now expiresAt) :=
  ⟨rfl, rfl, rfl, rfl, rfl⟩

/-- What becomes of a prepared row. -/
theorem Kept.of_evolves {config : StoreConfig} {id : JsString} {spec : WatchSpec}
    {intent : SettlementIntent} {payer : JsString} {now expiresAt : ℤ} {r : WatchRow}
    (hpayer : intent.payer = some payer) (hne : payer ≠ [])
    (htx : intent.expectedTransaction ≠ [])
    (h : Evolves (preparedRow config id spec (some intent) now expiresAt) r) (hpaid : Paid r) :
    Kept payer spec (preparedRow config id spec (some intent) now expiresAt) r := by
  have hby : Store.truthyPayer (some intent) = some payer := by
    simp [Store.truthyPayer, hpayer, hne]
  have hholds : Holds payer spec.idempotencyKey
      (preparedRow config id spec (some intent) now expiresAt) :=
    ⟨Store.expectedServicePayer_preparedRow hby .., rfl⟩
  exact ⟨h.same, h.holds hholds, hpaid, _, h.expectedTransaction _ rfl, bindText_ne_empty htx⟩

/-- **The created row.**  Whatever happens later, it is the payer's row under the key,
with the terms that were written and the expected payment. -/
theorem created_row {s : Store} {now : ℤ} {id : JsString} {spec : WatchSpec}
    {intent : SettlementIntent} {payer : JsString} {watch : WatchRow}
    (hpayer : intent.payer = some payer) (hne : payer ≠ [])
    (htx : intent.expectedTransaction ≠ [])
    (hcreated : (s.prepareWatch now id spec (some intent)).2 = .ok ⟨watch, true⟩) :
    Written s.config spec watch ∧ ∀ later, ∃ r ∈ ((s.prepareWatch now id spec (some intent)).1.run
      later).rows, Kept payer spec watch r := by
  rcases s.prepareWatch_cases now id spec (some intent) with ⟨e, he⟩ | ⟨w, -, -, -, hw⟩ |
    ⟨s', expiresAt, hnew, hok⟩
  · simp [he] at hcreated
  · simp [hw] at hcreated
  · obtain rfl : preparedRow s.config id spec (some intent) now expiresAt = watch := by
      simpa [hok] using hcreated
    refine ⟨.preparedRow .., fun later => ?_⟩
    have hmem : preparedRow s.config id spec (some intent) now expiresAt ∈
        (s.prepareWatch now id spec (some intent)).1.rows := by
      simp [hok, hnew.rows]
    obtain ⟨r, hr, hevolves, hpaid⟩ :=
      Store.exists_run_of_mem (P := Paid) (R := fun r r' => Evolves r r' ∧ (Paid r → Paid r'))
        (fun r => ⟨.refl r, fun h => h⟩) (fun h h' => ⟨h.1.trans h'.1, h'.2 ∘ h.2⟩)
        (fun _ _ _ hchange h => ⟨h.change hchange, hchange.evolves h, fun h => h.change hchange⟩)
        hmem (Paid.preparedRow ..) later
    exact ⟨r, hr, .of_evolves hpayer hne htx hevolves (hpaid (Paid.preparedRow ..))⟩

/-- Of the terms of an accepted body only the note can be changed by its column. -/
theorem exactMatch_iff {config : StoreConfig} {body : Json} {payer : JsString} {spec : WatchSpec}
    {watch r : WatchRow} (hvalid : ∀ a, isValidAlgorandAddress a → AddressText a)
    (haccepted : Accepted isValidAlgorandAddress usdcAssetId body spec)
    (hpayer : isValidAlgorandAddress payer) (hwritten : Written config spec watch)
    (hkept : Kept payer spec watch r) :
    exactMatch r spec payer = true ↔
      ∀ note, spec.invoiceNote = some note → config.textRead.Keeps note := by
  have hsender : r.expectedSender.val = spec.expectedSender := by
    rw [hkept.same.expectedSender, hwritten.sender, StoreConfig.val_columnText]
    exact (hvalid _ haccepted.senderValid).keeps _
  have hreceiver : r.expectedReceiver.val = spec.expectedReceiver := by
    rw [hkept.same.expectedReceiver, hwritten.receiver, StoreConfig.val_columnText]
    exact (hvalid _ haccepted.receiverValid).keeps _
  have hasset : r.assetId = spec.assetId := hkept.same.assetId.trans hwritten.asset
  have hamount : r.atomicAmount.val = spec.atomicAmount := by
    rw [hkept.same.atomicAmount, hwritten.amount, StoreConfig.val_columnText]
    exact Store.keeps_of_isPositiveDecimal _ haccepted.amountDecimal
  have hservicePayer : r.expectedServicePayer.map SqlText.val = some payer := by
    rw [hkept.holds.payer]
    exact congrArg some (hvalid _ hpayer).wellFormed
  have hnote : r.invoiceNote = spec.invoiceNote.map config.columnText :=
    hkept.same.invoiceNote.trans hwritten.note
  simp only [exactMatch, hsender, hreceiver, hasset, hamount, hservicePayer, hnote, beq_self_eq_true,
    Bool.and_true, Bool.true_and, beq_iff_eq]
  cases spec.invoiceNote with
  | none => simp
  | some note => simp [StoreConfig.val_columnText]

/-- The recovery route on a repetition of the request. -/
theorem recoverWatch_eq {s : Store} {body : Json} {payer : JsString} {spec : WatchSpec}
    {watch r : WatchRow} (haccepted : Accepted isValidAlgorandAddress usdcAssetId body spec)
    (hpayer : isValidAlgorandAddress payer)
    (hbody : stringField body "servicePayer" = some payer) (hr : r ∈ s.rows)
    (hkept : Kept payer spec watch r) :
    recoverWatch isValidAlgorandAddress usdcAssetId s body =
      if exactMatch r spec payer then
        if r.serviceTransaction.isSome && r.handedBack then .recovered (publicWatch r)
        else .notRecoverable r.state (recoveryDisposition r)
      else .notFound := by
  have hservice : (stringField body "servicePayer").filter isValidAlgorandAddress = some payer := by
    simp [Option.filter_eq_some_iff, hbody, hpayer]
  have hconfirmed : r.settlementConfirmed = r.serviceTransaction.isSome := by
    cases hpaid : r.serviceTransaction with
    | none => simp [WatchRow.settlementConfirmed, hpaid]
    | some t =>
        obtain ⟨e, he, hne⟩ := hkept.expected
        have hval : t.val ≠ [] := by
          intro hnil
          refine hne ?_
          rw [hkept.paid.expected e t he hne hpaid]
          exact SqlText.ext hnil
        simp [WatchRow.settlementConfirmed, hpaid, hval]
  simp only [recoverWatch, parseWatchSpec_ok.2 haccepted, hservice,
    Store.getByPayerAndIdempotencyKey, Store.findPayerIdempotencyRow_eq hr hkept.holds, ← hconfirmed]
  by_cases hmatch : exactMatch r spec payer = true
  · have hfilter : (some r).filter (exactMatch · spec payer) = some r := by
      simp [Option.filter, hmatch]
    rw [hfilter, if_pos hmatch]
  · have hfilter : (some r).filter (exactMatch · spec payer) = none := by
      simp [Option.filter, hmatch]
    rw [hfilter, if_neg hmatch]

/-- The recovery request for a body. -/
theorem exists_recovery_body (body : Json) (hobject : ∃ fields, body = .obj fields)
    (payer : JsString) : ∃ body', SameRequest body body' ∧
      body'.get? "servicePayer" = some (.str payer) := by
  obtain ⟨fields, rfl⟩ := hobject
  refine ⟨.obj (Json.insert fields (js "servicePayer") (.str payer)), ?_,
    Json.lookup_insert_self ..⟩
  intro name hname
  refine Json.lookup_insert_other ?_ _ _
  simp only [List.mem_cons, List.not_mem_nil, or_false] at hname
  rcases hname with rfl | rfl | rfl | rfl | rfl <;> decide

/-! ## Recoverability -/

/-- What a customer who paid is owed, from the store the creation left behind. -/
structure Recoverable (isValidAlgorandAddress : JsString → Bool) (usdcAssetId : ℤ) (s : Store)
    (body : Json) (key payer : JsString) (watch : WatchRow) : Prop where
  /-- Repeating the request finds the watch: handed back once the payment is on record
  and the watch is past settlement, with a disposition until then. -/
  recovery : ∀ (later : List StoreOp) (body' : Json), SameRequest body body' →
    body'.get? "servicePayer" = some (.str payer) →
    ∃ r, (s.run later).getWatch watch.id.val = some r ∧
      recoverWatch isValidAlgorandAddress usdcAssetId (s.run later) body' =
        if r.serviceTransaction.isSome && r.handedBack then .recovered (publicWatch r)
        else .notRecoverable r.state (recoveryDisposition r)
  /-- An accepted request under another key is not answered with this watch. -/
  noReplay : ∀ (later : List StoreOp) (body' : Json) (spec' : WatchSpec) (now : ℤ)
    (id : JsString) (intent : Option SettlementIntent),
    acceptCreate isValidAlgorandAddress usdcAssetId body' = .ok spec' →
    spec'.idempotencyKey ≠ key → ∀ answer,
      createReply ((s.run later).prepareWatch now id spec' intent).2 = .idempotencyReplay answer →
      answer.id ≠ watch.id

/-- A replay answers with a row under the key of the call. -/
theorem replay_key {s : Store} {now : ℤ} {id : JsString} {spec : WatchSpec}
    {intent : Option SettlementIntent} {answer : PublicWatch}
    (h : createReply (s.prepareWatch now id spec intent).2 = .idempotencyReplay answer) :
    ∃ r ∈ s.rows, answer = publicWatch r ∧ r.idempotencyKey = bindText spec.idempotencyKey := by
  rcases s.prepareWatch_cases now id spec intent with ⟨e, he⟩ | ⟨existing, hfind, -, -, hok⟩ |
    ⟨s', expiresAt, -, hok⟩
  · rw [he] at h
    cases e <;> simp [createReply] at h
  · rw [hok] at h
    refine ⟨existing, Store.findIdempotencyRow_mem hfind, ?_, Store.findIdempotencyRow_key hfind⟩
    simpa [createReply] using h.symm
  · rw [hok] at h
    simp [createReply] at h

/-- Another body that the create route accepts, with another key in its place. -/
theorem exists_body_with_key {body : Json} {spec : WatchSpec} {key : JsString}
    (haccepted : Accepted isValidAlgorandAddress usdcAssetId body spec)
    (hfresh : validateNewWatchAdmission spec = none)
    (hlength : key.length = spec.idempotencyKey.length)
    (hplain : key ≠ newWatchIdempotencyPlaceholder) :
    ∃ body', acceptCreate isValidAlgorandAddress usdcAssetId body' =
      .ok { spec with idempotencyKey := key } := by
  obtain ⟨fields, rfl⟩ := haccepted.isObject
  have hself : stringField (.obj (Json.replace fields (js "idempotencyKey") (.str key)))
      "idempotencyKey" = some key := by
    have hkey := haccepted.key
    simp only [stringField, Json.get?] at hkey ⊢
    cases hlookup : Json.lookup fields (js "idempotencyKey") with
    | none => simp [hlookup] at hkey
    | some old => rw [Json.lookup_replace_self hlookup]
  have hother : ∀ name : String, js name ≠ js "idempotencyKey" →
      (Json.obj (Json.replace fields (js "idempotencyKey") (.str key))).get? name =
        (Json.obj fields).get? name := fun name hname => Json.lookup_replace_other hname _ _
  refine ⟨.obj (Json.replace fields (js "idempotencyKey") (.str key)),
    acceptCreate_ok.2 ⟨⟨⟨_, rfl⟩, hself, ?_, ?_, haccepted.senderValid, ?_,
      haccepted.receiverValid, haccepted.asset, ?_, haccepted.amountLength,
      haccepted.amountDecimal, haccepted.amountRange, ?_⟩, ?_⟩⟩
  · exact hlength ▸ haccepted.keyLength
  · exact (stringField_congr (hother _ (by decide))).trans haccepted.sender
  · exact (stringField_congr (hother _ (by decide))).trans haccepted.receiver
  · exact (stringField_congr (hother _ (by decide))).trans haccepted.amount
  · have hnote := haccepted.note
    simp only [noteField] at hnote ⊢
    rw [hother "invoiceNote" (by decide)]
    exact hnote
  · unfold validateNewWatchAdmission at hfresh ⊢
    rw [if_neg hplain]
    split at hfresh
    · cases hfresh
    · exact hfresh

/-- The recovery route on the accepted body of a row, repeated with its payer. -/
theorem recoverWatch_of_kept {s : Store} {body body' : Json} {payer : JsString} {spec : WatchSpec}
    {watch r : WatchRow} (haccepted : Accepted isValidAlgorandAddress usdcAssetId body spec)
    (hpayer : isValidAlgorandAddress payer) (hsame : SameRequest body body')
    (hservice : body'.get? "servicePayer" = some (.str payer)) (hr : r ∈ s.rows)
    (hkept : Kept payer spec watch r) :
    s.getWatch watch.id.val = some r ∧
      recoverWatch isValidAlgorandAddress usdcAssetId s body' =
        if exactMatch r spec payer then
          if r.serviceTransaction.isSome && r.handedBack then .recovered (publicWatch r)
          else .notRecoverable r.state (recoveryDisposition r)
        else .notFound := by
  have hobject : ∃ fields, body' = .obj fields := by
    cases body' with
    | obj fields => exact ⟨fields, rfl⟩
    | _ => simp [Json.get?] at hservice
  refine ⟨Store.getWatch_of_mem hr ?_, ?_⟩
  · rw [bindText_val, hkept.same.id]
  · exact recoverWatch_eq (haccepted.congr hsame hobject) hpayer (by simp [stringField, hservice])
      hr hkept

/-- Another key that is stored as the row's own is answered with the row. -/
theorem createReply_of_kept {s : Store} {payer key : JsString} {spec : WatchSpec}
    {intent : SettlementIntent} {watch r : WatchRow} (hintent : intent.payer = some payer)
    (hne : payer ≠ []) (hr : r ∈ s.rows) (hkept : Kept payer spec watch r)
    (hmatch : exactMatch r spec payer = true)
    (hstored : bindText key = bindText spec.idempotencyKey) :
    createReply (s.prepareWatch 0 [] { spec with idempotencyKey := key } (some intent)).2 =
      .idempotencyReplay (publicWatch r) := by
  have hby : PrepareCall.isBy ⟨0, [], { spec with idempotencyKey := key }, some intent⟩ payer := by
    simp [PrepareCall.isBy, Store.truthyPayer, hintent, hne]
  have hterms : watchSpecMatches r { spec with idempotencyKey := key } = true := by
    simp only [exactMatch, Bool.and_eq_true] at hmatch
    simp only [watchSpecMatches, Bool.and_eq_true]
    exact hmatch.1
  have hcall := PrepareCall.run_of_holds hby (show validDate 0 = true by decide) hr
    ⟨hkept.holds.payer, hkept.holds.key.trans hstored.symm⟩
  rw [if_pos hterms] at hcall
  exact congrArg (fun result => createReply result.2) hcall

/-- **When a paid watch is recoverable.**  The create route accepted a body and the
store created its watch for a payer.  The watch is recoverable if and only if the note,
if there is one, comes back as it was bound, and the key has neither an unpaired
surrogate nor U+FFFD.

Of a driver that decodes all of a text, U+0000 included (`TextRead.whole`), the note needs
no unpaired surrogate; of `node:sqlite`, which stops there (`TextRead.untilNul`), no U+0000
either. -/
theorem recoverable_iff (hvalid : ∀ a, isValidAlgorandAddress a → AddressText a) {s : Store}
    {now : ℤ} {id : JsString} {body : Json} {spec : WatchSpec} {intent : SettlementIntent}
    {payer : JsString} {watch : WatchRow}
    (haccept : acceptCreate isValidAlgorandAddress usdcAssetId body = .ok spec)
    (hpayer : isValidAlgorandAddress payer) (hintent : intent.payer = some payer)
    (htx : intent.expectedTransaction ≠ [])
    (hcreated : (s.prepareWatch now id spec (some intent)).2 = .ok ⟨watch, true⟩) :
    Recoverable isValidAlgorandAddress usdcAssetId (s.prepareWatch now id spec (some intent)).1
        body spec.idempotencyKey payer watch ↔
      (∀ note, spec.invoiceNote = some note → s.config.textRead.Keeps note) ∧
        replacement ∉ toWellFormed spec.idempotencyKey := by
  obtain ⟨haccepted, hfresh⟩ := acceptCreate_ok.1 haccept
  have hne : payer ≠ [] := (hvalid _ hpayer).ne_nil
  obtain ⟨hwritten, hrows⟩ := created_row hintent hne htx hcreated
  constructor
  · intro hrecoverable
    obtain ⟨r, hr, hkept⟩ := hrows []
    have hexact := exactMatch_iff hvalid haccepted hpayer hwritten hkept
    have hnote : ∀ note, spec.invoiceNote = some note → s.config.textRead.Keeps note := by
      obtain ⟨body', hsame, hservice⟩ := exists_recovery_body body haccepted.isObject payer
      obtain ⟨-, hanswer⟩ := recoverWatch_of_kept haccepted hpayer hsame hservice hr hkept
      obtain ⟨r', -, hpromise⟩ := hrecoverable.recovery [] body' hsame hservice
      by_contra hnote
      rw [if_neg fun hmatch => hnote (hexact.1 hmatch)] at hanswer
      rw [hanswer] at hpromise
      split at hpromise <;> simp at hpromise
    refine ⟨hnote, fun hmem => ?_⟩
    -- The key has another spelling, which is stored as the same text.
    obtain ⟨key, hkey, hlength, hsame, u, hu, hlarge⟩ := exists_ne_toWellFormed_eq hmem
    have hplain : key ≠ newWatchIdempotencyPlaceholder := by
      rintro rfl
      have hsmall : newWatchIdempotencyPlaceholder.all (fun v => v < 0xD800) = true := by decide
      have hlt : u < 0xD800 := by simpa using List.all_eq_true.1 hsmall u hu
      exact absurd hlarge (UInt16.not_le.2 hlt)
    obtain ⟨body', hbody'⟩ := exists_body_with_key haccepted hfresh hlength hplain
    exact hrecoverable.noReplay [] body' _ 0 [] (some intent) hbody' hkey (publicWatch r)
      (createReply_of_kept hintent hne hr hkept (hexact.2 hnote) (SqlText.ext hsame)) hkept.same.id
  · rintro ⟨hnote, hkey⟩
    refine ⟨fun later body' hsame hservice => ?_, ?_⟩
    · obtain ⟨r, hr, hkept⟩ := hrows later
      obtain ⟨hget, hanswer⟩ := recoverWatch_of_kept haccepted hpayer hsame hservice hr hkept
      rw [if_pos ((exactMatch_iff hvalid haccepted hpayer hwritten hkept).2 hnote)] at hanswer
      exact ⟨r, hget, hanswer⟩
    · intro later body' spec' now' id' intent' _ hother answer hreplay hid
      obtain ⟨r, hr, hkept⟩ := hrows later
      obtain ⟨r', hr', rfl, hkey'⟩ := replay_key hreplay
      have heq : r' = r := Store.eq_of_id hr' hr (hid.trans hkept.same.id.symm)
      have hstored : bindText spec'.idempotencyKey = bindText spec.idempotencyKey := by
        rw [← hkey', heq, hkept.holds.key]
      exact hother (eq_of_toWellFormed_eq hkey (congrArg SqlText.val hstored))

end Routes

/-! ## A request that is lost, and one that is not -/

/-- Two addresses of the source: the probe address and the zero address. -/
def probeAddress : JsString := js "AEAQCAIBAEAQCAIBAEAQCAIBAEAQCAIBAEAQCAIBAEAQCAIBAEA5RCDXMI"

def isKnownAddress (a : JsString) : Bool := a == probeAddress || a == algorandZeroAddress

instance (a : JsString) : Decidable (AddressText a) :=
  decidable_of_iff
    (a.length = 58 ∧ a.all (fun u => (65 ≤ u && u ≤ 90) || (50 ≤ u && u ≤ 55)) = true)
    (by simp [AddressText])

theorem addressText_of_isKnownAddress (a : JsString) (h : isKnownAddress a) : AddressText a := by
  simp only [isKnownAddress, Bool.or_eq_true, beq_iff_eq] at h
  rcases h with rfl | rfl <;> decide

/-- A create request with a note, and its recovery request. -/
def requestFields (note : JsString) : List (JsString × Json) :=
  [(js "idempotencyKey", .str (js "order-0001")), (js "expectedSender", .str probeAddress),
    (js "expectedReceiver", .str algorandZeroAddress), (js "atomicAmount", .str (js "1000000")),
    (js "invoiceNote", .str note)]

def requestSpec (note : JsString) : WatchSpec where
  idempotencyKey := js "order-0001"
  expectedSender := probeAddress
  expectedReceiver := algorandZeroAddress
  assetId := 31566704
  atomicAmount := js "1000000"
  invoiceNote := some note

def requestIntent : SettlementIntent := { sampleIntent with payer := some probeAddress }

/-- The store after the watch was created. -/
def requestStore (note : JsString) : Store × Except StoreError PreparedWatch :=
  (Store.empty .default).prepareWatch 0 (js "w") (requestSpec note) (some requestIntent)

/-- **A lost note.**  The note is one unpaired surrogate: the create route accepts it and
the watch is created, but the column keeps U+FFFD, and the repetition of the request is
answered 404. -/
theorem recoverWatch_notFound_of_unpaired_surrogate :
    acceptCreate isKnownAddress 31566704 (.obj (requestFields [0xD800])) =
        .ok (requestSpec [0xD800]) ∧
      (∃ watch, (requestStore [0xD800]).2 = .ok ⟨watch, true⟩) ∧
      (recoverWatch isKnownAddress 31566704 (requestStore [0xD800]).1
        (.obj ((js "servicePayer", .str probeAddress) :: requestFields [0xD800]))).status = 404 :=
  ⟨by rfl, ⟨_, rfl⟩, by decide⟩

/-- A request whose note is plain text is recoverable. -/
theorem recoverable_plain_note :
    ∃ watch, (requestStore (js "invoice-1")).2 = .ok ⟨watch, true⟩ ∧
      Recoverable isKnownAddress 31566704 (requestStore (js "invoice-1")).1
        (.obj (requestFields (js "invoice-1"))) (js "order-0001") probeAddress watch := by
  have haccept : acceptCreate isKnownAddress 31566704 (.obj (requestFields (js "invoice-1"))) =
      .ok (requestSpec (js "invoice-1")) := by rfl
  refine ⟨_, rfl, (recoverable_iff addressText_of_isKnownAddress haccept (by decide) rfl
    (by decide) rfl).2 ⟨?_, by decide⟩⟩
  intro note hnote
  cases hnote
  decide

end RoundWatch
