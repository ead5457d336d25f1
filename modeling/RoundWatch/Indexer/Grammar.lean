import RoundWatch.Indexer.Query

/-!
# The grammar of scan items

What an item of a scan answer has to look like, said without a parser, and the proof that
`parseWatchTransaction` accepts that and nothing else.

* `TransactionItem`, `AllowedShape`, `TransferItem` — a transaction, the envelopes its type
  allows, and an asset transfer;
* `innerTransactions`, `innerNodes`, `InnerWithin` — the tree of inner transactions;
* `DirectItem`, `IgnoredItem` — the items that are read as a payment and the items that are
  passed over;
* `parseWatchTransaction_grammar` — the two grammars and the parser agree on every value.
-/

namespace RoundWatch

open JsText Checks

/-! ## Values -/

/-- A non-negative safe integer. -/
def IsNatural (value : Option Json) (n : ℤ) : Prop :=
  value = some (.num n) ∧ 0 ≤ n ∧ n ≤ Json.maxSafeInteger

/-- A non-negative safe integer, as decimal text. -/
def IsAmount (value : Option Json) (amount : JsString) : Prop :=
  ∃ n : ℕ, value = some (.num n) ∧ (n : ℤ) ≤ Json.maxSafeInteger ∧ amount = decimal n

/-- A text that is not empty. -/
def IsText (value : Option Json) (s : JsString) : Prop := value = some (.str s) ∧ s ≠ []

/-- A text that may be missing but not empty. -/
def IsOptionalText (value : Option Json) (s : Option JsString) : Prop :=
  value = s.map .str ∧ s ≠ some []

/-- A Base64 note, or none. -/
def IsNote (value : Option Json) (note : Option JsString) : Prop :=
  value = note.map .str ∧ ∀ n, note = some n → Base64.isCanonical n = true

/-- A canonical id, which only an inner transaction may lack. -/
def IsTransactionId (value : Option Json) (required : Bool) (id : Option JsString) : Prop :=
  value = id.map .str ∧ (∀ t, id = some t → isCanonicalTransactionId t = true) ∧
    (required = true → id.isSome)

theorem record_ok {value : Option Json} {label : String} {fields : List (JsString × Json)} :
    record value label = .ok fields ↔ value = some (.obj fields) := by
  constructor
  · exact record_eq_ok
  · rintro rfl
    rfl

theorem natural?_some {value : Option Json} {n : ℤ} :
    natural? value = some n ↔ IsNatural value n := by
  constructor
  · intro h
    unfold natural? at h
    split at h
    · split at h
      · rename_i hn
        cases h
        simp only [Json.isSafeInteger, Bool.and_eq_true, decide_eq_true_eq] at hn
        exact ⟨rfl, hn.2, hn.1.2⟩
      · cases h
    · cases h
  · rintro ⟨rfl, hpos, hle⟩
    have hlow : -Json.maxSafeInteger ≤ n := le_trans (by decide) hpos
    simp [natural?, Json.isSafeInteger, hpos, hle, hlow]

theorem safeRound_ok {value : Option Json} {label : String} {n : ℤ} :
    safeRound value label = .ok n ↔ IsNatural value n := by
  rw [← natural?_some, safeRound]
  cases natural? value with
  | none => simp
  | some m => simp

theorem safeAmount_ok {value : Option Json} {label : String} {amount : JsString} :
    safeAmount value label = .ok amount ↔ IsAmount value amount := by
  constructor
  · intro h
    unfold safeAmount at h
    split at h
    · rename_i m hm
      cases h
      obtain ⟨hvalue, hpos, hle⟩ := natural?_some.1 hm
      have hm : (m.toNat : ℤ) = m := Int.toNat_of_nonneg hpos
      exact ⟨m.toNat, by rw [hm, hvalue], by rw [hm]; exact hle, rfl⟩
    · cases h
  · rintro ⟨n, hvalue, hle, rfl⟩
    have hn : natural? value = some (n : ℤ) :=
      natural?_some.2 ⟨hvalue, Int.natCast_nonneg n, hle⟩
    simp [safeAmount, hn]

theorem nonEmptyString_ok {value : Option Json} {label : String} {s : JsString} :
    nonEmptyString value label = .ok s ↔ IsText value s := by
  constructor
  · exact nonEmptyString_eq_ok
  · rintro ⟨rfl, hne⟩
    cases s with
    | nil => exact absurd rfl hne
    | cons u rest => rfl

theorem parseCanonicalAlgorandTransactionId_ok {value : Option Json} {label : String}
    {id : JsString} : parseCanonicalAlgorandTransactionId value label = .ok id ↔
      value = some (.str id) ∧ isCanonicalTransactionId id = true := by
  constructor
  · exact parseCanonicalAlgorandTransactionId_eq_ok
  · rintro ⟨rfl, hcanonical⟩
    simp [parseCanonicalAlgorandTransactionId, hcanonical]

theorem parseOptionalNote_ok {value : Option Json} {label : String} {note : Option JsString} :
    parseOptionalNote value label = .ok note ↔ IsNote value note := by
  constructor
  · intro h
    refine ⟨parseOptionalNote_eq_ok h, ?_⟩
    rintro n rfl
    unfold parseOptionalNote at h
    split at h
    · cases h
    · split at h
      · rename_i hcanonical
        cases h
        exact hcanonical
      · cases h
    · cases h
  · rintro ⟨rfl, hcanonical⟩
    cases note with
    | none => rfl
    | some n => simp [parseOptionalNote, hcanonical n rfl]

theorem optionalString_ok {value : Option Json} {label : String} {s : Option JsString} :
    optionalString value label = .ok s ↔ IsOptionalText value s := by
  cases value with
  | none =>
      constructor
      · intro h
        cases h
        exact ⟨rfl, by simp⟩
      · rintro ⟨hvalue, -⟩
        cases s with
        | none => rfl
        | some s => cases hvalue
  | some found =>
      rw [optionalString, map_eq_ok]
      constructor
      · rintro ⟨a, ha, rfl⟩
        obtain ⟨hvalue, hne⟩ := nonEmptyString_ok.1 ha
        exact ⟨hvalue, by simpa using hne⟩
      · rintro ⟨hvalue, hne⟩
        cases s with
        | none => cases hvalue
        | some s => exact ⟨s, nonEmptyString_ok.2 ⟨hvalue, by simpa using hne⟩, rfl⟩

theorem parseTransactionId_ok {fields : List (JsString × Json)} {label : String} {required : Bool}
    {id : Option JsString} : parseTransactionId fields label required = .ok id ↔
      IsTransactionId (Json.lookup fields (js "id")) required id := by
  unfold parseTransactionId
  split
  · rename_i hid
    rw [map_eq_ok]
    constructor
    · rintro ⟨t, ht, rfl⟩
      obtain ⟨hvalue, hcanonical⟩ := parseCanonicalAlgorandTransactionId_ok.1 ht
      refine ⟨hvalue, ?_, fun _ => rfl⟩
      rintro t' ⟨⟩
      exact hcanonical
    · rintro ⟨hvalue, hcanonical, hrequired⟩
      cases id with
      | none =>
          rw [hvalue] at hid
          exact absurd (hrequired (by simpa using hid)) (by simp)
      | some t => exact ⟨t, parseCanonicalAlgorandTransactionId_ok.2 ⟨hvalue, hcanonical t rfl⟩, rfl⟩
  · rename_i hid
    simp only [Bool.or_eq_true, not_or, Bool.not_eq_true, Option.isSome_eq_false_iff,
      Option.isNone_iff_eq_none] at hid
    constructor
    · intro h
      cases h
      exact ⟨hid.2, by simp, by simp [hid.1]⟩
    · rintro ⟨hvalue, -, -⟩
      rw [hid.2] at hvalue
      cases id with
      | none => rfl
      | some t => cases hvalue

/-! ## Transactions -/

/-- A transaction of a supported type with everything a transaction has. -/
structure TransactionItem (item : Option Json) (required : Bool) (c : ParsedTransactionCommon) :
    Prop where
  record : item = some (.obj c.record)
  transactionId : IsTransactionId (Json.lookup c.record (js "id")) required c.transaction
  note : IsNote (Json.lookup c.record (js "note")) c.note
  txType : Json.lookup c.record (js "tx-type") = some (.str c.txType)
  supported : c.txType ∈ supportedTransactionTypes
  sender : IsText (Json.lookup c.record (js "sender")) c.sender
  round : IsNatural (Json.lookup c.record (js "confirmed-round")) c.round
  roundTime : IsNatural (Json.lookup c.record (js "round-time")) c.roundTime

theorem ne_nil_of_supported {txType : JsString} (h : txType ∈ supportedTransactionTypes) :
    txType ≠ [] := by
  rintro rfl
  exact absurd h (by decide)

theorem parseTransactionCommon_ok {value : Option Json} {label : String} {required : Bool}
    {c : ParsedTransactionCommon} :
    parseTransactionCommon value label required = .ok c ↔ TransactionItem value required c := by
  unfold parseTransactionCommon
  constructor
  · intro h
    obtain ⟨fields, hfields, h⟩ := bind_eq_ok.1 h
    obtain ⟨id, hid, h⟩ := bind_eq_ok.1 h
    obtain ⟨note, hnote, h⟩ := bind_eq_ok.1 h
    obtain ⟨txType, htype, h⟩ := bind_eq_ok.1 h
    obtain ⟨hsupported, h⟩ := require_bind_eq_ok.1 h
    obtain ⟨sender, hsender, h⟩ := bind_eq_ok.1 h
    obtain ⟨round, hround, h⟩ := bind_eq_ok.1 h
    obtain ⟨roundTime, htime, h⟩ := bind_eq_ok.1 h
    cases h
    exact ⟨record_ok.1 hfields, parseTransactionId_ok.1 hid, parseOptionalNote_ok.1 hnote,
      (nonEmptyString_ok.1 htype).1, List.contains_iff_mem.1 hsupported,
      nonEmptyString_ok.1 hsender, safeRound_ok.1 hround, safeRound_ok.1 htime⟩
  · intro h
    refine bind_eq_ok.2 ⟨c.record, record_ok.2 h.record, ?_⟩
    refine bind_eq_ok.2 ⟨c.transaction, parseTransactionId_ok.2 h.transactionId, ?_⟩
    refine bind_eq_ok.2 ⟨c.note, parseOptionalNote_ok.2 h.note, ?_⟩
    refine bind_eq_ok.2 ⟨c.txType, nonEmptyString_ok.2 ⟨h.txType, ?_⟩, ?_⟩
    · exact ne_nil_of_supported h.supported
    · refine require_bind_eq_ok.2 ⟨List.contains_iff_mem.2 h.supported, ?_⟩
      refine bind_eq_ok.2 ⟨c.sender, nonEmptyString_ok.2 h.sender, ?_⟩
      refine bind_eq_ok.2 ⟨c.round, safeRound_ok.2 h.round, ?_⟩
      exact bind_eq_ok.2 ⟨c.roundTime, safeRound_ok.2 h.roundTime, rfl⟩

/-- A transaction is read in one way. -/
theorem TransactionItem.unique {item : Option Json} {required : Bool}
    {c c' : ParsedTransactionCommon} (h : TransactionItem item required c)
    (h' : TransactionItem item required c') : c = c' := by
  have hread : parseTransactionCommon item "" required = .ok c := parseTransactionCommon_ok.2 h
  have hread' : parseTransactionCommon item "" required = .ok c' := parseTransactionCommon_ok.2 h'
  rw [hread] at hread'
  exact Except.ok.inj hread'

/-- The envelopes the type of a transaction allows. -/
def AllowedShape (c : ParsedTransactionCommon) : Prop :=
  if c.txType = js "axfer" then Json.lookup c.record (js "inner-txns") = none
  else
    Json.lookup c.record (js "asset-transfer-transaction") = none ∧
      (Json.lookup c.record (js "inner-txns") = none ∨
        c.txType = js "appl" ∧ ∃ items, Json.lookup c.record (js "inner-txns") = some (.arr items))

theorem assertTransactionEnvelopeShape_ok {c : ParsedTransactionCommon} {label : String}
    {u : Unit} :
    assertTransactionEnvelopeShape c label = .ok u ↔ AllowedShape c := by
  unfold assertTransactionEnvelopeShape AllowedShape
  split
  · rw [require_eq_ok, Option.isNone_iff_eq_none]
  · rw [require_bind_eq_ok, Option.isNone_iff_eq_none]
    refine and_congr_right fun _ => ?_
    cases Json.lookup c.record (js "inner-txns") with
    | none => simp
    | some inner =>
        rw [require_bind_eq_ok, decide_eq_true_eq]
        cases inner <;> simp

/-- An asset transfer with the fields of its envelope. -/
structure TransferItem (item : Option Json) (required : Bool) (p : ParsedAssetTransferEnvelope)
    (transfer : List (JsString × Json)) : Prop extends
    TransactionItem item required p.toParsedTransactionCommon where
  axfer : p.txType = js "axfer"
  envelope : Json.lookup p.record (js "asset-transfer-transaction") = some (.obj transfer)
  assetSender : IsOptionalText (Json.lookup transfer (js "sender")) p.assetSender
  closeTo : IsOptionalText (Json.lookup transfer (js "close-to")) p.closeTo
  closeAmount : Json.lookup transfer (js "close-amount") = none ∧ p.closeAmount = js "0" ∨
    IsAmount (Json.lookup transfer (js "close-amount")) p.closeAmount
  /-- Nothing is closed out without a destination. -/
  closed : p.closeTo = none → p.closeAmount = js "0"
  receiver : IsText (Json.lookup transfer (js "receiver")) p.receiver
  assetId : IsNatural (Json.lookup transfer (js "asset-id")) p.assetId
  amount : IsAmount (Json.lookup transfer (js "amount")) p.atomicAmount

theorem parseCloseAmount_ok {value : Option Json} {label : String} {amount : JsString} :
    parseCloseAmount value label = .ok amount ↔
      value = none ∧ amount = js "0" ∨ IsAmount value amount := by
  cases value with
  | none =>
      have hnone : ¬IsAmount none amount := by simp [IsAmount]
      simp [parseCloseAmount, hnone, eq_comm]
  | some found => simp [parseCloseAmount, safeAmount_ok]

theorem parseAssetTransferEnvelope_iff {value : Option Json} {label : String} {required : Bool}
    {p : ParsedAssetTransferEnvelope} : parseAssetTransferEnvelope value label required = .ok p ↔
      ∃ transfer, TransferItem value required p transfer := by
  unfold parseAssetTransferEnvelope
  constructor
  · intro h
    obtain ⟨common, hcommon, h⟩ := bind_eq_ok.1 h
    obtain ⟨haxfer, h⟩ := require_bind_eq_ok.1 h
    obtain ⟨transfer, htransfer, h⟩ := bind_eq_ok.1 h
    obtain ⟨assetSender, hassetSender, h⟩ := bind_eq_ok.1 h
    obtain ⟨closeTo, hcloseTo, h⟩ := bind_eq_ok.1 h
    obtain ⟨closeAmount, hcloseAmount, h⟩ := bind_eq_ok.1 h
    obtain ⟨hclosed, h⟩ := require_bind_eq_ok.1 h
    obtain ⟨receiver, hreceiver, h⟩ := bind_eq_ok.1 h
    obtain ⟨assetId, hassetId, h⟩ := bind_eq_ok.1 h
    obtain ⟨atomicAmount, hamount, h⟩ := bind_eq_ok.1 h
    cases h
    refine ⟨transfer, parseTransactionCommon_ok.1 hcommon, of_decide_eq_true haxfer,
      record_ok.1 htransfer, optionalString_ok.1 hassetSender, optionalString_ok.1 hcloseTo,
      parseCloseAmount_ok.1 hcloseAmount, ?_, nonEmptyString_ok.1 hreceiver,
      safeRound_ok.1 hassetId, safeAmount_ok.1 hamount⟩
    rintro rfl
    simpa using hclosed
  · rintro ⟨transfer, h⟩
    refine bind_eq_ok.2 ⟨_, parseTransactionCommon_ok.2 h.toTransactionItem, ?_⟩
    refine require_bind_eq_ok.2 ⟨decide_eq_true h.axfer, ?_⟩
    refine bind_eq_ok.2 ⟨transfer, record_ok.2 h.envelope, ?_⟩
    refine bind_eq_ok.2 ⟨p.assetSender, optionalString_ok.2 h.assetSender, ?_⟩
    refine bind_eq_ok.2 ⟨p.closeTo, optionalString_ok.2 h.closeTo, ?_⟩
    refine bind_eq_ok.2 ⟨p.closeAmount, parseCloseAmount_ok.2 h.closeAmount, ?_⟩
    refine require_bind_eq_ok.2 ⟨?_, ?_⟩
    · cases hclose : p.closeTo with
      | none => simpa using h.closed hclose
      | some destination => rfl
    · refine bind_eq_ok.2 ⟨p.receiver, nonEmptyString_ok.2 h.receiver, ?_⟩
      refine bind_eq_ok.2 ⟨p.assetId, safeRound_ok.2 h.assetId, ?_⟩
      exact bind_eq_ok.2 ⟨p.atomicAmount, safeAmount_ok.2 h.amount, rfl⟩

/-! ## Filters -/

/-- A transfer passes the filters of a plan. -/
structure PassesFilters (watch : WatchTerms) (plan : ScanQueryPlan)
    (p : ParsedAssetTransferEnvelope) : Prop where
  asset : p.assetId = watch.assetId
  address : match plan.addressRole with
    | .sender => p.sender = plan.address ∨ p.assetSender = some plan.address
    | .receiver => p.receiver = plan.address
  amount : plan.exactAmount = true → p.atomicAmount = watch.atomicAmount.val
  note : plan.notePrefix = true → ∃ note invoiceNote, p.note = some note ∧
    watch.invoiceNote = some invoiceNote ∧ utf8Bytes invoiceNote.val <+: Base64.decode note

theorem satisfiesAddress_iff {p : ParsedAssetTransferEnvelope} {plan : ScanQueryPlan} :
    satisfiesAddress p plan = true ↔ match plan.addressRole with
      | .sender => p.sender = plan.address ∨ p.assetSender = some plan.address
      | .receiver => p.receiver = plan.address := by
  unfold satisfiesAddress
  cases plan.addressRole <;> simp

theorem satisfiesNotePrefix_iff {note : Option JsString} {watch : WatchTerms}
    {plan : ScanQueryPlan} : satisfiesNotePrefix note watch plan = true ↔
      (plan.notePrefix = true → ∃ n invoiceNote, note = some n ∧
        watch.invoiceNote = some invoiceNote ∧ utf8Bytes invoiceNote.val <+: Base64.decode n) := by
  unfold satisfiesNotePrefix
  cases plan.notePrefix with
  | false => simp
  | true =>
      cases note with
      | none => simp
      | some n =>
          cases watch.invoiceNote with
          | none => simp
          | some invoiceNote => simp

theorem satisfiesScanFilters_iff {p : ParsedAssetTransferEnvelope} {watch : WatchTerms}
    {plan : ScanQueryPlan} :
    satisfiesScanFilters p watch plan = true ↔ PassesFilters watch plan p := by
  simp only [satisfiesScanFilters, Bool.and_eq_true, beq_iff_eq, satisfiesAddress_iff,
    satisfiesNotePrefix_iff, Bool.or_eq_true, Bool.not_eq_true']
  constructor
  · rintro ⟨⟨⟨hasset, haddress⟩, hamount⟩, hnote⟩
    refine ⟨hasset, haddress, fun hexact => ?_, hnote⟩
    exact hamount.resolve_left (by simp [hexact])
  · intro h
    refine ⟨⟨⟨h.asset, h.address⟩, ?_⟩, h.note⟩
    cases hexact : plan.exactAmount with
    | false => exact Or.inl rfl
    | true => exact Or.inr (h.amount hexact)

theorem assertTopLevelScanFilters_ok {p : ParsedAssetTransferEnvelope} {minRound maxRound : ℤ}
    {watch : WatchTerms} {plan : ScanQueryPlan} {label : String} {u : Unit} :
    assertTopLevelScanFilters p minRound maxRound watch plan label = .ok u ↔
      (minRound ≤ p.round ∧ p.round ≤ maxRound) ∧ PassesFilters watch plan p := by
  rw [← satisfiesScanFilters_iff]
  unfold assertTopLevelScanFilters insideWindow satisfiesScanFilters
  simp only [require_bind_eq_ok, require_eq_ok, Bool.and_eq_true, decide_eq_true_eq, and_assoc]

/-! ## Inner transactions -/

/-- The inner transactions of a transaction. -/
def innerTransactions (item : Json) : List Json :=
  match item.get? "inner-txns" with
  | some (.arr items) => items
  | _ => []

/-- A transaction and what is below it, `depth` levels in all, in the order of a reader. -/
def innerNodes : ℕ → Json → List Json
  | 0, _ => []
  | depth + 1, item => item :: (innerTransactions item).flatMap (innerNodes depth)

/-- Nothing is below the first `depth` levels. -/
def InnerWithin : ℕ → Json → Prop
  | 0, _ => False
  | depth + 1, item => ∀ child ∈ innerTransactions item, InnerWithin depth child

/-- An inner transaction that may stand in a tree: well formed, of an allowed shape, in the
window, and an asset transfer in full if it is one. -/
def InnerItem (minRound maxRound : ℤ) (item : Json) : Prop :=
  ∃ c, TransactionItem (some item) false c ∧ AllowedShape c ∧
    (minRound ≤ c.round ∧ c.round ≤ maxRound) ∧
    (c.txType = js "axfer" → ∃ p transfer, TransferItem (some item) false p transfer)

/-- An inner transfer that passes the filters. -/
def InnerMatch (watch : WatchTerms) (plan : ScanQueryPlan) (item : Json) : Prop :=
  ∃ p transfer, TransferItem (some item) false p transfer ∧ PassesFilters watch plan p

theorem innerTransactions_of_lookup {item : Json} {required : Bool} {c : ParsedTransactionCommon}
    (h : TransactionItem (some item) required c) : innerTransactions item =
      match Json.lookup c.record (js "inner-txns") with
      | some (.arr items) => items
      | _ => [] := by
  have hitem : item = .obj c.record := Option.some.inj h.record
  rw [hitem]
  rfl

theorem innerTransactions_of_axfer {item : Json} {required : Bool} {c : ParsedTransactionCommon}
    (h : TransactionItem (some item) required c) (hshape : AllowedShape c)
    (haxfer : c.txType = js "axfer") : innerTransactions item = [] := by
  rw [AllowedShape, if_pos haxfer] at hshape
  rw [innerTransactions_of_lookup h, hshape]

/-- What a traversal that goes on from `visited` and `queryMatch` found in these nodes. -/
structure Inspected (minRound maxRound : ℤ) (watch : WatchTerms) (plan : ScanQueryPlan)
    (nodes : List Json) (visited : ℕ) (queryMatch : Bool) (result : Bool × ℕ) : Prop where
  items : ∀ node ∈ nodes, InnerItem minRound maxRound node
  count : result.2 = visited + nodes.length
  bound : visited ≤ maxInnerTransactions → result.2 ≤ maxInnerTransactions
  found : result.1 = true ↔ queryMatch = true ∨ ∃ node ∈ nodes, InnerMatch watch plan node

section Inspection

variable {minRound maxRound : ℤ} {watch : WatchTerms} {plan : ScanQueryPlan}

theorem Inspected.nil (visited : ℕ) (queryMatch : Bool) :
    Inspected minRound maxRound watch plan [] visited queryMatch (queryMatch, visited) :=
  ⟨by simp, by simp, id, by simp⟩

theorem Inspected.append {nodes nodes' : List Json} {visited : ℕ} {queryMatch : Bool}
    {result result' : Bool × ℕ}
    (h : Inspected minRound maxRound watch plan nodes visited false result)
    (h' : Inspected minRound maxRound watch plan nodes' result.2 (result.1 || queryMatch) result') :
    Inspected minRound maxRound watch plan (nodes ++ nodes') visited queryMatch result' := by
  refine ⟨?_, ?_, fun hvisited => h'.bound (h.bound hvisited), ?_⟩
  · intro node hnode
    rcases List.mem_append.1 hnode with hnode | hnode
    · exact h.items node hnode
    · exact h'.items node hnode
  · rw [h'.count, h.count, List.length_append, Nat.add_assoc]
  · rw [h'.found, Bool.or_eq_true, h.found]
    simp only [Bool.false_eq_true, false_or, List.mem_append, or_and_right, exists_or]
    rw [or_assoc, or_left_comm]

/-- One more node, before the ones below it. -/
theorem Inspected.cons {item : Json} {nodes : List Json} {visited : ℕ} {result : Bool × ℕ}
    (hitem : InnerItem minRound maxRound item) (hbound : visited + 1 ≤ maxInnerTransactions)
    (hmatch : ¬InnerMatch watch plan item)
    (h : Inspected minRound maxRound watch plan nodes (visited + 1) false result) :
    Inspected minRound maxRound watch plan (item :: nodes) visited false result := by
  refine ⟨?_, ?_, fun _ => h.bound hbound, ?_⟩
  · intro node hnode
    rcases List.mem_cons.1 hnode with rfl | hnode
    · exact hitem
    · exact h.items node hnode
  · rw [h.count, List.length_cons]
    omega
  · rw [h.found]
    simp [hmatch]

/-- A node that is no transfer matches nothing. -/
theorem not_innerMatch {item : Json} {c : ParsedTransactionCommon}
    (h : TransactionItem (some item) false c) (haxfer : c.txType ≠ js "axfer") :
    ¬InnerMatch watch plan item := by
  rintro ⟨p, transfer, hp, -⟩
  have heq : p.toParsedTransactionCommon = c := hp.toTransactionItem.unique h
  exact haxfer (heq ▸ hp.axfer)

/-- A transfer matches when it passes the filters. -/
theorem innerMatch_iff {item : Json} {p : ParsedAssetTransferEnvelope}
    {transfer : List (JsString × Json)} (hp : TransferItem (some item) false p transfer) :
    InnerMatch watch plan item ↔ PassesFilters watch plan p := by
  refine ⟨?_, fun hpass => ⟨p, transfer, hp, hpass⟩⟩
  rintro ⟨p', transfer', hp', hpass⟩
  have hread : parseAssetTransferEnvelope (some item) "" false = .ok p :=
    parseAssetTransferEnvelope_iff.2 ⟨transfer, hp⟩
  have hread' : parseAssetTransferEnvelope (some item) "" false = .ok p' :=
    parseAssetTransferEnvelope_iff.2 ⟨transfer', hp'⟩
  rw [hread] at hread'
  exact Except.ok.inj hread' ▸ hpass

/-- The loop over the children, when every child is inspected as it should be. -/
theorem inspectChildren_inspected {inspect : Json → String → ℕ → Except String (Bool × ℕ)}
    {within : Json → Prop} {nodesOf : Json → List Json} {label : String} {children : List Json}
    {i visited : ℕ} {queryMatch : Bool} {result : Bool × ℕ}
    (hinspect : ∀ child ∈ children, ∀ label visited result, inspect child label visited = .ok result →
      within child ∧ Inspected minRound maxRound watch plan (nodesOf child) visited false result)
    (h : inspectChildren inspect label children i queryMatch visited = .ok result) :
    (∀ child ∈ children, within child) ∧
      Inspected minRound maxRound watch plan (children.flatMap nodesOf) visited queryMatch
        result := by
  induction children generalizing i visited queryMatch with
  | nil =>
      cases h
      exact ⟨by simp, .nil visited queryMatch⟩
  | cons child rest ih =>
      obtain ⟨first, hfirst, h⟩ := bind_eq_ok.1 h
      obtain ⟨hwithin, hinspected⟩ := hinspect child (by simp) _ _ _ hfirst
      obtain ⟨hrest, hinspectedRest⟩ := ih (fun c hc => hinspect c (List.mem_cons_of_mem _ hc)) h
      rw [List.flatMap_cons, List.forall_mem_cons]
      exact ⟨⟨hwithin, hrest⟩, hinspected.append hinspectedRest⟩

/-- **A traversal that succeeds has inspected the whole tree.** -/
theorem inspectInnerTransaction_inspected {depth : ℕ} {item : Json} {label : String} {visited : ℕ}
    {result : Bool × ℕ}
    (h : inspectInnerTransaction minRound maxRound watch plan depth item label visited =
      .ok result) : InnerWithin depth item ∧
        Inspected minRound maxRound watch plan (innerNodes depth item) visited false result := by
  induction depth generalizing item label visited result with
  | zero => cases h
  | succ depth ih =>
      obtain ⟨hbound, h⟩ := require_bind_eq_ok.1 h
      obtain ⟨common, hcommon, h⟩ := bind_eq_ok.1 h
      obtain ⟨_, hshape, h⟩ := bind_eq_ok.1 h
      obtain ⟨_, hwindow, h⟩ := bind_eq_ok.1 h
      have hcommon := parseTransactionCommon_ok.1 hcommon
      have hshape := assertTransactionEnvelopeShape_ok.1 hshape
      have hwindow := insideWindow_eq_ok hwindow
      have hbound : visited + 1 ≤ maxInnerTransactions := of_decide_eq_true hbound
      rw [InnerWithin, innerNodes]
      split at h
      · rename_i haxfer
        obtain ⟨p, hp, rfl⟩ := map_eq_ok.1 h
        obtain ⟨transfer, hp⟩ := parseAssetTransferEnvelope_iff.1 hp
        rw [innerTransactions_of_axfer hcommon hshape haxfer]
        refine ⟨by simp, ?_, rfl, fun _ => hbound, ?_⟩
        · simpa using ⟨common, hcommon, hshape, hwindow, fun _ => ⟨p, transfer, hp⟩⟩
        · simp [innerMatch_iff hp, satisfiesScanFilters_iff]
      · rename_i haxfer
        have hitem : InnerItem minRound maxRound item :=
          ⟨common, hcommon, hshape, hwindow, fun h => absurd h haxfer⟩
        have hmatch : ¬InnerMatch watch plan item := not_innerMatch hcommon haxfer
        rw [innerTransactions_of_lookup hcommon]
        split at h
        · rename_i hnone
          cases h
          rw [hnone]
          exact ⟨by simp, .cons hitem hbound hmatch (.nil _ _)⟩
        · rename_i children hchildren
          rw [hchildren]
          obtain ⟨hwithin, hinspected⟩ := inspectChildren_inspected
            (fun child _ label visited result hchild => ih hchild) h
          exact ⟨hwithin, .cons hitem hbound hmatch hinspected⟩
        · cases h

/-- The loop over the children ends when no child stops it. -/
theorem exists_inspectChildren {inspect : Json → String → ℕ → Except String (Bool × ℕ)}
    {nodesOf : Json → List Json} {label : String} {children : List Json} {i visited : ℕ}
    {queryMatch : Bool}
    (hinspect : ∀ child ∈ children, ∀ label visited,
      visited + (nodesOf child).length ≤ maxInnerTransactions →
        ∃ result, inspect child label visited = .ok result ∧
          result.2 = visited + (nodesOf child).length)
    (hcount : visited + (children.flatMap nodesOf).length ≤ maxInnerTransactions) :
    ∃ result, inspectChildren inspect label children i queryMatch visited = .ok result := by
  induction children generalizing i visited queryMatch with
  | nil => exact ⟨_, rfl⟩
  | cons child rest ih =>
      rw [List.flatMap_cons, List.length_append] at hcount
      obtain ⟨first, hfirst, hvisited⟩ := hinspect child (by simp) (label ++ toString i) visited
        (by omega)
      obtain ⟨result, hresult⟩ : ∃ result, inspectChildren inspect label rest (i + 1)
          (first.1 || queryMatch) first.2 = .ok result :=
        ih (fun c hc => hinspect c (List.mem_cons_of_mem _ hc)) (by omega)
      exact ⟨result, bind_eq_ok.2 ⟨first, hfirst, hresult⟩⟩

/-- **A tree in which nothing is wrong is inspected to the end.** -/
theorem exists_inspectInnerTransaction {depth : ℕ} {item : Json} {label : String} {visited : ℕ}
    (hwithin : InnerWithin depth item)
    (hitems : ∀ node ∈ innerNodes depth item, InnerItem minRound maxRound node)
    (hcount : visited + (innerNodes depth item).length ≤ maxInnerTransactions) :
    ∃ result, inspectInnerTransaction minRound maxRound watch plan depth item label visited =
      .ok result := by
  induction depth generalizing item label visited with
  | zero => exact hwithin.elim
  | succ depth ih =>
      rw [InnerWithin] at hwithin
      rw [innerNodes, List.forall_mem_cons] at hitems
      rw [innerNodes, List.length_cons] at hcount
      obtain ⟨⟨common, hcommon, hshape, hwindow, htransfer⟩, hbelow⟩ := hitems
      have hbound : visited + 1 ≤ maxInnerTransactions := by omega
      have hinside : insideWindow common.round minRound maxRound label = .ok () :=
        require_eq_ok.2 (by simpa using hwindow)
      rw [inspectInnerTransaction, (require_eq_ok (u := ())).2 (decide_eq_true hbound)]
      dsimp only [Except.bind]
      rw [parseTransactionCommon_ok.2 hcommon]
      dsimp only
      rw [(assertTransactionEnvelopeShape_ok (u := ())).2 hshape]
      dsimp only
      rw [hinside]
      dsimp only
      by_cases haxfer : common.txType = js "axfer"
      · obtain ⟨p, transfer, hp⟩ := htransfer haxfer
        rw [if_pos haxfer]
        exact ⟨_, map_eq_ok.2 ⟨p, parseAssetTransferEnvelope_iff.2 ⟨transfer, hp⟩, rfl⟩⟩
      · rw [if_neg haxfer]
        rw [AllowedShape, if_neg haxfer] at hshape
        rw [innerTransactions_of_lookup hcommon] at hwithin hbelow hcount
        rcases hshape.2 with hnone | ⟨-, children, hchildren⟩
        · rw [hnone]
          exact ⟨_, rfl⟩
        · rw [hchildren] at hwithin hbelow hcount ⊢
          dsimp only at hwithin hbelow hcount ⊢
          have hvisited : visited + 1 + (children.flatMap (innerNodes depth)).length ≤
              maxInnerTransactions := by omega
          refine exists_inspectChildren (fun child hchild label visited hle => ?_) hvisited
          obtain ⟨result, hresult⟩ : ∃ result, inspectInnerTransaction minRound maxRound watch plan
              depth child label visited = .ok result := by
            refine ih (hwithin child hchild) (fun node hnode => ?_) hle
            exact hbelow node (List.mem_flatMap.2 ⟨child, hchild, hnode⟩)
          exact ⟨result, hresult, (inspectInnerTransaction_inspected hresult).2.count⟩

end Inspection

theorem length_le_length_innerNodes {depth : ℕ} (items : List Json) :
    items.length ≤ (items.flatMap (innerNodes (depth + 1))).length := by
  induction items with
  | nil => simp
  | cons item rest ih =>
      rw [List.flatMap_cons, List.length_append, innerNodes, List.length_cons, List.length_cons]
      omega

/-! ## Items -/

/-- A top-level asset transfer of the window, without inner transactions, that passes the
filters. -/
structure FilteredTransfer (item : Json) (minRound maxRound : ℤ) (watch : WatchTerms)
    (plan : ScanQueryPlan) (p : ParsedAssetTransferEnvelope) : Prop where
  transfer : ∃ fields, TransferItem (some item) true p fields
  innerTransactions : Json.lookup p.record (js "inner-txns") = none
  window : minRound ≤ p.round ∧ p.round ≤ maxRound
  filters : PassesFilters watch plan p

/-- The record of a transfer. -/
structure RecordOf (p : ParsedAssetTransferEnvelope) (t : IndexedWatchTransaction) : Prop where
  transaction : p.transaction = some t.transaction
  sender : p.sender = t.sender
  receiver : p.receiver = t.receiver
  assetId : p.assetId = t.assetId
  atomicAmount : p.atomicAmount = t.atomicAmount
  round : p.round = t.round
  roundTime : p.roundTime = t.roundTime
  note : p.note = t.note

/-- An item that is read as the payment `t`: a filtered transfer that is neither a clawback
nor a close-out. -/
def DirectItem (item : Json) (minRound maxRound : ℤ) (watch : WatchTerms) (plan : ScanQueryPlan)
    (t : IndexedWatchTransaction) : Prop :=
  ∃ p, FilteredTransfer item minRound maxRound watch plan p ∧ p.assetSender = none ∧
    p.closeTo = none ∧ p.closeAmount = js "0" ∧ RecordOf p t

/-- An application call whose inner transactions are the reason it is listed: the whole tree
is in order, and a transfer in it passes the filters. -/
structure InnerEvidence (item : Json) (minRound maxRound : ℤ) (watch : WatchTerms)
    (plan : ScanQueryPlan) : Prop where
  common : ∃ c, TransactionItem (some item) true c ∧ AllowedShape c ∧ c.txType = js "appl" ∧
    minRound ≤ c.round ∧ c.round ≤ maxRound
  nonempty : innerTransactions item ≠ []
  depth : ∀ child ∈ innerTransactions item, InnerWithin maxInnerDepth child
  size : ((innerTransactions item).flatMap (innerNodes maxInnerDepth)).length ≤
    maxInnerTransactions
  items : ∀ node ∈ (innerTransactions item).flatMap (innerNodes maxInnerDepth),
    InnerItem minRound maxRound node
  found : ∃ node ∈ (innerTransactions item).flatMap (innerNodes maxInnerDepth),
    InnerMatch watch plan node

/-- An item that is passed over: a clawback, a close-out, or inner evidence. -/
def IgnoredItem (item : Json) (minRound maxRound : ℤ) (watch : WatchTerms)
    (plan : ScanQueryPlan) : Prop :=
  (∃ p, FilteredTransfer item minRound maxRound watch plan p ∧
    (p.assetSender ≠ none ∨ p.closeTo ≠ none)) ∨ InnerEvidence item minRound maxRound watch plan

section Items

variable {minRound maxRound : ℤ} {watch : WatchTerms} {plan : ScanQueryPlan} {item : Json}

theorem indexedAssetTransfer_ok {p : ParsedAssetTransferEnvelope} {label : String}
    {t : IndexedAssetTransfer} (h : p.transaction = some t.transaction) :
    indexedAssetTransfer p label = .ok t ↔ p.sender = t.sender ∧ p.receiver = t.receiver ∧
      p.assetId = t.assetId ∧ p.atomicAmount = t.atomicAmount ∧ p.round = t.round := by
  obtain ⟨transaction, sender, receiver, assetId, atomicAmount, round⟩ := t
  simp [indexedAssetTransfer, h]

/-- What is made of a transfer under an id. -/
theorem directTransfer_ok {p : ParsedAssetTransferEnvelope} {label : String}
    (hid : p.transaction.isSome) {read : Option IndexedWatchTransaction} :
    directTransfer p label = .ok read ↔
      (p.assetSender = none ∧ p.closeTo = none ∧ ∃ t, RecordOf p t ∧ read = some t) ∨
        (p.assetSender ≠ none ∨ p.closeTo ≠ none) ∧ read = none := by
  obtain ⟨id, htransaction⟩ := Option.isSome_iff_exists.1 hid
  unfold directTransfer
  split
  · rename_i hignored
    simp only [Bool.or_eq_true, Option.isSome_iff_ne_none] at hignored
    constructor
    · intro h
      cases h
      exact Or.inr ⟨hignored, rfl⟩
    · rintro (⟨hsender, hclose, -⟩ | ⟨-, rfl⟩)
      · exact absurd hignored (by simp [hsender, hclose])
      · rfl
  · rename_i hdirect
    simp only [Bool.or_eq_true, not_or, Option.isSome_iff_ne_none, not_not] at hdirect
    rw [map_eq_ok]
    constructor
    · rintro ⟨transfer, htransfer, rfl⟩
      refine Or.inl ⟨hdirect.1, hdirect.2, _, ?_, rfl⟩
      rw [indexedAssetTransfer, htransaction] at htransfer
      cases htransfer
      exact ⟨htransaction, rfl, rfl, rfl, rfl, rfl, rfl, rfl⟩
    · rintro (⟨-, -, t, ht, rfl⟩ | ⟨hignored, -⟩)
      · refine ⟨t.toIndexedAssetTransfer, (indexedAssetTransfer_ok ht.transaction).2
          ⟨ht.sender, ht.receiver, ht.assetId, ht.atomicAmount, ht.round⟩, ?_⟩
        rw [ht.roundTime, ht.note]
      · exact absurd hignored (by simp [hdirect.1, hdirect.2])

/-- What `assertInnerMatch` accepts of a transaction that is no transfer. -/
theorem assertInnerMatch_ok {c : ParsedTransactionCommon} {label : String} {u : Unit}
    (hcommon : TransactionItem (some item) true c) (hshape : AllowedShape c)
    (haxfer : c.txType ≠ js "axfer") (hwindow : minRound ≤ c.round ∧ c.round ≤ maxRound) :
    assertInnerMatch c minRound maxRound watch plan label = .ok u ↔
      InnerEvidence item minRound maxRound watch plan := by
  have hchildren := innerTransactions_of_lookup hcommon
  have happl : Json.lookup c.record (js "inner-txns") ≠ none → c.txType = js "appl" := by
    rw [AllowedShape, if_neg haxfer] at hshape
    intro hsome
    exact (hshape.2.resolve_left hsome).1
  constructor
  · intro h
    unfold assertInnerMatch at h
    split at h
    · rename_i child rest hlookup
      obtain ⟨-, h⟩ := require_bind_eq_ok.1 h
      obtain ⟨result, hresult, h⟩ := bind_eq_ok.1 h
      have hfound := require_eq_ok.1 h
      obtain ⟨hdepth, hinspected⟩ : (∀ c ∈ child :: rest, InnerWithin maxInnerDepth c) ∧
          Inspected minRound maxRound watch plan ((child :: rest).flatMap (innerNodes maxInnerDepth))
            0 false result :=
        inspectChildren_inspected
          (fun c _ label visited result hc => inspectInnerTransaction_inspected hc) hresult
      rw [hlookup] at hchildren
      dsimp only at hchildren
      rw [← hchildren] at hdepth hinspected
      refine ⟨⟨c, hcommon, hshape, happl (by simp [hlookup]), hwindow⟩, by simp [hchildren],
        hdepth, ?_, hinspected.items, ?_⟩
      · have hcount := hinspected.count
        have hbound := hinspected.bound (Nat.zero_le _)
        omega
      · simpa using hinspected.found.1 hfound
    · cases h
  · intro h
    obtain ⟨items, hlookup⟩ : ∃ items, Json.lookup c.record (js "inner-txns") =
        some (.arr items) := by
      have hnonempty := h.nonempty
      rw [hchildren] at hnonempty
      split at hnonempty
      · exact ⟨_, by assumption⟩
      · exact absurd rfl hnonempty
    rw [hlookup] at hchildren
    dsimp only at hchildren
    have hnonempty := h.nonempty
    have hdepth := h.depth
    have hsize := h.size
    have hitems := h.items
    have hfound := h.found
    rw [hchildren] at hnonempty hdepth hsize hitems hfound
    obtain ⟨child, rest, rfl⟩ := List.exists_cons_of_ne_nil hnonempty
    obtain ⟨result, hresult⟩ : ∃ result, inspectChildren
        (inspectInnerTransaction minRound maxRound watch plan maxInnerDepth)
        (label ++ " inner transaction ") (child :: rest) 0 false 0 = .ok result := by
      refine exists_inspectChildren (fun c hc label visited hle => ?_)
        ((Nat.zero_add _).trans_le hsize)
      obtain ⟨result, hresult⟩ : ∃ result, inspectInnerTransaction minRound maxRound watch plan
          maxInnerDepth c label visited = .ok result := by
        refine exists_inspectInnerTransaction (hdepth c hc) (fun node hnode => ?_) hle
        exact hitems node (List.mem_flatMap.2 ⟨c, hc, hnode⟩)
      exact ⟨result, hresult, (inspectInnerTransaction_inspected hresult).2.count⟩
    have hlength : (child :: rest).length ≤ maxInnerTransactions :=
      (length_le_length_innerNodes _).trans hsize
    have hmatch : result.1 = true := by
      have hinspected := inspectChildren_inspected
        (fun c _ label visited result hc => inspectInnerTransaction_inspected hc) hresult
      exact hinspected.2.found.2 (Or.inr hfound)
    rw [assertInnerMatch, hlookup]
    refine require_bind_eq_ok.2 ⟨decide_eq_true hlength, bind_eq_ok.2 ⟨result, hresult, ?_⟩⟩
    exact require_eq_ok.2 hmatch

/-- A filtered transfer, seen from the checks before its envelope is read. -/
theorem FilteredTransfer.common {p : ParsedAssetTransferEnvelope}
    (h : FilteredTransfer item minRound maxRound watch plan p) :
    TransactionItem (some item) true p.toParsedTransactionCommon ∧
      AllowedShape p.toParsedTransactionCommon ∧ p.txType = js "axfer" := by
  obtain ⟨fields, hp⟩ := h.transfer
  refine ⟨hp.toTransactionItem, ?_, hp.axfer⟩
  rw [AllowedShape, if_pos hp.axfer]
  exact h.innerTransactions

/-- What the parser returns, before the two kinds of transfers are told apart. -/
theorem parseWatchTransaction_ok {index : ℕ} {read : Option IndexedWatchTransaction} :
    parseWatchTransaction item index minRound maxRound watch plan = .ok read ↔
      (∃ p, FilteredTransfer item minRound maxRound watch plan p ∧
        directTransfer p ("transaction page item " ++ toString index) = .ok read) ∨
      InnerEvidence item minRound maxRound watch plan ∧ read = none := by
  constructor
  · intro h
    obtain ⟨common, hcommon, h⟩ := bind_eq_ok.1 h
    obtain ⟨_, hshape, h⟩ := bind_eq_ok.1 h
    obtain ⟨_, hwindow, h⟩ := bind_eq_ok.1 h
    have hcommon := parseTransactionCommon_ok.1 hcommon
    have hshape := assertTransactionEnvelopeShape_ok.1 hshape
    have hwindow := insideWindow_eq_ok hwindow
    split at h
    · rename_i haxfer
      obtain ⟨p, hp, h⟩ := bind_eq_ok.1 h
      obtain ⟨_, hfilters, h⟩ := bind_eq_ok.1 h
      obtain ⟨fields, htransfer⟩ := parseAssetTransferEnvelope_iff.1 hp
      have heq : p.toParsedTransactionCommon = common := htransfer.toTransactionItem.unique hcommon
      have hinner : Json.lookup p.record (js "inner-txns") = none := by
        rw [AllowedShape, if_pos haxfer] at hshape
        rw [heq]
        exact hshape
      obtain ⟨hinside, hpass⟩ := assertTopLevelScanFilters_ok.1 hfilters
      exact Or.inl ⟨p, ⟨⟨fields, htransfer⟩, hinner, hinside, hpass⟩, h⟩
    · rename_i haxfer
      obtain ⟨u, hu, rfl⟩ := map_eq_ok.1 h
      exact Or.inr ⟨(assertInnerMatch_ok hcommon hshape haxfer hwindow).1 hu, rfl⟩
  · rintro (⟨p, hp, hread⟩ | ⟨hevidence, rfl⟩)
    · obtain ⟨hcommon, hshape, haxfer⟩ := hp.common
      refine bind_eq_ok.2 ⟨_, parseTransactionCommon_ok.2 hcommon, ?_⟩
      refine bind_eq_ok.2 ⟨(), assertTransactionEnvelopeShape_ok.2 hshape, ?_⟩
      refine bind_eq_ok.2 ⟨(), require_eq_ok.2 (by simpa using hp.window), ?_⟩
      rw [if_pos haxfer]
      refine bind_eq_ok.2 ⟨p, parseAssetTransferEnvelope_iff.2 hp.transfer, ?_⟩
      exact bind_eq_ok.2 ⟨(), assertTopLevelScanFilters_ok.2 ⟨hp.window, hp.filters⟩, hread⟩
    · obtain ⟨c, hcommon, hshape, happl, hwindow⟩ := hevidence.common
      have haxfer : c.txType ≠ js "axfer" := by
        rw [happl]
        decide
      refine bind_eq_ok.2 ⟨c, parseTransactionCommon_ok.2 hcommon, ?_⟩
      refine bind_eq_ok.2 ⟨(), assertTransactionEnvelopeShape_ok.2 hshape, ?_⟩
      refine bind_eq_ok.2 ⟨(), require_eq_ok.2 (by simpa using hwindow), ?_⟩
      rw [if_neg haxfer]
      exact map_eq_ok.2 ⟨(), (assertInnerMatch_ok hcommon hshape haxfer hwindow).2 hevidence, rfl⟩

theorem FilteredTransfer.transaction_isSome {p : ParsedAssetTransferEnvelope}
    (h : FilteredTransfer item minRound maxRound watch plan p) : p.transaction.isSome :=
  h.common.1.transactionId.2.2 rfl

theorem parseWatchTransaction_direct {index : ℕ} {t : IndexedWatchTransaction} :
    parseWatchTransaction item index minRound maxRound watch plan = .ok (some t) ↔
      DirectItem item minRound maxRound watch plan t := by
  rw [parseWatchTransaction_ok]
  constructor
  · rintro (⟨p, hp, hread⟩ | ⟨-, hnone⟩)
    · rcases (directTransfer_ok hp.transaction_isSome).1 hread with ⟨hsender, hclose, t', ht, heq⟩ |
        ⟨-, hnone⟩
      · obtain ⟨fields, htransfer⟩ := hp.transfer
        cases heq
        exact ⟨p, hp, hsender, hclose, htransfer.closed hclose, ht⟩
      · cases hnone
    · cases hnone
  · rintro ⟨p, hp, hsender, hclose, -, ht⟩
    exact Or.inl ⟨p, hp, (directTransfer_ok hp.transaction_isSome).2
      (Or.inl ⟨hsender, hclose, t, ht, rfl⟩)⟩

theorem parseWatchTransaction_ignored {index : ℕ} :
    parseWatchTransaction item index minRound maxRound watch plan = .ok none ↔
      IgnoredItem item minRound maxRound watch plan := by
  rw [parseWatchTransaction_ok]
  constructor
  · rintro (⟨p, hp, hread⟩ | ⟨hevidence, -⟩)
    · rcases (directTransfer_ok hp.transaction_isSome).1 hread with ⟨-, -, t, -, hnone⟩ |
        ⟨hignored, -⟩
      · cases hnone
      · exact Or.inl ⟨p, hp, hignored⟩
    · exact Or.inr hevidence
  · rintro (⟨p, hp, hignored⟩ | hevidence)
    · exact Or.inl ⟨p, hp, (directTransfer_ok hp.transaction_isSome).2 (Or.inr ⟨hignored, rfl⟩)⟩
    · exact Or.inr ⟨hevidence, rfl⟩

/-- **The parser and the grammar agree.**  An item is read as a payment exactly when it is a
direct item, passed over exactly when it is an ignored item, and refused otherwise. -/
theorem parseWatchTransaction_grammar (item : Json) (index : ℕ) (minRound maxRound : ℤ)
    (watch : WatchTerms) (plan : ScanQueryPlan) :
    (∀ t, parseWatchTransaction item index minRound maxRound watch plan = .ok (some t) ↔
      DirectItem item minRound maxRound watch plan t) ∧
    (parseWatchTransaction item index minRound maxRound watch plan = .ok none ↔
      IgnoredItem item minRound maxRound watch plan) ∧
    ((∃ e, parseWatchTransaction item index minRound maxRound watch plan = .error e) ↔
      (∀ t, ¬DirectItem item minRound maxRound watch plan t) ∧
        ¬IgnoredItem item minRound maxRound watch plan) := by
  refine ⟨fun t => parseWatchTransaction_direct, parseWatchTransaction_ignored, ?_⟩
  rw [exists_error_iff]
  constructor
  · intro h
    exact ⟨fun t ht => h _ (parseWatchTransaction_direct.2 ht),
      fun hignored => h _ (parseWatchTransaction_ignored.2 hignored)⟩
  · rintro ⟨hdirect, hignored⟩ read hread
    cases read with
    | none => exact hignored (parseWatchTransaction_ignored.1 hread)
    | some t => exact hdirect t (parseWatchTransaction_direct.1 hread)

end Items

end RoundWatch
