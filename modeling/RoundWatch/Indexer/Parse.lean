import RoundWatch.Foundation.Base64
import RoundWatch.Foundation.Checks
import RoundWatch.Foundation.Json

/-!
# Reading transactions off the wire

The validators of `roundwatch-indexer.ts`, from a parsed JSON value to an asset
transfer, with the texts of their errors.  A value is `none` where JavaScript reads
`undefined`.

* `parseTransactionCommon`, `parseAssetTransferEnvelope` — what every transaction and
  every asset transfer has to look like;
* `parseDirectAssetTransfer` — a transfer that is neither a clawback nor a close-out;
* `ShowsTransfer`, `ShowsDirectTransfer` — what the fields of an item say, with no
  validator in between; `parseAssetTransferEnvelope_ok` and
  `parseDirectAssetTransfer_ok`: the validators accept nothing else.
-/

namespace RoundWatch

open JsText Checks

/-! ## Values -/

/-- `record`. -/
def record (value : Option Json) (label : String) : Except String (List (JsString × Json)) :=
  match value with
  | some (.obj fields) => .ok fields
  | _ => .error ("Indexer " ++ label ++ " is not an object")

/-- `field` of a response. -/
def field (value : Json) (name : String) : Except String Json :=
  (record (some value) "response").bind fun fields =>
    match Json.lookup fields (js name) with
    | some found => .ok found
    | none => .error ("Indexer response is missing " ++ name)

/-- `field` of a response that need not be there. -/
def optionalField (value : Json) (name : String) : Except String (Option Json) :=
  (record (some value) "response").bind fun fields => .ok (Json.lookup fields (js name))

/-- A non-negative safe integer. -/
def natural? (value : Option Json) : Option ℤ :=
  match value with
  | some (.num n) => if Json.isSafeInteger n && 0 ≤ n then some n else none
  | _ => none

/-- `safeRound`. -/
def safeRound (value : Option Json) (label : String) : Except String ℤ :=
  match natural? value with
  | some n => .ok n
  | none => .error (label ++ " is not a non-negative safe integer")

/-- `safeAmount`: the decimal text of the number. -/
def safeAmount (value : Option Json) (label : String) : Except String JsString :=
  match natural? value with
  | some n => .ok (decimal n.toNat)
  | none => .error (label ++ " is not a non-negative safe integer")

/-- `nonEmptyString`. -/
def nonEmptyString (value : Option Json) (label : String) : Except String JsString :=
  match value with
  | some (.str (u :: rest)) => .ok (u :: rest)
  | _ => .error (label ++ " is not a non-empty string")

/-- Canonical Base32 of 32 bytes: 52 symbols, the last of which ends in zero bits. -/
def isCanonicalTransactionId (id : JsString) : Bool :=
  id.length == 52 && id.all (fun u => (65 ≤ u && u ≤ 90) || (50 ≤ u && u ≤ 55)) &&
    id.getLast?.any fun u => u == 65 || u == 81

/-- `parseCanonicalAlgorandTransactionId`. -/
def parseCanonicalAlgorandTransactionId (value : Option Json) (label : String) :
    Except String JsString :=
  match value with
  | some (.str id) =>
      if isCanonicalTransactionId id then .ok id
      else .error (label ++ " is not a canonical Algorand transaction ID")
  | _ => .error (label ++ " is not a canonical Algorand transaction ID")

/-- `parseOptionalNote`. -/
def parseOptionalNote (value : Option Json) (label : String) : Except String (Option JsString) :=
  match value with
  | none => .ok none
  | some (.str note) =>
      if Base64.isCanonical note then .ok (some note)
      else .error (label ++ " note is malformed")
  | some _ => .error (label ++ " note is malformed")

/-! ## Transactions -/

/-- `SUPPORTED_INDEXER_TRANSACTION_TYPES`. -/
def supportedTransactionTypes : List JsString :=
  [js "pay", js "keyreg", js "acfg", js "axfer", js "afrz", js "appl", js "stpf", js "hb"]

/-- `ParsedTransactionCommon`. -/
structure ParsedTransactionCommon where
  transaction : Option JsString
  sender : JsString
  round : ℤ
  roundTime : ℤ
  txType : JsString
  note : Option JsString
  record : List (JsString × Json)

/-- The `id` of a transaction, which only an inner transaction may lack. -/
def parseTransactionId (transaction : List (JsString × Json)) (label : String)
    (requireTransactionId : Bool) : Except String (Option JsString) :=
  if requireTransactionId || (Json.lookup transaction (js "id")).isSome then
    (parseCanonicalAlgorandTransactionId (Json.lookup transaction (js "id"))
      (label ++ " id")).map some
  else .ok none

/-- `parseTransactionCommon`. -/
def parseTransactionCommon (value : Option Json) (label : String) (requireTransactionId : Bool) :
    Except String ParsedTransactionCommon :=
  (record value label).bind fun transaction =>
  (parseTransactionId transaction label requireTransactionId).bind fun transactionId =>
  (parseOptionalNote (Json.lookup transaction (js "note")) label).bind fun note =>
  (nonEmptyString (Json.lookup transaction (js "tx-type")) (label ++ " tx-type")).bind fun txType =>
  (require (supportedTransactionTypes.contains txType) (label ++ " tx-type is unsupported")).bind
    fun _ =>
  (nonEmptyString (Json.lookup transaction (js "sender")) (label ++ " sender")).bind fun sender =>
  (safeRound (Json.lookup transaction (js "confirmed-round")) (label ++ " confirmed-round")).bind
    fun round =>
  (safeRound (Json.lookup transaction (js "round-time")) (label ++ " round-time")).bind
    fun roundTime =>
  .ok { transaction := transactionId, sender := sender, round := round, roundTime := roundTime,
        txType := txType, note := note, record := transaction }

/-- `assertTransactionEnvelopeShape`. -/
def assertTransactionEnvelopeShape (common : ParsedTransactionCommon) (label : String) :
    Except String Unit :=
  if common.txType = js "axfer" then
    require (Json.lookup common.record (js "inner-txns")).isNone
      (label ++ " axfer transaction cannot contain inner transactions")
  else
    (require (Json.lookup common.record (js "asset-transfer-transaction")).isNone
      (label ++ " " ++ text common.txType ++
        " transaction contains an asset-transfer envelope")).bind fun _ =>
    match Json.lookup common.record (js "inner-txns") with
    | none => .ok ()
    | some inner =>
        (require (common.txType = js "appl")
          (label ++ " " ++ text common.txType ++
            " transaction cannot contain inner transactions")).bind fun _ =>
        match inner with
        | .arr _ => .ok ()
        | _ => .error (label ++ " inner-txns is not an array")

/-- `ParsedAssetTransferEnvelope`. -/
structure ParsedAssetTransferEnvelope extends ParsedTransactionCommon where
  receiver : JsString
  assetId : ℤ
  atomicAmount : JsString
  assetSender : Option JsString
  closeTo : Option JsString
  closeAmount : JsString

/-- A string that may be missing but not empty. -/
def optionalString (value : Option Json) (label : String) : Except String (Option JsString) :=
  match value with
  | none => .ok none
  | some found => (nonEmptyString (some found) label).map some

/-- The closing amount, `"0"` when there is none. -/
def parseCloseAmount (value : Option Json) (label : String) : Except String JsString :=
  match value with
  | none => .ok (js "0")
  | some amount => safeAmount (some amount) (label ++ " close-amount")

/-- `parseAssetTransferEnvelope`. -/
def parseAssetTransferEnvelope (value : Option Json) (label : String)
    (requireTransactionId : Bool) : Except String ParsedAssetTransferEnvelope :=
  (parseTransactionCommon value label requireTransactionId).bind fun common =>
  (require (common.txType = js "axfer") (label ++ " is not an axfer transaction")).bind fun _ =>
  (record (Json.lookup common.record (js "asset-transfer-transaction"))
    (label ++ " asset transfer")).bind fun transfer =>
  (optionalString (Json.lookup transfer (js "sender")) (label ++ " asset sender")).bind
    fun assetSender =>
  (optionalString (Json.lookup transfer (js "close-to")) (label ++ " close-to")).bind
    fun closeTo =>
  (parseCloseAmount (Json.lookup transfer (js "close-amount")) label).bind fun closeAmount =>
  (require (closeTo.isSome || closeAmount = js "0")
    (label ++ " has positive close-amount without close-to")).bind fun _ =>
  (nonEmptyString (Json.lookup transfer (js "receiver")) (label ++ " receiver")).bind
    fun receiver =>
  (safeRound (Json.lookup transfer (js "asset-id")) (label ++ " asset-id")).bind fun assetId =>
  (safeAmount (Json.lookup transfer (js "amount")) (label ++ " amount")).bind fun atomicAmount =>
  .ok { common with
        receiver := receiver
        assetId := assetId
        atomicAmount := atomicAmount
        assetSender := assetSender
        closeTo := closeTo
        closeAmount := closeAmount }

/-- `IndexedAssetTransfer`. -/
structure IndexedAssetTransfer where
  transaction : JsString
  sender : JsString
  receiver : JsString
  assetId : ℤ
  atomicAmount : JsString
  round : ℤ
  deriving DecidableEq

/-- `indexedAssetTransfer`. -/
def indexedAssetTransfer (parsed : ParsedAssetTransferEnvelope) (label : String) :
    Except String IndexedAssetTransfer :=
  match parsed.transaction with
  | none => .error (label ++ " has no top-level transaction ID")
  | some transaction =>
      .ok { transaction := transaction
            sender := parsed.sender
            receiver := parsed.receiver
            assetId := parsed.assetId
            atomicAmount := parsed.atomicAmount
            round := parsed.round }

/-- `parseDirectAssetTransfer`. -/
def parseDirectAssetTransfer (value : Option Json) (label : String) :
    Except String IndexedAssetTransfer :=
  (parseAssetTransferEnvelope value label true).bind fun parsed =>
  (require parsed.assetSender.isNone (label ++ " is a clawback asset transfer")).bind fun _ =>
  (require parsed.closeTo.isNone (label ++ " is an asset close-out transfer")).bind fun _ =>
  indexedAssetTransfer parsed label

/-! ## What an item shows -/

/-- `IndexedWatchTransaction`. -/
structure IndexedWatchTransaction extends IndexedAssetTransfer where
  roundTime : ℤ
  note : Option JsString
  deriving DecidableEq

/-- A property of the asset-transfer envelope of an item. -/
def transferField (item : Json) (name : String) : Option Json :=
  (item.get? "asset-transfer-transaction").bind (·.get? name)

/-- The fields of an item say that it is the asset transfer `t`. -/
structure ShowsTransfer (item : Json) (t : IndexedAssetTransfer) : Prop where
  transactionId : item.get? "id" = some (.str t.transaction)
  txType : item.get? "tx-type" = some (.str (js "axfer"))
  sender : item.get? "sender" = some (.str t.sender)
  round : item.get? "confirmed-round" = some (.num t.round)
  receiver : transferField item "receiver" = some (.str t.receiver)
  assetId : transferField item "asset-id" = some (.num t.assetId)
  amount : ∃ n : ℕ, transferField item "amount" = some (.num n) ∧ t.atomicAmount = decimal n

/-- The fields of an item say that it is the top-level transfer `t`, neither a
clawback nor a close-out, under a canonical id. -/
structure ShowsDirectTransfer (item : Json) (t : IndexedWatchTransaction) : Prop extends
    ShowsTransfer item t.toIndexedAssetTransfer where
  canonical : isCanonicalTransactionId t.transaction
  roundTime : item.get? "round-time" = some (.num t.roundTime)
  note : item.get? "note" = t.note.map .str
  innerTransactions : item.get? "inner-txns" = none
  assetSender : transferField item "sender" = none
  closeTo : transferField item "close-to" = none

/-- An item shows one transfer. -/
theorem ShowsTransfer.unique {item : Json} {t t' : IndexedAssetTransfer}
    (h : ShowsTransfer item t) (h' : ShowsTransfer item t') : t = t' := by
  obtain ⟨n, hn, hamount⟩ := h.amount
  obtain ⟨n', hn', hamount'⟩ := h'.amount
  have hnum : (n : ℤ) = n' := by simpa using hn.symm.trans hn'
  have h₁ : t.transaction = t'.transaction := by
    simpa using h.transactionId.symm.trans h'.transactionId
  have h₂ : t.sender = t'.sender := by simpa using h.sender.symm.trans h'.sender
  have h₃ : t.round = t'.round := by simpa using h.round.symm.trans h'.round
  have h₄ : t.receiver = t'.receiver := by simpa using h.receiver.symm.trans h'.receiver
  have h₅ : t.assetId = t'.assetId := by simpa using h.assetId.symm.trans h'.assetId
  have h₆ : t.atomicAmount = t'.atomicAmount := by
    rw [hamount, hamount', Int.ofNat.inj hnum]
  cases t
  cases t'
  simp_all

theorem ShowsDirectTransfer.unique {item : Json} {t t' : IndexedWatchTransaction}
    (h : ShowsDirectTransfer item t) (h' : ShowsDirectTransfer item t') : t = t' := by
  have hbase := h.toShowsTransfer.unique h'.toShowsTransfer
  have htime : t.roundTime = t'.roundTime := by simpa using h.roundTime.symm.trans h'.roundTime
  have hnote : t.note = t'.note :=
    Option.map_injective (fun _ _ heq => Json.str.inj heq) (h.note.symm.trans h'.note)
  cases t
  cases t'
  simp only [IndexedWatchTransaction.mk.injEq]
  exact ⟨hbase, htime, hnote⟩

/-! ## What the validators accept -/

theorem record_eq_ok {value : Option Json} {label : String} {fields : List (JsString × Json)}
    (h : record value label = .ok fields) : value = some (.obj fields) := by
  unfold record at h
  split at h
  · cases h
    rfl
  · cases h

theorem natural?_eq_some {value : Option Json} {n : ℤ} (h : natural? value = some n) :
    value = some (.num n) ∧ 0 ≤ n := by
  unfold natural? at h
  split at h
  · split at h
    · rename_i hn
      cases h
      simp only [Bool.and_eq_true, decide_eq_true_eq] at hn
      exact ⟨rfl, hn.2⟩
    · cases h
  · cases h

theorem safeRound_eq_ok {value : Option Json} {label : String} {n : ℤ}
    (h : safeRound value label = .ok n) : value = some (.num n) ∧ 0 ≤ n := by
  unfold safeRound at h
  split at h
  · rename_i hn
    cases h
    exact natural?_eq_some hn
  · cases h

theorem safeAmount_eq_ok {value : Option Json} {label : String} {amount : JsString}
    (h : safeAmount value label = .ok amount) :
    ∃ n : ℕ, value = some (.num n) ∧ amount = decimal n := by
  unfold safeAmount at h
  split at h
  · rename_i m hm
    cases h
    obtain ⟨hvalue, hle⟩ := natural?_eq_some hm
    exact ⟨m.toNat, by rw [hvalue, Int.toNat_of_nonneg hle], rfl⟩
  · cases h

theorem nonEmptyString_eq_ok {value : Option Json} {label : String} {s : JsString}
    (h : nonEmptyString value label = .ok s) : value = some (.str s) ∧ s ≠ [] := by
  unfold nonEmptyString at h
  split at h
  · cases h
    exact ⟨rfl, by simp⟩
  · cases h

theorem parseCanonicalAlgorandTransactionId_eq_ok {value : Option Json} {label : String}
    {id : JsString} (h : parseCanonicalAlgorandTransactionId value label = .ok id) :
    value = some (.str id) ∧ isCanonicalTransactionId id := by
  unfold parseCanonicalAlgorandTransactionId at h
  split at h
  · split at h
    · cases h
      exact ⟨rfl, by assumption⟩
    · cases h
  · cases h

/-- Canonical ids are plain text. -/
theorem wellFormed_of_canonical {id : JsString} (h : isCanonicalTransactionId id) :
    WellFormed id := by
  simp only [isCanonicalTransactionId, Bool.and_eq_true, List.all_eq_true] at h
  refine wellFormed_of_plain fun u hu => ?_
  have hsymbol := h.1.2 u hu
  simp only [Bool.or_eq_true, Bool.and_eq_true, decide_eq_true_eq] at hsymbol
  rcases hsymbol with ⟨-, hle⟩ | ⟨-, hle⟩
  · exact Nat.lt_of_le_of_lt hle (by decide)
  · exact Nat.lt_of_le_of_lt hle (by decide)

theorem parseOptionalNote_eq_ok {value : Option Json} {label : String} {note : Option JsString}
    (h : parseOptionalNote value label = .ok note) : value = note.map .str := by
  unfold parseOptionalNote at h
  split at h
  · cases h
    rfl
  · split at h
    · cases h
      rfl
    · cases h
  · cases h

theorem optionalString_eq_ok {value : Option Json} {label : String} {s : Option JsString}
    (h : optionalString value label = .ok s) : value = s.map .str := by
  unfold optionalString at h
  split at h
  · cases h
    rfl
  · rename_i found
    cases hs : nonEmptyString (some found) label with
    | error e =>
        rw [hs] at h
        cases h
    | ok s' =>
        rw [hs] at h
        cases h
        exact (nonEmptyString_eq_ok hs).1

/-- Where the parts of a common record come from. -/
structure ReadFrom (value : Option Json) (c : ParsedTransactionCommon) : Prop where
  record : value = some (.obj c.record)
  transactionId : ∀ id, c.transaction = some id →
    Json.lookup c.record (js "id") = some (.str id) ∧ isCanonicalTransactionId id
  note : Json.lookup c.record (js "note") = c.note.map .str
  txType : Json.lookup c.record (js "tx-type") = some (.str c.txType)
  sender : Json.lookup c.record (js "sender") = some (.str c.sender)
  round : Json.lookup c.record (js "confirmed-round") = some (.num c.round)
  roundTime : Json.lookup c.record (js "round-time") = some (.num c.roundTime)

theorem parseTransactionId_eq_ok {fields : List (JsString × Json)} {label : String}
    {required : Bool} {id : Option JsString}
    (h : parseTransactionId fields label required = .ok id) :
    (∀ t, id = some t → Json.lookup fields (js "id") = some (.str t) ∧
      isCanonicalTransactionId t) ∧ (required → id.isSome) := by
  unfold parseTransactionId at h
  split at h
  · cases ht : parseCanonicalAlgorandTransactionId (Json.lookup fields (js "id"))
        (label ++ " id") with
    | error e =>
        rw [ht] at h
        cases h
    | ok t =>
        rw [ht] at h
        cases h
        refine ⟨fun t' ht' => ?_, fun _ => rfl⟩
        cases ht'
        exact parseCanonicalAlgorandTransactionId_eq_ok ht
  · rename_i hnot
    cases h
    refine ⟨fun t ht => absurd ht (by simp), fun hrequired => ?_⟩
    exact absurd hrequired (by simp_all)

theorem parseTransactionCommon_eq_ok {value : Option Json} {label : String} {required : Bool}
    {c : ParsedTransactionCommon} (h : parseTransactionCommon value label required = .ok c) :
    ReadFrom value c ∧ (required → c.transaction.isSome) := by
  unfold parseTransactionCommon at h
  obtain ⟨fields, hfields, h⟩ := bind_eq_ok.1 h
  obtain ⟨id, hid, h⟩ := bind_eq_ok.1 h
  obtain ⟨note, hnote, h⟩ := bind_eq_ok.1 h
  obtain ⟨txType, htype, h⟩ := bind_eq_ok.1 h
  obtain ⟨-, h⟩ := require_bind_eq_ok.1 h
  obtain ⟨sender, hsender, h⟩ := bind_eq_ok.1 h
  obtain ⟨round, hround, h⟩ := bind_eq_ok.1 h
  obtain ⟨roundTime, htime, h⟩ := bind_eq_ok.1 h
  cases h
  obtain ⟨hids, hsome⟩ := parseTransactionId_eq_ok hid
  exact ⟨⟨record_eq_ok hfields, hids, parseOptionalNote_eq_ok hnote, (nonEmptyString_eq_ok htype).1,
    (nonEmptyString_eq_ok hsender).1, (safeRound_eq_ok hround).1, (safeRound_eq_ok htime).1⟩, hsome⟩

/-- Where the parts of an envelope come from. -/
structure EnvelopeReadFrom (value : Option Json) (p : ParsedAssetTransferEnvelope)
    (transfer : List (JsString × Json)) : Prop extends
    ReadFrom value p.toParsedTransactionCommon where
  axfer : p.txType = js "axfer"
  envelope : Json.lookup p.record (js "asset-transfer-transaction") = some (.obj transfer)
  assetSender : Json.lookup transfer (js "sender") = p.assetSender.map .str
  closeTo : Json.lookup transfer (js "close-to") = p.closeTo.map .str
  receiver : Json.lookup transfer (js "receiver") = some (.str p.receiver)
  assetId : Json.lookup transfer (js "asset-id") = some (.num p.assetId)
  amount : ∃ n : ℕ, Json.lookup transfer (js "amount") = some (.num n) ∧ p.atomicAmount = decimal n

theorem parseAssetTransferEnvelope_ok {value : Option Json} {label : String} {required : Bool}
    {p : ParsedAssetTransferEnvelope} (h : parseAssetTransferEnvelope value label required = .ok p) :
    (∃ transfer, EnvelopeReadFrom value p transfer) ∧ (required → p.transaction.isSome) := by
  unfold parseAssetTransferEnvelope at h
  obtain ⟨common, hcommon, h⟩ := bind_eq_ok.1 h
  obtain ⟨haxfer, h⟩ := require_bind_eq_ok.1 h
  obtain ⟨transfer, htransfer, h⟩ := bind_eq_ok.1 h
  obtain ⟨assetSender, hassetSender, h⟩ := bind_eq_ok.1 h
  obtain ⟨closeTo, hcloseTo, h⟩ := bind_eq_ok.1 h
  obtain ⟨closeAmount, -, h⟩ := bind_eq_ok.1 h
  obtain ⟨-, h⟩ := require_bind_eq_ok.1 h
  obtain ⟨receiver, hreceiver, h⟩ := bind_eq_ok.1 h
  obtain ⟨assetId, hassetId, h⟩ := bind_eq_ok.1 h
  obtain ⟨atomicAmount, hamount, h⟩ := bind_eq_ok.1 h
  cases h
  obtain ⟨hread, hsome⟩ := parseTransactionCommon_eq_ok hcommon
  exact ⟨⟨transfer, hread, of_decide_eq_true haxfer, record_eq_ok htransfer,
    optionalString_eq_ok hassetSender, optionalString_eq_ok hcloseTo,
    (nonEmptyString_eq_ok hreceiver).1, (safeRound_eq_ok hassetId).1, safeAmount_eq_ok hamount⟩,
    hsome⟩

/-- An envelope under an id shows the transfer it was read as. -/
theorem EnvelopeReadFrom.showsTransfer {item : Json} {p : ParsedAssetTransferEnvelope}
    {transfer : List (JsString × Json)} (h : EnvelopeReadFrom (some item) p transfer)
    {label : String} {t : IndexedAssetTransfer} (ht : indexedAssetTransfer p label = .ok t) :
    ShowsTransfer item t ∧ isCanonicalTransactionId t.transaction := by
  have hitem : item = .obj p.record := Option.some.inj h.record
  unfold indexedAssetTransfer at ht
  split at ht
  · cases ht
  · rename_i transaction htransaction
    cases ht
    obtain ⟨hid, hcanonical⟩ := h.transactionId transaction htransaction
    refine ⟨⟨?_, ?_, ?_, ?_, ?_, ?_, ?_⟩, hcanonical⟩
    all_goals simp only [hitem, transferField, Json.get?, h.envelope, Option.bind_some]
    · exact hid
    · rw [h.txType, h.axfer]
    · exact h.sender
    · exact h.round
    · exact h.receiver
    · exact h.assetId
    · exact h.amount

/-- **What `parseDirectAssetTransfer` accepts is what the item shows.** -/
theorem parseDirectAssetTransfer_ok {item : Json} {label : String} {t : IndexedAssetTransfer}
    (h : parseDirectAssetTransfer (some item) label = .ok t) : ShowsTransfer item t := by
  unfold parseDirectAssetTransfer at h
  obtain ⟨p, hp, h⟩ := bind_eq_ok.1 h
  obtain ⟨-, h⟩ := require_bind_eq_ok.1 h
  obtain ⟨-, h⟩ := require_bind_eq_ok.1 h
  obtain ⟨⟨transfer, hread⟩, -⟩ := parseAssetTransferEnvelope_ok hp
  exact (hread.showsTransfer h).1

end RoundWatch
