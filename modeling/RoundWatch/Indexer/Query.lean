import RoundWatch.Indexer.Parse
import RoundWatch.Store.Basic

/-!
# Scanning for a payment

The scan of `roundwatch-indexer.ts`: the query a watch is scanned with, the checks on
every item of the answer, and the test that makes a transfer a match.

* `buildWatchSearchUrl` — the query; a `ScanQuery` stands for the URL, which is also the
  key pages are shared under;
* `parseWatchTransaction`, `parseWatchPage` — an answer, item by item;
* `matchesWatch` — the match;
* `ScanQuery.Selects` — what the provider is asked for, and `selects_of_matchesWatch`: a
  query never leaves out a match in its window.
-/

namespace RoundWatch

open JsText Checks

/-! ## The query -/

inductive ScanQueryVariant where
  | A
  | B
  | C
  | D
  deriving DecidableEq, Repr

/-- What the scan reads of a watch record. -/
structure WatchTerms where
  expectedSender : SqlText
  expectedReceiver : SqlText
  assetId : ℤ
  atomicAmount : SqlText
  invoiceNote : Option SqlText
  activationRound : Option ℤ
  expiresAt : Option ℤ
  deriving DecidableEq

/-- The terms of a row. -/
def WatchRow.terms (r : WatchRow) : WatchTerms where
  expectedSender := r.expectedSender
  expectedReceiver := r.expectedReceiver
  assetId := r.assetId
  atomicAmount := r.atomicAmount
  invoiceNote := r.invoiceNote
  activationRound := r.activationRound
  expiresAt := r.expiresAt

inductive AddressRole where
  | sender
  | receiver
  deriving DecidableEq, Repr

/-- `ScanQueryPlan`. -/
structure ScanQueryPlan where
  address : JsString
  addressRole : AddressRole
  exactAmount : Bool
  notePrefix : Bool

/-- The amount of a plan that filters by it, which has to be positive. -/
def checkExactAmount (amount : JsString) : Except String ℤ :=
  match bigInt? amount with
  | none => .error ("Cannot convert " ++ text amount ++ " to a BigInt")
  | some n =>
      if n ≤ 0 then
        .error "exact amount Indexer filtering requires a positive atomicAmount"
      else .ok n

/-- The amount a variant filters by, if it does. -/
def planAmount (watch : WatchTerms) (variant : ScanQueryVariant) : Except String (Option ℤ) :=
  if variant = .A then .ok none else (checkExactAmount watch.atomicAmount.val).map some

/-- The plan of a variant. -/
def scanPlan (watch : WatchTerms) (variant : ScanQueryVariant) : ScanQueryPlan where
  address := if variant = .D then watch.expectedReceiver.val else watch.expectedSender.val
  addressRole := if variant = .D then .receiver else .sender
  exactAmount := variant ≠ .A
  notePrefix := (variant = .C || variant = .D) && watch.invoiceNote.isSome

/-- `buildScanQueryPlan`. -/
def buildScanQueryPlan (watch : WatchTerms) (variant : ScanQueryVariant) :
    Except String ScanQueryPlan :=
  (planAmount watch variant).bind fun _ => .ok (scanPlan watch variant)

/-- The URL of a scan request: its path and query parameters.  The parameters all
requests share (`tx-type=axfer`, `limit=1000`, `exclude-close-to=true`) are left out. -/
structure ScanQuery where
  assetId : ℤ
  address : JsString
  addressRole : AddressRole
  minRound : ℤ
  maxRound : ℤ
  currencyGreaterThan : Option ℤ
  currencyLessThan : Option ℤ
  notePrefix : Option JsString
  /-- The continuation token; a URL holds its well-formed part. -/
  next : Option JsString
  deriving DecidableEq

/-- `safeRange`. -/
def safeRange (minRound maxRound : ℤ) : Except String Unit :=
  (safeRound (some (.num minRound)) "minimum round").bind fun _ =>
  (safeRound (some (.num maxRound)) "maximum round").bind fun _ =>
  require (minRound ≤ maxRound) "minimum round exceeds maximum round"

/-- `buildWatchSearchUrl`. -/
def buildWatchSearchUrl (variant : ScanQueryVariant) (watch : WatchTerms) (minRound maxRound : ℤ)
    (nextToken : Option JsString) : Except String ScanQuery :=
  (safeRange minRound maxRound).bind fun _ =>
  (buildScanQueryPlan watch variant).bind fun plan =>
  (planAmount watch variant).bind fun amount =>
  .ok { assetId := watch.assetId
        address := toWellFormed plan.address
        addressRole := plan.addressRole
        minRound := minRound
        maxRound := maxRound
        currencyGreaterThan := amount.map (· - 1)
        currencyLessThan := amount.map (· + 1)
        notePrefix :=
          if plan.notePrefix then
            watch.invoiceNote.map fun note => Base64.encode (utf8Bytes note.val)
          else none
        next := (nextToken.filter (· ≠ [])).map toWellFormed }

/-! ## The filters, checked again on the answer -/

/-- `satisfiesNotePrefix`. -/
def satisfiesNotePrefix (note : Option JsString) (watch : WatchTerms) (plan : ScanQueryPlan) :
    Bool :=
  if plan.notePrefix then
    match note, watch.invoiceNote with
    | some note, some invoiceNote => (utf8Bytes invoiceNote.val).isPrefixOf (Base64.decode note)
    | _, _ => false
  else true

/-- The address filter of both `assertTopLevelScanFilters` and `satisfiesScanFilters`. -/
def satisfiesAddress (parsed : ParsedAssetTransferEnvelope) (plan : ScanQueryPlan) : Bool :=
  match plan.addressRole with
  | .sender => parsed.sender == plan.address || parsed.assetSender == some plan.address
  | .receiver => parsed.receiver == plan.address

/-- `satisfiesScanFilters`. -/
def satisfiesScanFilters (parsed : ParsedAssetTransferEnvelope) (watch : WatchTerms)
    (plan : ScanQueryPlan) : Bool :=
  parsed.assetId == watch.assetId && satisfiesAddress parsed plan &&
    (!plan.exactAmount || parsed.atomicAmount == watch.atomicAmount.val) &&
    satisfiesNotePrefix parsed.note watch plan

def AddressRole.name : AddressRole → String
  | .sender => "sender"
  | .receiver => "receiver"

/-- The check of a round against the requested window. -/
def insideWindow (round minRound maxRound : ℤ) (label : String) : Except String Unit :=
  require (minRound ≤ round && round ≤ maxRound)
    (label ++ " lies outside the requested round range")

/-- `assertTopLevelScanFilters`. -/
def assertTopLevelScanFilters (parsed : ParsedAssetTransferEnvelope) (minRound maxRound : ℤ)
    (watch : WatchTerms) (plan : ScanQueryPlan) (label : String) : Except String Unit :=
  (insideWindow parsed.round minRound maxRound label).bind fun _ =>
  (require (parsed.assetId == watch.assetId)
    (label ++ " does not satisfy the requested asset filter")).bind fun _ =>
  (require (satisfiesAddress parsed plan)
    (label ++ " does not satisfy the requested " ++ plan.addressRole.name ++ " filter")).bind
    fun _ =>
  (require (!plan.exactAmount || parsed.atomicAmount == watch.atomicAmount.val)
    (label ++ " does not satisfy the requested amount range")).bind fun _ =>
  require (satisfiesNotePrefix parsed.note watch plan)
    (label ++ " does not satisfy the requested note prefix")

/-! ## Inner transactions -/

/-- `MAX_INDEXER_INNER_TRANSACTIONS`. -/
def maxInnerTransactions : ℕ := 1000

/-- `MAX_INDEXER_INNER_DEPTH`. -/
def maxInnerDepth : ℕ := 16

/-- The loop over the children of a transaction.  The count of visited transactions is
threaded through, and a match of any child is a match. -/
def inspectChildren (inspect : Json → String → ℕ → Except String (Bool × ℕ)) (label : String) :
    List Json → ℕ → Bool → ℕ → Except String (Bool × ℕ)
  | [], _, queryMatch, visited => .ok (queryMatch, visited)
  | child :: rest, i, queryMatch, visited =>
      (inspect child (label ++ toString i) visited).bind fun result =>
      inspectChildren inspect label rest (i + 1) (result.1 || queryMatch) result.2

/-- `inspectInnerTransaction`; the first argument is the depth that is left. -/
def inspectInnerTransaction (minRound maxRound : ℤ) (watch : WatchTerms) (plan : ScanQueryPlan) :
    ℕ → Json → String → ℕ → Except String (Bool × ℕ)
  | 0, _, label, _ =>
      .error (label ++ " exceeds inner transaction depth " ++ toString maxInnerDepth)
  | depthLeft + 1, value, label, visited =>
      (require (visited + 1 ≤ maxInnerTransactions)
        (label ++ " inner transaction tree exceeds " ++ toString maxInnerTransactions ++
          " items")).bind fun _ =>
      (parseTransactionCommon (some value) label false).bind fun common =>
      (assertTransactionEnvelopeShape common label).bind fun _ =>
      (insideWindow common.round minRound maxRound label).bind fun _ =>
      if common.txType = js "axfer" then
        (parseAssetTransferEnvelope (some value) label false).map fun parsed =>
          (satisfiesScanFilters parsed watch plan, visited + 1)
      else
        match Json.lookup common.record (js "inner-txns") with
        | none => .ok (false, visited + 1)
        | some (.arr children) =>
            inspectChildren (inspectInnerTransaction minRound maxRound watch plan depthLeft)
              (label ++ " child ") children 0 false (visited + 1)
        | some _ => .error (label ++ " inner-txns is not an array")

/-! ## Items and pages -/

/-- The inner transactions of an item that is no transfer itself: they have to be the
reason the provider listed it. -/
def assertInnerMatch (common : ParsedTransactionCommon) (minRound maxRound : ℤ)
    (watch : WatchTerms) (plan : ScanQueryPlan) (label : String) : Except String Unit :=
  match Json.lookup common.record (js "inner-txns") with
  | some (.arr (child :: rest)) =>
      (require ((child :: rest).length ≤ maxInnerTransactions)
        (label ++ " inner transaction count exceeds " ++ toString maxInnerTransactions)).bind
        fun _ =>
      (inspectChildren (inspectInnerTransaction minRound maxRound watch plan maxInnerDepth)
        (label ++ " inner transaction ") (child :: rest) 0 false 0).bind fun result =>
      require result.1
        (label ++
          " inner transaction tree does not satisfy the requested asset-transfer filters")
  | _ => .error (label ++ " is not an axfer and has no inner transaction evidence")

/-- The record of a transfer on a page, unless it is a clawback or a close-out. -/
def directTransfer (parsed : ParsedAssetTransferEnvelope) (label : String) :
    Except String (Option IndexedWatchTransaction) :=
  if parsed.assetSender.isSome || parsed.closeTo.isSome then .ok none
  else
    (indexedAssetTransfer parsed label).map fun transfer =>
      some { transfer with roundTime := parsed.roundTime, note := parsed.note }

/-- `parseWatchTransaction`. -/
def parseWatchTransaction (value : Json) (index : ℕ) (minRound maxRound : ℤ) (watch : WatchTerms)
    (plan : ScanQueryPlan) : Except String (Option IndexedWatchTransaction) :=
  let label := "transaction page item " ++ toString index
  (parseTransactionCommon (some value) label true).bind fun common =>
  (assertTransactionEnvelopeShape common label).bind fun _ =>
  (insideWindow common.round minRound maxRound label).bind fun _ =>
  if common.txType = js "axfer" then
    (parseAssetTransferEnvelope (some value) label true).bind fun parsed =>
    (assertTopLevelScanFilters parsed minRound maxRound watch plan label).bind fun _ =>
    directTransfer parsed label
  else (assertInnerMatch common minRound maxRound watch plan label).map fun _ => none

/-- `requiredBoundedArray`. -/
def requiredBoundedArray (body : Json) (name : String) (maximumItems : ℕ) :
    Except String (List Json) :=
  (field body name).bind fun value =>
  match value with
  | .arr items =>
      (require (items.length ≤ maximumItems)
        ("Indexer " ++ name ++ " exceeded requested page limit " ++ toString maximumItems)).bind
        fun _ => .ok items
  | _ => .error ("Indexer " ++ name ++ " is not an array")

/-- `MAX_INDEXER_NEXT_TOKEN_BYTES`. -/
def maxNextTokenBytes : ℕ := 4 * 1024

/-- `optionalToken`. -/
def optionalToken (body : Json) : Except String (Option JsString) :=
  (optionalField body "next-token").bind fun value =>
  match value with
  | none => .ok none
  | some .null => .ok none
  | some (.str []) => .ok none
  | some other =>
      (nonEmptyString (some other) "next-token").bind fun nextToken =>
      (require (utf8ByteLength nextToken ≤ maxNextTokenBytes)
        ("Indexer next-token exceeds " ++ toString maxNextTokenBytes ++ " byte limit")).bind
        fun _ => .ok (some nextToken)

/-- `TransactionPage`. -/
structure TransactionPage where
  transactions : List IndexedWatchTransaction
  currentRound : ℤ
  nextToken : Option JsString
  deriving DecidableEq

/-- The body of a scan answer, as `searchWatchPageFor` reads it. -/
def parseWatchPage (watch : WatchTerms) (plan : ScanQueryPlan) (minRound maxRound : ℤ)
    (body : Json) : Except String TransactionPage :=
  (requiredBoundedArray body "transactions" 1000).bind fun items =>
  (items.zipIdx.mapM fun item =>
    parseWatchTransaction item.1 item.2 minRound maxRound watch plan).bind fun parsed =>
  (field body "current-round").bind fun current =>
  (safeRound (some current) "transaction page current-round").bind fun currentRound =>
  (optionalToken body).bind fun nextToken =>
  .ok { transactions := parsed.filterMap id, currentRound := currentRound, nextToken := nextToken }

/-! ## The match -/

/-- The note of a transfer is the invoice note of the watch, byte for byte. -/
def noteMatches (note : Option JsString) (invoiceNote : Option SqlText) : Bool :=
  match invoiceNote with
  | none => true
  | some expected =>
      match note with
      | none => false
      | some actual => Base64.decode actual == utf8Bytes expected.val

/-- `matchesWatch`.  Times are compared in milliseconds. -/
def matchesWatch (transaction : IndexedWatchTransaction) (watch : WatchTerms) : Bool :=
  match watch.activationRound, watch.expiresAt with
  | some activationRound, some expiresAt =>
      activationRound < transaction.round &&
        transaction.sender == watch.expectedSender.val &&
        transaction.receiver == watch.expectedReceiver.val &&
        transaction.assetId == watch.assetId &&
        transaction.atomicAmount == watch.atomicAmount.val &&
        transaction.roundTime * 1000 < expiresAt &&
        noteMatches transaction.note watch.invoiceNote
  | _, _ => false

/-- What a match says. -/
theorem matchesWatch_iff {t : IndexedWatchTransaction} {watch : WatchTerms} :
    matchesWatch t watch = true ↔ ∃ activationRound expiresAt,
      watch.activationRound = some activationRound ∧ watch.expiresAt = some expiresAt ∧
      activationRound < t.round ∧ t.sender = watch.expectedSender.val ∧
      t.receiver = watch.expectedReceiver.val ∧ t.assetId = watch.assetId ∧
      t.atomicAmount = watch.atomicAmount.val ∧ t.roundTime * 1000 < expiresAt ∧
      noteMatches t.note watch.invoiceNote = true := by
  unfold matchesWatch
  split
  · rename_i activationRound expiresAt hactivation hexpires
    simp [hactivation, hexpires, and_assoc]
  · rename_i hnone
    constructor
    · simp
    · rintro ⟨activationRound, expiresAt, hactivation, hexpires, -⟩
      exact absurd hexpires (hnone activationRound expiresAt hactivation)

/-! ## What the checks accept -/

theorem field_eq_ok {body : Json} {name : String} {value : Json}
    (h : field body name = .ok value) : body.get? name = some value := by
  obtain ⟨fields, hfields, h⟩ := bind_eq_ok.1 h
  have hbody : body = .obj fields := Option.some.inj (record_eq_ok hfields)
  split at h
  · cases h
    rw [hbody]
    assumption
  · cases h

theorem requiredBoundedArray_eq_ok {body : Json} {name : String} {n : ℕ} {items : List Json}
    (h : requiredBoundedArray body name n = .ok items) : body.get? name = some (.arr items) := by
  obtain ⟨value, hvalue, h⟩ := bind_eq_ok.1 h
  split at h
  · obtain ⟨-, h⟩ := require_bind_eq_ok.1 h
    cases h
    exact field_eq_ok hvalue
  · cases h

/-- The continuation token an answer carries. -/
def nextTokenOf (body : Json) : Option JsString :=
  match body.get? "next-token" with
  | some (.str (u :: rest)) => some (u :: rest)
  | _ => none

theorem optionalToken_eq_ok {body : Json} {token : Option JsString}
    (h : optionalToken body = .ok token) : nextTokenOf body = token := by
  obtain ⟨value, hvalue, h⟩ := bind_eq_ok.1 h
  obtain ⟨fields, hfields, hlookup⟩ := bind_eq_ok.1 hvalue
  have hbody : body = .obj fields := Option.some.inj (record_eq_ok hfields)
  cases hlookup
  have hget : body.get? "next-token" = Json.lookup fields (js "next-token") := by rw [hbody]; rfl
  unfold nextTokenOf
  rw [hget]
  split at h
  · rename_i hnone
    cases h
    rw [hnone]
  · rename_i hnull
    cases h
    rw [hnull]
  · rename_i hempty
    cases h
    rw [hempty]
  · rename_i other _ _ hother
    obtain ⟨s, hs, h⟩ := bind_eq_ok.1 h
    obtain ⟨-, h⟩ := require_bind_eq_ok.1 h
    cases h
    obtain ⟨hstr, hne⟩ := nonEmptyString_eq_ok hs
    rw [hother, hstr]
    cases s with
    | nil => exact absurd rfl hne
    | cons u rest => rfl

/-- The checked envelope of an item without asset sender and close destination shows a
direct transfer. -/
theorem directTransfer_eq_some {item : Json} {p : ParsedAssetTransferEnvelope}
    {transfer : List (JsString × Json)} (hread : EnvelopeReadFrom (some item) p transfer)
    (hinner : Json.lookup p.record (js "inner-txns") = none) {label : String}
    {t : IndexedWatchTransaction} (h : directTransfer p label = .ok (some t)) :
    ShowsDirectTransfer item t := by
  have hitem : item = .obj p.record := Option.some.inj hread.record
  unfold directTransfer at h
  split at h
  · cases h
  · rename_i hnone
    simp only [Bool.or_eq_true, not_or, Bool.not_eq_true, Option.isSome_eq_false_iff,
      Option.isNone_iff_eq_none] at hnone
    cases hbase : indexedAssetTransfer p label with
    | error e =>
        rw [hbase] at h
        cases h
    | ok base =>
        rw [hbase] at h
        cases h
        obtain ⟨hshows, hcanonical⟩ := hread.showsTransfer hbase
        refine ⟨hshows, hcanonical, ?_, ?_, ?_, ?_, ?_⟩
        all_goals simp only [hitem, transferField, Json.get?, hread.envelope, Option.bind_some]
        · exact hread.roundTime
        · exact hread.note
        · exact hinner
        · rw [hread.assetSender, hnone.1]
          rfl
        · rw [hread.closeTo, hnone.2]
          rfl

theorem insideWindow_eq_ok {round minRound maxRound : ℤ} {label : String} {u : Unit}
    (h : insideWindow round minRound maxRound label = .ok u) :
    minRound ≤ round ∧ round ≤ maxRound := by
  simpa using require_eq_ok.1 h

/-- **Every record on a page is shown by its item**, inside the requested window. -/
theorem parseWatchTransaction_some {item : Json} {index : ℕ} {minRound maxRound : ℤ}
    {watch : WatchTerms} {plan : ScanQueryPlan} {t : IndexedWatchTransaction}
    (h : parseWatchTransaction item index minRound maxRound watch plan = .ok (some t)) :
    ShowsDirectTransfer item t ∧ minRound ≤ t.round ∧ t.round ≤ maxRound := by
  obtain ⟨common, hcommon, h⟩ := bind_eq_ok.1 h
  obtain ⟨_, hshape, h⟩ := bind_eq_ok.1 h
  obtain ⟨_, hwindow, h⟩ := bind_eq_ok.1 h
  have hread := (parseTransactionCommon_eq_ok hcommon).1
  split at h
  · rename_i haxfer
    obtain ⟨p, hp, h⟩ := bind_eq_ok.1 h
    obtain ⟨_, -, h⟩ := bind_eq_ok.1 h
    obtain ⟨⟨transfer, henvelope⟩, -⟩ := parseAssetTransferEnvelope_ok hp
    have hrecord : p.record = common.record := by
      simpa using henvelope.record.symm.trans hread.record
    have hinner : Json.lookup p.record (js "inner-txns") = none := by
      rw [assertTransactionEnvelopeShape, if_pos haxfer] at hshape
      simpa [hrecord] using require_eq_ok.1 hshape
    have hshows := directTransfer_eq_some henvelope hinner h
    refine ⟨hshows, ?_⟩
    have hround : t.round = common.round := by
      have hget : item.get? "confirmed-round" = some (.num common.round) := by
        have hitem : item = .obj common.record := Option.some.inj hread.record
        rw [hitem]
        exact hread.round
      simpa using hshows.round.symm.trans hget
    rw [hround]
    exact insideWindow_eq_ok hwindow
  · cases hinner : assertInnerMatch common minRound maxRound watch plan
        ("transaction page item " ++ toString index) with
    | error e =>
        rw [hinner] at h
        cases h
    | ok u =>
        rw [hinner] at h
        cases h

/-- **A direct transfer is never dropped**: an item that shows one is either refused or
read as that transfer. -/
theorem parseWatchTransaction_of_shows {item : Json} {index : ℕ} {minRound maxRound : ℤ}
    {watch : WatchTerms} {plan : ScanQueryPlan} {t : IndexedWatchTransaction}
    (hshows : ShowsDirectTransfer item t) {read : Option IndexedWatchTransaction}
    (h : parseWatchTransaction item index minRound maxRound watch plan = .ok read) :
    read = some t := by
  cases read with
  | some t' => rw [(parseWatchTransaction_some h).1.unique hshows]
  | none =>
      obtain ⟨common, hcommon, h⟩ := bind_eq_ok.1 h
      obtain ⟨_, hshape, h⟩ := bind_eq_ok.1 h
      obtain ⟨_, -, h⟩ := bind_eq_ok.1 h
      have hread := (parseTransactionCommon_eq_ok hcommon).1
      have hitem : item = .obj common.record := Option.some.inj hread.record
      have haxfer : common.txType = js "axfer" := by
        have htype := hshows.txType
        rw [hitem] at htype
        simpa using hread.txType.symm.trans htype
      rw [if_pos haxfer] at h
      obtain ⟨p, hp, h⟩ := bind_eq_ok.1 h
      obtain ⟨_, -, h⟩ := bind_eq_ok.1 h
      obtain ⟨⟨transfer, henvelope⟩, hid⟩ := parseAssetTransferEnvelope_ok hp
      have hitem' : item = .obj p.record := Option.some.inj henvelope.record
      have hfield : ∀ name, transferField item name = Json.lookup transfer (js name) := by
        intro name
        simp only [transferField, hitem', Json.get?, henvelope.envelope, Option.bind_some]
      have hsender : p.assetSender = none := by
        have hnone := hshows.assetSender
        rw [hfield, henvelope.assetSender] at hnone
        simpa using hnone
      have hclose : p.closeTo = none := by
        have hnone := hshows.closeTo
        rw [hfield, henvelope.closeTo] at hnone
        simpa using hnone
      simp only [directTransfer, hsender, hclose, Option.isSome_none, Bool.or_self,
        Bool.false_eq_true, if_false] at h
      -- the id is there, so the record is made
      obtain ⟨id, htransaction⟩ := Option.isSome_iff_exists.1 (hid rfl)
      rw [indexedAssetTransfer, htransaction] at h
      cases h

/-- What a page says of the body it was read from. -/
structure PageReadFrom (body : Json) (minRound maxRound : ℤ) (page : TransactionPage) : Prop where
  /-- The records are the direct transfers among the items, all inside the window. -/
  transactions : ∃ items, body.get? "transactions" = some (.arr items) ∧
    (∀ t ∈ page.transactions, ∃ item ∈ items, ShowsDirectTransfer item t ∧
      minRound ≤ t.round ∧ t.round ≤ maxRound) ∧
    ∀ item ∈ items, ∀ t, ShowsDirectTransfer item t → t ∈ page.transactions
  currentRound : body.get? "current-round" = some (.num page.currentRound)
  nextToken : nextTokenOf body = page.nextToken

/-- **What a page holds is what its body shows.** -/
theorem parseWatchPage_eq_ok {watch : WatchTerms} {plan : ScanQueryPlan} {minRound maxRound : ℤ}
    {body : Json} {page : TransactionPage}
    (h : parseWatchPage watch plan minRound maxRound body = .ok page) :
    PageReadFrom body minRound maxRound page := by
  obtain ⟨items, hitems, h⟩ := bind_eq_ok.1 h
  obtain ⟨parsed, hparsed, h⟩ := bind_eq_ok.1 h
  obtain ⟨current, hcurrent, h⟩ := bind_eq_ok.1 h
  obtain ⟨currentRound, hround, h⟩ := bind_eq_ok.1 h
  obtain ⟨nextToken, htoken, h⟩ := bind_eq_ok.1 h
  cases h
  have hall := mapM_eq_ok hparsed
  refine ⟨⟨items, requiredBoundedArray_eq_ok hitems, ?_, ?_⟩, ?_, optionalToken_eq_ok htoken⟩
  · intro t ht
    obtain ⟨read, hread, heq⟩ := List.mem_filterMap.1 ht
    obtain ⟨item, hitem, hparse⟩ := Table.exists_of_forall₂_right hall hread
    refine ⟨item.1, (List.mem_zipIdx' hitem).2 ▸ List.getElem_mem .., ?_⟩
    exact parseWatchTransaction_some (hparse.trans (congrArg _ heq))
  · intro item hitem t hshows
    obtain ⟨i, hi⟩ := List.mem_iff_getElem?.1 hitem
    have hmem : (item, i) ∈ items.zipIdx := List.mem_zipIdx_iff_getElem?.2 hi
    obtain ⟨read, hread, hparse⟩ := Table.exists_of_forall₂_left hall hmem
    rw [parseWatchTransaction_of_shows hshows hparse] at hread
    exact List.mem_filterMap.2 ⟨some t, hread, rfl⟩
  · rw [field_eq_ok hcurrent]
    exact (safeRound_eq_ok hround).1

/-! ## What the provider is asked for -/

/-- The transfers a query selects. -/
structure ScanQuery.Selects (q : ScanQuery) (t : IndexedWatchTransaction) : Prop where
  assetId : t.assetId = q.assetId
  address : match q.addressRole with
    | .sender => t.sender = q.address
    | .receiver => t.receiver = q.address
  window : q.minRound ≤ t.round ∧ t.round ≤ q.maxRound
  amount : ∃ amount : ℕ, t.atomicAmount = decimal amount ∧
    (∀ n, q.currencyGreaterThan = some n → n < amount) ∧
    ∀ n, q.currencyLessThan = some n → (amount : ℤ) < n
  note : ∀ p, q.notePrefix = some p → ∃ note, t.note = some note ∧
    Base64.decode p <+: Base64.decode note

/-- What a query is built from. -/
structure ScanQuery.BuiltFrom (q : ScanQuery) (variant : ScanQueryVariant) (watch : WatchTerms)
    (minRound maxRound : ℤ) (token : Option JsString) (amount : Option ℤ) : Prop where
  plan : planAmount watch variant = .ok amount
  assetId : q.assetId = watch.assetId
  address : q.address = toWellFormed (scanPlan watch variant).address
  addressRole : q.addressRole = (scanPlan watch variant).addressRole
  minRound : q.minRound = minRound
  maxRound : q.maxRound = maxRound
  greaterThan : q.currencyGreaterThan = amount.map (· - 1)
  lessThan : q.currencyLessThan = amount.map (· + 1)
  notePrefix : q.notePrefix = if (scanPlan watch variant).notePrefix then
    watch.invoiceNote.map fun note => Base64.encode (utf8Bytes note.val) else none
  next : q.next = (token.filter (· ≠ [])).map toWellFormed

theorem buildWatchSearchUrl_eq_ok {variant : ScanQueryVariant} {watch : WatchTerms}
    {minRound maxRound : ℤ} {token : Option JsString} {q : ScanQuery}
    (h : buildWatchSearchUrl variant watch minRound maxRound token = .ok q) :
    ∃ amount, q.BuiltFrom variant watch minRound maxRound token amount := by
  obtain ⟨_, -, h⟩ := bind_eq_ok.1 h
  obtain ⟨plan, hplan, h⟩ := bind_eq_ok.1 h
  obtain ⟨amount, hamount, h⟩ := bind_eq_ok.1 h
  obtain ⟨_, -, hplan⟩ := bind_eq_ok.1 hplan
  cases hplan
  cases h
  exact ⟨amount, hamount, rfl, rfl, rfl, rfl, rfl, rfl, rfl, rfl, rfl⟩

/-- The amount filter of a watch that is paid in decimals is that amount. -/
theorem planAmount_decimal {variant : ScanQueryVariant} {watch : WatchTerms} {n : ℕ}
    (hn : watch.atomicAmount.val = decimal n) {filter : Option ℤ}
    (h : planAmount watch variant = .ok filter) : filter = none ∨ filter = some (n : ℤ) := by
  unfold planAmount at h
  split at h
  · cases h
    exact Or.inl rfl
  · rw [checkExactAmount, hn, bigInt?_decimal] at h
    dsimp only at h
    split at h
    · cases h
    · cases h
      exact Or.inr rfl

/-- **A query leaves no match out**: what matches a watch inside the window is selected by
the query the watch is scanned with. -/
theorem selects_of_matchesWatch {variant : ScanQueryVariant} {watch : WatchTerms}
    {minRound maxRound : ℤ} {token : Option JsString} {q : ScanQuery}
    (hq : buildWatchSearchUrl variant watch minRound maxRound token = .ok q)
    {t : IndexedWatchTransaction} (hmatch : matchesWatch t watch = true)
    (hamount : ∃ amount : ℕ, t.atomicAmount = decimal amount)
    (hmin : minRound ≤ t.round) (hmax : t.round ≤ maxRound) : q.Selects t := by
  obtain ⟨filter, hbuilt⟩ := buildWatchSearchUrl_eq_ok hq
  obtain ⟨activation, expires, -, -, -, hsender, hreceiver, hasset, hatomic, -, hnote⟩ :=
    matchesWatch_iff.1 hmatch
  obtain ⟨amount, hdecimal⟩ := hamount
  have hfilter := planAmount_decimal (hatomic.symm.trans hdecimal) hbuilt.plan
  refine ⟨hasset.trans hbuilt.assetId.symm, ?_, ⟨?_, ?_⟩, ⟨amount, hdecimal, ?_, ?_⟩, ?_⟩
  · rw [hbuilt.addressRole, hbuilt.address]
    by_cases hD : variant = .D
    · simp only [scanPlan, hD, if_true]
      rw [hreceiver, watch.expectedReceiver.wellFormed]
    · simp only [scanPlan, hD, if_false]
      rw [hsender, watch.expectedSender.wellFormed]
  · rw [hbuilt.minRound]
    exact hmin
  · rw [hbuilt.maxRound]
    exact hmax
  · intro n hn
    rw [hbuilt.greaterThan] at hn
    rcases hfilter with rfl | rfl
    · simp at hn
    · simp only [Option.map_some, Option.some.injEq] at hn
      omega
  · intro n hn
    rw [hbuilt.lessThan] at hn
    rcases hfilter with rfl | rfl
    · simp at hn
    · simp only [Option.map_some, Option.some.injEq] at hn
      omega
  · intro p hp
    rw [hbuilt.notePrefix] at hp
    split at hp
    · obtain ⟨invoice, hinvoice, rfl⟩ := Option.map_eq_some_iff.1 hp
      rw [hinvoice] at hnote
      cases hactual : t.note with
      | none => simp [noteMatches, hactual] at hnote
      | some actual =>
          simp only [noteMatches, hactual, beq_iff_eq] at hnote
          refine ⟨actual, rfl, ?_⟩
          rw [Base64.decode_encode]
          exact hnote ▸ List.prefix_rfl
    · cases hp

end RoundWatch
