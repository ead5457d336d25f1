import RoundWatch.Indexer.Query

/-!
# Requests to the Indexer

`AlgorandIndexerClient`, from what comes back over the wire to what the caller gets.
An `Answer` is the outcome of one dispatched request; the functions here are the
continuations of the client's five requests.

* `received`, `receivedOrAbsent` — `requestUrl`, without and with `allowNotFound`;
* `getCurrentRound`, `getBlock`, `lookupAssetTransfer`, `searchWatchPage`,
  `searchTransactionPage`, each with the lemma that says what its success shows.
-/

namespace RoundWatch

open JsText Checks

/-! ## Answers and errors -/

inductive IndexerRequestPurpose where
  | health
  | activation
  | reconciliation
  | checkpoint
  | scanPage
  | absenceProof
  deriving DecidableEq, Repr

inductive IndexerHttpErrorCode where
  | zeroAddressSenderUnsupported
  | rateLimited
  | providerUnauthorized
  | providerForbidden
  | providerNotFound
  | providerRequestRejected
  | providerServerError
  | providerHttpError
  deriving DecidableEq, Repr

def IndexerHttpErrorCode.name : IndexerHttpErrorCode → String
  | .zeroAddressSenderUnsupported => "zero_address_sender_unsupported"
  | .rateLimited => "rate_limited"
  | .providerUnauthorized => "provider_unauthorized"
  | .providerForbidden => "provider_forbidden"
  | .providerNotFound => "provider_not_found"
  | .providerRequestRejected => "provider_request_rejected"
  | .providerServerError => "provider_server_error"
  | .providerHttpError => "provider_http_error"

/-- How a dispatched request ends. -/
inductive Answer where
  /-- A successful response whose body is JSON. -/
  | body (value : Json)
  /-- Another status: whether the text is the provider's message about zero-address
  senders, and the milliseconds of `retry-after`. -/
  | status (status : ℤ) (zeroAddressMessage : Bool) (retryAfter : Option ℤ)
  | timeout
  | network
  /-- A successful response that is too long, not UTF-8 or not JSON. -/
  | unreadable (message : String)
  /-- The dispatcher closed while the request was queued. -/
  | shutdown

/-- What a turn of a worker throws. -/
inductive TurnError where
  | http (status : ℤ) (purpose : IndexerRequestPurpose) (code : IndexerHttpErrorCode)
      (disposition : PollingFailureDisposition) (retryAfter : Option ℤ)
  | timeout
  /-- A `TypeError`, which is what `fetch` rejects with. -/
  | network
  /-- Any other `Error`. -/
  | protocol (message : String)
  /-- `ShutdownInterrupted`. -/
  | shutdown
  deriving DecidableEq

/-- `ALGORAND_ZERO_ADDRESS`. -/
def zeroAddress : JsString := js "AAAAAAAAAAAAAAAAAAAAAAAAAAAAAAAAAAAAAAAAAAAAAAAAAAAAY5HFKQ"

/-- The query asks for transfers sent by the zero address. -/
def ScanQuery.zeroSender (q : ScanQuery) : Bool :=
  q.address == zeroAddress && q.addressRole == .sender

/-- `classifyIndexerHttpFailure`; a scan request comes with its query. -/
def classifyIndexerHttpFailure (status : ℤ) (zeroAddressMessage : Bool)
    (query : Option ScanQuery) : IndexerHttpErrorCode × PollingFailureDisposition :=
  if status = 400 ∧ zeroAddressMessage ∧ query.any ScanQuery.zeroSender then
    (.zeroAddressSenderUnsupported, .permanent)
  else if status = 429 then (.rateLimited, .transient)
  else if 500 ≤ status ∧ status ≤ 599 then (.providerServerError, .transient)
  else if status = 401 then (.providerUnauthorized, .permanent)
  else if status = 403 then (.providerForbidden, .permanent)
  else if status = 404 then (.providerNotFound, .permanent)
  else if status = 400 ∨ status = 422 then (.providerRequestRejected, .unknown)
  else (.providerHttpError, .unknown)

variable {α : Type}

/-- `requestUrl` of a request that has to be answered. -/
def received (purpose : IndexerRequestPurpose) (query : Option ScanQuery)
    (parse : Json → Except String α) : Answer → Except TurnError α
  | .body value => (parse value).mapError .protocol
  | .status status message retryAfter =>
      let classification := classifyIndexerHttpFailure status message query
      .error (.http status purpose classification.1 classification.2 retryAfter)
  | .timeout => .error .timeout
  | .network => .error .network
  | .unreadable message => .error (.protocol message)
  | .shutdown => .error .shutdown

/-- `requestUrl` with `allowNotFound`: a 404 is an absence. -/
def receivedOrAbsent (purpose : IndexerRequestPurpose) (parse : Json → Except String α)
    (answer : Answer) : Except TurnError (Option α) :=
  match answer with
  | .status 404 _ _ => .ok none
  | other => (received purpose none parse other).map some

theorem received_eq_ok {purpose : IndexerRequestPurpose} {query : Option ScanQuery}
    {parse : Json → Except String α} {answer : Answer} {a : α}
    (h : received purpose query parse answer = .ok a) :
    ∃ body, answer = .body body ∧ parse body = .ok a := by
  cases answer with
  | body value =>
      refine ⟨value, rfl, ?_⟩
      cases hparse : parse value with
      | error e => simp [received, hparse, Except.mapError] at h
      | ok a' => simpa [received, hparse, Except.mapError] using h
  | _ => simp [received] at h

/-! ## The requests -/

/-- `getCurrentRound`. -/
def getCurrentRound (purpose : IndexerRequestPurpose) (answer : Answer) : Except TurnError ℤ :=
  received purpose none
    (fun body => (field body "round").bind fun round => safeRound (some round) "health round")
    answer

/-- `IndexedBlock`. -/
structure IndexedBlock where
  round : ℤ
  timestamp : ℤ
  deriving DecidableEq

/-- The body of a block answer. -/
def parseBlock (expected : ℤ) (body : Json) : Except String IndexedBlock :=
  (safeRound (some (.num expected)) "requested block round").bind fun expected =>
  (field body "round").bind fun round =>
  (safeRound (some round) "block round").bind fun returned =>
  (field body "timestamp").bind fun time =>
  (safeRound (some time) "block timestamp").bind fun timestamp =>
  (require (returned == expected) "Indexer returned a different block round than requested").bind
    fun _ => .ok { round := returned, timestamp := timestamp }

/-- `getBlock`. -/
def getBlock (round : ℤ) (answer : Answer) : Except TurnError IndexedBlock :=
  received .checkpoint none (parseBlock round) answer

/-- The body of a lookup answer. -/
def parseLookup (transactionId : JsString) (body : Json) : Except String IndexedAssetTransfer :=
  (field body "transaction").bind fun transaction =>
  (parseDirectAssetTransfer (some transaction) "lookup transaction").bind fun parsed =>
  (require (parsed.transaction == transactionId)
    "Indexer lookup returned a different transaction ID").bind fun _ => .ok parsed

/-- `lookupAssetTransfer` of a canonical id. -/
def lookupAssetTransfer (transactionId : JsString) (purpose : IndexerRequestPurpose)
    (answer : Answer) : Except TurnError (Option IndexedAssetTransfer) :=
  receivedOrAbsent purpose (parseLookup transactionId) answer

/-- The body of a scan answer, read for the plan of a watch. -/
def parseScan (variant : ScanQueryVariant) (watch : WatchTerms) (query : ScanQuery) (body : Json) :
    Except String TransactionPage :=
  (buildScanQueryPlan watch variant).bind fun plan =>
  parseWatchPage watch plan query.minRound query.maxRound body

/-- `searchWatchPage`. -/
def searchWatchPage (variant : ScanQueryVariant) (watch : WatchTerms) (query : ScanQuery)
    (answer : Answer) : Except TurnError TransactionPage :=
  received .scanPage (some query) (parseScan variant watch query) answer

/-- `parseTransactionSearchItem`. -/
def parseTransactionSearchItem (transactionId : JsString) (value : Json) (index : ℕ) :
    Except String IndexedAssetTransfer :=
  let label := "transaction search item " ++ toString index
  (parseDirectAssetTransfer (some value) label).bind fun parsed =>
  (require (parsed.transaction == transactionId)
    (label ++ " does not match the requested transaction ID")).bind fun _ => .ok parsed

/-- `TransactionIdPage`. -/
structure TransactionIdPage where
  transactions : List IndexedAssetTransfer
  currentRound : ℤ
  nextToken : Option JsString
  deriving DecidableEq

/-- The body of a transaction search answer. -/
def parseTransactionPage (transactionId : JsString) (body : Json) :
    Except String TransactionIdPage :=
  (requiredBoundedArray body "transactions" 1000).bind fun items =>
  (items.zipIdx.mapM fun item =>
    parseTransactionSearchItem transactionId item.1 item.2).bind fun transactions =>
  (field body "current-round").bind fun current =>
  (safeRound (some current) "transaction search current-round").bind fun currentRound =>
  (optionalToken body).bind fun nextToken =>
  .ok { transactions := transactions, currentRound := currentRound, nextToken := nextToken }

/-- `searchTransactionPage` of a canonical id. -/
def searchTransactionPage (transactionId : JsString) (answer : Answer) :
    Except TurnError TransactionIdPage :=
  received .absenceProof none (parseTransactionPage transactionId) answer

/-! ## What a success shows -/

theorem parseBlock_eq_ok {expected : ℤ} {body : Json} {block : IndexedBlock}
    (h : parseBlock expected body = .ok block) :
    body.get? "round" = some (.num block.round) ∧
      body.get? "timestamp" = some (.num block.timestamp) := by
  obtain ⟨round, -, h⟩ := bind_eq_ok.1 h
  obtain ⟨roundField, hround, h⟩ := bind_eq_ok.1 h
  obtain ⟨returned, hreturned, h⟩ := bind_eq_ok.1 h
  obtain ⟨timeField, htime, h⟩ := bind_eq_ok.1 h
  obtain ⟨timestamp, htimestamp, h⟩ := bind_eq_ok.1 h
  obtain ⟨-, h⟩ := require_bind_eq_ok.1 h
  cases h
  exact ⟨(field_eq_ok hround).trans (safeRound_eq_ok hreturned).1,
    (field_eq_ok htime).trans (safeRound_eq_ok htimestamp).1⟩

/-- A lookup that finds the transaction shows it. -/
theorem lookupAssetTransfer_eq_some {id : JsString} {purpose : IndexerRequestPurpose}
    {answer : Answer} {t : IndexedAssetTransfer}
    (h : lookupAssetTransfer id purpose answer = .ok (some t)) :
    ∃ body item, answer = .body body ∧ body.get? "transaction" = some item ∧
      ShowsTransfer item t ∧ t.transaction = id := by
  unfold lookupAssetTransfer receivedOrAbsent at h
  split at h
  · cases h
  · cases hreceived : received purpose none (parseLookup id) answer with
    | error e =>
        rw [hreceived] at h
        cases h
    | ok t' =>
        rw [hreceived] at h
        cases h
        obtain ⟨body, rfl, hparse⟩ := received_eq_ok hreceived
        obtain ⟨item, hitem, hparse⟩ := bind_eq_ok.1 hparse
        obtain ⟨parsed, hparsed, hparse⟩ := bind_eq_ok.1 hparse
        obtain ⟨hid, hparse⟩ := require_bind_eq_ok.1 hparse
        cases hparse
        exact ⟨body, item, rfl, field_eq_ok hitem, parseDirectAssetTransfer_ok hparsed,
          eq_of_beq hid⟩

theorem parseTransactionSearchItem_eq_ok {id : JsString} {item : Json} {index : ℕ}
    {t : IndexedAssetTransfer} (h : parseTransactionSearchItem id item index = .ok t) :
    ShowsTransfer item t ∧ t.transaction = id := by
  obtain ⟨parsed, hparsed, h⟩ := bind_eq_ok.1 h
  obtain ⟨hid, h⟩ := require_bind_eq_ok.1 h
  cases h
  exact ⟨parseDirectAssetTransfer_ok hparsed, eq_of_beq hid⟩

/-- What a page of a transaction search shows. -/
theorem parseTransactionPage_eq_ok {id : JsString} {body : Json} {page : TransactionIdPage}
    (h : parseTransactionPage id body = .ok page) :
    (∃ items, body.get? "transactions" = some (.arr items) ∧
      (∀ t ∈ page.transactions, ∃ item ∈ items, ShowsTransfer item t ∧ t.transaction = id) ∧
      ∀ item ∈ items, ∃ t ∈ page.transactions, ShowsTransfer item t ∧ t.transaction = id) ∧
    body.get? "current-round" = some (.num page.currentRound) ∧
      nextTokenOf body = page.nextToken := by
  obtain ⟨items, hitems, h⟩ := bind_eq_ok.1 h
  obtain ⟨parsed, hparsed, h⟩ := bind_eq_ok.1 h
  obtain ⟨current, hcurrent, h⟩ := bind_eq_ok.1 h
  obtain ⟨currentRound, hround, h⟩ := bind_eq_ok.1 h
  obtain ⟨nextToken, htoken, h⟩ := bind_eq_ok.1 h
  cases h
  have hall := mapM_eq_ok hparsed
  refine ⟨⟨items, requiredBoundedArray_eq_ok hitems, ?_, ?_⟩, ?_, optionalToken_eq_ok htoken⟩
  · intro t ht
    obtain ⟨item, hitem, hparse⟩ := Table.exists_of_forall₂_right hall ht
    exact ⟨item.1, (List.mem_zipIdx' hitem).2 ▸ List.getElem_mem ..,
      parseTransactionSearchItem_eq_ok hparse⟩
  · intro item hitem
    obtain ⟨i, hi⟩ := List.mem_iff_getElem?.1 hitem
    have hmem : (item, i) ∈ items.zipIdx := List.mem_zipIdx_iff_getElem?.2 hi
    obtain ⟨t, ht, hparse⟩ := Table.exists_of_forall₂_left hall hmem
    exact ⟨t, ht, parseTransactionSearchItem_eq_ok hparse⟩
  · rw [field_eq_ok hcurrent]
    exact (safeRound_eq_ok hround).1

theorem parseScan_eq_ok {variant : ScanQueryVariant} {watch : WatchTerms} {query : ScanQuery}
    {body : Json} {page : TransactionPage} (h : parseScan variant watch query body = .ok page) :
    PageReadFrom body query.minRound query.maxRound page := by
  obtain ⟨plan, -, h⟩ := bind_eq_ok.1 h
  exact parseWatchPage_eq_ok h

end RoundWatch
