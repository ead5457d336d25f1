import RoundWatch.App.McpTools
import RoundWatch.App.RequestBody
import RoundWatch.Client.Recovery
import RoundWatch.Foundation.IsoTexts

/-!
# The MCP endpoint

`handleMcpHttpRequest`: one JSON-RPC message over HTTP, from a client of one of two eras.  A
modern client names its protocol version, its method and its tool in headers and in the
message, so that a proxy can route what the server then does.

* `McpRequest`, `McpResponse` — what comes in and what goes out;
* `readEnvelope` — the message, or an invalid request;
* `validateProtocolSignals`, `validateModernHeaders` — the era, and what the headers say;
* `callTool`, `callMethod` — the methods;
* `handleMcpHttpRequest` — all of it.
-/

namespace RoundWatch

open JsText Checks Mcp

namespace Mcp

def modernProtocolVersion : JsString := js "2026-07-28"

def legacyProtocolVersions : List JsString := [js "2025-11-25", js "2025-06-18"]

def supportedProtocolVersions : List JsString := modernProtocolVersion :: legacyProtocolVersions

def toolListTtlMs : ℤ := 300000

def maxJsonRpcIdBytes : ℕ := 128

def maxMcpMethodBytes : ℕ := 128

def maxMcpToolNameBytes : ℕ := 128

/-- `io.modelcontextprotocol/protocolVersion`. -/
def protocolMetaKey : String := "io.modelcontextprotocol/protocolVersion"

def capabilitiesMetaKey : String := "io.modelcontextprotocol/clientCapabilities"

/-- `asObject`. -/
def asObject : Option Json → Option (List (JsString × Json))
  | some (.obj fields) => some fields
  | _ => none

end Mcp

/-! ## Messages -/

structure McpHeaders where
  /-- `mcp-protocol-version`. -/
  protocolVersion : Option JsString
  /-- `mcp-method`. -/
  method : Option JsString
  /-- `mcp-name`. -/
  name : Option JsString

structure McpRequest where
  method : JsString
  headers : McpHeaders
  /-- What `readJsonBodyWithLimit` makes of the body. -/
  body : Except BodyError Json

inductive JsonRpcId where
  | text (s : JsString)
  | number (n : ℤ)
  deriving DecidableEq

def JsonRpcId.doc : JsonRpcId → JsonDoc ℤ
  | .text s => .str s
  | .number n => .num n

structure JsonRpcError where
  code : ℤ
  message : JsString
  data : Option (JsonDoc ℤ)

inductive JsonRpcPayload where
  | result (doc : JsonDoc ℤ)
  | error (e : JsonRpcError)

inductive McpResponse where
  /-- The endpoint takes nothing but `POST`. -/
  | methodNotAllowed
  /-- An answer without a body. -/
  | bodyless (status : ℕ)
  | rpc (status : ℕ) (id : Option JsonRpcId) (payload : JsonRpcPayload)

/-- A message that is one. -/
structure Envelope where
  /-- Notifications have none. -/
  id : Option JsonRpcId
  method : JsString
  message : List (JsString × Json)

/-- `isValidRequestId`. -/
def readRequestId : Json → Option JsonRpcId
  | .str s => if s ≠ [] ∧ utf8ByteLength s ≤ maxJsonRpcIdBytes then some (.text s) else none
  | .num n => if Json.isSafeInteger n then some (.number n) else none
  | _ => none

/-- The method of a message. -/
def readMethod (message : List (JsString × Json)) : Option JsString :=
  match Json.lookup message (js "method") with
  | some (.str method) =>
      if method ≠ [] ∧ utf8ByteLength method ≤ maxMcpMethodBytes then some method else none
  | _ => none

/-- The checks of the message itself. -/
def readEnvelope (message : List (JsString × Json)) : Option Envelope :=
  if stringField (.obj message) "jsonrpc" ≠ some (js "2.0") then none
  else
    (readMethod message).bind fun method =>
      match Json.lookup message (js "id") with
      | none => some ⟨none, method, message⟩
      | some value => (readRequestId value).map fun id => ⟨some id, method, message⟩

namespace Envelope

/-- `asObject(message.params)`. -/
def params (e : Envelope) : Option (List (JsString × Json)) :=
  asObject (Json.lookup e.message (js "params"))

/-- `asObject(params?._meta)`. -/
def metaFields (e : Envelope) : Option (List (JsString × Json)) :=
  asObject (e.params.bind fun params => Json.lookup params (js "_meta"))

/-- The version in `params._meta`. -/
def metaVersion (e : Envelope) : Option Json :=
  e.metaFields.bind fun fields => Json.lookup fields (js protocolMetaKey)

/-- `params.protocolVersion`. -/
def requestedVersion (e : Envelope) : Option Json :=
  e.params.bind fun params => Json.lookup params (js "protocolVersion")

/-- `params.name`, if it is a string. -/
def toolName (e : Envelope) : Option JsString :=
  e.params.bind fun params => stringField (.obj params) "name"

end Envelope

/-! ## The era -/

/-- A request that is refused with a code of its own. -/
def refusal (code : ℤ) (message : String) : JsonRpcError := ⟨code, js message, none⟩

def protocolInvalidParams (message : String) : JsonRpcError := refusal (-32602) message

def protocolHeaderMismatch (message : String) : JsonRpcError := refusal (-32020) message

def unsupportedProtocolVersion (requested : JsString) : JsonRpcError where
  code := -32022
  message := js "Unsupported protocol version"
  data := some <| object
    [("supported", .arr (supportedProtocolVersions.map .str)), ("requested", .str requested)]

def unsupportedInitialize : JsonRpcError :=
  refusal (-32602)
    "Unsupported initialize protocolVersion. Supported legacy versions: 2025-11-25, 2025-06-18"

/-- The version in `params._meta`: absent, supported, or refused. -/
def checkMetaVersion : Option Json → Except JsonRpcError (Option JsString)
  | none => .ok none
  | some (.str version) =>
      if version = [] then
        .error (protocolInvalidParams "params._meta.io.modelcontextprotocol/protocolVersion must be a non-empty string")
      else if version ∈ supportedProtocolVersions then .ok (some version)
      else .error (unsupportedProtocolVersion version)
  | some _ =>
      .error (protocolInvalidParams "params._meta.io.modelcontextprotocol/protocolVersion must be a non-empty string")

/-- The version that `initialize` asks for, beside those of the header and `_meta`. -/
def checkInitialize (header version : Option JsString) (e : Envelope) :
    Except JsonRpcError Unit :=
  if e.params = none then .error (protocolInvalidParams "initialize params must be an object")
  else
    match e.requestedVersion with
    | some (.str requested) =>
        if requested = [] then
          .error (protocolInvalidParams "initialize protocolVersion must be a non-empty string")
        else if header.any (· ≠ requested) then
          .error (protocolHeaderMismatch
            "MCP-Protocol-Version must match initialize params.protocolVersion")
        else if version.any (· ≠ requested) then
          .error (protocolHeaderMismatch
            "params._meta protocolVersion must match initialize params.protocolVersion")
        -- The modern era has no handshake.
        else if requested = modernProtocolVersion then
          .error (protocolInvalidParams
            "initialize is only valid for supported legacy protocol versions")
        else if requested ∈ legacyProtocolVersions then .ok ()
        else .error unsupportedInitialize
    | _ => .error (protocolInvalidParams "initialize protocolVersion must be a non-empty string")

/-- Whether a request is a modern one. -/
def isModern (header version : Option JsString) (method : JsString) : Bool :=
  method = js "server/discover" || header = some modernProtocolVersion ||
    version = some modernProtocolVersion

/-- `validateProtocolSignals`: whether the request is a modern one, if its signals agree. -/
def validateProtocolSignals (header : Option JsString) (e : Envelope) :
    Except JsonRpcError Bool :=
  if Json.lookup e.message (js "params") ≠ none ∧ e.params = none then
    .error (protocolInvalidParams "MCP request params must be an object")
  else if e.params.any (fun params => (Json.lookup params (js "_meta")).isSome) ∧
      e.metaFields = none then
    .error (protocolInvalidParams "params._meta must be an object")
  else if let some version := header.filter (· ∉ supportedProtocolVersions) then
    .error (unsupportedProtocolVersion version)
  else
    match checkMetaVersion e.metaVersion with
    | .error error => .error error
    | .ok version =>
        if header.any fun h => version.any (h ≠ ·) then
          .error (protocolHeaderMismatch "MCP protocol-version signals disagree")
        else if e.method = js "initialize" then
          (checkInitialize header version e).map fun _ => false
        else if isModern header version e.method ∧
            (header.any (· ≠ modernProtocolVersion) ∨ version.any (· ≠ modernProtocolVersion)) then
          .error (protocolHeaderMismatch
            "Modern MCP requests must use one consistent modern protocol version")
        else .ok (isModern header version e.method)

/-- `validateModernHeaders`: what is wrong with the headers of a modern request. -/
def validateModernHeaders (headers : McpHeaders) (e : Envelope) : Option String :=
  if headers.protocolVersion ≠ some modernProtocolVersion then
    some "MCP-Protocol-Version must be 2026-07-28"
  else if headers.method ≠ some e.method then
    some "Mcp-Method header must match the JSON-RPC method"
  else
    match e.metaFields with
    | none => some "Modern MCP requests require object params._meta"
    | some fields =>
        if stringField (.obj fields) protocolMetaKey ≠ some modernProtocolVersion then
          some "params._meta.io.modelcontextprotocol/protocolVersion must be 2026-07-28"
        else if (Json.lookup fields (js capabilitiesMetaKey)).isSome ∧
            asObject (Json.lookup fields (js capabilitiesMetaKey)) = none then
          some "params._meta.io.modelcontextprotocol/clientCapabilities must be an object"
        else if e.method = js "tools/call" ∧
            (e.toolName = none ∨ e.toolName = some [] ∨ headers.name ≠ e.toolName) then
          some "Mcp-Name header must match tools/call params.name"
        else none

/-! ## What the tools answer with -/

/-- What the endpoint is given.  The time to live has been checked when the process began. -/
structure McpDependencies where
  isValidAlgorandAddress : JsString → Bool
  store : Store
  /-- `networkConfig.name`. -/
  networkName : JsString
  /-- `networkConfig.network`. -/
  network : JsString
  usdcAssetId : JsString
  publicBaseUrl : Option JsString
  serviceReceiver : JsString
  servicePriceUsd : JsString
  serviceAtomicAmount : JsString
  workUnitBudget : ℕ
  watchTtlMilliseconds : ℕ
  watchPath : JsString
  ttl_checked : 0 < watchTtlMilliseconds ∧ Json.isSafeInteger watchTtlMilliseconds = true

namespace McpDependencies

variable (deps : McpDependencies)

/-- `absoluteUrl`. -/
def absoluteUrl (path : JsString) : JsString := deps.publicBaseUrl.getD [] ++ path

/-- `buildWatchEligibilityContract`. -/
def eligibility : JsonDoc ℤ :=
  object
    [("ttlMs", .num deps.watchTtlMilliseconds),
      ("startsAt", str "durable_watch_preparation_before_x402_settlement"),
      ("settlementTimeConsumesEligibilityWindow", .bool true),
      ("roundBoundary", object
        [("field", str "confirmed-round"), ("operator", str ">"),
          ("reference", str "activationRound"), ("sameActivationRoundEligible", .bool false),
          ("example", str "If activationRound is 100, confirmed round 100 is ineligible and round 101 is the first eligible round.")]),
      ("timeBoundary", object
        [("field", str "round-time"), ("operator", str "<"), ("reference", str "expiresAt"),
          ("exactDeadlineEligible", .bool false), ("timestampPrecision", str "seconds"),
          ("example", str "A transaction whose block timestamp equals expiresAt is ineligible; the block timestamp must be strictly earlier.")])]

/-- `eligibilityBoundarySummary`. -/
def eligibilityBoundarySummary : JsString :=
  js "Eligibility lasts " ++ decimal deps.watchTtlMilliseconds ++
    js " ms from durable watch preparation before x402 settlement completes, so settlement time consumes the window. The watched payment must confirm in a round strictly greater than activationRound; a same-round payment is ineligible. Its Algorand block round-time must be strictly earlier than expiresAt; a payment exactly at the deadline is ineligible."

def recoverPath : JsString := deps.watchPath ++ js "/recover"

/-- `serviceInfo`. -/
def serviceInfo : JsonDoc ℤ :=
  object
    [("name", str "RoundWatch"),
      ("description", str "Durable monitoring for one exact future Algorand USDC payment when no transaction ID exists yet."),
      ("network", .str deps.networkName), ("caip2", .str deps.network),
      ("watchedAsset", object
        [("symbol", str "USDC"), ("asaId", .str deps.usdcAssetId), ("decimals", .num 6)]),
      ("createWatch", object
        [("method", str "POST"), ("url", .str (deps.absoluteUrl deps.watchPath)),
          ("paid", .bool true)]),
      ("recoverWatch", object
        [("method", str "POST"), ("url", .str (deps.absoluteUrl deps.recoverPath)),
          ("paid", .bool false), ("exactMatch", .bool true), ("requiresServicePayer", .bool true)]),
      ("getWatch", object
        [("method", str "GET"),
          ("urlTemplate", .str (deps.absoluteUrl (deps.watchPath ++ js "/\x7bid\x7d"))),
          ("paid", .bool false)]),
      ("x402", object
        [("version", .num 2), ("scheme", str "exact"),
          ("servicePriceUsd", .str deps.servicePriceUsd),
          ("servicePriceAtomicAmount", .str deps.serviceAtomicAmount),
          ("payTo", .str deps.serviceReceiver)]),
      ("eligibility", deps.eligibility), ("workUnitBudget", .num deps.workUnitBudget),
      ("docs", object
        [("product", str "https://roundwatch.observer/"),
          ("quickstart", str "https://roundwatch.observer/start"),
          ("technicalGuide", str "https://roundwatch.observer/algorand-payment-monitoring-api"),
          ("openapi", .str (deps.absoluteUrl (js "/openapi.json"))),
          ("llms", .str (deps.absoluteUrl (js "/llms.txt"))),
          ("github", str "https://github.com/Vladyslav-webDev/RoundWatch")]),
      ("limitations", .arr
        [str "RoundWatch is for future payments whose transaction ID does not exist yet.",
          str "Only top-level direct Algorand USDC asset transfers are eligible matches; inner, clawback, and asset close-out transfers are excluded.",
          .str deps.eligibilityBoundarySummary,
          str "New watch preparation requires a nonzero expectedSender; exact recovery deliberately accepts the original sender for legacy watches.",
          str "RoundWatch is not a webhook delivery service.",
          str "The MCP preparation tools do not sign or settle x402 payments.",
          str "If a paid create response is lost, use free exact recovery instead of paying again."])]

/-- A request for the client to make. -/
def preparedRequest (path : JsString) (body : JsonDoc ℤ) : JsonDoc ℤ :=
  object
    [("method", str "POST"), ("url", .str (deps.absoluteUrl path)),
      ("headers", object [("Content-Type", str "application/json")]), ("body", body)]

/-- What `roundwatch.prepare_watch` hands out. -/
def preparedWatch (body : JsonDoc ℤ) : JsonDoc ℤ :=
  object
    [("created", .bool false), ("paymentSettled", .bool false),
      ("purpose", str "Prepared request only. The caller must perform the x402 payment and retry the HTTP request directly."),
      ("request", deps.preparedRequest deps.watchPath body), ("eligibility", deps.eligibility),
      ("x402", object
        [("version", .num 2), ("scheme", str "exact"), ("network", .str deps.network),
          ("asset", .str deps.usdcAssetId), ("servicePriceUsd", .str deps.servicePriceUsd),
          ("servicePriceAtomicAmount", .str deps.serviceAtomicAmount),
          ("payTo", .str deps.serviceReceiver), ("challengeHeader", str "PAYMENT-REQUIRED"),
          ("paymentHeader", str "PAYMENT-SIGNATURE"),
          ("settlementHeader", str "PAYMENT-RESPONSE")]),
      ("nextSteps", .arr
        [str "POST the request without PAYMENT-SIGNATURE and read the HTTP 402 PAYMENT-REQUIRED challenge.",
          str "Sign the exact advertised x402 service payment with an Algorand-capable x402 client.",
          str "Retry the same POST with PAYMENT-SIGNATURE.",
          str "Persist the returned watchId and later call roundwatch.get_watch or GET the status endpoint."])]

/-- What `roundwatch.prepare_recovery` hands out. -/
def preparedRecovery (body : JsonDoc ℤ) : JsonDoc ℤ :=
  object
    [("recovered", .bool false), ("paid", .bool false),
      ("purpose", str "Prepared free exact recovery request only. Use this when a paid create may have succeeded but its response containing watchId was lost. Do not repay."),
      ("request", deps.preparedRequest deps.recoverPath body),
      ("nextSteps", .arr
        [str "POST this request without PAYMENT-SIGNATURE.",
          str "If HTTP 200, persist watch.id and use roundwatch.get_watch or GET the status endpoint.",
          str "If HTTP 409, inspect recovery.retryable and retry only the free recovery lookup when instructed.",
          str "Never repeat the paid create merely because the original response was lost."])]

end McpDependencies

namespace PreparedWatchArguments

/-- The fields of a prepared body. -/
def docFields (value : PreparedWatchArguments) : List (JsString × JsonDoc ℤ) :=
  [(js "idempotencyKey", .str value.idempotencyKey),
    (js "expectedSender", .str value.expectedSender),
    (js "expectedReceiver", .str value.expectedReceiver),
    (js "atomicAmount", .str value.atomicAmount)] ++
    (value.invoiceNote.map fun note => (js "invoiceNote", JsonDoc.str note)).toList

end PreparedWatchArguments

/-! ## Public watches -/

namespace PublicWatch

def text (value : Option SqlText) : Option (JsonDoc ℤ) := value.map fun t => .str t.val

def number (value : Option ℤ) : Option (JsonDoc ℤ) := value.map .num

/-- A time is an ISO 8601 text. -/
def time (value : Option ℤ) : Option (JsonDoc ℤ) := value.map fun t => .str (Dates.toIsoText t)

/-- The fields of `toPublicWatch` in the order of the record. -/
def docFields (watch : PublicWatch) : List (String × JsonDoc ℤ) :=
  [("id", .str watch.id.val), ("state", str watch.state.name),
    ("expectedSender", .str watch.expectedSender.val),
    ("expectedReceiver", .str watch.expectedReceiver.val), ("assetId", .num watch.assetId),
    ("atomicAmount", .str watch.atomicAmount.val)] ++
    optional "invoiceNote" (text watch.invoiceNote) ++
    optional "expectedServiceTransaction" (text watch.expectedServiceTransaction) ++
    optional "expectedServiceNetwork" (text watch.expectedServiceNetwork) ++
    optional "expectedServicePayer" (text watch.expectedServicePayer) ++
    optional "serviceTransaction" (text watch.serviceTransaction) ++
    optional "serviceNetwork" (text watch.serviceNetwork) ++
    optional "servicePayer" (text watch.servicePayer) ++
    optional "activationRound" (number watch.activationRound) ++
    optional "activatedAt" (time watch.activatedAt) ++
    optional "scanAfterRound" (number watch.scanAfterRound) ++
    [("createdAt", .str (Dates.toIsoText watch.createdAt))] ++
    optional "expiresAt" (time watch.expiresAt) ++
    optional "matchedTransaction" (text watch.matchedTransaction) ++
    optional "matchedRound" (number watch.matchedRound) ++
    [("settlementReconciliationTerminal", .bool watch.settlementReconciliationTerminal)] ++
    optional "workUnitBudget" (watch.workUnitBudget.map fun n => .num n) ++
    [("workUnitsUsed", .num watch.workUnitsUsed)] ++
    optional "terminalReason" (watch.terminalReason.map fun reason => str reason.name)

def doc (watch : PublicWatch) : JsonDoc ℤ := object watch.docFields

end PublicWatch

/-- What `encodeURIComponent` leaves alone. -/
def isUriUnreserved (b : UInt8) : Bool :=
  (48 ≤ b && b ≤ 57) || (65 ≤ b && b ≤ 90) || (97 ≤ b && b ≤ 122) ||
    b ∈ ([45, 95, 46, 33, 126, 42, 39, 40, 41] : List UInt8)

/-- A hexadecimal digit, in upper case. -/
def upperHex (d : ℕ) : UInt16 := if d < 10 then UInt16.ofNat (48 + d) else UInt16.ofNat (55 + d)

/-- `encodeURIComponent`, which throws on an unpaired surrogate. -/
def encodeURIComponent (s : JsString) : Option JsString :=
  if toWellFormed s = s then
    some <| (utf8Bytes s).flatMap fun b =>
      if isUriUnreserved b then [b.toUInt16]
      else [37, upperHex (b.toNat / 16), upperHex (b.toNat % 16)]
  else none

/-! ## Methods -/

namespace Mcp

def serverInfo : JsonDoc ℤ := object [("name", str "roundwatch"), ("version", str "1.0.0")]

/-- `modernResult`, with the server's own information. -/
def modernResult (fields : List (String × JsonDoc ℤ)) : List (String × JsonDoc ℤ) :=
  ("resultType", str "complete") :: fields ++
    [("_meta", object [("io.modelcontextprotocol/serverInfo", serverInfo)])]

/-- A result of the era of the request. -/
def resultOf (modern : Bool) (fields : List (String × JsonDoc ℤ)) : JsonDoc ℤ :=
  object (if modern then modernResult fields else fields)

/-- The status and the payload of an answer. -/
abbrev Reply := ℕ × JsonRpcPayload

def success (doc : JsonDoc ℤ) : Reply := (200, .result doc)

/-- `jsonRpcHttpError` with the status of a bad request. -/
def badRequest (e : JsonRpcError) : Reply := (400, .error e)

def textContent (text : JsString) : JsonDoc ℤ :=
  .arr [object [("type", str "text"), ("text", .str text)]]

/-- `toolSuccess`: the content as an indented text, and as it is. -/
def toolSuccess (structuredContent : JsonDoc ℤ) (modern : Bool) : Reply :=
  success <| resultOf modern
    [("content", textContent
        (JsonText.layOut JsonText.wholeNumbers (JsonText.indented 2) 0 structuredContent)),
      ("structuredContent", structuredContent), ("isError", .bool false)]

def toolError (message : JsString) (modern : Bool) : Reply :=
  success <| resultOf modern [("content", textContent message), ("isError", .bool true)]

end Mcp

section Methods

variable (deps : McpDependencies)

/-- `roundwatch.get_watch` on a watch that is there. -/
def shownWatch (watchId : JsString) (watch : WatchRow) : Option (JsonDoc ℤ) :=
  (encodeURIComponent watchId).map fun segment =>
    object
      [("watch", (publicWatch watch).doc),
        ("statusUrl", .str (deps.absoluteUrl (deps.watchPath ++ js "/" ++ segment)))]

/-- One tool with its arguments; `none` is a throw. -/
def callTool (name : JsString) (args : List (JsString × Json)) (modern : Bool) : Option Reply :=
  if name = js "roundwatch.service_info" then
    some <| match args with
      | [] => toolSuccess deps.serviceInfo modern
      | _ :: _ =>
          badRequest (refusal (-32602) "roundwatch.service_info does not accept arguments")
  else if name = js "roundwatch.prepare_watch" then
    some <| match validatePrepareArguments deps.isValidAlgorandAddress args with
      | .error e => toolError e.error modern
      | .ok value => toolSuccess (deps.preparedWatch (.obj value.docFields)) modern
  else if name = js "roundwatch.prepare_recovery" then
    some <| match validateRecoveryArguments deps.isValidAlgorandAddress args with
      | .error e => toolError e.error modern
      | .ok (value, servicePayer) =>
          toolSuccess (deps.preparedRecovery
            (.obj (value.docFields ++ [(js "servicePayer", .str servicePayer)]))) modern
  else if name = js "roundwatch.get_watch" then
    match getWatchArgument args with
    | .error message => some (badRequest (refusal (-32602) message))
    | .ok watchId =>
        match deps.store.getWatch watchId with
        | none => some (toolError (js "Watch not found") modern)
        | some watch =>
            (shownWatch deps watchId watch).map fun content => toolSuccess content modern
  else some (badRequest ⟨-32602, js "Unknown tool: " ++ name, none⟩)

/-- `tools/call`, up to the tool. -/
def callToolMethod (e : Envelope) (modern : Bool) : Option Reply :=
  match e.toolName with
  | none => some (badRequest (refusal (-32602) "Invalid tools/call params"))
  | some name =>
      if maxMcpToolNameBytes < utf8ByteLength name then
        some (badRequest (refusal (-32602) "Invalid tools/call params"))
      else
        match e.params.bind fun params => Json.lookup params (js "arguments") with
        | none => callTool deps name [] modern
        | some (.obj args) => callTool deps name args modern
        | some _ =>
            some (badRequest (refusal (-32602) "tools/call arguments must be an object"))

def discoverInstructions : String :=
  "RoundWatch monitors one exact future Algorand USDC payment when no transaction ID exists yet. Use service_info to inspect the contract, prepare_watch to validate and prepare the paid HTTP request, prepare_recovery to prepare the free exact recovery request if a paid response was lost, and get_watch to retrieve durable status. Preparation tools never sign or settle payments."

/-- `server/discover`, a method of the modern era only. -/
def discovered : JsonDoc ℤ :=
  resultOf true
    [("supportedVersions", .arr [.str modernProtocolVersion]),
      ("capabilities", object [("tools", object [])]), ("instructions", str discoverInstructions),
      ("ttlMs", .num toolListTtlMs), ("cacheScope", str "public")]

/-- `initialize`. -/
def initialized (requested : JsString) : JsonDoc ℤ :=
  object
    [("protocolVersion", .str requested), ("capabilities", object [("tools", object [])]),
      ("serverInfo", serverInfo),
      ("instructions", str "RoundWatch monitors one exact future Algorand USDC payment when no transaction ID exists yet.")]

/-- `tools/list`. -/
def listedTools (modern : Bool) : JsonDoc ℤ :=
  resultOf modern <|
    [("tools", .arr (tools.map McpTool.doc))] ++
      if modern then [("ttlMs", .num toolListTtlMs), ("cacheScope", str "public")] else []

/-- The method of a request; `none` is a throw. -/
def callMethod (e : Envelope) (modern : Bool) : Option Reply :=
  if e.method = js "server/discover" then some (success discovered)
  else if e.method = js "initialize" then
    some <| match e.requestedVersion with
      | some (.str requested) =>
          if requested ∈ legacyProtocolVersions then success (initialized requested)
          else badRequest unsupportedInitialize
      | _ => badRequest unsupportedInitialize
  else if e.method = js "ping" then some (success (resultOf modern []))
  else if e.method = js "tools/list" then some (success (listedTools modern))
  else if e.method = js "tools/call" then callToolMethod deps e modern
  else some (404, .error ⟨-32601, js "Method not found: " ++ e.method, none⟩)

end Methods

/-! ## The endpoint -/

/-- A message that is refused: a notification gets no body. -/
def Envelope.refused (e : Envelope) (error : JsonRpcError) : McpResponse :=
  match e.id with
  | none => .bodyless 400
  | some id => .rpc 400 (some id) (.error error)

/-- The answer to a message. -/
def answerEnvelope (deps : McpDependencies) (headers : McpHeaders) (e : Envelope) :
    Option McpResponse :=
  match validateProtocolSignals headers.protocolVersion e with
  | .error error => some (e.refused error)
  | .ok modern =>
      match if modern then validateModernHeaders headers e else none with
      | some headerError => some (e.refused (protocolHeaderMismatch headerError))
      | none =>
          match e.id with
          | none =>
              -- What a notification asks for is not done, only acknowledged.
              some (.bodyless
                (if e.method = js "initialize" ∨ e.method = js "server/discover" then 400
                else 202))
          | some id =>
              (callMethod deps e modern).map fun reply => .rpc reply.1 (some id) reply.2

/-- An answer to something that is no message. -/
def unreadable (status : ℕ) (code : ℤ) (message : String) : McpResponse :=
  .rpc status none (.error (refusal code message))

/-- `handleMcpHttpRequest`; `none` is a throw. -/
def handleMcpHttpRequest (deps : McpDependencies) (request : McpRequest) : Option McpResponse :=
  if request.method ≠ js "POST" then some .methodNotAllowed
  else
    match request.body with
    | .error (.tooLarge _) => some (unreadable 413 (-32021) "MCP request body is too large")
    | .error _ => some (unreadable 400 (-32700) "Parse error")
    | .ok body =>
        match (asObject (some body)).bind readEnvelope with
        | none => some (unreadable 400 (-32600) "Invalid Request")
        | some e => answerEnvelope deps request.headers e

/-! ## Responses -/

namespace McpResponse

def status : McpResponse → ℕ
  | .methodNotAllowed => 405
  | .bodyless status => status
  | .rpc status _ _ => status

/-- `content-type`, `cache-control` and `allow`, where they are set. -/
def headers : McpResponse → List (String × String)
  | .methodNotAllowed =>
      [("allow", "POST, OPTIONS"), ("content-type", "text/plain; charset=utf-8")]
  | .bodyless _ => [("cache-control", "no-store")]
  | .rpc .. =>
      [("content-type", "application/json; charset=utf-8"), ("cache-control", "no-store")]

end McpResponse

def JsonRpcError.doc (e : JsonRpcError) : JsonDoc ℤ :=
  object <| [("code", .num e.code), ("message", .str e.message)] ++ optional "data" e.data

def JsonRpcPayload.field : JsonRpcPayload → String × JsonDoc ℤ
  | .result doc => ("result", doc)
  | .error e => ("error", e.doc)

/-- The document of a JSON-RPC answer. -/
def answerDoc (id : Option JsonRpcId) (payload : JsonRpcPayload) : JsonDoc ℤ :=
  object
    [("jsonrpc", str "2.0"), ("id", (id.map JsonRpcId.doc).getD .null), payload.field]

/-- The body on the wire. -/
def McpResponse.body : McpResponse → Option JsString
  | .methodNotAllowed => some (js "Method not allowed")
  | .bodyless _ => none
  | .rpc _ id payload =>
      some (JsonText.stringify JsonText.wholeNumbers (answerDoc id payload))

end RoundWatch
