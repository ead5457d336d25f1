import RoundWatch.Foundation.JsonPointer
import Mathlib.Data.List.Dedup
import Mathlib.Data.List.Sort

/-!
# Normalizing a catalog snapshot

`normalize.ts` of the offline observatory: a saved discovery catalog becomes a report of
what its records say, each value with the JSON pointer of its place.

* `pointer`, `fields`, `unknownFields`, `boundedDescription` — values with their places;
* `offer`, `normalizeItem` — a payment offer and a record;
* `envelope`, `normalizeSnapshot` — the list of records, and the report.

A document has numbers of any type `ν`; all the code does with them is compare two.
-/

namespace RoundWatch.Catalog

open JsText

/-! ## The report -/

inductive Diagnostic where
  | validNonEmpty
  | validEmpty
  | unsupportedEnvelope
  | malformedPayload
  deriving DecidableEq, Repr

structure LocatedValue where
  locator : JsString
  value : JsString
  deriving DecidableEq

inductive InterpretedNetwork where
  | mainnet
  | testnet
  deriving DecidableEq, Repr

/-- `PaymentOfferV1`. -/
structure PaymentOffer where
  locator : JsString
  scheme : Option JsString
  rawNetwork : Option JsString
  interpretedNetwork : Option InterpretedNetwork
  asset : Option JsString
  assetLocator : Option JsString
  atomicAmount : Option JsString
  payee : Option JsString
  warnings : List JsString
  unknownFields : List JsString
  deriving DecidableEq

/-- `ObservedServiceV1`. -/
structure ObservedService where
  schemaVersion : ℕ
  artifactId : JsString
  locator : JsString
  sourceRecordId : Option JsString
  resourceIdentifiers : List LocatedValue
  httpMethod : Option JsString
  mcpTool : Option JsString
  descriptions : List LocatedValue
  sourceTimestamps : List LocatedValue
  paymentOffers : List PaymentOffer
  warnings : List JsString
  unknownFields : List JsString
  deriving DecidableEq

/-- `SourceArtifactV1`. -/
structure SourceArtifact where
  schemaVersion : ℕ
  artifactId : JsString
  sha256 : JsString
  captureTimestamp : Option JsString
  sourceDescription : Option JsString
  sourceUrl : Option JsString
  warnings : List JsString
  deriving DecidableEq

/-- `ObservatoryReportV1`. -/
structure ObservatoryReport where
  schemaVersion : ℕ
  parserVersion : JsString
  diagnostic : Diagnostic
  sourceArtifact : SourceArtifact
  envelopeLocator : Option JsString
  records : List ObservedService
  warnings : List JsString
  deriving DecidableEq

/-! ## Values and their places -/

/-- The fields of an object, as `record` tells one from other values. -/
abbrev JsonRecord (ν : Type) := List (JsString × JsonDoc ν)

variable {ν : Type}

def record : JsonDoc ν → Option (JsonRecord ν)
  | .obj fields => some fields
  | _ => none

/-- `holder?.key`. -/
def at? (holder : Option (JsonRecord ν)) (key : String) : Option (JsonDoc ν) :=
  holder.bind fun fields => JsonPointer.lookup fields (js key)

/-- `typeof value === 'string' ? value : null`. -/
def string? : Option (JsonDoc ν) → Option JsString
  | some (.str s) => some s
  | _ => none

/-- `typeof value === 'string'`. -/
def isString (value : JsonDoc ν) : Bool := (string? (some value)).isSome

/-- `!Array.isArray(value)` is its negation. -/
def array? : Option (JsonDoc ν) → Option (List (JsonDoc ν))
  | some (.arr items) => some items
  | _ => none

/-- `===` of values at two places of a document: no two of its objects are one. -/
def strictlyEqual [BEq ν] : JsonDoc ν → JsonDoc ν → Bool
  | .null, .null => true
  | .bool a, .bool b => a == b
  | .num a, .num b => a == b
  | .str a, .str b => a == b
  | _, _ => false

/-- `value.replace(/u/g, substitute)`. -/
def replaceAll (u : UInt16) (substitute value : JsString) : JsString :=
  value.flatMap fun v => if v = u then substitute else [v]

def pointer (base key : JsString) : JsString :=
  base ++ js "/" ++ replaceAll 47 (js "~1") (replaceAll 126 (js "~0") key)

/-- `pointer` of a key the source spells out. -/
def pointerTo (base : JsString) (key : String) : JsString := pointer base (js key)

/-- `pointer` of an index. -/
def pointerAt (base : JsString) (index : ℕ) : JsString := pointer base (decimal index)

def stringAt (value : Option (JsonDoc ν)) (locator : JsString) : Option LocatedValue :=
  (string? value).map fun s => ⟨locator, s⟩

def fields (value : JsonRecord ν) (base : JsString) (keys : List String) : List LocatedValue :=
  keys.filterMap fun key => stringAt (at? (some value) key) (pointerTo base key)

/-- `Object.keys`; an object has each of its keys once. -/
def keysOf (value : JsonRecord ν) : List JsString := (value.map Prod.fst).dedup

def unknownFields (value : JsonRecord ν) (base : JsString) (known : List String) : List JsString :=
  (((keysOf value).filter fun key => key ∉ known.map js).insertionSort (· ≤ ·)).map (pointer base)

/-- A line that is pushed on `warnings` under a condition. -/
def warn (condition : Bool) (line : JsString) : List JsString := if condition then [line] else []

def descriptionLimit : ℕ := 500

/-- `boundedDescription`, with the warnings it pushes. -/
def boundedDescription (value : Option (JsonDoc ν)) (locator : JsString) :
    Option LocatedValue × List JsString :=
  match string? value with
  | none => (none, [])
  | some s =>
      (some ⟨locator, s.take descriptionLimit⟩,
        warn (descriptionLimit < s.length)
          (locator ++ js ": description truncated to 500 characters"))

/-! ## Offers -/

def mainnet : JsString := js "algorand:wGHE2Pwdvd7S12BL5FaOP20EGYesN73ktiC1qzkkit8="

def testnet : JsString := js "algorand:SGO1GKSzyE7IEPItTxCByw9x8FmnrCDexi9/cOUJOiI="

/-- `/^(0|[1-9][0-9]*)$/`. -/
def isAtomicAmount : JsString → Bool
  | [] => false
  | u :: rest =>
      (u == 48 && rest.isEmpty) ||
        (49 ≤ u && u ≤ 57 && rest.all fun v => 48 ≤ v && v ≤ 57)

def interpretNetwork (network : JsString) : Option InterpretedNetwork :=
  if network = mainnet then some .mainnet
  else if network = testnet then some .testnet
  else none

/-- The keys of an offer that hold strings. -/
def offerStrings : List String := ["scheme", "network", "asset", "payTo"]

def offerKeys : List String := ["scheme", "network", "asset", "amount", "payTo", "extra"]

def offer (value : JsonDoc ν) (locator : JsString) : PaymentOffer :=
  let entry := record value
  let scheme := string? (at? entry "scheme")
  let rawNetwork := string? (at? entry "network")
  let extra := (at? entry "extra").bind record
  let directAsset := string? (at? entry "asset")
  let extraAsset := string? (at? extra "asset")
  let amount := at? entry "amount"
  let atomicAmount := (string? amount).filter isAtomicAmount
  let interpretedNetwork := rawNetwork.bind interpretNetwork
  { locator := locator
    scheme := scheme
    rawNetwork := rawNetwork
    interpretedNetwork := interpretedNetwork
    asset := directAsset.or extraAsset
    assetLocator :=
      if directAsset.isSome then some (pointerTo locator "asset")
      else if extraAsset.isSome then some (pointerTo (pointerTo locator "extra") "asset")
      else none
    atomicAmount := atomicAmount
    payee := string? (at? entry "payTo")
    warnings :=
      warn entry.isNone (locator ++ js ": offer is not an object") ++
      warn (directAsset.isSome && extraAsset.isSome && directAsset != extraAsset)
        (locator ++ js ": conflicting asset fields preserved in source artifact") ++
      warn (amount.isSome && atomicAmount.isNone)
        (pointerTo locator "amount" ++
          js ": expected a non-negative integer string; numeric JSON is not accepted") ++
      warn (rawNetwork.isSome && interpretedNetwork.isNone)
        (pointerTo locator "network" ++ js ": unrecognized network") ++
      offerStrings.flatMap fun key =>
        warn ((at? entry key).any fun value => !isString value)
          (pointerTo locator key ++ js ": expected string")
    unknownFields :=
      match entry with
      | none => []
      | some entry =>
          unknownFields entry locator offerKeys ++
            match extra with
            | none => []
            | some extra => unknownFields extra (pointerTo locator "extra") ["asset"] }

/-! ## Records -/

/-- The keys of a record that are interpreted. -/
def itemKeys : List String :=
  ["id", "resourceUrl", "resource", "url", "metadata", "resourceInfo", "description", "method",
    "mcp", "extensions", "accepts", "firstSeen", "lastSeen", "createdAt", "updatedAt",
    "observedAt"]

def timestampKeys : List String :=
  ["firstSeen", "lastSeen", "createdAt", "updatedAt", "observedAt"]

/-- The strings of a holder that may be missing. -/
def fieldsOf (holder : Option (JsonRecord ν)) (base : JsString) (keys : List String) :
    List LocatedValue :=
  match holder with
  | none => []
  | some value => fields value base keys

/-- The description of a holder that may be missing. -/
def describe (holder : Option (JsonRecord ν)) (base : JsString) :
    Option LocatedValue × List JsString :=
  match holder with
  | none => (none, [])
  | some value => boundedDescription (at? (some value) "description") (pointerTo base "description")

def normalizeItem [BEq ν] (value : JsonDoc ν) (locator artifactId : JsString) :
    ObservedService :=
  let item := record value
  let resource := (at? item "resource").bind record
  let metadata := (at? item "metadata").bind record
  let metadataResource := (at? metadata "resource").bind record
  let identifiers :=
    fieldsOf item locator ["resourceUrl", "resource", "url"] ++
    fieldsOf resource (pointerTo locator "resource") ["url"] ++
    fieldsOf metadata (pointerTo locator "metadata") ["resource", "url"] ++
    fieldsOf metadataResource (pointerTo (pointerTo locator "metadata") "resource") ["url"]
  let resourceInfo := (at? item "resourceInfo").bind record
  let described :=
    [describe item locator,
      describe resource (pointerTo locator "resource"),
      describe metadata (pointerTo locator "metadata"),
      describe resourceInfo (pointerTo locator "resourceInfo")]
  let extensions := (at? item "extensions").bind record
  let bazaar := (at? extensions "bazaar").bind record
  let info := (at? bazaar "info").bind record
  let input := (at? info "input").bind record
  let inputMethod := at? input "method"
  let itemMethod := at? item "method"
  let mcp := (at? item "mcp").bind record
  let accepts := at? item "accepts"
  let sourceTimestamps := fieldsOf item locator timestampKeys
  { schemaVersion := 1
    artifactId := artifactId
    locator := locator
    sourceRecordId := string? (at? item "id")
    resourceIdentifiers := identifiers
    httpMethod := (string? inputMethod).or (string? itemMethod)
    mcpTool := string? (at? mcp "tool")
    descriptions := described.filterMap Prod.fst
    sourceTimestamps := sourceTimestamps
    paymentOffers :=
      ((array? accepts).getD []).mapIdx fun index entry =>
        offer entry (pointerAt (pointerTo locator "accepts") index)
    warnings :=
      warn item.isNone (locator ++ js ": discovery item is not an object") ++
      warn (1 < ((identifiers.map LocatedValue.value).dedup).length)
        (locator ++ js ": conflicting resource identifiers preserved separately") ++
      described.flatMap Prod.snd ++
      warn (inputMethod.any fun a => itemMethod.any fun b => !strictlyEqual a b)
        (locator ++ js ": conflicting HTTP methods preserved in source artifact") ++
      warn (accepts.isSome && (array? accepts).isNone)
        (pointerTo locator "accepts" ++ js ": expected an array") ++
      warn (1 < sourceTimestamps.length)
        (locator ++ js ": source timestamps preserved without reconciliation")
    unknownFields :=
      match item with
      | none => []
      | some item => unknownFields item locator itemKeys }

/-! ## The envelope -/

/-- A place the list may stand at. -/
structure Candidate (ν : Type) where
  value : Option (JsonDoc ν)
  locator : JsString

/-- `key in holder`: a key of a parsed object has a value. -/
def Candidate.present (candidate : Candidate ν) : Bool := candidate.value.isSome

def envelopeKeys : List String := ["resources", "items"]

/-- The candidates of a holder. -/
def candidatesOf (holder : Option (JsonRecord ν)) (base : JsString) : List (Candidate ν) :=
  match holder with
  | none => []
  | some value => envelopeKeys.map fun key => ⟨at? (some value) key, pointerTo base key⟩

def candidates (root : JsonRecord ν) : List (Candidate ν) :=
  let data := (at? (some root) "data").bind record
  let result := (at? (some root) "result").bind record
  candidatesOf (some root) [] ++ candidatesOf data (js "/data") ++
    candidatesOf result (js "/result") ++
    candidatesOf ((at? result "data").bind record) (js "/result/data")

/-- The list of records and its pointer. -/
structure Found (ν : Type) where
  items : List (JsonDoc ν)
  locator : JsString

def envelope (payload : JsonDoc ν) : Except Diagnostic (Found ν) :=
  match record payload with
  | none => .error .unsupportedEnvelope
  | some root =>
      let present := (candidates root).filter Candidate.present
      if present = [] then .error .unsupportedEnvelope
      else if present.any fun candidate => (array? candidate.value).isNone then
        .error .malformedPayload
      else
        -- ambiguous envelopes are rejected
        match present with
        | [candidate] => .ok ⟨(array? candidate.value).getD [], candidate.locator⟩
        | _ => .error .malformedPayload

/-- What a snapshot is read with. -/
structure SnapshotReader (ν : Type) where
  /-- The hexadecimal digest of the bytes. -/
  sha256 : List UInt8 → JsString
  /-- The fatal UTF-8 decoder, then `JSON.parse`; `none` when one of them throws. -/
  parse : List UInt8 → Option (JsonDoc ν)

/-- The `try` of `normalizeSnapshot`: the diagnostic, the list of records if it is one of
objects, and the warnings. -/
def diagnose (payload : Option (JsonDoc ν)) : Diagnostic × Option (Found ν) × List JsString :=
  match payload with
  | none => (.malformedPayload, none, [js "invalid JSON"])
  | some payload =>
      match envelope payload with
      | .error diagnostic => (diagnostic, none, [])
      | .ok parsed =>
          match parsed.items.findIdx? fun item => (record item).isNone with
          | some invalidIndex =>
              (.malformedPayload, none,
                [pointerAt parsed.locator invalidIndex ++ js ": discovery item is not an object"])
          | none => (if parsed.items = [] then .validEmpty else .validNonEmpty, some parsed, [])

def normalizeSnapshot [BEq ν] (reader : SnapshotReader ν) (bytes : List UInt8) :
    ObservatoryReport :=
  let sha256 := reader.sha256 bytes
  let artifactId := js "sha256-" ++ sha256
  let payload := reader.parse bytes
  let (diagnostic, found, warnings) := diagnose payload
  let root := payload.bind record
  let source := (at? root "source").bind record
  let rawDescription :=
    (string? (at? root "sourceDescription")).or (string? (at? source "description"))
  let warnings := warnings ++
    warn (rawDescription.any fun s => descriptionLimit < s.length)
      (js "source description truncated to 500 characters")
  { schemaVersion := 1
    parserVersion := js "observatory-parser-v1"
    diagnostic := diagnostic
    sourceArtifact :=
      { schemaVersion := 1
        artifactId := artifactId
        sha256 := sha256
        captureTimestamp :=
          (string? (at? root "capturedAt")).or (string? (at? source "capturedAt"))
        sourceDescription := rawDescription.map (·.take descriptionLimit)
        sourceUrl := (string? (at? root "sourceUrl")).or (string? (at? source "url"))
        warnings := warnings }
    envelopeLocator := found.map Found.locator
    records :=
      match found with
      | none => []
      | some found =>
          found.items.mapIdx fun index item =>
            normalizeItem item (pointerAt found.locator index) artifactId
    warnings := warnings }

end RoundWatch.Catalog
