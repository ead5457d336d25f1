import RoundWatch.App.Mcp
import RoundWatch.Foundation.JsonLayout
import RoundWatch.Foundation.Utf8

/-!
# The MCP tools

What `tools/list` advertises, beside what the tools take.

* `McpTool`, `tools` — the tools and the schemas of their arguments;
* `McpTool.doc` — a tool on the wire;
* `McpTool.Admits` — the arguments that its schema admits;
* `tools_admit` — **arguments that a tool takes are arguments that it advertises**, but for
  keys that are long enough in code units alone.
-/

namespace RoundWatch

open JsText

namespace Mcp

/-! ## Documents -/

def str (s : String) : JsonDoc ℤ := .str (js s)

/-- An object literal. -/
def object (fields : List (String × JsonDoc ℤ)) : JsonDoc ℤ :=
  .obj (fields.map fun p => (js p.1, p.2))

/-- A field that may be missing. -/
def optional (name : String) (value : Option (JsonDoc ℤ)) : List (String × JsonDoc ℤ) :=
  (value.map fun v => (name, v)).toList

end Mcp

/-! ## The table -/

/-- A property of an `inputSchema`; all of them are strings. -/
structure ToolArgument where
  name : String
  minLength : Option ℕ
  maxLength : Option ℕ
  /-- Whether `pattern` is that of a positive decimal. -/
  positiveDecimal : Bool
  description : String

structure McpTool where
  name : String
  title : String
  description : String
  /-- The key is missing where nothing is required. -/
  required : List String
  properties : List ToolArgument

namespace McpTool

def serviceInfo : McpTool where
  name := "roundwatch.service_info"
  title := "RoundWatch Service Info"
  description := "Return the live RoundWatch network, x402 service contract, USDC asset, price, limits, and documentation links. Read-only and free."
  required := []
  properties := []

def prepareWatch : McpTool where
  name := "roundwatch.prepare_watch"
  title := "Prepare RoundWatch Watch"
  description := "Validate one expected future Algorand USDC payment and return the exact RoundWatch HTTP/x402 request to create a durable watch. This tool does not settle the x402 payment and does not create the watch by itself."
  required := ["idempotencyKey", "expectedSender", "expectedReceiver", "atomicAmount"]
  properties :=
    [⟨"idempotencyKey", some 8, some 128, false,
        "Stable key that identifies this watch request and prevents duplicates."⟩,
      ⟨"expectedSender", some 58, some 58, false,
        "Checksum-valid nonzero Algorand address expected to send the future payment. The Algorand zero address is rejected for new watch creation."⟩,
      ⟨"expectedReceiver", some 58, some 58, false,
        "Checksum-valid Algorand address expected to receive the future payment."⟩,
      ⟨"atomicAmount", none, none, true,
        "Exact watched USDC amount in atomic units. Algorand USDC uses 6 decimals."⟩,
      ⟨"invoiceNote", some 1, some 128, false,
        "Optional exact UTF-8 Algorand transaction note, maximum 128 UTF-8 bytes."⟩]

def prepareRecovery : McpTool where
  name := "roundwatch.prepare_recovery"
  title := "Prepare RoundWatch Recovery"
  description := "Validate and return the exact free HTTP request used to recover an existing watch after a paid create may have succeeded but the caller lost the returned watchId. Confirmed-settlement watches remain recoverable even after terminal expiry or post-activation indeterminate completion. This tool never signs, pays, or retries the paid create."
  required :=
    ["idempotencyKey", "expectedSender", "expectedReceiver", "atomicAmount", "servicePayer"]
  properties :=
    [⟨"idempotencyKey", some 8, some 128, false,
        "The exact original idempotency key from the paid create attempt."⟩,
      ⟨"expectedSender", some 58, some 58, false,
        "The exact original expected future-payment sender."⟩,
      ⟨"expectedReceiver", some 58, some 58, false,
        "The exact original expected future-payment receiver."⟩,
      ⟨"atomicAmount", none, none, true,
        "The exact original watched USDC amount in atomic units."⟩,
      ⟨"invoiceNote", some 1, some 128, false,
        "The exact original optional invoice note, if one was supplied."⟩,
      ⟨"servicePayer", some 58, some 58, false,
        "Public Algorand address that signed the original x402 RoundWatch service payment."⟩]

def getWatch : McpTool where
  name := "roundwatch.get_watch"
  title := "Get RoundWatch Watch"
  description := "Read the durable state and any verified on-chain evidence for an existing RoundWatch watch ID. Read-only and free."
  required := ["watchId"]
  properties :=
    [⟨"watchId", some 1, none, false, "Durable watch ID returned after successful activation."⟩]

end McpTool

/-- The tools in the order of `tools/list`. -/
def tools : List McpTool :=
  [.serviceInfo, .prepareWatch, .prepareRecovery, .getWatch]

open Mcp in
def ToolArgument.doc (a : ToolArgument) : JsonDoc ℤ :=
  object <|
    [("type", str "string")] ++
      optional "minLength" (a.minLength.map fun n => .num n) ++
      optional "maxLength" (a.maxLength.map fun n => .num n) ++
      optional "pattern" (if a.positiveDecimal then some (str "^[1-9]\\d*$") else none) ++
      [("description", str a.description)]

namespace McpTool

open Mcp

/-- `annotations`, the same for every tool. -/
def annotations : JsonDoc ℤ :=
  object
    [("readOnlyHint", .bool true), ("idempotentHint", .bool true),
      ("destructiveHint", .bool false), ("openWorldHint", .bool false)]

def icons : JsonDoc ℤ :=
  .arr
    [object
      [("src", str "https://roundwatch.observer/favicon.svg"), ("mimeType", str "image/svg+xml"),
        ("sizes", .arr [str "any"])]]

def inputSchema (tool : McpTool) : JsonDoc ℤ :=
  object <|
    [("type", str "object"), ("additionalProperties", .bool false)] ++
      optional "required"
        (if tool.required = [] then none else some (.arr (tool.required.map str))) ++
      [("properties", object (tool.properties.map fun a => (a.name, a.doc)))]

/-- The tool as `tools/list` has it. -/
def doc (tool : McpTool) : JsonDoc ℤ :=
  object
    [("name", str tool.name), ("title", str tool.title), ("description", str tool.description),
      ("inputSchema", tool.inputSchema), ("annotations", annotations), ("icons", icons)]

end McpTool

/-! ## What a schema admits -/

/-- JSON Schema counts code points. -/
def ToolArgument.Allows (a : ToolArgument) (value : Json) : Prop :=
  ∃ s, value = .str s ∧ (∀ n ∈ a.minLength, n ≤ Utf8.codePoints s) ∧
    (∀ n ∈ a.maxLength, Utf8.codePoints s ≤ n) ∧
    (a.positiveDecimal = true → Store.isPositiveDecimal s = true)

/-- The arguments are valid for the `inputSchema`. -/
structure McpTool.Admits (tool : McpTool) (args : List (JsString × Json)) : Prop where
  required : ∀ name ∈ tool.required, Json.lookup args (js name) ≠ none
  known : ∀ p ∈ args, p.1 ∈ tool.properties.map fun a => js a.name
  allowed : ∀ a ∈ tool.properties, ∀ value, Json.lookup args (js a.name) = some value →
    a.Allows value

/-! ## What `roundwatch.get_watch` takes -/

def maxMcpWatchIdBytes : ℕ := 128

/-- The argument of `roundwatch.get_watch`, or why it is refused. -/
def getWatchArgument : List (JsString × Json) → Except String JsString
  | [(name, value)] =>
      if name ≠ js "watchId" then
        .error "roundwatch.get_watch accepts exactly one argument: watchId"
      else
        match value with
        | .str watchId =>
            if watchId = [] ∨ maxMcpWatchIdBytes < utf8ByteLength watchId then
              .error "watchId must be a non-empty string no larger than 128 UTF-8 bytes"
            else .ok watchId
        | _ => .error "watchId must be a non-empty string no larger than 128 UTF-8 bytes"
  | _ => .error "roundwatch.get_watch accepts exactly one argument: watchId"

/-! ## Taken and advertised -/

/-- An address has 58 code points. -/
theorem AddressText.codePoints_eq {a : JsString} (h : AddressText a) : Utf8.codePoints a = 58 := by
  rw [Utf8.codePoints_of_plain, h.1]
  intro u hu
  rw [isHigh, Bool.and_eq_false_iff]
  refine Or.inl (decide_eq_false ?_)
  rw [UInt16.le_iff_toNat_le]
  rcases h.2 u hu with hletter | hdigit
  · have hle := UInt16.le_iff_toNat_le.1 hletter.2
    simp at hle ⊢
    omega
  · have hle := UInt16.le_iff_toNat_le.1 hdigit.2
    simp at hle ⊢
    omega

/-- A string field, looked up. -/
theorem lookup_of_stringField {args : List (JsString × Json)} {name : String} {s : JsString}
    (h : stringField (.obj args) name = some s) : Json.lookup args (js name) = some (.str s) := by
  rw [stringField] at h
  split at h
  · rename_i s' hget
    rw [← Option.some.inj h]
    exact hget
  · cases h

/-- What a schema says of an argument. -/
def ToolArgument.bounds (a : ToolArgument) : String × Option ℕ × Option ℕ × Bool :=
  (a.name, a.minLength, a.maxLength, a.positiveDecimal)

/-- The arguments that describe a watch, as both tools advertise them. -/
def watchBounds : List (String × Option ℕ × Option ℕ × Bool) :=
  [("idempotencyKey", some 8, some 128, false), ("expectedSender", some 58, some 58, false),
    ("expectedReceiver", some 58, some 58, false), ("atomicAmount", none, none, true),
    ("invoiceNote", some 1, some 128, false)]

section Admitted

variable {isValidAlgorandAddress : JsString → Bool} {usdcAssetId : ℤ}
  {args : List (JsString × Json)} {value : PreparedWatchArguments} {a : ToolArgument}

/-- A string between the bounds of an argument. -/
theorem ToolArgument.allows_of_bounds {s : JsString} {low high : ℕ} (hmin : a.minLength = some low)
    (hmax : a.maxLength = some high) (hplain : a.positiveDecimal = false)
    (hlow : low ≤ Utf8.codePoints s) (hhigh : Utf8.codePoints s ≤ high) : a.Allows (.str s) := by
  refine ⟨s, rfl, ?_, ?_, ?_⟩
  · intro n hn
    rw [hmin] at hn
    rw [← Option.some.inj hn]
    exact hlow
  · intro n hn
    rw [hmax] at hn
    rw [← Option.some.inj hn]
    exact hhigh
  · intro hdecimal
    rw [hplain] at hdecimal
    cases hdecimal

theorem ToolArgument.allows_address (hvalid : ∀ a, isValidAlgorandAddress a → AddressText a)
    {name : String} (ha : a.bounds = (name, some 58, some 58, false)) {address : JsString}
    (hgood : isValidAlgorandAddress address = true) : a.Allows (.str address) := by
  have hlength := (hvalid address hgood).codePoints_eq
  simp only [bounds, Prod.mk.injEq] at ha
  exact allows_of_bounds ha.2.1 ha.2.2.1 ha.2.2.2 hlength.ge hlength.le

/-- What an accepted body has under the name of an advertised argument is allowed. -/
theorem Accepted.allows (hvalid : ∀ a, isValidAlgorandAddress a → AddressText a)
    (h : Accepted isValidAlgorandAddress usdcAssetId (.obj args) (value.spec usdcAssetId))
    (hlong : 8 ≤ Utf8.codePoints value.idempotencyKey) (ha : a.bounds ∈ watchBounds)
    {found : Json} (hfound : Json.lookup args (js a.name) = some found) : a.Allows found := by
  have hname : a.name = a.bounds.1 := rfl
  simp only [watchBounds, List.mem_cons, List.not_mem_nil, or_false] at ha
  rcases ha with ha | ha | ha | ha | ha
  · rw [hname, ha, lookup_of_stringField h.key] at hfound
    obtain rfl := Option.some.inj hfound
    simp only [ToolArgument.bounds, Prod.mk.injEq] at ha
    exact ToolArgument.allows_of_bounds ha.2.1 ha.2.2.1 ha.2.2.2 hlong
      ((Utf8.codePoints_le_length _).trans h.keyLength.2)
  · rw [hname, ha, lookup_of_stringField h.sender] at hfound
    obtain rfl := Option.some.inj hfound
    exact ToolArgument.allows_address hvalid ha h.senderValid
  · rw [hname, ha, lookup_of_stringField h.receiver] at hfound
    obtain rfl := Option.some.inj hfound
    exact ToolArgument.allows_address hvalid ha h.receiverValid
  · rw [hname, ha, lookup_of_stringField h.amount] at hfound
    obtain rfl := Option.some.inj hfound
    simp only [ToolArgument.bounds, Prod.mk.injEq] at ha
    refine ⟨_, rfl, ?_, ?_, fun _ => h.amountDecimal⟩
    · intro n hn
      rw [ha.2.1] at hn
      cases hn
    · intro n hn
      rw [ha.2.2.1] at hn
      cases hn
  · have hnote : noteField (.obj args) = .ok value.invoiceNote := h.note
    have hget : Json.get? (.obj args) "invoiceNote" = some found := by
      rw [hname, ha] at hfound
      exact hfound
    simp only [ToolArgument.bounds, Prod.mk.injEq] at ha
    rw [noteField, hget] at hnote
    cases found with
    | str note =>
        dsimp only at hnote
        split at hnote
        · cases hnote
        · rename_i hlength
          rw [not_or, Nat.not_lt] at hlength
          exact ToolArgument.allows_of_bounds ha.2.1 ha.2.2.1 ha.2.2.2
            (Utf8.codePoints_pos hlength.1) ((Utf8.codePoints_le_bytes note).trans hlength.2)
    | _ => cases hnote

/-- Where a tool takes arguments that describe a watch, its schema admits them exactly if the
key has as many code points as it needs code units. -/
theorem Accepted.admits_iff (hvalid : ∀ a, isValidAlgorandAddress a → AddressText a)
    (h : Accepted isValidAlgorandAddress usdcAssetId (.obj args) (value.spec usdcAssetId))
    {tool : McpTool} (hrequired : ∀ name ∈ tool.required, Json.lookup args (js name) ≠ none)
    (hknown : ∀ p ∈ args, p.1 ∈ tool.properties.map fun a => js a.name)
    (hkey : ∃ a ∈ tool.properties, a.bounds = ("idempotencyKey", some 8, some 128, false))
    (hmore : ∀ a ∈ tool.properties, a.bounds ∈ watchBounds ∨
      ∀ found, Json.lookup args (js a.name) = some found → a.Allows found) :
    tool.Admits args ↔ 8 ≤ Utf8.codePoints value.idempotencyKey := by
  constructor
  · intro hadmits
    obtain ⟨a, ha, hbounds⟩ := hkey
    simp only [ToolArgument.bounds, Prod.mk.injEq] at hbounds
    have hfound : Json.lookup args (js a.name) = some (.str value.idempotencyKey) := by
      rw [hbounds.1]
      exact lookup_of_stringField h.key
    obtain ⟨s, heq, hmin, -⟩ := hadmits.allowed a ha _ hfound
    cases heq
    exact hmin 8 (hbounds.2.1 ▸ rfl)
  · intro hlong
    refine ⟨hrequired, hknown, fun a ha found hfound => ?_⟩
    rcases hmore a ha with hbounds | hallows
    · exact h.allows hvalid hlong hbounds hfound
    · exact hallows found hfound

theorem Accepted.required (h : Accepted isValidAlgorandAddress usdcAssetId (.obj args)
      (value.spec usdcAssetId)) :
    ∀ name ∈ McpTool.prepareWatch.required, Json.lookup args (js name) ≠ none := by
  intro name hname
  simp only [McpTool.prepareWatch, List.mem_cons, List.not_mem_nil, or_false] at hname
  rcases hname with rfl | rfl | rfl | rfl
  · simp [lookup_of_stringField h.key]
  · simp [lookup_of_stringField h.sender]
  · simp [lookup_of_stringField h.receiver]
  · simp [lookup_of_stringField h.amount]

theorem McpTool.prepareWatch_admits_iff (hvalid : ∀ a, isValidAlgorandAddress a → AddressText a)
    (h : validatePrepareArguments isValidAlgorandAddress args = .ok value) :
    prepareWatch.Admits args ↔ 8 ≤ Utf8.codePoints value.idempotencyKey := by
  obtain ⟨hknown, hcreate⟩ := (validatePrepareArguments_ok 0).1 h
  have haccepted := (acceptCreate_ok.1 hcreate).1
  refine haccepted.admits_iff hvalid haccepted.required hknown
    ⟨_, List.mem_cons_self .., rfl⟩ fun a ha => Or.inl ?_
  have hbounds : prepareWatch.properties.map ToolArgument.bounds = watchBounds := rfl
  rw [← hbounds]
  exact List.mem_map_of_mem ha

theorem McpTool.prepareRecovery_admits_iff
    (hvalid : ∀ a, isValidAlgorandAddress a → AddressText a) {servicePayer : JsString}
    (h : validateRecoveryArguments isValidAlgorandAddress args = .ok (value, servicePayer)) :
    prepareRecovery.Admits args ↔ 8 ≤ Utf8.codePoints value.idempotencyKey := by
  obtain ⟨hknown, hrequest⟩ := (validateRecoveryArguments_ok 0).1 h
  have haccepted := parseWatchSpec_ok.1 hrequest.spec
  obtain ⟨hpayer, hgood⟩ := Option.filter_eq_some_iff.1 hrequest.payer
  refine haccepted.admits_iff hvalid (fun name hname => ?_) hknown
    ⟨_, List.mem_cons_self .., rfl⟩ fun a ha => ?_
  · have hsplit : prepareRecovery.required = prepareWatch.required ++ ["servicePayer"] := rfl
    rw [hsplit, List.mem_append, List.mem_singleton] at hname
    rcases hname with hname | rfl
    · exact haccepted.required name hname
    · simp [lookup_of_stringField hpayer]
  · have hbounds : a.bounds ∈ watchBounds ++ [("servicePayer", some 58, some 58, false)] :=
      List.mem_map_of_mem (f := ToolArgument.bounds) ha
    rw [List.mem_append, List.mem_singleton] at hbounds
    rcases hbounds with hbounds | hbounds
    · exact Or.inl hbounds
    · refine Or.inr fun found hfound => ?_
      have hname : a.name = "servicePayer" := congrArg Prod.fst hbounds
      rw [hname, lookup_of_stringField hpayer] at hfound
      obtain rfl := Option.some.inj hfound
      exact ToolArgument.allows_address hvalid hbounds hgood

theorem McpTool.getWatch_admits {watchId : JsString} (h : getWatchArgument args = .ok watchId) :
    getWatch.Admits args := by
  unfold getWatchArgument at h
  split at h
  · rename_i name value
    split at h
    · cases h
    rename_i hname
    obtain rfl := not_not.1 hname
    split at h
    · split at h
      · cases h
      rename_i id hlength
      rw [not_or] at hlength
      refine ⟨?_, ?_, ?_⟩
      · intro name hname
        rw [List.mem_singleton.1 hname]
        simp [Json.lookup]
      · intro p hp
        rw [List.mem_singleton.1 hp]
        exact List.mem_cons_self ..
      · intro a ha found hfound
        rw [List.mem_singleton.1 ha] at hfound ⊢
        have hsame : found = .str id := by simpa [Json.lookup] using hfound.symm
        rw [hsame]
        refine ⟨id, rfl, ?_, ?_, ?_⟩
        · intro n hn
          rw [← Option.some.inj hn]
          exact Utf8.codePoints_pos hlength.1
        · intro n hn
          cases hn
        · intro hdecimal
          cases hdecimal
    · cases h
  · cases h

end Admitted

/-- **What the tools take they advertise.**  Arguments that `roundwatch.prepare_watch` or
`roundwatch.prepare_recovery` take are valid for the schema of the tool exactly if their key
has eight code points, where the tools count code units; those that `roundwatch.get_watch`
takes always are, and `roundwatch.service_info` takes just what is. -/
theorem tools_admit (isValidAlgorandAddress : JsString → Bool)
    (hvalid : ∀ a, isValidAlgorandAddress a → AddressText a) (args : List (JsString × Json)) :
    (∀ value, validatePrepareArguments isValidAlgorandAddress args = .ok value →
      (McpTool.prepareWatch.Admits args ↔ 8 ≤ Utf8.codePoints value.idempotencyKey)) ∧
    (∀ value servicePayer,
      validateRecoveryArguments isValidAlgorandAddress args = .ok (value, servicePayer) →
      (McpTool.prepareRecovery.Admits args ↔ 8 ≤ Utf8.codePoints value.idempotencyKey)) ∧
    (∀ watchId, getWatchArgument args = .ok watchId → McpTool.getWatch.Admits args) ∧
    (McpTool.serviceInfo.Admits args ↔ args = []) := by
  refine ⟨fun value h => McpTool.prepareWatch_admits_iff hvalid h,
    fun value servicePayer h => McpTool.prepareRecovery_admits_iff hvalid h,
    fun watchId h => McpTool.getWatch_admits h, ?_, ?_⟩
  · intro hadmits
    cases args with
    | nil => rfl
    | cons p rest => cases hadmits.known p (List.mem_cons_self ..)
  · rintro rfl
    exact ⟨nofun, nofun, nofun⟩

/-- Arguments whose key is four code points, of two code units each. -/
def shortKeyArguments : PreparedWatchArguments where
  idempotencyKey := js "😀😀😀😀"
  expectedSender := probeAddress
  expectedReceiver := algorandZeroAddress
  atomicAmount := js "1"
  invoiceNote := none

/-- They are taken, and are not advertised. -/
theorem tools_admit_short :
    validatePrepareArguments isKnownAddress shortKeyArguments.fields = .ok shortKeyArguments ∧
      ¬ McpTool.prepareWatch.Admits shortKeyArguments.fields := by
  have htaken : validatePrepareArguments isKnownAddress shortKeyArguments.fields =
      .ok shortKeyArguments := by
    decide +kernel
  have hshort : ¬ 8 ≤ Utf8.codePoints shortKeyArguments.idempotencyKey := by decide +kernel
  have hadmits := tools_admit isKnownAddress addressText_of_isKnownAddress shortKeyArguments.fields
  exact ⟨htaken, fun h => hshort ((hadmits.1 _ htaken).1 h)⟩

end RoundWatch
