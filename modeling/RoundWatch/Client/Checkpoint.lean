import RoundWatch.Foundation.Checks
import RoundWatch.Foundation.Json
import RoundWatch.Foundation.Url
import RoundWatch.Store.Operations

/-!
# MainNet checkpoints

The client keeps what it bought in a checkpoint, and trusts neither its own file nor the
answer of the server.

* `validateMainnetCheckpoint` — the checks of a checkpoint, and of a watch against it;
* `recoverExistingMainnetWatch` — the recovery request, and what the client makes of the
  answer;
* `validateMainnetCheckpoint_ok` and `recoverExistingMainnetWatch_ok` — what they accept.
-/

namespace RoundWatch

open JsText Checks

/-! ## Values -/

/-- `===` on parsed values; two objects are never the same one. -/
def strictEquals : Option Json → Option Json → Bool
  | none, none => true
  | some .null, some .null => true
  | some (.bool a), some (.bool b) => a == b
  | some (.num m), some (.num n) => m == n
  | some (.str s), some (.str t) => s == t
  | _, _ => false

theorem strictEquals_str {value : Option Json} {s : JsString} :
    strictEquals value (some (.str s)) = true ↔ value = some (.str s) := by
  unfold strictEquals
  split <;> simp_all

theorem strictEquals_num {value : Option Json} {n : ℤ} :
    strictEquals value (some (.num n)) = true ↔ value = some (.num n) := by
  unfold strictEquals
  split <;> simp_all

/-- Whether a value counts as true. -/
def truthy : Option Json → Bool
  | none | some .null => false
  | some (.bool b) => b
  | some (.num n) => n != 0
  | some (.str s) => !s.isEmpty
  | some _ => true

/-- A string of the value. -/
def textField (value : Json) (name : String) : Option JsString :=
  match value.get? name with
  | some (.str s) => some s
  | _ => none

theorem textField_eq_some {value : Json} {name : String} {s : JsString} :
    textField value name = some s ↔ value.get? name = some (.str s) := by
  unfold textField
  split <;> simp_all

/-! ## Constants -/

def algorandMainnet : JsString := js "algorand:wGHE2Pwdvd7S12BL5FaOP20EGYesN73ktiC1qzkkit8="

def usdcMainnetAsaId : ℤ := 31566704

def invoiceAtomicAmount : JsString := js "1"

def maxInvoiceAtomicAmount : ℕ := 1

def expectedReceiver : JsString :=
  js "EQPLN32HPLPGBCNPOZUL6BL34CTNQGT3VAAMNAJWSIZGQ5CUNXOHB634XY"

def defaultServerUrl : JsString := js "https://roundwatch-api.onrender.com"

/-! ## Parts of a checkpoint -/

inductive CheckpointError where
  | notObject
  | urlNotAbsolute
  | urlNotHttps
  | urlNotPlain
  | networkMismatch
  | assetMismatch
  | serverUrlMismatch
  | senderInvalid
  | payerMismatch
  | receiverMismatch
  | amountInvalid
  | idempotencyKeyInvalid
  | idempotencyNonceInvalid
  | noteMismatch
  | watchIdInvalid
  | watchIdMissing
  | watchIdMismatch
  | watchNotPayable
  | watchMismatch (name : String)
  | watchIdPresent
  | watchNotFound
  | lookupFailed (status : ℕ)
  | answerUnreadable
  | answerWithoutWatchId
  | watchNotRecoverable
  | settlementNotConfirmed
  | servicePayerMismatch
  deriving DecidableEq, Repr

/-- A hexadecimal digit, in either case. -/
def isHexDigit (u : UInt16) : Bool :=
  (48 ≤ u && u ≤ 57) || (97 ≤ u && u ≤ 102) || (65 ≤ u && u ≤ 70)

/-- What stands at a place of a version-4 UUID. -/
def uuidPlace (i : ℕ) (u : UInt16) : Bool :=
  if i = 8 || i = 13 || i = 18 || i = 23 then u == 45
  else if i = 14 then u == 52
  else if i = 19 then [56, 57, 97, 98, 65, 66].contains u
  else isHexDigit u

/-- A version-4 UUID. -/
def isUuid (value : JsString) : Bool :=
  value.length == 36 && value.zipIdx.all fun p => uuidPlace p.2 p.1

/-- `url.toString().replace(/\/+$/, '')`. -/
def withoutTrailingSlashes (s : JsString) : JsString :=
  (s.reverse.dropWhile (· == 47)).reverse

def normalizeHttpsUrl (parse : UrlParser) (value : JsString) : Except CheckpointError JsString :=
  match parse value none with
  | none => .error .urlNotAbsolute
  | some url =>
      (require (url.protocol == js "https:") .urlNotHttps).bind fun _ =>
      (require (url.username.isEmpty && url.password.isEmpty && url.search.isEmpty &&
        url.hash.isEmpty) .urlNotPlain).bind fun _ =>
      .ok (withoutTrailingSlashes url.href)

/-- A positive amount of one unit at most, spelled as the client spells it. -/
def isApprovedAmount (amount : JsString) : Bool :=
  Store.isPositiveDecimal amount && (digitsValue? 10 0 amount).all (· ≤ maxInvoiceAtomicAmount) &&
    amount == invoiceAtomicAmount

/-- What is left of a text behind a beginning. -/
def afterStart (start value : JsString) : Option JsString :=
  if start.isPrefixOf value then some (value.drop start.length) else none

def parseCheckpointNonce (value : Option JsString) (start : JsString) :
    Except CheckpointError JsString :=
  match value.bind (afterStart start) with
  | none => .error .idempotencyKeyInvalid
  | some nonce => (require (isUuid nonce) .idempotencyNonceInvalid).bind fun _ => .ok nonce

/-! ## The checks -/

structure CheckpointValidationOptions where
  runtimeServerUrl : JsString
  payerAddress : Option JsString := none
  requireWatchId : Bool := false
  requirePayableWatch : Bool := true
  watch : Option Json := none

/-- The watch is in one of the states. -/
def watchStateIn (watch : Json) (states : List String) : Bool :=
  states.any fun state => strictEquals (watch.get? "state") (some (.str (js state)))

/-- A field of a watch is the field of the checkpoint. -/
def sameField (checkpoint watch : Json) (name field : String) : Except CheckpointError Unit :=
  require (strictEquals (watch.get? field) (checkpoint.get? field)) (.watchMismatch name)

def validateWatchSnapshot (checkpoint watch : Json) (requirePayableWatch : Bool) :
    Except CheckpointError Unit :=
  (require (truthy (checkpoint.get? "watchId") &&
    strictEquals (watch.get? "id") (checkpoint.get? "watchId")) .watchIdMismatch).bind fun _ =>
  (require (!requirePayableWatch || watchStateIn watch ["active", "matched"])
    .watchNotPayable).bind fun _ =>
  (sameField checkpoint watch "sender" "expectedSender").bind fun _ =>
  (sameField checkpoint watch "receiver" "expectedReceiver").bind fun _ =>
  (sameField checkpoint watch "asset" "assetId").bind fun _ =>
  (sameField checkpoint watch "amount" "atomicAmount").bind fun _ =>
  sameField checkpoint watch "note" "invoiceNote"

/-- The `watchId` of a checkpoint is absent or a UUID. -/
def watchIdValid (value : Option Json) : Bool :=
  match value with
  | none => true
  | some (.str s) => isUuid s
  | some _ => false

/-- `validateMainnetCheckpoint`, on a parsed value. -/
def validateMainnetCheckpoint (parse : UrlParser) (isValidAlgorandAddress : JsString → Bool)
    (value : Json) (options : CheckpointValidationOptions) : Except CheckpointError Json :=
  match value with
  | .obj fields =>
      let checkpoint := Json.obj fields
      (normalizeHttpsUrl parse options.runtimeServerUrl).bind fun runtimeServerUrl =>
      (require (strictEquals (checkpoint.get? "network") (some (.str algorandMainnet)))
        .networkMismatch).bind fun _ =>
      (require (strictEquals (checkpoint.get? "assetId") (some (.num usdcMainnetAsaId)))
        .assetMismatch).bind fun _ =>
      (require (strictEquals (checkpoint.get? "serverUrl") (some (.str defaultServerUrl)) &&
        strictEquals (checkpoint.get? "serverUrl") (some (.str runtimeServerUrl)))
        .serverUrlMismatch).bind fun _ =>
      (require ((textField checkpoint "expectedSender").any isValidAlgorandAddress)
        .senderInvalid).bind fun _ =>
      (require (options.payerAddress.all fun payer => payer.isEmpty ||
        strictEquals (checkpoint.get? "expectedSender") (some (.str payer)))
        .payerMismatch).bind fun _ =>
      (require (strictEquals (checkpoint.get? "expectedReceiver") (some (.str expectedReceiver)))
        .receiverMismatch).bind fun _ =>
      (require ((textField checkpoint "atomicAmount").any isApprovedAmount)
        .amountInvalid).bind fun _ =>
      (parseCheckpointNonce (textField checkpoint "idempotencyKey") (js "mainnet-")).bind
        fun nonce =>
      (require (strictEquals (checkpoint.get? "invoiceNote")
        (some (.str (js "roundwatch:mainnet:" ++ nonce)))) .noteMismatch).bind fun _ =>
      (require (watchIdValid (checkpoint.get? "watchId")) .watchIdInvalid).bind fun _ =>
      (require (!options.requireWatchId || truthy (checkpoint.get? "watchId"))
        .watchIdMissing).bind fun _ =>
      (match options.watch with
        | some watch => validateWatchSnapshot checkpoint watch options.requirePayableWatch
        | none => .ok ()).bind fun _ =>
      .ok checkpoint
  | _ => .error .notObject

/-- The states that a recovered watch can be in. -/
def recoverableStates : List String := ["active", "matched", "expired", "indeterminate"]

/-- The payer of the service is not named, or it is the sender of the checkpoint. -/
def servicePayerMatches (checkpoint watch : Json) (field : String) : Bool :=
  strictEquals (watch.get? field) none ||
    strictEquals (watch.get? field) (checkpoint.get? "expectedSender")

def validateRecoveredMainnetCheckpoint (parse : UrlParser)
    (isValidAlgorandAddress : JsString → Bool) (state watch : Json)
    (runtimeServerUrl payerAddress : JsString) : Except CheckpointError Json :=
  (validateMainnetCheckpoint parse isValidAlgorandAddress state
    { runtimeServerUrl := runtimeServerUrl, payerAddress := some payerAddress,
      requireWatchId := true, requirePayableWatch := false, watch := some watch }).bind
    fun checkpoint =>
  (require (watchStateIn watch recoverableStates) .watchNotRecoverable).bind fun _ =>
  (require ((textField watch "serviceTransaction").any (!·.isEmpty))
    .settlementNotConfirmed).bind fun _ =>
  (require (servicePayerMatches checkpoint watch "expectedServicePayer" &&
    servicePayerMatches checkpoint watch "servicePayer") .servicePayerMismatch).bind fun _ =>
  .ok checkpoint

/-! ## The lookup -/

/-- What a server answers: the status, and the body where it can be read. -/
structure HttpAnswer where
  status : ℕ
  body : Option Json

/-- The fields of the recovery request, and the fields of the checkpoint they are from. -/
def recoveryNames : List (String × String) :=
  [("idempotencyKey", "idempotencyKey"), ("expectedSender", "expectedSender"),
    ("expectedReceiver", "expectedReceiver"), ("atomicAmount", "atomicAmount"),
    ("invoiceNote", "invoiceNote"), ("servicePayer", "expectedSender")]

/-- The body that the client sends. -/
def recoveryBody (checkpoint : Json) : Json :=
  .obj (Json.present (recoveryNames.map fun p => (js p.1, checkpoint.get? p.2)))

/-- The checkpoint with the id of its watch. -/
def withWatchId (checkpoint id : Json) : Json :=
  match checkpoint with
  | .obj fields => .obj (Json.insert fields (js "watchId") id)
  | other => other

/-- `recoverExistingMainnetWatch`, whose `fetch` sends the body to the recovery route. -/
def recoverExistingMainnetWatch (parse : UrlParser) (isValidAlgorandAddress : JsString → Bool)
    (fetch : Json → HttpAnswer) (state : Json) (runtimeServerUrl : JsString) :
    Except CheckpointError Json :=
  (validateMainnetCheckpoint parse isValidAlgorandAddress state
    { runtimeServerUrl := runtimeServerUrl }).bind fun checkpoint =>
  (require (!truthy (checkpoint.get? "watchId")) .watchIdPresent).bind fun _ =>
  let response := fetch (recoveryBody checkpoint)
  (require (response.status != 404) .watchNotFound).bind fun _ =>
  (require (response.status == 200) (.lookupFailed response.status)).bind fun _ =>
  match response.body with
  | none => .error .answerUnreadable
  | some body =>
      match body.get? "watch" with
      | none => .error .answerWithoutWatchId
      | some watch =>
          match watch.get? "id" with
          | none => .error .answerWithoutWatchId
          | some id =>
              (require (truthy (some id)) .answerWithoutWatchId).bind fun _ =>
              match textField checkpoint "expectedSender" with
              | none => .error .senderInvalid
              | some sender =>
                  validateRecoveredMainnetCheckpoint parse isValidAlgorandAddress
                    (withWatchId checkpoint id) watch runtimeServerUrl sender

/-! ## What is accepted -/

section Accepted

variable {parse : UrlParser} {isValidAlgorandAddress : JsString → Bool}

theorem afterStart_eq_some {start value rest : JsString} :
    afterStart start value = some rest ↔ value = start ++ rest := by
  unfold afterStart
  split
  · rename_i hstart
    obtain ⟨t, rfl⟩ := List.isPrefixOf_iff_prefix.1 hstart
    simp [eq_comm]
  · rename_i hstart
    constructor
    · intro h
      cases h
    · intro h
      exact absurd (List.isPrefixOf_iff_prefix.2 ⟨rest, h.symm⟩) hstart

theorem parseCheckpointNonce_ok {value : Option JsString} {start nonce : JsString} :
    parseCheckpointNonce value start = .ok nonce ↔
      value = some (start ++ nonce) ∧ isUuid nonce = true := by
  unfold parseCheckpointNonce
  split
  · rename_i hnone
    constructor
    · intro h
      cases h
    · rintro ⟨rfl, -⟩
      rw [Option.bind_some, afterStart_eq_some.2 rfl] at hnone
      cases hnone
  · rename_i nonce' hnonce
    obtain ⟨text, rfl, htext⟩ := Option.bind_eq_some_iff.1 hnonce
    obtain rfl := afterStart_eq_some.1 htext
    rw [require_bind_eq_ok]
    constructor
    · rintro ⟨huuid, h⟩
      cases h
      exact ⟨rfl, huuid⟩
    · rintro ⟨heq, huuid⟩
      obtain rfl : nonce' = nonce := List.append_cancel_left (Option.some.inj heq)
      exact ⟨huuid, rfl⟩

/-- There is one approved amount. -/
theorem isApprovedAmount_iff {amount : JsString} :
    isApprovedAmount amount = true ↔ amount = invoiceAtomicAmount := by
  rw [isApprovedAmount, Bool.and_eq_true, beq_iff_eq]
  refine ⟨And.right, fun h => ⟨?_, h⟩⟩
  subst h
  decide

theorem any_textField {value : Json} {name : String} {p : JsString → Bool} :
    (textField value name).any p = true ↔
      ∃ s, value.get? name = some (.str s) ∧ p s = true := by
  rw [Option.any_eq_true]
  simp only [textField_eq_some]

/-- What every accepted checkpoint is. -/
structure ValidCheckpoint (parse : UrlParser) (isValidAlgorandAddress : JsString → Bool)
    (runtimeServerUrl : JsString) (checkpoint : Json) : Prop where
  isObject : ∃ fields, checkpoint = .obj fields
  runtime : normalizeHttpsUrl parse runtimeServerUrl = .ok defaultServerUrl
  network : checkpoint.get? "network" = some (.str algorandMainnet)
  assetId : checkpoint.get? "assetId" = some (.num usdcMainnetAsaId)
  serverUrl : checkpoint.get? "serverUrl" = some (.str defaultServerUrl)
  sender : ∃ sender, checkpoint.get? "expectedSender" = some (.str sender) ∧
    isValidAlgorandAddress sender = true
  receiver : checkpoint.get? "expectedReceiver" = some (.str expectedReceiver)
  amount : checkpoint.get? "atomicAmount" = some (.str invoiceAtomicAmount)
  nonce : ∃ nonce, isUuid nonce = true ∧
    checkpoint.get? "idempotencyKey" = some (.str (js "mainnet-" ++ nonce)) ∧
    checkpoint.get? "invoiceNote" = some (.str (js "roundwatch:mainnet:" ++ nonce))
  watchId : watchIdValid (checkpoint.get? "watchId") = true

/-- What the options ask for besides. -/
structure MeetsOptions (checkpoint : Json) (options : CheckpointValidationOptions) : Prop where
  payer : ∀ payer, options.payerAddress = some payer → payer ≠ [] →
    checkpoint.get? "expectedSender" = some (.str payer)
  watchId : options.requireWatchId = true → truthy (checkpoint.get? "watchId") = true
  watch : ∀ watch, options.watch = some watch →
    validateWatchSnapshot checkpoint watch options.requirePayableWatch = .ok ()

/-- **What `validateMainnetCheckpoint` accepts.** -/
theorem validateMainnetCheckpoint_ok {value checkpoint : Json}
    {options : CheckpointValidationOptions} :
    validateMainnetCheckpoint parse isValidAlgorandAddress value options = .ok checkpoint ↔
      checkpoint = value ∧
        ValidCheckpoint parse isValidAlgorandAddress options.runtimeServerUrl value ∧
        MeetsOptions value options := by
  cases value with
  | obj fields =>
      simp only [validateMainnetCheckpoint, bind_eq_ok, require_eq_ok, exists_const,
        strictEquals_str, strictEquals_num, any_textField, isApprovedAmount_iff, Bool.and_eq_true,
        parseCheckpointNonce_ok, textField_eq_some]
      constructor
      · rintro ⟨url, hurl, hnetwork, hasset, ⟨hserver, hruntime⟩, hsender, hpayer, hreceiver,
          ⟨amount, hamount, rfl⟩, nonce, ⟨hkey, huuid⟩, hnote, hid, hrequired, u, hwatch, h⟩
        cases h
        obtain rfl : defaultServerUrl = url := by
          have hsame := hserver.symm.trans hruntime
          simpa using hsame
        refine ⟨rfl, ⟨⟨fields, rfl⟩, hurl, hnetwork, hasset, hserver, hsender, hreceiver, hamount,
          ⟨nonce, huuid, hkey, hnote⟩, hid⟩, ?_, ?_, ?_⟩
        · intro payer hsome hne
          rw [hsome] at hpayer
          simpa [hne, strictEquals_str] using hpayer
        · intro hneeded
          simpa [hneeded] using hrequired
        · intro watch hsome
          rw [hsome] at hwatch
          exact hwatch
      · rintro ⟨rfl, h, hoptions⟩
        obtain ⟨nonce, huuid, hkey, hnote⟩ := h.nonce
        refine ⟨defaultServerUrl, h.runtime, h.network, h.assetId, ⟨h.serverUrl, h.serverUrl⟩,
          h.sender, ?_, h.receiver, ⟨_, h.amount, rfl⟩, nonce, ⟨hkey, huuid⟩, hnote, h.watchId, ?_,
          (), ?_, rfl⟩
        · cases hpayer : options.payerAddress with
          | none => rfl
          | some payer =>
              by_cases hne : payer = []
              · simp [hne]
              · simp [strictEquals_str, hoptions.payer payer hpayer hne]
        · cases hneeded : options.requireWatchId with
          | false => rfl
          | true => simpa using hoptions.watchId hneeded
        · cases hwatch : options.watch with
          | none => rfl
          | some watch => exact hoptions.watch watch hwatch
  | _ =>
      constructor
      · intro h
        cases h
      · rintro ⟨-, h, -⟩
        obtain ⟨fields, hfields⟩ := h.isObject
        cases hfields

/-- The five terms of a watch are those of the checkpoint. -/
structure SameTerms (checkpoint watch : Json) : Prop where
  sender : strictEquals (watch.get? "expectedSender") (checkpoint.get? "expectedSender") = true
  receiver : strictEquals (watch.get? "expectedReceiver") (checkpoint.get? "expectedReceiver") = true
  asset : strictEquals (watch.get? "assetId") (checkpoint.get? "assetId") = true
  amount : strictEquals (watch.get? "atomicAmount") (checkpoint.get? "atomicAmount") = true
  note : strictEquals (watch.get? "invoiceNote") (checkpoint.get? "invoiceNote") = true

theorem validateWatchSnapshot_ok {checkpoint watch : Json} {payable : Bool} {u : Unit} :
    validateWatchSnapshot checkpoint watch payable = .ok u ↔
      (truthy (checkpoint.get? "watchId") = true ∧
        strictEquals (watch.get? "id") (checkpoint.get? "watchId") = true) ∧
      (payable = true → watchStateIn watch ["active", "matched"] = true) ∧
      SameTerms checkpoint watch := by
  simp only [validateWatchSnapshot, sameField, bind_eq_ok, require_eq_ok, exists_const,
    Bool.and_eq_true, Bool.or_eq_true, Bool.not_eq_true', ← imp_iff_not_or, ← Bool.not_eq_true]
  constructor
  · rintro ⟨hid, hpayable, hsender, hreceiver, hasset, hamount, hnote⟩
    exact ⟨hid, hpayable, hsender, hreceiver, hasset, hamount, hnote⟩
  · rintro ⟨hid, hpayable, hsender, hreceiver, hasset, hamount, hnote⟩
    exact ⟨hid, hpayable, hsender, hreceiver, hasset, hamount, hnote⟩

/-- A watch that is handed back for a checkpoint. -/
structure RecoveredWatch (checkpoint watch : Json) : Prop extends SameTerms checkpoint watch where
  state : watchStateIn watch recoverableStates = true
  settled : ∃ transaction, watch.get? "serviceTransaction" = some (.str transaction) ∧
    transaction ≠ []
  expectedPayer : servicePayerMatches checkpoint watch "expectedServicePayer" = true
  payer : servicePayerMatches checkpoint watch "servicePayer" = true

/-! ### A checkpoint with its watch -/

variable {checkpoint : Json}

theorem get?_withWatchId {name : String} (hname : js name ≠ js "watchId") (id : Json) :
    (withWatchId checkpoint id).get? name = checkpoint.get? name := by
  cases checkpoint with
  | obj fields => exact Json.lookup_insert_other hname fields id
  | _ => rfl

theorem watchId_withWatchId (h : ∃ fields, checkpoint = .obj fields) (id : Json) :
    (withWatchId checkpoint id).get? "watchId" = some id := by
  obtain ⟨fields, rfl⟩ := h
  exact Json.lookup_insert_self fields _ id

/-- The id of its watch leaves a checkpoint valid. -/
theorem ValidCheckpoint.withWatchId {runtimeServerUrl : JsString}
    (h : ValidCheckpoint parse isValidAlgorandAddress runtimeServerUrl checkpoint) {id : Json}
    (hid : watchIdValid (some id) = true) :
    ValidCheckpoint parse isValidAlgorandAddress runtimeServerUrl
      (RoundWatch.withWatchId checkpoint id) where
  isObject := by
    obtain ⟨fields, rfl⟩ := h.isObject
    exact ⟨_, rfl⟩
  runtime := h.runtime
  network := (get?_withWatchId (by decide) id).trans h.network
  assetId := (get?_withWatchId (by decide) id).trans h.assetId
  serverUrl := (get?_withWatchId (by decide) id).trans h.serverUrl
  sender := by
    rw [get?_withWatchId (by decide)]
    exact h.sender
  receiver := (get?_withWatchId (by decide) id).trans h.receiver
  amount := (get?_withWatchId (by decide) id).trans h.amount
  nonce := by
    rw [get?_withWatchId (by decide), get?_withWatchId (by decide)]
    exact h.nonce
  watchId := by
    rw [watchId_withWatchId h.isObject]
    exact hid

theorem recoveredWatch_withWatchId {watch id : Json} :
    RecoveredWatch (withWatchId checkpoint id) watch ↔ RecoveredWatch checkpoint watch := by
  have hsame : ∀ name, js name ≠ js "watchId" →
      (withWatchId checkpoint id).get? name = checkpoint.get? name :=
    fun name hname => get?_withWatchId hname id
  have hsender := hsame "expectedSender" (by decide)
  have hreceiver := hsame "expectedReceiver" (by decide)
  have hasset := hsame "assetId" (by decide)
  have hamount := hsame "atomicAmount" (by decide)
  have hnote := hsame "invoiceNote" (by decide)
  have hpayer : ∀ field, servicePayerMatches (withWatchId checkpoint id) watch field =
      servicePayerMatches checkpoint watch field := fun field => by
    rw [servicePayerMatches, servicePayerMatches, hsender]
  constructor
  · rintro ⟨⟨h₁, h₂, h₃, h₄, h₅⟩, hstate, hsettled, h₆, h₇⟩
    rw [hsender] at h₁
    rw [hreceiver] at h₂
    rw [hasset] at h₃
    rw [hamount] at h₄
    rw [hnote] at h₅
    rw [hpayer] at h₆ h₇
    exact ⟨⟨h₁, h₂, h₃, h₄, h₅⟩, hstate, hsettled, h₆, h₇⟩
  · rintro ⟨⟨h₁, h₂, h₃, h₄, h₅⟩, hstate, hsettled, h₆, h₇⟩
    rw [← hsender] at h₁
    rw [← hreceiver] at h₂
    rw [← hasset] at h₃
    rw [← hamount] at h₄
    rw [← hnote] at h₅
    rw [← hpayer] at h₆ h₇
    exact ⟨⟨h₁, h₂, h₃, h₄, h₅⟩, hstate, hsettled, h₆, h₇⟩

/-- **What `validateRecoveredMainnetCheckpoint` accepts.** -/
theorem validateRecoveredMainnetCheckpoint_ok {state watch result : Json}
    {runtimeServerUrl payer : JsString} :
    validateRecoveredMainnetCheckpoint parse isValidAlgorandAddress state watch runtimeServerUrl
        payer = .ok result ↔
      result = state ∧ ValidCheckpoint parse isValidAlgorandAddress runtimeServerUrl state ∧
        (payer ≠ [] → state.get? "expectedSender" = some (.str payer)) ∧
        truthy (state.get? "watchId") = true ∧
        strictEquals (watch.get? "id") (state.get? "watchId") = true ∧
        RecoveredWatch state watch := by
  simp only [validateRecoveredMainnetCheckpoint, bind_eq_ok, require_eq_ok, exists_const,
    validateMainnetCheckpoint_ok, any_textField, Bool.and_eq_true]
  constructor
  · rintro ⟨checkpoint, ⟨rfl, hvalid, hoptions⟩, hstate, ⟨transaction, hsettled, hne⟩,
      ⟨hexpected, hpayer⟩, h⟩
    cases h
    obtain ⟨⟨htruthy, hid⟩, -, hterms⟩ := validateWatchSnapshot_ok.1 (hoptions.watch watch rfl)
    exact ⟨rfl, hvalid, hoptions.payer payer rfl, htruthy, hid, hterms, hstate,
      ⟨transaction, hsettled, by simpa using hne⟩, hexpected, hpayer⟩
  · rintro ⟨rfl, hvalid, hsender, htruthy, hid, h⟩
    obtain ⟨transaction, hsettled, hne⟩ := h.settled
    refine ⟨result, ⟨rfl, hvalid, ?_, fun _ => htruthy, ?_⟩, h.state,
      ⟨transaction, hsettled, by simpa using hne⟩, ⟨h.expectedPayer, h.payer⟩, rfl⟩
    · intro payer' hpayer hne'
      cases hpayer
      exact hsender hne'
    · intro watch' hwatch
      cases hwatch
      have hpayable : false = true → watchStateIn watch ["active", "matched"] = true :=
        fun hfalse => by cases hfalse
      exact validateWatchSnapshot_ok.2 ⟨⟨htruthy, hid⟩, hpayable, h.toSameTerms⟩

/-- **What the client makes of an answer.**  The checkpoint comes back with the id of a
watch that is handed back for it. -/
theorem recoverExistingMainnetWatch_ok {fetch : Json → HttpAnswer} {state result : Json}
    {runtimeServerUrl : JsString} :
    recoverExistingMainnetWatch parse isValidAlgorandAddress fetch state runtimeServerUrl =
        .ok result ↔
      ValidCheckpoint parse isValidAlgorandAddress runtimeServerUrl state ∧
        truthy (state.get? "watchId") = false ∧
        (fetch (recoveryBody state)).status = 200 ∧
        ∃ body watch id, (fetch (recoveryBody state)).body = some body ∧
          body.get? "watch" = some watch ∧ watch.get? "id" = some (.str id) ∧ isUuid id = true ∧
          RecoveredWatch state watch ∧ result = withWatchId state (.str id) := by
  constructor
  · intro hok
    obtain ⟨checkpoint, haccepted, h⟩ := bind_eq_ok.1 hok
    clear hok
    obtain ⟨rfl, hvalid, -⟩ := validateMainnetCheckpoint_ok.1 haccepted
    obtain ⟨hnew, h⟩ := require_bind_eq_ok.1 h
    obtain ⟨-, h⟩ := require_bind_eq_ok.1 h
    obtain ⟨hstatus, h⟩ := require_bind_eq_ok.1 h
    split at h
    · cases h
    rename_i body hbody
    split at h
    · cases h
    rename_i watch hwatch
    split at h
    · cases h
    rename_i id hid
    obtain ⟨-, h⟩ := require_bind_eq_ok.1 h
    split at h
    · cases h
    obtain ⟨rfl, hvalid', -, -, -, hrecovered⟩ := validateRecoveredMainnetCheckpoint_ok.1 h
    have huuid := hvalid'.watchId
    rw [watchId_withWatchId hvalid.isObject] at huuid
    cases id with
    | str s =>
        exact ⟨hvalid, by simpa using hnew, by simpa using hstatus, body, watch, s, hbody, hwatch,
          hid, huuid, recoveredWatch_withWatchId.1 hrecovered, rfl⟩
    | _ => cases huuid
  · rintro ⟨hvalid, hnew, hstatus, body, watch, id, hbody, hwatch, hid, huuid, hrecovered, rfl⟩
    obtain ⟨sender, hsender, -⟩ := hvalid.sender
    have hsome : truthy (some (.str id)) = true := by
      cases id with
      | nil => cases huuid
      | cons _ _ => rfl
    have hoptions : MeetsOptions state { runtimeServerUrl := runtimeServerUrl } :=
      { payer := fun _ h => by cases h
        watchId := fun h => by cases h
        watch := fun _ h => by cases h }
    refine bind_eq_ok.2 ⟨state, validateMainnetCheckpoint_ok.2 ⟨rfl, hvalid, hoptions⟩, ?_⟩
    refine require_bind_eq_ok.2 ⟨by simpa using hnew, ?_⟩
    refine require_bind_eq_ok.2 ⟨by simp [hstatus], ?_⟩
    refine require_bind_eq_ok.2 ⟨by simp [hstatus], ?_⟩
    simp only [hbody, hwatch, hid]
    refine require_bind_eq_ok.2 ⟨hsome, ?_⟩
    simp only [textField_eq_some.2 hsender]
    have hwatchId := watchId_withWatchId hvalid.isObject (.str id)
    refine validateRecoveredMainnetCheckpoint_ok.2 ⟨rfl, hvalid.withWatchId huuid, fun _ => ?_, ?_,
      ?_, recoveredWatch_withWatchId.2 hrecovered⟩
    · exact (get?_withWatchId (by decide) _).trans hsender
    · rw [hwatchId]
      exact hsome
    · rw [hwatchId]
      exact strictEquals_str.2 hid

end Accepted

end RoundWatch
