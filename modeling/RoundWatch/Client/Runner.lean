import RoundWatch.Client.Checkpoint
import RoundWatch.Foundation.Runs

/-!
# The MainNet runner

The command line program that buys a watch and pays its invoice with real money.  It keeps
one checkpoint file, and a run of it can end at any `await` or in the middle of a write.

* `installRoundWatchPaymentSafety` — what the payment client is allowed to sign;
* `RunnerEnv.launch` — a run of the program up to its first `await`;
* `RunnerPhase`, `proceed` — the runs, one stretch between two `await`s at a time;
* `RunnerWorld` — any number of runs beside each other, the file they share, and all that
  was ever signed.

The servers are an environment that may answer anything.  Of the payment client the model
keeps that it signs at most once for a call, and only what its policies let through and no
hook aborts.
-/

namespace RoundWatch

open JsText Checks

/-! ## What may be paid -/

def serviceAtomicAmount : JsString := js "100000"

def challengeTag : JsString := js "x402-global-challenge"

/-- `isApprovedRoundWatchRequirement`; `none` when it throws. -/
def isApprovedRoundWatchRequirement : Json → Option Bool
  | .null => none
  | requirement =>
      let extra := fun name => (requirement.get? "extra").bind (·.get? name)
      some (strictEquals (requirement.get? "scheme") (some (.str (js "exact"))) &&
        strictEquals (requirement.get? "network") (some (.str algorandMainnet)) &&
        strictEquals (requirement.get? "amount") (some (.str serviceAtomicAmount)) &&
        strictEquals (requirement.get? "asset") (some (.str (js "31566704"))) &&
        strictEquals (requirement.get? "payTo") (some (.str expectedReceiver)) &&
        strictEquals (extra "tag") (some (.str challengeTag)) &&
        (strictEquals (extra "paymentFlow") none ||
          strictEquals (extra "paymentFlow") (some (.str (js "authorization")))))

/-- `accepts.find(isApprovedRoundWatchRequirement)`; `none` when it throws. -/
def findApproved : List Json → Option (Option Json)
  | [] => some none
  | requirement :: rest =>
      (isApprovedRoundWatchRequirement requirement).bind fun approved =>
        if approved then some (some requirement) else findApproved rest

/-- `requirements.filter(isApprovedRoundWatchRequirement)`; `none` when it throws. -/
def filterApproved : List Json → Option (List Json)
  | [] => some []
  | requirement :: rest =>
      (isApprovedRoundWatchRequirement requirement).bind fun approved =>
        (filterApproved rest).map fun kept => if approved then requirement :: kept else kept

inductive PaymentSafetyError where
  | version
  | resourceUrl
  | noRequirement
  | thrown
  deriving DecidableEq, Repr

/-- What an optional result throws. -/
def orThrown {α : Type} (value : Option α) : Except PaymentSafetyError α :=
  value.elim (.error .thrown) .ok

/-- `selectedRequirements ?? paymentRequired.accepts.find(…)`. -/
def requirementToCheck (paymentRequired : Json) :
    Option Json → Except PaymentSafetyError (Option Json)
  | some selected => .ok (some selected)
  | none =>
      match paymentRequired.get? "accepts" with
      | some (.arr accepts) => orThrown (findApproved accepts)
      | _ => .error .thrown

def assertApprovedRoundWatchPayment :
    Json → JsString → Option Json → Except PaymentSafetyError Unit
  | .null, _, _ => .error .thrown
  | paymentRequired, watchUrl, selectedRequirements =>
      (require (strictEquals (paymentRequired.get? "x402Version") (some (.num 2))) .version).bind
        fun _ =>
      (require (strictEquals ((paymentRequired.get? "resource").bind (·.get? "url"))
        (some (.str watchUrl))) .resourceUrl).bind fun _ =>
      (requirementToCheck paymentRequired selectedRequirements).bind fun approved =>
      match approved with
      | none => .error .noRequirement
      | some approved =>
          (orThrown (isApprovedRoundWatchRequirement approved)).bind fun ok =>
            require ok .noRequirement

/-- The policy that `installRoundWatchPaymentSafety` registers. -/
def paymentPolicy (x402Version : Option Json) (requirements : List Json) : Option (List Json) :=
  if strictEquals x402Version (some (.num 2)) then filterApproved requirements else some []

/-- A payment of the client with the policy and the hook of `installRoundWatchPaymentSafety`:
one of the requirements that the policy leaves, unless the hook aborts. -/
def createPayment (watchUrl : JsString) (paymentRequired : Json) (requirements : List Json)
    (selected : ℕ) : Option Json :=
  (paymentPolicy (paymentRequired.get? "x402Version") requirements).bind fun allowed =>
    (allowed[selected]?).bind fun requirement =>
      match assertApprovedRoundWatchPayment paymentRequired watchUrl (some requirement) with
      | .error _ => none
      | .ok _ => some requirement

/-! ## A run up to its first `await` -/

inductive RunnerMode where
  | preflight
  | start
  | recover
  | status
  | pay
  deriving DecidableEq, Repr

/-- What a run finds in its environment. -/
structure RunnerEnv where
  roundwatchServerUrl : Option JsString
  algorandAlgodUrl : Option JsString
  avmAddress : Option JsString
  /-- The address of the mnemonic; `none` when there is none, or none that is valid. -/
  account : Option { address : JsString // address ≠ [] }

def defaultAlgodUrl : JsString := js "https://mainnet-api.algonode.cloud"

def RunnerEnv.serverUrl (env : RunnerEnv) : JsString :=
  withoutTrailingSlashes (env.roundwatchServerUrl.getD defaultServerUrl)

def RunnerEnv.algodUrl (env : RunnerEnv) : JsString :=
  env.algorandAlgodUrl.getD defaultAlgodUrl

def RunnerEnv.watchUrl (env : RunnerEnv) : JsString := env.serverUrl ++ js "/v1/watch"

/-- Where a run is: what it awaits, and what it remembers. -/
inductive RunnerPhase where
  | preflightReady (sender : JsString)
  | preflightParams (sender : JsString)
  | preflightUnpaid
  | startReady (sender : JsString)
  | startUnpaid (sender : JsString) (state : Json)
  /-- In `fetchWithPayment`, before it has paid. -/
  | startPaying (sender : JsString) (state : Json)
  /-- In `fetchWithPayment`, with its payment on the way. -/
  | startPaid (sender : JsString) (state : Json)
  | startReading (sender : JsString) (state watchId : Json) (transaction : Option Json)
  | recovering (state : Json)
  | statusReading (state : Json)
  | payReading (state : Json)
  | payParams (sender : JsString) (state active : Json)
  /-- The invoice was signed; the rest of the run sends it and waits. -/
  | payConfirming
  | ended

/-- The file at `statePath`: absent, not JSON, or what is in it. -/
abbrev RunnerFile := Option (Option Json)

/-- `readState`; `none` when it throws. -/
def readState (file : RunnerFile) : Option Json := file.join

section Packages

variable (parse : UrlParser) (isValidAlgorandAddress : JsString → Bool)

def assertMainnetRuntimeSafety (serverUrl algodUrl : JsString) : Bool :=
  (normalizeHttpsUrl parse serverUrl).toOption == some defaultServerUrl &&
    (normalizeHttpsUrl parse algodUrl).toOption.isSome

def RunnerEnv.assertStaticSafety (env : RunnerEnv) : Bool :=
  assertMainnetRuntimeSafety parse env.serverUrl env.algodUrl &&
    env.avmAddress.all fun configured => configured.isEmpty || configured == expectedReceiver

/-- The checkpoint of a file, when it passes its checks. -/
def RunnerEnv.checkpoint (env : RunnerEnv) (file : RunnerFile) (requireWatchId : Bool) :
    Option Json :=
  (readState file).bind fun value =>
    (validateMainnetCheckpoint parse isValidAlgorandAddress value
      { runtimeServerUrl := env.serverUrl, requireWatchId := requireWatchId }).toOption

/-- `main`, up to its first `await`. -/
def RunnerEnv.launch (env : RunnerEnv) (mode : RunnerMode) (confirmed : Bool)
    (file : RunnerFile) : RunnerPhase :=
  if env.assertStaticSafety parse = false then .ended
  else
    match mode with
    | .preflight => env.account.elim .ended fun sender => .preflightReady sender.val
    | .status =>
        (env.checkpoint parse isValidAlgorandAddress file false).elim .ended fun state =>
          if truthy (state.get? "watchId") then .statusReading state else .ended
    | .recover =>
        (env.checkpoint parse isValidAlgorandAddress file false).elim .ended .recovering
    | .start =>
        if confirmed = false then .ended
        else
          env.account.elim .ended fun sender =>
            if file.isSome then .ended else .startReady sender.val
    | .pay =>
        if confirmed = false then .ended
        else (env.checkpoint parse isValidAlgorandAddress file true).elim .ended .payReading

end Packages

/-! ## The rest of a run -/

/-- What an `await` of a run comes to. -/
inductive RunnerAnswer where
  /-- The answer of `/ready`, and the `randomUUID` that is drawn behind it. -/
  | ready (ok : Bool) (body : Json) (nonce : { nonce : JsString // isUuid nonce = true })
  | params
  | unpaid (status : ℕ) (paymentRequired : Option Json)
  /-- The first answer inside `fetchWithPayment` asks for a payment. -/
  | challenge (paymentRequired : Json) (requirements : List Json) (selected : ℕ)
  /-- What `fetchWithPayment` returns. -/
  | paid (ok : Bool) (settlement body : Option Json)
  | http (answer : HttpAnswer)
  | threw

/-- The service payment that a run signs, and the request that carries it. -/
structure ServicePayment where
  payer : JsString
  request : Json
  state : Json
  paymentRequired : Json
  requirement : Json

/-- The asset transfer that pays an invoice. -/
structure InvoicePayment where
  signer : JsString
  sender : JsString
  receiver : JsString
  amount : ℕ
  assetIndex : ℤ
  note : JsString
  state : Json
  active : Json

/-- What a stretch of a run does. -/
structure Stretch where
  phase : RunnerPhase
  write : Option Json
  service : Option ServicePayment
  invoice : Option InvoicePayment

namespace Stretch

/-- A stretch that ends at the next `await`. -/
def await (phase : RunnerPhase) : Stretch := ⟨phase, none, none, none⟩

/-- The run ends, with an error or without. -/
def stop : Stretch := await .ended

end Stretch

def productionReady (ok : Bool) (body : Json) : Bool :=
  ok && strictEquals (body.get? "status") (some (.str (js "ready"))) &&
    strictEquals (body.get? "network") (some (.str (js "mainnet")))

/-- The checkpoint of a purchase that is about to begin. -/
def newCheckpoint (sender nonce : JsString) : Json := .obj
  [(js "network", .str algorandMainnet), (js "assetId", .num usdcMainnetAsaId),
    (js "serverUrl", .str defaultServerUrl), (js "idempotencyKey", .str (js "mainnet-" ++ nonce)),
    (js "expectedSender", .str sender), (js "expectedReceiver", .str expectedReceiver),
    (js "atomicAmount", .str invoiceAtomicAmount),
    (js "invoiceNote", .str (js "roundwatch:mainnet:" ++ nonce))]

def watchRequestNames : List String :=
  ["idempotencyKey", "expectedSender", "expectedReceiver", "atomicAmount", "invoiceNote"]

def watchRequestBody (state : Json) : Json :=
  .obj (Json.present (watchRequestNames.map fun name => (js name, state.get? name)))

/-- `response.ok`. -/
def HttpAnswer.ok (answer : HttpAnswer) : Bool := 200 ≤ answer.status && answer.status < 300

/-- The watch in an answer. -/
def HttpAnswer.watch (answer : HttpAnswer) : Option Json := answer.body.bind (·.get? "watch")

/-- A checkpoint with what its purchase came to. -/
def completedCheckpoint (state watchId : Json) (transaction : Option Json) : Json :=
  match withWatchId state watchId, transaction with
  | .obj fields, some transaction =>
      .obj (Json.insert fields (js "serviceSettlementTransaction") transaction)
  | state, _ => state

/-- The transfer that `payInvoice` makes of a checkpoint. -/
def payInvoiceTransfer (signer : JsString) (state active : Json) : Option InvoicePayment :=
  (textField state "expectedSender").bind fun sender =>
  (textField state "expectedReceiver").bind fun receiver =>
  ((textField state "atomicAmount").bind (digitsValue? 10 0)).bind fun amount =>
  (textField state "invoiceNote").map fun note =>
    { signer := signer
      sender := sender
      receiver := receiver
      amount := amount
      assetIndex := usdcMainnetAsaId
      note := note
      state := state
      active := active }

section Runs

variable (parse : UrlParser) (isValidAlgorandAddress : JsString → Bool) (env : RunnerEnv)

/-- `startWatch`, behind `fetchWithPayment`. -/
def purchased (sender : JsString) (state : Json) (ok : Bool) (settlement body : Option Json) :
    Stretch :=
  match settlement, body.bind (·.get? "watchId") with
  | some settlement, some watchId =>
      if (ok && truthy (settlement.get? "success") &&
          strictEquals (settlement.get? "network") (some (.str algorandMainnet)) &&
          truthy (some watchId)) = true then
        .await (.startReading sender state watchId (settlement.get? "transaction"))
      else .stop
  | _, _ => .stop

/-- `startWatch`, behind `readWatch`, and the write of `main`. -/
def completed (sender : JsString) (state watchId : Json) (transaction : Option Json)
    (answer : HttpAnswer) : Stretch :=
  match answer.watch with
  | some active =>
      if (answer.ok && watchStateIn active ["active"]) = true then
        match validateMainnetCheckpoint parse isValidAlgorandAddress
            (completedCheckpoint state watchId transaction)
            { runtimeServerUrl := env.serverUrl, payerAddress := some sender,
              requireWatchId := true, watch := some active } with
        | .ok completed => { Stretch.stop with write := some completed }
        | .error _ => .stop
      else .stop
  | none => .stop

/-- `recoverWatch`, behind its one `fetch`. -/
def recoveredCheckpoint (state : Json) (answer : HttpAnswer) : Option Json :=
  if truthy (state.get? "watchId") then
    if answer.status = 200 then
      answer.watch.bind fun existing =>
        (textField state "expectedSender").bind fun sender =>
          (validateRecoveredMainnetCheckpoint parse isValidAlgorandAddress state existing
            env.serverUrl sender).toOption
    else none
  else
    (recoverExistingMainnetWatch parse isValidAlgorandAddress (fun _ => answer) state
      env.serverUrl).toOption

/-- `payInvoice`, behind `readWatch`. -/
def payable (state : Json) (answer : HttpAnswer) : Stretch :=
  match answer.watch with
  | some active =>
      let validates := fun payerAddress =>
        (validateMainnetCheckpoint parse isValidAlgorandAddress state
          { runtimeServerUrl := env.serverUrl, payerAddress := payerAddress,
            requireWatchId := true, watch := some active }).toOption.isSome
      if (answer.ok && validates none && watchStateIn active ["active"]) = true then
        match env.account with
        | some sender =>
            if validates (some sender.val) then .await (.payParams sender.val state active)
            else .stop
        | none => .stop
      else .stop
  | none => .stop

/-- A run from one `await` to the next.  An answer that is not the one it awaits changes
nothing. -/
def proceed (phase : RunnerPhase) (answer : RunnerAnswer) : Stretch :=
  match phase, answer with
  | _, .threw => .stop
  | .preflightReady sender, .ready ok body _ =>
      if productionReady ok body then .await (.preflightParams sender) else .stop
  | .preflightParams _, .params => .await .preflightUnpaid
  | .preflightUnpaid, .unpaid .. => .stop
  | .startReady sender, .ready ok body nonce =>
      if productionReady ok body then
        let state := newCheckpoint sender nonce.val
        { Stretch.await (.startUnpaid sender state) with write := some state }
      else .stop
  | .startUnpaid sender state, .unpaid status paymentRequired =>
      match paymentRequired with
      | some paymentRequired =>
          if status = 402 ∧ (assertApprovedRoundWatchPayment paymentRequired env.watchUrl
              none).toOption.isSome = true then .await (.startPaying sender state)
          else .stop
      | none => .stop
  | .startPaying sender state, .challenge paymentRequired requirements selected =>
      match createPayment env.watchUrl paymentRequired requirements selected with
      | some requirement =>
          { Stretch.await (.startPaid sender state) with
            service := some
              { payer := sender
                request := watchRequestBody state
                state := state
                paymentRequired := paymentRequired
                requirement := requirement } }
      | none => .stop
  | .startPaying sender state, .paid ok settlement body => purchased sender state ok settlement body
  | .startPaid sender state, .paid ok settlement body => purchased sender state ok settlement body
  | .startReading sender state watchId transaction, .http answer =>
      completed parse isValidAlgorandAddress env sender state watchId transaction answer
  | .recovering state, .http answer =>
      { Stretch.stop with
        write := recoveredCheckpoint parse isValidAlgorandAddress env state answer }
  | .statusReading _, .http _ => .stop
  | .payReading state, .http answer => payable parse isValidAlgorandAddress env state answer
  | .payParams sender state active, .params =>
      match payInvoiceTransfer sender state active with
      | some invoice => { Stretch.await .payConfirming with invoice := some invoice }
      | none => .stop
  | phase, _ => .await phase

end Runs

/-! ## All runs -/

structure RunnerRun where
  env : RunnerEnv
  mode : RunnerMode
  confirmed : Bool
  phase : RunnerPhase

/-- A payment, with the run that signed it and the file as it was then. -/
structure SignedPayment (α : Type) where
  index : ℕ
  run : RunnerRun
  payment : α
  file : RunnerFile
  /-- How often the file had been removed. -/
  removals : ℕ

structure RunnerWorld where
  file : RunnerFile
  removals : ℕ
  runs : List RunnerRun
  services : List (SignedPayment ServicePayment)
  invoices : List (SignedPayment InvoicePayment)

inductive RunnerEvent where
  | launch (env : RunnerEnv) (mode : RunnerMode) (confirmed : Bool)
  | answer (run : ℕ) (answer : RunnerAnswer)
  /-- The run is cut off where it waits or, with an answer, in the write behind it. -/
  | crash (run : ℕ) (writing : Option RunnerAnswer)
  /-- The operator removes the checkpoint. -/
  | remove

namespace RunnerWorld

def opened (file : RunnerFile) : RunnerWorld := ⟨file, 0, [], [], []⟩

/-- A stretch of a run has come to its end. -/
def advance (w : RunnerWorld) (i : ℕ) (run : RunnerRun) (s : Stretch) : RunnerWorld where
  file := s.write.elim w.file fun state => some (some state)
  removals := w.removals
  runs := w.runs.set i { run with phase := s.phase }
  services := w.services ++ (s.service.map fun p => ⟨i, run, p, w.file, w.removals⟩).toList
  invoices := w.invoices ++ (s.invoice.map fun p => ⟨i, run, p, w.file, w.removals⟩).toList

def step (parse : UrlParser) (isValidAlgorandAddress : JsString → Bool) (w : RunnerWorld) :
    RunnerEvent → RunnerWorld
  | .launch env mode confirmed =>
      { w with
        runs := w.runs ++
          [⟨env, mode, confirmed, env.launch parse isValidAlgorandAddress mode confirmed w.file⟩] }
  | .answer i answer =>
      match w.runs[i]? with
      | some run =>
          w.advance i run (proceed parse isValidAlgorandAddress run.env run.phase answer)
      | none => w
  | .crash i writing =>
      match w.runs[i]? with
      | some run =>
          let torn := writing.any fun answer =>
            (proceed parse isValidAlgorandAddress run.env run.phase answer).write.isSome
          { w.advance i run .stop with file := if torn then some none else w.file }
      | none => w
  | .remove => { w with file := none, removals := w.removals + 1 }

/-- What a schedule leaves, from the file it found. -/
def after (parse : UrlParser) (isValidAlgorandAddress : JsString → Bool) (file : RunnerFile)
    (es : List RunnerEvent) : RunnerWorld :=
  Runs.run (step parse isValidAlgorandAddress) (opened file) es

end RunnerWorld

end RoundWatch
