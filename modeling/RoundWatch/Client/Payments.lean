import RoundWatch.Client.Runner

/-!
# What the runner signs

* `ApprovedRequirement`, `createPayment_eq_some` — the one requirement that is ever paid;
* `Launched`, `Proceeded` — how a run can begin, and what a stretch of it can do;
* `RunnerRun.Fits` — what a run has checked in the phase it is in;
* `payments_approved` — every payment of every schedule, whatever the servers answer.
-/

namespace RoundWatch

open JsText Checks

/-! ## The approved requirement -/

/-- A requirement that is paid: ten cents of USDC for the service, on the mainnet. -/
structure ApprovedRequirement (requirement : Json) : Prop where
  scheme : requirement.get? "scheme" = some (.str (js "exact"))
  network : requirement.get? "network" = some (.str algorandMainnet)
  amount : requirement.get? "amount" = some (.str serviceAtomicAmount)
  asset : requirement.get? "asset" = some (.str (js "31566704"))
  payTo : requirement.get? "payTo" = some (.str expectedReceiver)
  tag : (requirement.get? "extra").bind (·.get? "tag") = some (.str challengeTag)

theorem approved_of_isApproved {requirement : Json}
    (h : isApprovedRoundWatchRequirement requirement = some true) :
    ApprovedRequirement requirement := by
  unfold isApprovedRoundWatchRequirement at h
  split at h
  · cases h
  · simp only [Option.some_inj, Bool.and_eq_true, strictEquals_str] at h
    obtain ⟨⟨⟨⟨⟨⟨hscheme, hnetwork⟩, hamount⟩, hasset⟩, hpayTo⟩, htag⟩, -⟩ := h
    exact ⟨hscheme, hnetwork, hamount, hasset, hpayTo, htag⟩

theorem assertApproved_ok {paymentRequired : Json} {watchUrl : JsString} {requirement : Json}
    {u : Unit} (h : assertApprovedRoundWatchPayment paymentRequired watchUrl (some requirement) =
      .ok u) :
    paymentRequired.get? "x402Version" = some (.num 2) ∧
      (paymentRequired.get? "resource").bind (·.get? "url") = some (.str watchUrl) ∧
      ApprovedRequirement requirement := by
  unfold assertApprovedRoundWatchPayment at h
  split at h
  · cases h
  · obtain ⟨hversion, h⟩ := require_bind_eq_ok.1 h
    obtain ⟨hurl, h⟩ := require_bind_eq_ok.1 h
    refine ⟨strictEquals_num.1 hversion, strictEquals_str.1 hurl, ?_⟩
    obtain ⟨approved, hok, hrequire⟩ :
        ∃ ok, orThrown (isApprovedRoundWatchRequirement requirement) = .ok ok ∧
          require ok PaymentSafetyError.noRequirement = .ok u := bind_eq_ok.1 h
    obtain rfl := require_eq_ok.1 hrequire
    refine approved_of_isApproved ?_
    cases happroved : isApprovedRoundWatchRequirement requirement with
    | none =>
        rw [happroved] at hok
        cases hok
    | some value =>
        rw [happroved] at hok
        cases hok
        rfl

/-- **Only the approved requirement is paid.** -/
theorem createPayment_eq_some {watchUrl : JsString} {paymentRequired requirement : Json}
    {requirements : List Json} {selected : ℕ}
    (h : createPayment watchUrl paymentRequired requirements selected = some requirement) :
    paymentRequired.get? "x402Version" = some (.num 2) ∧
      (paymentRequired.get? "resource").bind (·.get? "url") = some (.str watchUrl) ∧
      ApprovedRequirement requirement := by
  unfold createPayment at h
  obtain ⟨allowed, -, h⟩ := Option.bind_eq_some_iff.1 h
  obtain ⟨chosen, -, h⟩ := Option.bind_eq_some_iff.1 h
  split at h
  · cases h
  · rename_i hok
    cases h
    exact assertApproved_ok hok

/-! ## Checkpoints of one purchase -/

/-- The two checkpoints are of one purchase: they differ in what became of it. -/
def SamePurchase (j j' : Json) : Prop :=
  ∀ name : String, js name ≠ js "watchId" → js name ≠ js "serviceSettlementTransaction" →
    j.get? name = j'.get? name

namespace SamePurchase

variable {j j' j'' : Json}

theorem refl (j : Json) : SamePurchase j j := fun _ _ _ => rfl

theorem symm (h : SamePurchase j j') : SamePurchase j' j :=
  fun name hid htransaction => (h name hid htransaction).symm

theorem trans (h : SamePurchase j j') (h' : SamePurchase j' j'') : SamePurchase j j'' :=
  fun name hid htransaction => (h name hid htransaction).trans (h' name hid htransaction)

theorem withWatchId (j id : Json) : SamePurchase (RoundWatch.withWatchId j id) j :=
  fun _ hid _ => get?_withWatchId hid id

theorem completed (j id : Json) (transaction : Option Json) :
    SamePurchase (completedCheckpoint j id transaction) j := by
  refine trans ?_ (withWatchId j id)
  intro name hid htransaction
  unfold completedCheckpoint
  split
  · rename_i fields transaction hfields
    rw [hfields]
    exact Json.lookup_insert_other htransaction fields transaction
  · rfl

end SamePurchase

theorem toOption_eq_some {ε α : Type} {x : Except ε α} {a : α} :
    x.toOption = some a ↔ x = .ok a := by
  cases x <;> simp [Except.toOption]

section Runs

variable {parse : UrlParser} {isValidAlgorandAddress : JsString → Bool}

theorem validCheckpoint_newCheckpoint {serverUrl sender nonce : JsString}
    (hserver : normalizeHttpsUrl parse serverUrl = .ok defaultServerUrl)
    (hsender : isValidAlgorandAddress sender = true) (hnonce : isUuid nonce = true) :
    ValidCheckpoint parse isValidAlgorandAddress serverUrl (newCheckpoint sender nonce) where
  isObject := ⟨_, rfl⟩
  runtime := hserver
  network := rfl
  assetId := rfl
  serverUrl := rfl
  sender := ⟨sender, rfl, hsender⟩
  receiver := rfl
  amount := rfl
  nonce := ⟨nonce, hnonce, rfl, rfl⟩
  watchId := rfl

/-- What a recovery writes. -/
theorem recoveredCheckpoint_some {env : RunnerEnv} {state j : Json} {answer : HttpAnswer}
    (h : recoveredCheckpoint parse isValidAlgorandAddress env state answer = some j) :
    ValidCheckpoint parse isValidAlgorandAddress env.serverUrl j ∧ SamePurchase j state := by
  unfold recoveredCheckpoint at h
  split at h
  · split at h
    · obtain ⟨existing, -, h⟩ := Option.bind_eq_some_iff.1 h
      obtain ⟨sender, -, h⟩ := Option.bind_eq_some_iff.1 h
      obtain ⟨rfl, hvalid, -⟩ := validateRecoveredMainnetCheckpoint_ok.1 (toOption_eq_some.1 h)
      exact ⟨hvalid, .refl j⟩
    · cases h
  · obtain ⟨hvalid, -, -, -, -, id, -, -, -, huuid, -, rfl⟩ :=
      recoverExistingMainnetWatch_ok.1 (toOption_eq_some.1 h)
    exact ⟨hvalid.withWatchId huuid, .withWatchId state (.str id)⟩

/-! ## What a run is -/

/-- The server of the run is the approved one. -/
def RunnerEnv.Safe (parse : UrlParser) (env : RunnerEnv) : Prop :=
  normalizeHttpsUrl parse env.serverUrl = .ok defaultServerUrl

/-- A run that may buy: it was asked to, and with the flag. -/
structure RunnerRun.Buys (parse : UrlParser) (run : RunnerRun) (sender : JsString) : Prop where
  mode : run.mode = .start
  confirmed : run.confirmed = true
  safe : run.env.Safe parse
  account : ∃ hne, run.env.account = some ⟨sender, hne⟩

theorem RunnerRun.Buys.withPhase {parse : UrlParser} {run : RunnerRun} {sender : JsString}
    (h : run.Buys parse sender) (phase : RunnerPhase) :
    RunnerRun.Buys parse { run with phase := phase } sender :=
  ⟨h.mode, h.confirmed, h.safe, h.account⟩

/-- A run that may pay the invoice of a checkpoint. -/
structure RunnerRun.Pays (parse : UrlParser) (isValidAlgorandAddress : JsString → Bool)
    (run : RunnerRun) (state : Json) : Prop where
  mode : run.mode = .pay
  confirmed : run.confirmed = true
  valid : ValidCheckpoint parse isValidAlgorandAddress run.env.serverUrl state

/-- The watch that a checkpoint names, on its terms, and waiting for its transfer. -/
structure ActiveWatch (state active : Json) : Prop extends SameTerms state active where
  id : strictEquals (active.get? "id") (state.get? "watchId") = true
  state : watchStateIn active ["active"] = true

/-- What a run has checked in the phase it is in. -/
def RunnerRun.Fits (parse : UrlParser) (isValidAlgorandAddress : JsString → Bool)
    (run : RunnerRun) : Prop :=
  match run.phase with
  | .preflightReady _ | .preflightParams _ | .preflightUnpaid => run.mode = .preflight
  | .startReady sender => run.Buys parse sender
  | .startUnpaid sender state | .startPaying sender state | .startPaid sender state
  | .startReading sender state .. =>
      run.Buys parse sender ∧ ∃ nonce, isUuid nonce = true ∧ state = newCheckpoint sender nonce
  | .recovering state =>
      run.mode = .recover ∧ ValidCheckpoint parse isValidAlgorandAddress run.env.serverUrl state
  | .statusReading _ => run.mode = .status
  | .payReading state => run.Pays parse isValidAlgorandAddress state
  | .payParams sender state active =>
      run.Pays parse isValidAlgorandAddress state ∧
        (∃ hne, run.env.account = some ⟨sender, hne⟩) ∧
        state.get? "expectedSender" = some (.str sender) ∧ ActiveWatch state active
  | .payConfirming => run.mode = .pay
  | .ended => True

/-- A checkpoint that is read from the file is valid, and it is the one in the file. -/
theorem RunnerEnv.checkpoint_some {env : RunnerEnv} {file : RunnerFile} {required : Bool}
    {state : Json} (h : env.checkpoint parse isValidAlgorandAddress file required = some state) :
    file = some (some state) ∧
      ValidCheckpoint parse isValidAlgorandAddress env.serverUrl state := by
  unfold checkpoint at h
  obtain ⟨value, hvalue, h⟩ := Option.bind_eq_some_iff.1 h
  obtain ⟨rfl, hvalid, -⟩ := validateMainnetCheckpoint_ok.1 (toOption_eq_some.1 h)
  exact ⟨Option.join_eq_some_iff.1 hvalue, hvalid⟩

theorem RunnerEnv.safe_of_assertStaticSafety {env : RunnerEnv}
    (h : env.assertStaticSafety parse ≠ false) : env.Safe parse := by
  rw [Bool.ne_false_iff, assertStaticSafety, assertMainnetRuntimeSafety, Bool.and_eq_true,
    Bool.and_eq_true, beq_iff_eq] at h
  exact toOption_eq_some.1 h.1.1

/-- **How a run can begin.** -/
inductive Launched (parse : UrlParser) (isValidAlgorandAddress : JsString → Bool)
    (env : RunnerEnv) (file : RunnerFile) : RunnerMode → Bool → RunnerPhase → Prop
  | refuse (mode : RunnerMode) (confirmed : Bool) :
      Launched parse isValidAlgorandAddress env file mode confirmed .ended
  | preflight (confirmed : Bool) (sender : JsString) :
      Launched parse isValidAlgorandAddress env file .preflight confirmed (.preflightReady sender)
  | status (confirmed : Bool) (state : Json) :
      Launched parse isValidAlgorandAddress env file .status confirmed (.statusReading state)
  | recover (confirmed : Bool) (state : Json) : file = some (some state) →
      ValidCheckpoint parse isValidAlgorandAddress env.serverUrl state →
      Launched parse isValidAlgorandAddress env file .recover confirmed (.recovering state)
  | start (sender : JsString) (hne : sender ≠ []) : env.Safe parse →
      env.account = some ⟨sender, hne⟩ → file = none →
      Launched parse isValidAlgorandAddress env file .start true (.startReady sender)
  | pay (state : Json) : ValidCheckpoint parse isValidAlgorandAddress env.serverUrl state →
      Launched parse isValidAlgorandAddress env file .pay true (.payReading state)

theorem launched (env : RunnerEnv) (mode : RunnerMode) (confirmed : Bool) (file : RunnerFile) :
    Launched parse isValidAlgorandAddress env file mode confirmed
      (env.launch parse isValidAlgorandAddress mode confirmed file) := by
  unfold RunnerEnv.launch
  split
  · exact .refuse _ _
  rename_i hsafe
  have hserver := RunnerEnv.safe_of_assertStaticSafety hsafe
  cases mode with
  | preflight =>
      cases env.account with
      | none => exact .refuse _ _
      | some sender => exact .preflight _ _
  | status =>
      dsimp only
      cases hstate : env.checkpoint parse isValidAlgorandAddress file false with
      | none => exact .refuse _ _
      | some state =>
          dsimp only [Option.elim]
          split
          · exact .status _ _
          · exact .refuse _ _
  | recover =>
      dsimp only
      cases hstate : env.checkpoint parse isValidAlgorandAddress file false with
      | none => exact .refuse _ _
      | some state =>
          obtain ⟨hfile, hvalid⟩ := RunnerEnv.checkpoint_some hstate
          exact .recover _ _ hfile hvalid
  | start =>
      dsimp only
      cases confirmed with
      | false => exact .refuse _ _
      | true =>
          cases haccount : env.account with
          | none => exact .refuse _ _
          | some sender =>
              cases hfile : file with
              | some state => exact .refuse _ _
              | none => exact .start sender.val sender.property hserver haccount rfl
  | pay =>
      dsimp only
      cases confirmed with
      | false => exact .refuse _ _
      | true =>
          cases hstate : env.checkpoint parse isValidAlgorandAddress file true with
          | none => exact .refuse _ _
          | some state => exact .pay _ (RunnerEnv.checkpoint_some hstate).2

/-- A run begins with its checks. -/
theorem Launched.fits {env : RunnerEnv} {file : RunnerFile} {mode : RunnerMode}
    {confirmed : Bool} {phase : RunnerPhase}
    (h : Launched parse isValidAlgorandAddress env file mode confirmed phase) :
    RunnerRun.Fits parse isValidAlgorandAddress ⟨env, mode, confirmed, phase⟩ := by
  cases h with
  | refuse => trivial
  | preflight | status => rfl
  | recover state _ _ hvalid => exact ⟨rfl, hvalid⟩
  | start sender hne hsafe haccount => exact ⟨rfl, rfl, hsafe, hne, haccount⟩
  | pay state hvalid => exact ⟨rfl, rfl, hvalid⟩

/-! ## What a stretch can do -/

/-- **What a stretch of a run can do.** -/
inductive Proceeded (parse : UrlParser) (isValidAlgorandAddress : JsString → Bool)
    (env : RunnerEnv) : RunnerPhase → Stretch → Prop
  | wait (phase : RunnerPhase) : Proceeded parse isValidAlgorandAddress env phase (.await phase)
  | stop (phase : RunnerPhase) : Proceeded parse isValidAlgorandAddress env phase .stop
  | preflightReady (sender : JsString) :
      Proceeded parse isValidAlgorandAddress env (.preflightReady sender)
        (.await (.preflightParams sender))
  | preflightParams (sender : JsString) :
      Proceeded parse isValidAlgorandAddress env (.preflightParams sender) (.await .preflightUnpaid)
  | begin (sender nonce : JsString) : isUuid nonce = true →
      Proceeded parse isValidAlgorandAddress env (.startReady sender)
        { Stretch.await (.startUnpaid sender (newCheckpoint sender nonce)) with
          write := some (newCheckpoint sender nonce) }
  | challenged (sender : JsString) (state : Json) :
      Proceeded parse isValidAlgorandAddress env (.startUnpaid sender state)
        (.await (.startPaying sender state))
  | pay (sender : JsString) (state paymentRequired requirement : Json) :
      paymentRequired.get? "x402Version" = some (.num 2) →
      (paymentRequired.get? "resource").bind (·.get? "url") = some (.str env.watchUrl) →
      ApprovedRequirement requirement →
      Proceeded parse isValidAlgorandAddress env (.startPaying sender state)
        { Stretch.await (.startPaid sender state) with
          service := some ⟨sender, watchRequestBody state, state, paymentRequired, requirement⟩ }
  | unpaid (sender : JsString) (state watchId : Json) (transaction : Option Json) :
      Proceeded parse isValidAlgorandAddress env (.startPaying sender state)
        (.await (.startReading sender state watchId transaction))
  | paid (sender : JsString) (state watchId : Json) (transaction : Option Json) :
      Proceeded parse isValidAlgorandAddress env (.startPaid sender state)
        (.await (.startReading sender state watchId transaction))
  | complete (sender : JsString) (state watchId : Json) (transaction : Option Json) :
      ValidCheckpoint parse isValidAlgorandAddress env.serverUrl
        (completedCheckpoint state watchId transaction) →
      Proceeded parse isValidAlgorandAddress env (.startReading sender state watchId transaction)
        { Stretch.stop with write := some (completedCheckpoint state watchId transaction) }
  | recover (state j : Json) :
      ValidCheckpoint parse isValidAlgorandAddress env.serverUrl j → SamePurchase j state →
      Proceeded parse isValidAlgorandAddress env (.recovering state)
        { Stretch.stop with write := some j }
  | due {sender : JsString} {hne : sender ≠ []} (state active : Json) :
      env.account = some ⟨sender, hne⟩ → state.get? "expectedSender" = some (.str sender) →
      ActiveWatch state active →
      Proceeded parse isValidAlgorandAddress env (.payReading state)
        (.await (.payParams sender state active))
  | invoice (sender : JsString) (state active : Json) (invoice : InvoicePayment) :
      payInvoiceTransfer sender state active = some invoice →
      Proceeded parse isValidAlgorandAddress env (.payParams sender state active)
        { Stretch.await .payConfirming with invoice := some invoice }

theorem proceeded_purchased {env : RunnerEnv} {phase : RunnerPhase} {sender : JsString}
    {state : Json} (h : ∀ watchId transaction, Proceeded parse isValidAlgorandAddress env phase
      (.await (.startReading sender state watchId transaction)))
    (ok : Bool) (settlement body : Option Json) :
    Proceeded parse isValidAlgorandAddress env phase (purchased sender state ok settlement body) := by
  unfold purchased
  split
  · split
    · exact h _ _
    · exact .stop _
  · exact .stop _

theorem proceeded_payable {env : RunnerEnv} {state : Json} (answer : HttpAnswer) :
    Proceeded parse isValidAlgorandAddress env (.payReading state)
      (payable parse isValidAlgorandAddress env state answer) := by
  unfold payable
  dsimp only
  split
  · rename_i active hactive
    split
    · rename_i hchecked
      split
      · rename_i sender haccount
        split
        · rename_i hpayer
          obtain ⟨j, hj⟩ := Option.isSome_iff_exists.1 hpayer
          obtain ⟨-, -, hoptions⟩ := validateMainnetCheckpoint_ok.1 (toOption_eq_some.1 hj)
          obtain ⟨⟨-, hid⟩, -, hterms⟩ := validateWatchSnapshot_ok.1 (hoptions.watch active rfl)
          rw [Bool.and_eq_true] at hchecked
          exact .due state active haccount (hoptions.payer _ rfl sender.property)
            ⟨hterms, hid, hchecked.2⟩
        · exact .stop _
      · exact .stop _
    · exact .stop _
  · exact .stop _

theorem proceeded (env : RunnerEnv) (phase : RunnerPhase) (answer : RunnerAnswer) :
    Proceeded parse isValidAlgorandAddress env phase
      (proceed parse isValidAlgorandAddress env phase answer) := by
  unfold proceed
  split
  · exact .stop _
  · split
    · exact .preflightReady _
    · exact .stop _
  · exact .preflightParams _
  · exact .stop _
  · split
    · rename_i nonce _
      exact .begin _ _ nonce.property
    · exact .stop _
  · split
    · split
      · exact .challenged _ _
      · exact .stop _
    · exact .stop _
  · split
    · rename_i hpayment
      obtain ⟨hversion, hurl, happroved⟩ := createPayment_eq_some hpayment
      exact .pay _ _ _ _ hversion hurl happroved
    · exact .stop _
  · exact proceeded_purchased (fun _ _ => .unpaid _ _ _ _) _ _ _
  · exact proceeded_purchased (fun _ _ => .paid _ _ _ _) _ _ _
  · unfold completed
    split
    · split
      · split
        · rename_i hok
          obtain ⟨rfl, hvalid, -⟩ := validateMainnetCheckpoint_ok.1 hok
          exact .complete _ _ _ _ hvalid
        · exact .stop _
      · exact .stop _
    · exact .stop _
  · rename_i state answer
    cases hwrite : recoveredCheckpoint parse isValidAlgorandAddress env state answer with
    | none => exact .stop _
    | some j =>
        obtain ⟨hvalid, hsame⟩ := recoveredCheckpoint_some hwrite
        exact .recover state j hvalid hsame
  · exact .stop _
  · exact proceeded_payable _
  · split
    · rename_i hinvoice
      exact .invoice _ _ _ _ hinvoice
    · exact .stop _
  · exact .wait _

/-- **The step lemma for runs.** -/
theorem Proceeded.fits {run : RunnerRun} {s : Stretch}
    (hact : Proceeded parse isValidAlgorandAddress run.env run.phase s)
    (h : run.Fits parse isValidAlgorandAddress) :
    RunnerRun.Fits parse isValidAlgorandAddress { run with phase := s.phase } := by
  obtain ⟨env, mode, confirmed, phase⟩ := run
  cases hact with
  | wait => exact h
  | stop => trivial
  | preflightReady => exact h
  | preflightParams => exact h
  | begin sender nonce hnonce => exact ⟨RunnerRun.Buys.withPhase h _, nonce, hnonce, rfl⟩
  | challenged => exact ⟨h.1.withPhase _, h.2⟩
  | pay => exact ⟨h.1.withPhase _, h.2⟩
  | unpaid => exact ⟨h.1.withPhase _, h.2⟩
  | paid => exact ⟨h.1.withPhase _, h.2⟩
  | complete => trivial
  | recover => trivial
  | due state active haccount hsender hwatch =>
      exact ⟨⟨h.mode, h.confirmed, h.valid⟩, ⟨_, haccount⟩, hsender, hwatch⟩
  | invoice sender state active invoice hinvoice => exact h.1.mode

/-- The run may still sign a service payment. -/
def RunnerPhase.beforePayment : RunnerPhase → Bool
  | .startReady _ | .startUnpaid .. | .startPaying .. => true
  | _ => false

theorem Proceeded.beforePayment {env : RunnerEnv} {phase : RunnerPhase} {s : Stretch}
    (hact : Proceeded parse isValidAlgorandAddress env phase s) (h : phase.beforePayment = false) :
    s.phase.beforePayment = false := by
  cases hact with
  | wait => exact h
  | begin | challenged => cases h
  | _ => rfl

/-- What a stretch signs. -/
theorem Proceeded.service {env : RunnerEnv} {phase : RunnerPhase} {s : Stretch}
    (hact : Proceeded parse isValidAlgorandAddress env phase s) {p : ServicePayment}
    (hp : s.service = some p) :
    phase = .startPaying p.payer p.state ∧ s.phase = .startPaid p.payer p.state ∧
      s.write = none ∧ p.request = watchRequestBody p.state ∧
      p.paymentRequired.get? "x402Version" = some (.num 2) ∧
      (p.paymentRequired.get? "resource").bind (·.get? "url") = some (.str env.watchUrl) ∧
      ApprovedRequirement p.requirement := by
  cases hact with
  | pay sender state paymentRequired requirement hversion hurl happroved =>
      cases hp
      exact ⟨rfl, rfl, rfl, rfl, hversion, hurl, happroved⟩
  | _ => cases hp

/-- What a stretch transfers. -/
theorem Proceeded.transfer {env : RunnerEnv} {phase : RunnerPhase} {s : Stretch}
    (hact : Proceeded parse isValidAlgorandAddress env phase s) {p : InvoicePayment}
    (hp : s.invoice = some p) : ∃ sender state active,
      phase = .payParams sender state active ∧ payInvoiceTransfer sender state active = some p := by
  cases hact with
  | invoice sender state active invoice hinvoice =>
      cases hp
      exact ⟨sender, state, active, rfl, hinvoice⟩
  | _ => cases hp

/-! ## Every payment -/

/-- A service payment that is as it should be: ten cents for the approved offer of the
approved server, of the account of a run that was asked to buy and had the flag, for a
checkpoint of its own. -/
structure ServiceApproved (parse : UrlParser) (p : SignedPayment ServicePayment) : Prop where
  buys : p.run.Buys parse p.payment.payer
  version : p.payment.paymentRequired.get? "x402Version" = some (.num 2)
  resource : (p.payment.paymentRequired.get? "resource").bind (·.get? "url") =
    some (.str p.run.env.watchUrl)
  requirement : ApprovedRequirement p.payment.requirement
  state : ∃ nonce, isUuid nonce = true ∧ p.payment.state = newCheckpoint p.payment.payer nonce
  request : p.payment.request = watchRequestBody p.payment.state

/-- An invoice payment that is as it should be: one unit of USDC from the account of the run,
which is the sender of its checkpoint, to the approved receiver, with the note of the
checkpoint, for its watch that was active. -/
structure InvoiceApproved (parse : UrlParser) (isValidAlgorandAddress : JsString → Bool)
    (p : SignedPayment InvoicePayment) : Prop where
  pays : p.run.Pays parse isValidAlgorandAddress p.payment.state
  account : ∃ hne, p.run.env.account = some ⟨p.payment.signer, hne⟩
  sender : p.payment.sender = p.payment.signer
  receiver : p.payment.receiver = expectedReceiver
  amount : p.payment.amount = 1
  asset : p.payment.assetIndex = usdcMainnetAsaId
  note : ∃ nonce, isUuid nonce = true ∧ p.payment.note = js "roundwatch:mainnet:" ++ nonce ∧
    p.payment.state.get? "idempotencyKey" = some (.str (js "mainnet-" ++ nonce))
  watch : ActiveWatch p.payment.state p.payment.active

/-- The transfer of a valid checkpoint. -/
theorem invoiceApproved {index : ℕ} {run : RunnerRun} {sender : JsString} {state active : Json}
    {invoice : InvoicePayment} {file : RunnerFile} {removals : ℕ}
    (h : payInvoiceTransfer sender state active = some invoice)
    (hpays : run.Pays parse isValidAlgorandAddress state)
    (haccount : ∃ hne, run.env.account = some ⟨sender, hne⟩)
    (hsender : state.get? "expectedSender" = some (.str sender))
    (hwatch : ActiveWatch state active) :
    InvoiceApproved parse isValidAlgorandAddress ⟨index, run, invoice, file, removals⟩ := by
  obtain ⟨nonce, huuid, hkey, hnote⟩ := hpays.valid.nonce
  have hone : digitsValue? 10 0 invoiceAtomicAmount = some 1 := by decide
  simp only [payInvoiceTransfer, textField_eq_some.2 hsender, textField_eq_some.2 hpays.valid.receiver,
    textField_eq_some.2 hpays.valid.amount, textField_eq_some.2 hnote, hone, Option.bind_some,
    Option.map_some, Option.some_inj] at h
  subst h
  exact ⟨hpays, haccount, rfl, rfl, rfl, rfl, ⟨nonce, huuid, rfl, hkey⟩, hwatch⟩

end Runs

namespace RunnerWorld

variable {parse : UrlParser} {isValidAlgorandAddress : JsString → Bool} {w : RunnerWorld}

/-- What holds of every payment and every run, at every moment. -/
structure Vouched (parse : UrlParser) (isValidAlgorandAddress : JsString → Bool)
    (w : RunnerWorld) : Prop where
  fits : ∀ run ∈ w.runs, run.Fits parse isValidAlgorandAddress
  services : ∀ p ∈ w.services, ServiceApproved parse p
  invoices : ∀ p ∈ w.invoices, InvoiceApproved parse isValidAlgorandAddress p
  once : (w.services.map SignedPayment.index).Nodup
  signed : ∀ p ∈ w.services, ∃ run, w.runs[p.index]? = some run ∧ run.phase.beforePayment = false

/-- A stretch of a run, and all that is known of it. -/
theorem Vouched.advance (h : w.Vouched parse isValidAlgorandAddress) {i : ℕ} {run : RunnerRun}
    (hrun : w.runs[i]? = some run) {s : Stretch}
    (hact : Proceeded parse isValidAlgorandAddress run.env run.phase s) :
    (w.advance i run s).Vouched parse isValidAlgorandAddress := by
  have hfits := h.fits run (List.mem_of_getElem? hrun)
  have hlt : i < w.runs.length := (List.getElem?_eq_some_iff.1 hrun).1
  -- runs that have signed stay so
  have hsigned : ∀ p ∈ w.services, ∃ run', (w.advance i run s).runs[p.index]? = some run' ∧
      run'.phase.beforePayment = false := by
    intro p hp
    obtain ⟨run', hrun', hbefore⟩ := h.signed p hp
    by_cases hi : p.index = i
    · rw [hi, hrun] at hrun'
      cases hrun'
      refine ⟨{ run with phase := s.phase }, ?_, hact.beforePayment hbefore⟩
      rw [hi]
      exact List.getElem?_set_self hlt
    · refine ⟨run', ?_, hbefore⟩
      exact (List.getElem?_set_ne (Ne.symm hi)).trans hrun'
  -- a run that signs has not signed before
  have hnew : ∀ payment, s.service = some payment → ∀ p ∈ w.services, p.index ≠ i := by
    intro payment hpayment p hp hi
    obtain ⟨run', hrun', hbefore⟩ := h.signed p hp
    rw [hi, hrun] at hrun'
    cases hrun'
    rw [(hact.service hpayment).1] at hbefore
    cases hbefore
  refine ⟨?_, ?_, ?_, ?_, ?_⟩
  · intro q hq
    rcases List.mem_or_eq_of_mem_set hq with hq | rfl
    · exact h.fits q hq
    · exact hact.fits hfits
  · intro p hp
    rcases List.mem_append.1 hp with hp | hp
    · exact h.services p hp
    · obtain ⟨payment, hpayment, rfl⟩ := Option.map_eq_some_iff.1 (Option.mem_toList.1 hp)
      obtain ⟨hphase, -, -, hrequest, hversion, hurl, happroved⟩ := hact.service hpayment
      rw [RunnerRun.Fits, hphase] at hfits
      exact ⟨hfits.1, hversion, hurl, happroved, hfits.2, hrequest⟩
  · intro p hp
    rcases List.mem_append.1 hp with hp | hp
    · exact h.invoices p hp
    · obtain ⟨payment, hpayment, rfl⟩ := Option.map_eq_some_iff.1 (Option.mem_toList.1 hp)
      obtain ⟨sender, state, active, hphase, hinvoice⟩ := hact.transfer hpayment
      rw [RunnerRun.Fits, hphase] at hfits
      obtain ⟨hpays, haccount, hsender, hwatch⟩ := hfits
      exact invoiceApproved hinvoice hpays haccount hsender hwatch
  · show ((w.services ++ _).map SignedPayment.index).Nodup
    rw [List.map_append]
    refine List.nodup_append.2 ⟨h.once, ?_, ?_⟩
    · cases s.service <;> simp
    · intro index hindex index' hindex' heq
      obtain ⟨p, hp, rfl⟩ := List.mem_map.1 hindex
      obtain ⟨p', hp', rfl⟩ := List.mem_map.1 hindex'
      obtain ⟨payment, hpayment, rfl⟩ := Option.map_eq_some_iff.1 (Option.mem_toList.1 hp')
      exact hnew payment hpayment p hp heq
  · intro p hp
    rcases List.mem_append.1 hp with hp | hp
    · exact hsigned p hp
    · obtain ⟨payment, hpayment, rfl⟩ := Option.map_eq_some_iff.1 (Option.mem_toList.1 hp)
      refine ⟨{ run with phase := s.phase }, List.getElem?_set_self hlt, ?_⟩
      rw [(hact.service hpayment).2.1]
      rfl

theorem Vouched.step (h : w.Vouched parse isValidAlgorandAddress) (e : RunnerEvent) :
    (w.step parse isValidAlgorandAddress e).Vouched parse isValidAlgorandAddress := by
  cases e with
  | launch env mode confirmed =>
      refine ⟨?_, h.services, h.invoices, h.once, ?_⟩
      · intro run hrun
        rcases List.mem_append.1 hrun with hrun | hrun
        · exact h.fits run hrun
        · rw [List.mem_singleton.1 hrun]
          exact (launched env mode confirmed w.file).fits
      · intro p hp
        obtain ⟨run, hrun, hbefore⟩ := h.signed p hp
        exact ⟨run, List.getElem?_append_left (List.getElem?_eq_some_iff.1 hrun).1 ▸ hrun, hbefore⟩
  | answer i answer =>
      unfold RunnerWorld.step
      dsimp only
      split
      · rename_i run hrun
        exact h.advance hrun (proceeded run.env run.phase answer)
      · exact h
  | crash i writing =>
      unfold RunnerWorld.step
      dsimp only
      split
      · rename_i run hrun
        have hstopped := h.advance hrun (.stop run.phase)
        exact ⟨hstopped.fits, hstopped.services, hstopped.invoices, hstopped.once, hstopped.signed⟩
      · exact h
  | remove => exact ⟨h.fits, h.services, h.invoices, h.once, h.signed⟩

theorem vouched_after (parse : UrlParser) (isValidAlgorandAddress : JsString → Bool)
    (file : RunnerFile) (es : List RunnerEvent) :
    (after parse isValidAlgorandAddress file es).Vouched parse isValidAlgorandAddress :=
  Runs.run_invariant' (I := Vouched parse isValidAlgorandAddress) (fun _ e h => h.step e) es
    ⟨by simp [opened], by simp [opened], by simp [opened], by simp [opened], by simp [opened]⟩

/-- **Every payment is approved.**  In every schedule of runs, beside each other, cut off
anywhere, in the middle of a write too, and from any file, and whatever the servers and the
payment package answer: every service payment that was signed is for the one approved
requirement, offered for the address the run asked, by a run that was started to buy with
the flag against the approved server; every invoice payment is one unit from the sender of a
valid checkpoint to the approved receiver, for the watch of that checkpoint; no run signs
two service payments; and the three other modes sign nothing. -/
theorem payments_approved (parse : UrlParser) (isValidAlgorandAddress : JsString → Bool)
    (file : RunnerFile) (es : List RunnerEvent) :
    let w := after parse isValidAlgorandAddress file es
    (∀ p ∈ w.services, ServiceApproved parse p) ∧
      (∀ p ∈ w.invoices, InvoiceApproved parse isValidAlgorandAddress p) ∧
      (w.services.map SignedPayment.index).Nodup ∧
      (∀ p ∈ w.services, p.run.mode = .start ∧ p.run.confirmed = true) ∧
      ∀ p ∈ w.invoices, p.run.mode = .pay ∧ p.run.confirmed = true := by
  intro w
  have h := vouched_after parse isValidAlgorandAddress file es
  refine ⟨h.services, h.invoices, h.once, ?_, ?_⟩
  · intro p hp
    exact ⟨(h.services p hp).buys.mode, (h.services p hp).buys.confirmed⟩
  · intro p hp
    exact ⟨(h.invoices p hp).pays.mode, (h.invoices p hp).pays.confirmed⟩

end RunnerWorld

end RoundWatch
