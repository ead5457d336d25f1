import RoundWatch.App.Finality
import RoundWatch.Client.Checkpoint
import RoundWatch.Indexer.Grammar

/-!
# Recovery from both sides

The server projects a row on the wire, and the client checks every field of it again
before it keeps the id.

* `publicWatchJson` and `RecoveryReply.answer` — the answers as the client reads them;
* `MainnetOp` — what the server asks of the store, with the evidence it really has;
* `Owned` — whoever paid for a watch is the payer it was prepared for;
* `recovery_agrees` — the client accepts what the route hands back, and nothing that is
  not the watch of its checkpoint.
-/

namespace RoundWatch

open JsText Checks

/-! ## Answers on the wire -/

def WatchTerminalReason.name : WatchTerminalReason → String
  | .workBudgetExhausted => "work_budget_exhausted"
  | .indexerPermanentFailure => "indexer_permanent_failure"

def RecoveryReason.name : RecoveryReason → String
  | .settlementReconciliationPending => "settlement_reconciliation_pending"
  | .settlementReconciliationTerminal => "settlement_reconciliation_terminal"
  | .watchTerminalNonrecoverable => "watch_terminal_nonrecoverable"

def RecoveryAction.name : RecoveryAction → String
  | .retryRecoveryLater => "retry_recovery_later"
  | .retainCheckpointAndInvestigate => "retain_checkpoint_and_investigate"

/-- A text column; `NULL` is left out of the record. -/
def textColumn (value : Option SqlText) : Option Json := value.map fun t => .str t.val

def integerColumn (value : Option ℤ) : Option Json := value.map .num

/-- The fields of a public watch.  The client reads none of the three times. -/
def publicWatchFields (watch : PublicWatch) : List (JsString × Option Json) :=
  [(js "id", some (.str watch.id.val)),
    (js "state", some (.str (js watch.state.name))),
    (js "expectedSender", some (.str watch.expectedSender.val)),
    (js "expectedReceiver", some (.str watch.expectedReceiver.val)),
    (js "assetId", some (.num watch.assetId)),
    (js "atomicAmount", some (.str watch.atomicAmount.val)),
    (js "invoiceNote", textColumn watch.invoiceNote),
    (js "expectedServiceTransaction", textColumn watch.expectedServiceTransaction),
    (js "expectedServiceNetwork", textColumn watch.expectedServiceNetwork),
    (js "expectedServicePayer", textColumn watch.expectedServicePayer),
    (js "serviceTransaction", textColumn watch.serviceTransaction),
    (js "serviceNetwork", textColumn watch.serviceNetwork),
    (js "servicePayer", textColumn watch.servicePayer),
    (js "activationRound", integerColumn watch.activationRound),
    (js "scanAfterRound", integerColumn watch.scanAfterRound),
    (js "matchedTransaction", textColumn watch.matchedTransaction),
    (js "matchedRound", integerColumn watch.matchedRound),
    (js "settlementReconciliationTerminal", some (.bool watch.settlementReconciliationTerminal)),
    (js "workUnitBudget", watch.workUnitBudget.map fun n => .num n),
    (js "workUnitsUsed", some (.num watch.workUnitsUsed)),
    (js "terminalReason", watch.terminalReason.map fun reason => .str (js reason.name))]

def publicWatchNames : List JsString :=
  (["id", "state", "expectedSender", "expectedReceiver", "assetId", "atomicAmount", "invoiceNote",
    "expectedServiceTransaction", "expectedServiceNetwork", "expectedServicePayer",
    "serviceTransaction", "serviceNetwork", "servicePayer", "activationRound", "scanAfterRound",
    "matchedTransaction", "matchedRound", "settlementReconciliationTerminal", "workUnitBudget",
    "workUnitsUsed", "terminalReason"] : List String).map js

def publicWatchJson (watch : PublicWatch) : Json := .obj (Json.present (publicWatchFields watch))

def errorBody (message : String) : List (JsString × Json) := [(js "error", .str (js message))]

/-- The answer of the recovery route. -/
def RecoveryReply.answer (reply : RecoveryReply) : HttpAnswer where
  status := reply.status
  body := some <| .obj <| match reply with
    | .invalidRequest => errorBody "Invalid recovery request"
    | .notFound => errorBody "Recoverable watch not found"
    | .notRecoverable state recovery =>
        errorBody "Existing watch is not currently recoverable" ++
          [(js "state", .str (js state.name)),
            (js "recovery", .obj
              [(js "retryable", .bool recovery.retryable), (js "terminal", .bool recovery.terminal),
                (js "reason", .str (js recovery.reason.name)),
                (js "nextAction", .str (js recovery.nextAction.name))])]
    | .recovered watch => [(js "watch", publicWatchJson watch)]

theorem publicWatchNames_nodup : publicWatchNames.Nodup := by decide +kernel

/-- The watch on the wire has every field it was given. -/
theorem get?_publicWatchJson {watch : PublicWatch} {name : String} {value : Option Json}
    (h : (js name, value) ∈ publicWatchFields watch) :
    (publicWatchJson watch).get? name = value :=
  Json.lookup_present (show ((publicWatchFields watch).map Prod.fst).Nodup from
    publicWatchNames_nodup) h

/-! ## What the server asks of the store -/

/-- What the facilitator returns for a settled payment. -/
structure SettleResult where
  transaction : JsString
  network : JsString
  payer : Option JsString

/-- The evidence of the settlement hook: a payer only where one was returned. -/
def settlementEvidence (result : SettleResult) : SettlementEvidence where
  transaction := result.transaction
  network := result.network
  payer := result.payer.filter fun payer => payer ≠ []

/-- The evidence that a watch is settled with: of the hook, or of a transfer that the
reconciler read. -/
inductive ActivationEvidence : SettlementEvidence → Prop
  | settled (result : SettleResult) : ActivationEvidence (settlementEvidence result)
  | reconciled (network : JsString) {value : Option Json} {label : String}
      {transfer : IndexedAssetTransfer} (h : parseDirectAssetTransfer value label = .ok transfer) :
      ActivationEvidence ⟨transfer.transaction, network, some transfer.sender⟩

/-- The calls of the MainNet server: watches are prepared under version-4 UUIDs for a
signed payment, and settled with the evidence of their path. -/
def MainnetOp : StoreOp → Prop
  | .prepareWatch _ id _ intent => isUuid id = true ∧ intent.isSome
  | .recordSettlementCandidate _ evidence => ActivationEvidence evidence
  | .activateWatch _ _ evidence _ => ActivationEvidence evidence
  | _ => True

/-- The sender of a transfer that was read has a name. -/
theorem sender_ne_nil {value : Option Json} {label : String} {transfer : IndexedAssetTransfer}
    (h : parseDirectAssetTransfer value label = .ok transfer) : transfer.sender ≠ [] := by
  obtain ⟨p, hp, h⟩ := bind_eq_ok.1 h
  obtain ⟨-, h⟩ := require_bind_eq_ok.1 h
  obtain ⟨-, h⟩ := require_bind_eq_ok.1 h
  obtain ⟨fields, hitem⟩ := parseAssetTransferEnvelope_iff.1 hp
  have hsender : p.sender = transfer.sender := by
    unfold indexedAssetTransfer at h
    split at h
    · cases h
    · cases h
      rfl
  exact hsender ▸ hitem.sender.2

/-- No path settles a watch for a payer without a name. -/
theorem ActivationEvidence.payer_ne_nil {evidence : SettlementEvidence}
    (h : ActivationEvidence evidence) {payer : JsString} (hpayer : evidence.payer = some payer) :
    payer ≠ [] := by
  cases h with
  | settled result =>
      obtain ⟨-, hne⟩ := Option.filter_eq_some_iff.1 hpayer
      simpa using hne
  | reconciled network h =>
      cases hpayer
      exact sender_ne_nil h

/-! ## The rows of the MainNet store -/

theorem uuidPlace_lt {i : ℕ} {u : UInt16} (h : uuidPlace i u = true) : u < 0xD800 := by
  have hle : u ≤ 102 := by
    unfold uuidPlace isHexDigit at h
    repeat' split at h
    all_goals
      simp only [beq_iff_eq, List.contains_iff_mem, List.mem_cons, List.not_mem_nil, or_false,
        Bool.or_eq_true, Bool.and_eq_true, decide_eq_true_eq, UInt16.le_iff_toNat_le] at h
      simp only [UInt16.le_iff_toNat_le]
    · simp [h]
    · simp [h]
    · rcases h with rfl | rfl | rfl | rfl | rfl | rfl <;> decide
    · rcases h with (h | h) | h <;> exact le_trans h.2 (by decide)
  exact UInt16.lt_of_le_of_lt hle (by decide)

/-- A UUID is stored as it is. -/
theorem bindText_val_of_isUuid {id : JsString} (h : isUuid id = true) : (bindText id).val = id := by
  refine wellFormed_of_plain fun u hu => ?_
  rw [isUuid, Bool.and_eq_true, List.all_eq_true] at h
  obtain ⟨i, hi, rfl⟩ := List.mem_iff_getElem.1 hu
  exact uuidPlace_lt (h.2 (id[i], i) (List.mem_zipIdx_iff_getElem?.2 (by simp [hi])))

/-- A row under a UUID, paid for by the payer it was prepared for. -/
structure Owned (r : WatchRow) : Prop where
  id : isUuid r.id.val = true
  paid : Paid r
  payer : ∀ e p, r.expectedServicePayer = some e → e ≠ emptyText → r.servicePayer = some p → p = e

theorem Owned.preparedRow {id : JsString} (hid : isUuid id = true) (config : StoreConfig)
    (spec : WatchSpec) (intent : Option SettlementIntent) (now expiresAt : ℤ) :
    Owned (preparedRow config id spec intent now expiresAt) where
  id := by
    show isUuid (bindText id).val = true
    rw [bindText_val_of_isUuid hid]
    exact hid
  paid := Paid.preparedRow config id spec intent now expiresAt
  payer := fun _ _ _ _ hpaid => by cases hpaid

/-- **Every change with the evidence of a path keeps the payer.** -/
theorem Owned.change {op : StoreOp} {r r' : WatchRow} (h : Owned r) (hop : MainnetOp op)
    (hchange : RowChange op r r') : Owned r' := by
  refine ⟨hchange.sameWatch.id ▸ h.id, h.paid.change hchange, fun e p hexpected hne hpaid => ?_⟩
  cases hchange with
  | recordCandidate _ hopen _ =>
      have hunpaid := h.paid.unpaid (WatchRow.settling_of_unsettled hopen).1
      exact absurd (hunpaid.2.2.1.symm.trans hpaid) (by simp)
  | @activate _ _ evidence _ _ _ _ hmatch =>
      obtain ⟨payer, hpayer, rfl⟩ := Option.map_eq_some_iff.1 hpaid
      have hsame := (assertSettlementEvidenceMatches_ok.1 hmatch).2.2 payer hpayer
        (ActivationEvidence.payer_ne_nil hop hpayer)
      exact (eq_bindText_of_not_differs hsame hexpected hne).symm
  | _ => exact h.payer e p hexpected hne hpaid

theorem Owned.apply {s : Store} {op : StoreOp} (hop : MainnetOp op) (h : ∀ r ∈ s.rows, Owned r) :
    ∀ r ∈ (s.apply op).rows, Owned r := by
  intro r' hr'
  rcases s.apply_cases op with ⟨now, id, spec, intent, expiresAt, rfl, hcreated⟩ | hrewrites
  · rw [hcreated.rows, List.mem_append, List.mem_singleton] at hr'
    rcases hr' with hr' | rfl
    · exact h r' hr'
    · exact Owned.preparedRow hop.1 s.config spec intent now expiresAt
  · obtain ⟨r, hr, heq | hrr'⟩ := hrewrites.exists_of_mem_right hr'
    · exact heq ▸ h r hr
    · exact (h r hr).change hop hrr'

/-- **Every run of the MainNet server keeps the payers.** -/
theorem Owned.run (config : StoreConfig) {ops : List StoreOp} (hops : ∀ op ∈ ops, MainnetOp op) :
    ∀ r ∈ ((Store.empty config).run ops).rows, Owned r :=
  Runs.run_invariant (I := fun s : Store => ∀ r ∈ s.rows, Owned r)
    (fun _ _ hop h => Owned.apply hop h) (Runs.admissible_of_forall hops)
    (fun _ hr => by cases hr)

/-! ## The two sides -/

section Sides

variable {parse : UrlParser} {isValidAlgorandAddress : JsString → Bool}
  {runtimeServerUrl : JsString} {checkpoint : Json}

theorem recoveryNames_nodup : (recoveryNames.map fun p => js p.1).Nodup := by
  decide +kernel

/-- What a name in the request reads. -/
theorem get?_recoveryBody {name field : String} (h : (name, field) ∈ recoveryNames) :
    (recoveryBody checkpoint).get? name = checkpoint.get? field := by
  refine Json.lookup_present ?_ (List.mem_map.2 ⟨(name, field), h, rfl⟩)
  rw [List.map_map]
  exact recoveryNames_nodup

/-- The request that a valid checkpoint makes. -/
structure RequestOf (checkpoint : Json) (spec : WatchSpec) (payer : JsString) : Prop where
  sender : checkpoint.get? "expectedSender" = some (.str spec.expectedSender)
  receiver : checkpoint.get? "expectedReceiver" = some (.str spec.expectedReceiver)
  asset : checkpoint.get? "assetId" = some (.num spec.assetId)
  amount : checkpoint.get? "atomicAmount" = some (.str spec.atomicAmount)
  note : ∃ note, checkpoint.get? "invoiceNote" = some (.str note) ∧ spec.invoiceNote = some note
  payer : checkpoint.get? "expectedSender" = some (.str payer)

theorem stringField_eq_some {body : Json} {name : String} {s : JsString} :
    stringField body name = some s ↔ body.get? name = some (.str s) := by
  unfold stringField
  split <;> simp_all

/-- The server reads the terms that the checkpoint has. -/
theorem RecoveryRequest.requestOf {spec : WatchSpec} {payer : JsString}
    (hvalid : ValidCheckpoint parse isValidAlgorandAddress runtimeServerUrl checkpoint)
    (h : RecoveryRequest isValidAlgorandAddress usdcMainnetAsaId (recoveryBody checkpoint) spec
      payer) : RequestOf checkpoint spec payer := by
  have haccepted := parseWatchSpec_ok.1 h.spec
  obtain ⟨hpayer, -⟩ := Option.filter_eq_some_iff.1 h.payer
  obtain ⟨nonce, -, -, hnote⟩ := hvalid.nonce
  have hread : ∀ {name field : String} {s : JsString},
      (name, field) ∈ recoveryNames →
      stringField (recoveryBody checkpoint) name = some s → checkpoint.get? field = some (.str s) :=
    fun hmem hfield => (get?_recoveryBody hmem).symm.trans (stringField_eq_some.1 hfield)
  refine ⟨hread (by simp [recoveryNames]) haccepted.sender,
    hread (by simp [recoveryNames]) haccepted.receiver, ?_,
    hread (by simp [recoveryNames]) haccepted.amount, ⟨_, hnote, ?_⟩,
    hread (by simp [recoveryNames]) hpayer⟩
  · rw [haccepted.asset]
    exact hvalid.assetId
  · have hfield := haccepted.note
    have hsent : (recoveryBody checkpoint).get? "invoiceNote" = checkpoint.get? "invoiceNote" :=
      get?_recoveryBody (by simp [recoveryNames])
    rw [noteField, hsent, hnote] at hfield
    dsimp only at hfield
    split at hfield
    · cases hfield
    · exact (Except.ok.inj hfield).symm

theorem watchStateIn_handedBack {r : WatchRow} (h : r.handedBack = true) :
    watchStateIn (publicWatchJson (publicWatch r)) recoverableStates = true := by
  have hstate : (publicWatchJson (publicWatch r)).get? "state" = some (.str (js r.state.name)) :=
    get?_publicWatchJson (by simp [publicWatchFields, publicWatch])
  rw [watchStateIn, hstate]
  cases hname : r.state <;> simp [WatchRow.handedBack, hname] at h ⊢ <;> decide

/-- **A row that is handed back passes the checks of the client.** -/
theorem recoveredWatch_of_row {spec : WatchSpec} {payer : JsString} {r : WatchRow}
    (hrequest : RequestOf checkpoint spec payer) (hexact : exactMatch r spec payer = true)
    (howned : Owned r) (hpayer : payer ≠ []) (hconfirmed : r.settlementConfirmed = true)
    (hback : r.handedBack = true) :
    RecoveredWatch checkpoint (publicWatchJson (publicWatch r)) := by
  simp only [exactMatch, Bool.and_eq_true, beq_iff_eq] at hexact
  obtain ⟨⟨⟨⟨⟨hsender, hreceiver⟩, hasset⟩, hamount⟩, hnote⟩, hexpected⟩ := hexact
  obtain ⟨note, hcheckpoint, hspec⟩ := hrequest.note
  obtain ⟨column, hcolumn, hval⟩ := Option.map_eq_some_iff.1 (hnote.trans hspec)
  obtain ⟨e, he, rfl⟩ := Option.map_eq_some_iff.1 hexpected
  have hread : ∀ {name : String} {value : Option Json},
      (js name, value) ∈ publicWatchFields (publicWatch r) →
        (publicWatchJson (publicWatch r)).get? name = value := get?_publicWatchJson
  refine ⟨⟨?_, ?_, ?_, ?_, ?_⟩, watchStateIn_handedBack hback, ?_, ?_, ?_⟩
  · rw [hrequest.sender, strictEquals_str, ← hsender]
    exact hread (by simp [publicWatchFields, publicWatch])
  · rw [hrequest.receiver, strictEquals_str, ← hreceiver]
    exact hread (by simp [publicWatchFields, publicWatch])
  · rw [hrequest.asset, strictEquals_num, ← hasset]
    exact hread (by simp [publicWatchFields, publicWatch])
  · rw [hrequest.amount, strictEquals_str, ← hamount]
    exact hread (by simp [publicWatchFields, publicWatch])
  · rw [hcheckpoint, strictEquals_str, ← hval]
    exact hread (by simp [publicWatchFields, publicWatch, hcolumn, textColumn])
  · obtain ⟨t, ht, hne⟩ := (Option.any_eq_true _ _).1 hconfirmed
    exact ⟨t.val, hread (by simp [publicWatchFields, publicWatch, ht, textColumn]),
      by simpa using hne⟩
  · rw [servicePayerMatches, Bool.or_eq_true, hrequest.payer, strictEquals_str]
    exact Or.inr (hread (by simp [publicWatchFields, publicWatch, he, textColumn]))
  · have hfield : (publicWatchJson (publicWatch r)).get? "servicePayer" =
        textColumn r.servicePayer := hread (by simp [publicWatchFields, publicWatch])
    rw [servicePayerMatches, Bool.or_eq_true, hrequest.payer, strictEquals_str, hfield]
    cases hpaid : r.servicePayer with
    | none => exact Or.inl rfl
    | some p =>
        have hempty : e ≠ emptyText := by
          rintro rfl
          exact hpayer rfl
        rw [howned.payer e p he hempty hpaid]
        exact Or.inr rfl

/-- The watch of a checkpoint, as the client holds it to be: the terms of the checkpoint, a
service transaction, and no other payer than the sender. -/
structure WatchOf (checkpoint watch : Json) : Prop where
  sender : watch.get? "expectedSender" = checkpoint.get? "expectedSender"
  receiver : watch.get? "expectedReceiver" = checkpoint.get? "expectedReceiver"
  asset : watch.get? "assetId" = checkpoint.get? "assetId"
  amount : watch.get? "atomicAmount" = checkpoint.get? "atomicAmount"
  note : watch.get? "invoiceNote" = checkpoint.get? "invoiceNote"
  transaction : ∃ t, watch.get? "serviceTransaction" = some (.str t) ∧ t ≠ []
  payer : ∀ field ∈ ["expectedServicePayer", "servicePayer"], watch.get? field = none ∨
    watch.get? field = checkpoint.get? "expectedSender"

theorem strictEquals_none {value : Option Json} :
    strictEquals value none = true ↔ value = none := by
  unfold strictEquals
  split <;> simp_all

theorem RecoveredWatch.watchOf {watch : Json} (h : RecoveredWatch checkpoint watch)
    (hvalid : ValidCheckpoint parse isValidAlgorandAddress runtimeServerUrl checkpoint) :
    WatchOf checkpoint watch := by
  obtain ⟨⟨hsender, hreceiver, hasset, hamount, hnote⟩, -, hsettled, hexpected, hpayer⟩ := h
  obtain ⟨sender, hhas, -⟩ := hvalid.sender
  obtain ⟨nonce, -, -, hhasNote⟩ := hvalid.nonce
  rw [hhas, strictEquals_str] at hsender
  rw [hvalid.receiver, strictEquals_str] at hreceiver
  rw [hvalid.assetId, strictEquals_num] at hasset
  rw [hvalid.amount, strictEquals_str] at hamount
  rw [hhasNote, strictEquals_str] at hnote
  refine ⟨hsender.trans hhas.symm, hreceiver.trans hvalid.receiver.symm,
    hasset.trans hvalid.assetId.symm, hamount.trans hvalid.amount.symm,
    hnote.trans hhasNote.symm, hsettled, fun field hfield => ?_⟩
  have hmatches : servicePayerMatches checkpoint watch field = true := by
    simp only [List.mem_cons, List.not_mem_nil, or_false] at hfield
    rcases hfield with rfl | rfl
    · exact hexpected
    · exact hpayer
  rwa [servicePayerMatches, Bool.or_eq_true, strictEquals_none, hhas, strictEquals_str, ← hhas]
    at hmatches

/-- **Both sides agree on recovery.**  An answer 200 of the recovery route is accepted by the
client, which keeps the id of exactly that watch; and whatever the client accepts is the
watch of its checkpoint. -/
theorem recovery_agrees {config : StoreConfig} {ops : List StoreOp} {accepted : Json}
    (hempty : isValidAlgorandAddress [] = false) (hops : ∀ op ∈ ops, MainnetOp op)
    (hvalid : validateMainnetCheckpoint parse isValidAlgorandAddress checkpoint
      { runtimeServerUrl := runtimeServerUrl } = .ok accepted)
    (hnew : checkpoint.get? "watchId" = none) :
    let route := recoverWatch isValidAlgorandAddress usdcMainnetAsaId
      ((Store.empty config).run ops)
    let client := fun fetch => recoverExistingMainnetWatch parse isValidAlgorandAddress fetch
      checkpoint runtimeServerUrl
    ((route (recoveryBody checkpoint)).status = 200 →
      ∃ watch, route (recoveryBody checkpoint) = .recovered watch ∧
        client (fun body => (route body).answer) =
          .ok (withWatchId checkpoint (.str watch.id.val))) ∧
    ∀ fetch result, client fetch = .ok result →
      ∃ body watch id, (fetch (recoveryBody checkpoint)).body = some body ∧
        body.get? "watch" = some watch ∧ watch.get? "id" = some (.str id) ∧
        WatchOf checkpoint watch ∧ result = withWatchId checkpoint (.str id) := by
  intro route client
  obtain ⟨-, hcheckpoint, -⟩ := validateMainnetCheckpoint_ok.1 hvalid
  constructor
  · intro hstatus
    rcases recoverWatch_cases isValidAlgorandAddress usdcMainnetAsaId ((Store.empty config).run ops)
        (recoveryBody checkpoint) with hreply | hreply | ⟨spec, payer, r, hrequest, hanswered⟩
    · simp [route, hreply, RecoveryReply.status] at hstatus
    · simp [route, hreply, RecoveryReply.status] at hstatus
    have hreply : route (recoveryBody checkpoint) = recoveryReply r :=
      recoverWatch_of_answered hrequest hanswered
    rw [hreply, recoveryReply] at hstatus
    split at hstatus
    · rename_i hready
      rw [recoveryReply, if_pos hready] at hreply
      rw [Bool.and_eq_true] at hready
      obtain ⟨hpayer, hpayerValid⟩ := Option.filter_eq_some_iff.1 hrequest.payer
      have hne : payer ≠ [] := by
        rintro rfl
        rw [hempty] at hpayerValid
        cases hpayerValid
      have howned := Owned.run config hops r hanswered.row
      have hwatch := recoveredWatch_of_row (hrequest.requestOf hcheckpoint) hanswered.exact howned
        hne hready.1 hready.2
      have hid : (publicWatchJson (publicWatch r)).get? "id" = some (.str r.id.val) :=
        get?_publicWatchJson (by simp [publicWatchFields, publicWatch])
      refine ⟨publicWatch r, hreply, recoverExistingMainnetWatch_ok.2 ⟨hcheckpoint, ?_, ?_, ?_⟩⟩
      · rw [hnew]
        rfl
      · rw [hreply]
        rfl
      · rw [hreply]
        exact ⟨_, publicWatchJson (publicWatch r), r.id.val, rfl, rfl, hid, howned.id, hwatch, rfl⟩
    · cases hstatus
  · intro fetch result hresult
    obtain ⟨-, -, -, body, watch, id, hbody, hwatch, hid, -, hrecovered, rfl⟩ :=
      recoverExistingMainnetWatch_ok.1 hresult
    exact ⟨body, watch, id, hbody, hwatch, hid, hrecovered.watchOf hcheckpoint, rfl⟩

end Sides

/-! ## A purchase that is found again -/

def sampleNonce : JsString := js "0f8fad5b-d9cb-469f-a165-70867728950e"

def sampleWatchId : JsString := js "7c9e6679-7425-40de-944b-e07fc1f90ae7"

/-- The checkpoint of a purchase whose answer was lost. -/
def sampleCheckpoint : Json := .obj
  [(js "network", .str algorandMainnet), (js "assetId", .num usdcMainnetAsaId),
    (js "serverUrl", .str defaultServerUrl),
    (js "idempotencyKey", .str (js "mainnet-" ++ sampleNonce)),
    (js "expectedSender", .str probeAddress), (js "expectedReceiver", .str expectedReceiver),
    (js "atomicAmount", .str invoiceAtomicAmount),
    (js "invoiceNote", .str (js "roundwatch:mainnet:" ++ sampleNonce))]

/-- The two addresses of the purchase. -/
def isPurchaseAddress (a : JsString) : Bool := a == probeAddress || a == expectedReceiver

/-- `new URL` on the address of the server. -/
def parseServerUrl : UrlParser := fun input _ =>
  if input = defaultServerUrl then
    some ⟨js "https:", [], [], [], [], defaultServerUrl, defaultServerUrl ++ js "/"⟩
  else none

def purchaseSpec : WatchSpec where
  idempotencyKey := js "mainnet-" ++ sampleNonce
  expectedSender := probeAddress
  expectedReceiver := expectedReceiver
  assetId := usdcMainnetAsaId
  atomicAmount := invoiceAtomicAmount
  invoiceNote := some (js "roundwatch:mainnet:" ++ sampleNonce)

/-- The watch is prepared for its payer, and settled by the hook. -/
def purchase : List StoreOp :=
  let evidence := settlementEvidence ⟨js "TX", sampleIntent.network, some probeAddress⟩
  [.prepareWatch 0 sampleWatchId purchaseSpec (some { sampleIntent with payer := some probeAddress }),
    .recordSettlementCandidate sampleWatchId evidence,
    .activateWatch 1 sampleWatchId evidence 10]

theorem mainnetOp_purchase : ∀ op ∈ purchase, MainnetOp op := by
  intro op hop
  simp only [purchase, List.mem_cons, List.not_mem_nil, or_false] at hop
  rcases hop with rfl | rfl | rfl
  · exact ⟨by decide, rfl⟩
  · exact .settled _
  · exact .settled _

theorem recovery_agrees_purchase :
    recoverExistingMainnetWatch parseServerUrl isPurchaseAddress
        (fun body => (recoverWatch isPurchaseAddress usdcMainnetAsaId
          ((Store.empty .default).run purchase) body).answer)
        sampleCheckpoint defaultServerUrl =
      .ok (withWatchId sampleCheckpoint (.str sampleWatchId)) := by
  have hvalid : validateMainnetCheckpoint parseServerUrl isPurchaseAddress sampleCheckpoint
      { runtimeServerUrl := defaultServerUrl } = .ok sampleCheckpoint := rfl
  have hstatus : (recoverWatch isPurchaseAddress usdcMainnetAsaId
      ((Store.empty .default).run purchase) (recoveryBody sampleCheckpoint)).status = 200 := by
    decide
  obtain ⟨watch, hwatch, hclient⟩ :=
    (recovery_agrees (by decide) mainnetOp_purchase hvalid rfl).1 hstatus
  have hid : watch.id.val = sampleWatchId := by
    injection hwatch with hrow
    rw [← hrow]
    rfl
  rw [hid] at hclient
  exact hclient

end RoundWatch
