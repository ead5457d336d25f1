import RoundWatch.App.Finality

/-!
# The MCP preparation tools

`roundwatch.prepare_watch` and `roundwatch.prepare_recovery` check their arguments with
validators of their own.

* `validateWatchArguments_ok` — what they accept, in the words of `parseWatchSpec`;
* `accepted_body` — the body they hand out reads the same;
* `mcp_prepares_what_http_accepts` — the tools and the HTTP routes accept the same requests.
-/

namespace RoundWatch

open JsText

/-! ## Arguments -/

structure PreparedWatchArguments where
  idempotencyKey : JsString
  expectedSender : JsString
  expectedReceiver : JsString
  atomicAmount : JsString
  invoiceNote : Option JsString
  deriving DecidableEq, Repr

/-- Why a tool refuses its arguments. -/
inductive ArgumentError where
  | unknownArgument (key : JsString)
  | spec (e : SpecError)
  | admission (e : AdmissionError)
  | servicePayerInvalid
  deriving DecidableEq, Repr

def ArgumentError.error : ArgumentError → JsString
  | .unknownArgument key => js "Unknown argument: " ++ key
  | .spec e => js e.error
  | .admission e => js e.error
  | .servicePayerInvalid => js "servicePayer must be a valid Algorand address"

/-- The arguments of `roundwatch.prepare_watch`. -/
def watchArguments : List JsString :=
  [js "idempotencyKey", js "expectedSender", js "expectedReceiver", js "atomicAmount",
    js "invoiceNote"]

/-- The arguments of `roundwatch.prepare_recovery`. -/
def recoveryArguments : List JsString := watchArguments ++ [js "servicePayer"]

/-- The first key that is not allowed. -/
def unknownArgument? (allowed : List JsString) (args : List (JsString × Json)) :
    Option JsString :=
  (args.map Prod.fst).find? (!allowed.contains ·)

def newWatchSenderAdmissionError (expectedSender : JsString) : Option AdmissionError :=
  if expectedSender = algorandZeroAddress then some .unsupportedExpectedSender else none

def newWatchCallerIntentAdmissionError (intent : PreparedWatchArguments) :
    Option AdmissionError :=
  if intent.idempotencyKey = newWatchIdempotencyPlaceholder then some .exampleIdempotencyKey
  else if intent.invoiceNote = some newWatchInvoiceNotePlaceholder then some .exampleInvoiceNote
  else newWatchSenderAdmissionError intent.expectedSender

def validateWatchArguments (isValidAlgorandAddress : JsString → Bool)
    (args : List (JsString × Json)) (allowLegacyZeroSender : Bool) :
    Except ArgumentError PreparedWatchArguments :=
  match unknownArgument? watchArguments args with
  | some key => .error (.unknownArgument key)
  | none =>
      match (stringField (.obj args) "idempotencyKey").filter
          fun key => 8 ≤ key.length && key.length ≤ 128 with
      | none => .error (.spec .idempotencyInvalid)
      | some idempotencyKey =>
          match addressField isValidAlgorandAddress (.obj args) "expectedSender" with
          | none => .error (.spec .senderInvalid)
          | some expectedSender =>
              match if allowLegacyZeroSender then none
                else newWatchSenderAdmissionError expectedSender with
              | some e => .error (.admission e)
              | none =>
                  match addressField isValidAlgorandAddress (.obj args) "expectedReceiver" with
                  | none => .error (.spec .receiverInvalid)
                  | some expectedReceiver =>
                      match (stringField (.obj args) "atomicAmount").filter fun amount =>
                          amount.length ≤ maxSafeAtomicAmountDigits &&
                            Store.isPositiveDecimal amount with
                      | none => .error (.spec .amountFormat)
                      | some atomicAmount =>
                          if (digitsValue? 10 0 atomicAmount).all (maxSafeAtomicAmount < ·) then
                            .error (.spec .amountRange)
                          else
                            match noteField (.obj args) with
                            | .error e => .error (.spec e)
                            | .ok invoiceNote =>
                                .ok ⟨idempotencyKey, expectedSender, expectedReceiver,
                                  atomicAmount, invoiceNote⟩

def validatePrepareArguments (isValidAlgorandAddress : JsString → Bool)
    (args : List (JsString × Json)) : Except ArgumentError PreparedWatchArguments :=
  match validateWatchArguments isValidAlgorandAddress args false with
  | .error e => .error e
  | .ok value =>
      match newWatchCallerIntentAdmissionError value with
      | some e => .error (.admission e)
      | none => .ok value

/-- The arguments of a recovery, with their payer. -/
def validateRecoveryArguments (isValidAlgorandAddress : JsString → Bool)
    (args : List (JsString × Json)) :
    Except ArgumentError (PreparedWatchArguments × JsString) :=
  match unknownArgument? recoveryArguments args with
  | some key => .error (.unknownArgument key)
  | none =>
      match addressField isValidAlgorandAddress (.obj args) "servicePayer" with
      | none => .error .servicePayerInvalid
      | some servicePayer =>
          match validateWatchArguments isValidAlgorandAddress
              (args.filter (·.1 != js "servicePayer")) true with
          | .error e => .error e
          | .ok value => .ok (value, servicePayer)

namespace PreparedWatchArguments

def fields (value : PreparedWatchArguments) : List (JsString × Json) :=
  [(js "idempotencyKey", .str value.idempotencyKey),
    (js "expectedSender", .str value.expectedSender),
    (js "expectedReceiver", .str value.expectedReceiver),
    (js "atomicAmount", .str value.atomicAmount)] ++
    (value.invoiceNote.map fun note => (js "invoiceNote", Json.str note)).toList

/-- The body of the prepared create request. -/
def body (value : PreparedWatchArguments) : Json := .obj value.fields

/-- The body of the prepared recovery request. -/
def recoveryBody (value : PreparedWatchArguments) (servicePayer : JsString) : Json :=
  .obj (value.fields ++ [(js "servicePayer", .str servicePayer)])

/-- The specification of the arguments. -/
def spec (value : PreparedWatchArguments) (usdcAssetId : ℤ) : WatchSpec where
  idempotencyKey := value.idempotencyKey
  expectedSender := value.expectedSender
  expectedReceiver := value.expectedReceiver
  assetId := usdcAssetId
  atomicAmount := value.atomicAmount
  invoiceNote := value.invoiceNote

end PreparedWatchArguments

/-! ## What the validators accept -/

section Routes

variable {isValidAlgorandAddress : JsString → Bool} {usdcAssetId : ℤ}
  {args : List (JsString × Json)} {value : PreparedWatchArguments}

theorem unknownArgument?_eq_none {allowed : List JsString} :
    unknownArgument? allowed args = none ↔ ∀ p ∈ args, p.1 ∈ allowed := by
  simp [unknownArgument?, List.find?_eq_none]

theorem newWatchSenderAdmissionError_eq_none {sender : JsString} :
    newWatchSenderAdmissionError sender = none ↔ sender ≠ algorandZeroAddress := by
  simp [newWatchSenderAdmissionError]

/-- **What `validateWatchArguments` accepts.**  The arguments are known, they are a body
that `parseWatchSpec` accepts, and a new watch has a sender. -/
theorem validateWatchArguments_ok {allowLegacyZeroSender : Bool} (usdcAssetId : ℤ) :
    validateWatchArguments isValidAlgorandAddress args allowLegacyZeroSender = .ok value ↔
      (∀ p ∈ args, p.1 ∈ watchArguments) ∧
        Accepted isValidAlgorandAddress usdcAssetId (.obj args) (value.spec usdcAssetId) ∧
        (allowLegacyZeroSender = false → value.expectedSender ≠ algorandZeroAddress) := by
  constructor
  · intro h
    unfold validateWatchArguments at h
    split at h
    · cases h
    rename_i hknown
    split at h
    · cases h
    rename_i key hkey
    split at h
    · cases h
    rename_i sender hsender
    split at h
    · cases h
    rename_i hzero
    split at h
    · cases h
    rename_i receiver hreceiver
    split at h
    · cases h
    rename_i amount hamount
    split at h
    · cases h
    rename_i hrange
    split at h
    · cases h
    rename_i note hnote
    cases h
    simp only [addressField, Option.filter_eq_some_iff, Bool.and_eq_true,
      decide_eq_true_eq] at hkey hsender hreceiver hamount
    rw [Bool.not_eq_true] at hrange
    refine ⟨unknownArgument?_eq_none.1 hknown, ⟨⟨args, rfl⟩, hkey.1, hkey.2, hsender.1, hsender.2,
      hreceiver.1, hreceiver.2, rfl, hamount.1, hamount.2.1, hamount.2.2, hrange, hnote⟩,
      fun hnew => ?_⟩
    rw [hnew, if_neg Bool.false_ne_true] at hzero
    exact newWatchSenderAdmissionError_eq_none.1 hzero
  · rintro ⟨hknown, h, hsender⟩
    have hkey : (stringField (.obj args) "idempotencyKey").filter
        (fun key => decide (8 ≤ key.length) && decide (key.length ≤ 128)) =
          some value.idempotencyKey := by
      have hfield : stringField (.obj args) "idempotencyKey" = some value.idempotencyKey := h.key
      have hlength : 8 ≤ value.idempotencyKey.length ∧ value.idempotencyKey.length ≤ 128 :=
        h.keyLength
      simp [Option.filter_eq_some_iff, hfield, hlength.1, hlength.2]
    have haddress : ∀ name address, stringField (.obj args) name = some address →
        isValidAlgorandAddress address = true →
        addressField isValidAlgorandAddress (.obj args) name = some address := by
      intro name address hfield hvalid
      simp [addressField, Option.filter_eq_some_iff, hfield, hvalid]
    have hamount : (stringField (.obj args) "atomicAmount").filter
        (fun amount => decide (amount.length ≤ maxSafeAtomicAmountDigits) &&
          Store.isPositiveDecimal amount) = some value.atomicAmount := by
      have hfield : stringField (.obj args) "atomicAmount" = some value.atomicAmount := h.amount
      have hlength : value.atomicAmount.length ≤ maxSafeAtomicAmountDigits := h.amountLength
      have hdecimal : Store.isPositiveDecimal value.atomicAmount := h.amountDecimal
      simp [Option.filter_eq_some_iff, hfield, hlength, hdecimal]
    have hzero : (if allowLegacyZeroSender then none
        else newWatchSenderAdmissionError value.expectedSender) = none := by
      split
      · rfl
      · rename_i hnew
        exact newWatchSenderAdmissionError_eq_none.2 (hsender (by simpa using hnew))
    have hrange : (digitsValue? 10 0 value.atomicAmount).all (maxSafeAtomicAmount < ·) = false :=
      h.amountRange
    have hnote : noteField (.obj args) = .ok value.invoiceNote := h.note
    rw [validateWatchArguments, unknownArgument?_eq_none.2 hknown]
    simp only [hkey, haddress _ _ h.sender h.senderValid, haddress _ _ h.receiver h.receiverValid,
      hamount, hrange, hnote, Bool.false_eq_true, if_false, PreparedWatchArguments.spec, hzero]

/-- The admission check is the one of the create route. -/
theorem newWatchCallerIntentAdmissionError_eq (usdcAssetId : ℤ) :
    newWatchCallerIntentAdmissionError value =
      validateNewWatchAdmission (value.spec usdcAssetId) := rfl

theorem noteField_some {body : Json} {note : JsString} (h : noteField body = .ok (some note)) :
    ¬ (note = [] ∨ 128 < utf8ByteLength note) := by
  unfold noteField at h
  split at h
  · cases h
  · split at h
    · cases h
    · rename_i hlength
      cases h
      exact hlength
  · cases h

/-- The body of a prepared request, with anything behind it, reads as its arguments. -/
theorem accepted_body {more : List (JsString × Json)}
    (hmore : ∀ p ∈ more, p.1 ∉ watchArguments)
    (h : Accepted isValidAlgorandAddress usdcAssetId (.obj args) (value.spec usdcAssetId)) :
    Accepted isValidAlgorandAddress usdcAssetId (.obj (value.fields ++ more))
      (value.spec usdcAssetId) where
  isObject := ⟨_, rfl⟩
  key := rfl
  keyLength := h.keyLength
  sender := rfl
  senderValid := h.senderValid
  receiver := rfl
  receiverValid := h.receiverValid
  asset := rfl
  amount := rfl
  amountLength := h.amountLength
  amountDecimal := h.amountDecimal
  amountRange := h.amountRange
  note := by
    have hnote : noteField (.obj args) = .ok value.invoiceNote := h.note
    cases hvalue : value.invoiceNote with
    | none =>
        have hmissing : Json.get? (.obj (value.fields ++ more)) "invoiceNote" = none := by
          have hfields : ∀ p ∈ value.fields ++ more, p.1 ≠ js "invoiceNote" := by
            intro p hp heq
            rcases List.mem_append.1 hp with hp | hp
            · have hother : ∀ name ∈ [js "idempotencyKey", js "expectedSender",
                  js "expectedReceiver", js "atomicAmount"], name ≠ js "invoiceNote" := by decide
              refine hother p.1 ?_ heq
              simp only [PreparedWatchArguments.fields, hvalue, Option.map_none, Option.toList_none,
                List.append_nil] at hp
              exact List.mem_map_of_mem (f := Prod.fst) hp
            · exact hmore p hp (heq ▸ by decide)
          rw [Json.get?, Json.lookup, List.find?_eq_none.2 fun p hp => by simpa using hfields p hp]
          rfl
        simp [noteField, hmissing, PreparedWatchArguments.spec, hvalue]
    | some note =>
        rw [hvalue] at hnote
        have hthere : Json.get? (.obj (value.fields ++ more)) "invoiceNote" = some (.str note) := by
          simp only [PreparedWatchArguments.fields, hvalue]
          rfl
        simp [noteField, hthere, PreparedWatchArguments.spec, hvalue, noteField_some hnote]

/-! ## The tools and the routes -/

theorem keys_filter_servicePayer :
    (∀ p ∈ args.filter (·.1 != js "servicePayer"), p.1 ∈ watchArguments) ↔
      ∀ p ∈ args, p.1 ∈ recoveryArguments := by
  simp only [List.mem_filter, bne_iff_ne, recoveryArguments, List.mem_append, List.mem_singleton]
  exact ⟨fun h p hp => or_iff_not_imp_right.2 fun hne => h p ⟨hp, hne⟩,
    fun h p hp => (h p hp.1).resolve_right hp.2⟩

/-- The five fields are where they were without the payer. -/
theorem sameRequest_filter (args : List (JsString × Json)) :
    SameRequest (.obj args) (.obj (args.filter (·.1 != js "servicePayer"))) := by
  intro name hname
  have hother : ∀ name ∈ ["idempotencyKey", "expectedSender", "expectedReceiver", "atomicAmount",
      "invoiceNote"], js name ≠ js "servicePayer" := by decide
  exact Json.lookup_filter_other (hother name hname) args

/-- **What `roundwatch.prepare_watch` accepts.** -/
theorem validatePrepareArguments_ok (usdcAssetId : ℤ) :
    validatePrepareArguments isValidAlgorandAddress args = .ok value ↔
      (∀ p ∈ args, p.1 ∈ watchArguments) ∧
        acceptCreate isValidAlgorandAddress usdcAssetId (.obj args) =
          .ok (value.spec usdcAssetId) := by
  rw [acceptCreate_ok]
  constructor
  · intro h
    rw [validatePrepareArguments] at h
    split at h
    · cases h
    · rename_i value' hvalue
      split at h
      · cases h
      · rename_i hadmission
        cases h
        obtain ⟨hknown, haccepted, -⟩ := (validateWatchArguments_ok usdcAssetId).1 hvalue
        exact ⟨hknown, haccepted, hadmission⟩
  · rintro ⟨hknown, haccepted, hadmission⟩
    have hsender : value.expectedSender ≠ algorandZeroAddress := by
      rw [← newWatchCallerIntentAdmissionError_eq usdcAssetId,
        newWatchCallerIntentAdmissionError] at hadmission
      split_ifs at hadmission
      exact newWatchSenderAdmissionError_eq_none.1 hadmission
    rw [validatePrepareArguments,
      (validateWatchArguments_ok usdcAssetId).2 ⟨hknown, haccepted, fun _ => hsender⟩]
    simp only [newWatchCallerIntentAdmissionError_eq usdcAssetId, hadmission]

/-- **What `roundwatch.prepare_recovery` accepts.** -/
theorem validateRecoveryArguments_ok {servicePayer : JsString} (usdcAssetId : ℤ) :
    validateRecoveryArguments isValidAlgorandAddress args = .ok (value, servicePayer) ↔
      (∀ p ∈ args, p.1 ∈ recoveryArguments) ∧
        RecoveryRequest isValidAlgorandAddress usdcAssetId (.obj args) (value.spec usdcAssetId)
          servicePayer := by
  have hobject : ∀ fields, ∃ fields', Json.obj fields = .obj fields' := fun fields => ⟨fields, rfl⟩
  have hsame := sameRequest_filter args
  constructor
  · intro h
    rw [validateRecoveryArguments] at h
    split at h
    · cases h
    rename_i hknown
    split at h
    · cases h
    rename_i payer hpayer
    split at h
    · cases h
    rename_i value' hvalue
    cases h
    obtain ⟨-, haccepted, -⟩ := (validateWatchArguments_ok usdcAssetId).1 hvalue
    have hback := haccepted.congr (fun name hname => (hsame name hname).symm) (hobject args)
    exact ⟨unknownArgument?_eq_none.1 hknown, parseWatchSpec_ok.2 hback, hpayer⟩
  · rintro ⟨hknown, hspec, hpayer⟩
    have haccepted := (parseWatchSpec_ok.1 hspec).congr hsame (hobject _)
    have hvalue : validateWatchArguments isValidAlgorandAddress
        (args.filter fun p => p.1 != js "servicePayer") true = .ok value :=
      (validateWatchArguments_ok usdcAssetId).2
        ⟨keys_filter_servicePayer.2 hknown, haccepted, fun h => by cases h⟩
    rw [validateRecoveryArguments, unknownArgument?_eq_none.2 hknown, addressField, hpayer]
    simp only [hvalue]

/-- The specification an accepted body is parsed to is that of some arguments. -/
theorem Accepted.exists_arguments {body : Json} {spec : WatchSpec}
    (h : Accepted isValidAlgorandAddress usdcAssetId body spec) :
    ∃ value : PreparedWatchArguments, value.spec usdcAssetId = spec :=
  ⟨⟨spec.idempotencyKey, spec.expectedSender, spec.expectedReceiver, spec.atomicAmount,
    spec.invoiceNote⟩, by
    have hasset := h.asset
    cases spec
    exact congrArg _ hasset.symm⟩

/-- The create route takes a prepared body as it takes the arguments. -/
theorem acceptCreate_body
    (h : acceptCreate isValidAlgorandAddress usdcAssetId (.obj args) =
      .ok (value.spec usdcAssetId)) :
    acceptCreate isValidAlgorandAddress usdcAssetId value.body = .ok (value.spec usdcAssetId) := by
  obtain ⟨haccepted, hadmission⟩ := acceptCreate_ok.1 h
  have hbody : Accepted isValidAlgorandAddress usdcAssetId (.obj (value.fields ++ []))
      (value.spec usdcAssetId) := accepted_body (fun p hp => by cases hp) haccepted
  rw [List.append_nil] at hbody
  exact acceptCreate_ok.2 ⟨hbody, hadmission⟩

/-- So does the recovery route. -/
theorem recoveryRequest_body {servicePayer : JsString}
    (h : RecoveryRequest isValidAlgorandAddress usdcAssetId (.obj args) (value.spec usdcAssetId)
      servicePayer) :
    RecoveryRequest isValidAlgorandAddress usdcAssetId (value.recoveryBody servicePayer)
      (value.spec usdcAssetId) servicePayer := by
  have hmore : ∀ p ∈ [(js "servicePayer", Json.str servicePayer)], p.1 ∉ watchArguments := by
    intro p hp
    rw [List.mem_singleton.1 hp]
    exact (by decide : js "servicePayer" ∉ watchArguments)
  have hbody := accepted_body hmore (parseWatchSpec_ok.1 h.spec)
  have hservice : stringField (value.recoveryBody servicePayer) "servicePayer" =
      some servicePayer := by
    simp only [stringField, PreparedWatchArguments.recoveryBody, PreparedWatchArguments.fields]
    cases value.invoiceNote <;> rfl
  refine ⟨parseWatchSpec_ok.2 hbody, ?_⟩
  rw [hservice]
  exact Option.filter_eq_some_iff.2 ⟨rfl, (Option.filter_eq_some_iff.1 h.payer).2⟩

end Routes

/-- **The tools accept what the routes accept.**  `roundwatch.prepare_watch` succeeds on
known arguments exactly if the create route admits them as a body, and
`roundwatch.prepare_recovery` exactly if the recovery route takes them; the bodies they hand
out are read as the same specification and payer. -/
theorem mcp_prepares_what_http_accepts (isValidAlgorandAddress : JsString → Bool)
    (usdcAssetId : ℤ) (args : List (JsString × Json)) :
    ((∃ value, validatePrepareArguments isValidAlgorandAddress args = .ok value) ↔
      (∀ p ∈ args, p.1 ∈ watchArguments) ∧
        ∃ spec, acceptCreate isValidAlgorandAddress usdcAssetId (.obj args) = .ok spec) ∧
    (∀ value, validatePrepareArguments isValidAlgorandAddress args = .ok value →
      ∃ spec, acceptCreate isValidAlgorandAddress usdcAssetId (.obj args) = .ok spec ∧
        acceptCreate isValidAlgorandAddress usdcAssetId value.body = .ok spec) ∧
    ((∃ value servicePayer,
        validateRecoveryArguments isValidAlgorandAddress args = .ok (value, servicePayer)) ↔
      (∀ p ∈ args, p.1 ∈ recoveryArguments) ∧
        ∃ spec servicePayer,
          RecoveryRequest isValidAlgorandAddress usdcAssetId (.obj args) spec servicePayer) ∧
    ∀ value servicePayer,
      validateRecoveryArguments isValidAlgorandAddress args = .ok (value, servicePayer) →
        ∃ spec, RecoveryRequest isValidAlgorandAddress usdcAssetId (.obj args) spec servicePayer ∧
          RecoveryRequest isValidAlgorandAddress usdcAssetId (value.recoveryBody servicePayer) spec
            servicePayer := by
  refine ⟨⟨?_, ?_⟩, fun value h => ?_, ⟨?_, ?_⟩, fun value servicePayer h => ?_⟩
  · rintro ⟨value, h⟩
    obtain ⟨hknown, hcreate⟩ := (validatePrepareArguments_ok usdcAssetId).1 h
    exact ⟨hknown, _, hcreate⟩
  · rintro ⟨hknown, spec, hcreate⟩
    obtain ⟨value, rfl⟩ := (acceptCreate_ok.1 hcreate).1.exists_arguments
    exact ⟨value, (validatePrepareArguments_ok usdcAssetId).2 ⟨hknown, hcreate⟩⟩
  · obtain ⟨-, hcreate⟩ := (validatePrepareArguments_ok usdcAssetId).1 h
    exact ⟨_, hcreate, acceptCreate_body hcreate⟩
  · rintro ⟨value, servicePayer, h⟩
    obtain ⟨hknown, hrequest⟩ := (validateRecoveryArguments_ok usdcAssetId).1 h
    exact ⟨hknown, _, _, hrequest⟩
  · rintro ⟨hknown, spec, servicePayer, hrequest⟩
    obtain ⟨value, rfl⟩ := (parseWatchSpec_ok.1 hrequest.spec).exists_arguments
    exact ⟨value, servicePayer, (validateRecoveryArguments_ok usdcAssetId).2 ⟨hknown, hrequest⟩⟩
  · obtain ⟨-, hrequest⟩ := (validateRecoveryArguments_ok usdcAssetId).1 h
    exact ⟨_, hrequest, recoveryRequest_body hrequest⟩

end RoundWatch
