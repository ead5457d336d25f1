import RoundWatch.App.Purchases

/-!
# What the create route answers

* `Delivery` — a success leaves x402 with a watch that is active or matched;
* `PaidApp.Delivers` — that watch was prepared for the request, is funded and stays so;
* `success_recoverable` — every success can be recovered for ever after.
-/

namespace RoundWatch

open JsText

/-! ## Successes -/

section Answers

variable {cfg : CreateConfig} {sv : PaidServer} {r : RouteRequest}

/-- A request of the create route is answered with a success. -/
def RouteRequest.Succeeded (r : RouteRequest) : Prop :=
  r.resource = .watch ∧ ∃ status, r.phase = .answered status ∧ status < 400

/-- A success leaves x402 with a watch that is active or matched. -/
structure Delivery (sv : PaidServer) (r : RouteRequest) (result : PaidServer × RouteRequest) :
    Prop where
  returning : ∃ lease watchId threw watch, r.phase = .returning lease watchId threw ∧
    sv.store.getWatch watchId = some watch ∧ (watch.state = .active ∨ watch.state = .matched)
  store : result.1.store = sv.store
  deeds : result.2.toPaidDeeds = r.toPaidDeeds

theorem not_succeeded {r' : RouteRequest} (h : ∀ status, r'.phase = .answered status → 400 ≤ status) :
    ¬r'.Succeeded := by
  rintro ⟨-, status, hphase, hlt⟩
  have hge := h status hphase
  omega

theorem not_succeeded_of_answered {r' : RouteRequest} {status : ℕ}
    (h : r'.phase = .answered status) (hge : 400 ≤ status) : ¬r'.Succeeded := by
  refine not_succeeded fun status' hphase => ?_
  rw [h] at hphase
  cases hphase
  exact hge

theorem not_succeeded_of_waiting {r' : RouteRequest} (h : ∀ status, r'.phase ≠ .answered status) :
    ¬r'.Succeeded :=
  not_succeeded fun status hphase => absurd hphase (h status)

theorem BodyError.le_status (e : BodyError) : 400 ≤ e.status := by
  cases e <;> simp [BodyError.status]

theorem not_succeeded_admitPayment (now : ℚ) (spec : Option WatchSpec) :
    ¬(admitPayment cfg sv r now spec).2.Succeeded := by
  unfold admitPayment
  dsimp only
  split
  · exact not_succeeded_of_waiting (by simp)
  · exact not_succeeded_of_waiting (by simp)
  · split
    · exact not_succeeded_of_answered (RouteRequest.refuse_phase ..) (by omega)
    split
    · exact not_succeeded_of_answered (RouteRequest.refuse_phase ..) (by omega)
    split
    · exact not_succeeded_of_waiting (by simp)
    · exact not_succeeded_of_answered (RouteRequest.refuse_phase ..) (by omega)

/-- A response without a watch is no success. -/
theorem not_succeeded_leave (lease : Option ℕ) (status : ℕ) :
    ¬(leave sv r lease status none).2.Succeeded := by
  rintro ⟨hwatch, status', hphase, hlt⟩
  rw [leave_toPaidDeeds] at hwatch
  rcases leave_phase sv r lease status none with
    ⟨hleft, hge | hdemo | ⟨id, watch, hid, -⟩⟩ | hleft
  · rw [hleft] at hphase
    cases hphase
    omega
  · rw [hwatch] at hdemo
    cases hdemo
  · cases hid
  · rw [hleft] at hphase
    cases hphase
    omega

/-- **Only a delivery is a success.** -/
theorem Advanced.delivery {result : PaidServer × RouteRequest} (hact : Advanced cfg sv r result)
    (hnew : result.2.Succeeded) : r.Succeeded ∨ Delivery sv r result := by
  cases hact with
  | stay => exact .inl hnew
  | preChallenge answer now hphase hwatch =>
      refine absurd hnew ?_
      unfold RoundWatch.preChallenge
      dsimp only
      split
      · exact not_succeeded_of_answered (RouteRequest.answer_phase ..) (by omega)
      · exact not_succeeded_of_answered (RouteRequest.answer_phase ..) (by omega)
      · split
        · exact not_succeeded_admitPayment now none
        · unfold admitBody
          dsimp only
          split
          · exact not_succeeded_of_waiting (by simp)
          · exact not_succeeded_of_answered (RouteRequest.refuse_phase ..) (by omega)
  | demo now hphase hdemo => exact absurd hnew (not_succeeded_admitPayment now none)
  | readBody outcome now hphase =>
      refine absurd hnew ?_
      unfold RoundWatch.readBody
      dsimp only
      split
      · exact not_succeeded_of_answered (RouteRequest.refuse_phase ..) (BodyError.le_status _)
      · split
        · exact not_succeeded_of_answered (RouteRequest.refuse_phase ..) (by omega)
        · exact not_succeeded_admitPayment now _
  | protocolAnswered status offer hphase => exact absurd hnew (not_succeeded_leave _ _)
  | verified now hphase hwatch =>
      refine absurd hnew ?_
      unfold beginPreparation
      dsimp only
      split
      · exact not_succeeded_leave _ _
      · split
        · exact not_succeeded_leave _ _
        · exact not_succeeded_of_waiting (by simp)
  | prePrepare answer clock id now hphase =>
      refine absurd hnew ?_
      unfold prepare
      dsimp only
      split
      · exact not_succeeded_leave _ _
      · exact not_succeeded_leave _ _
      · split
        · exact not_succeeded_of_waiting (by simp)
        · exact not_succeeded_leave _ _
  | settled evidence now hphase =>
      refine absurd hnew ?_
      unfold afterSettled
      dsimp only
      split <;> exact not_succeeded_of_waiting (by simp)
  | settleFailed hphase =>
      refine absurd hnew ?_
      unfold RoundWatch.settleFailed
      exact not_succeeded_of_waiting (by simp)
  | lookedUp answer clock now hphase =>
      refine absurd hnew ?_
      unfold activate
      dsimp only
      repeat' split
      all_goals exact not_succeeded_of_waiting (by simp)
  | @returned lease watchId threw status hphase =>
      obtain ⟨hwatch, status', hanswered, hlt⟩ := hnew
      rw [leave_toPaidDeeds] at hwatch
      rcases leave_phase sv r lease status (some watchId) with
        ⟨hleft, hge | hdemo | ⟨id, watch, hid, hget, hstate⟩⟩ | hleft
      · rw [hleft] at hanswered
        cases hanswered
        omega
      · rw [hwatch] at hdemo
        cases hdemo
      · obtain rfl := Option.some.inj hid
        exact .inr ⟨⟨lease, watchId, threw, watch, hphase, hget, hstate⟩, by simp, by simp⟩
      · rw [hleft] at hanswered
        cases hanswered
        omega
  | client hclient =>
      left
      obtain ⟨hwatch, status, hphase, hlt⟩ := hnew
      exact ⟨by simpa using hwatch, status, by simpa using hphase, hlt⟩

end Answers

/-! ## What a success has bought -/

/-- The watch has left settlement, with its service payment on record. -/
def Funded (s : Store) (id : SqlText) : Prop :=
  ∃ row ∈ s.rows, row.id = id ∧ row.settling = false ∧ row.serviceTransaction.isSome = true

theorem Funded.run {s : Store} {id : SqlText} (h : Funded s id) (hpaid : ∀ row ∈ s.rows, Paid row)
    (ops : List StoreOp) : Funded (s.run ops) id := by
  obtain ⟨row, hrow, hid, hleft, hsome⟩ := h
  obtain ⟨row', hrow', hlasting⟩ := Store.lasting_run hrow (hpaid row hrow) ops
  obtain ⟨hleft', hsame⟩ := hlasting.left hleft
  exact ⟨row', hrow', hlasting.evolves.same.id.trans hid, hleft', by rw [hsame]; exact hsome⟩

theorem StoreTurn.funded {sv : PaidServer} {r : RouteRequest} {result : PaidServer × RouteRequest}
    (h : StoreTurn sv r result) (hpaid : ∀ row ∈ sv.store.rows, Paid row) {id : SqlText}
    (hfunded : Funded sv.store id) : Funded result.1.store id := by
  cases h with
  | rewrite ops _ hstore _ => exact hstore ▸ hfunded.run hpaid ops
  | prepare _ hcreated _ =>
      obtain ⟨row, hrow, hrest⟩ := hfunded
      exact ⟨row, by rw [hcreated.rows]; exact List.mem_append_left _ hrow, hrest⟩

namespace PaidApp

variable {cfg : CreateConfig} {first : List WatchRow} {a : PaidApp}

/-- Every success has bought a watch that is funded. -/
def Delivers (a : PaidApp) : Prop :=
  ∀ r ∈ a.requests, r.Succeeded → ∃ p, r.purchase = some p ∧ Funded a.store p.watch.id

theorem Ledger.paid_rows (h : a.Ledger cfg first) : ∀ row ∈ a.store.rows, Paid row :=
  fun row hrow => (h.rows row hrow).1

/-- A delivery delivers. -/
theorem Ledger.delivered (h : a.Ledger cfg first) {i : ℕ} {r : RouteRequest}
    (hr : a.requests[i]? = some r) {result : PaidServer × RouteRequest}
    (hdelivery : Delivery a.toPaidServer r result) :
    ∃ p, result.2.purchase = some p ∧ Funded result.1.store p.watch.id := by
  obtain ⟨lease, watchId, threw, watch, hphase, hget, hstate⟩ := hdelivery.returning
  obtain ⟨p, hp, hid⟩ :=
    (h.sound r (List.mem_of_getElem? hr)).watch watchId (by rw [hphase]; rfl)
  have hrow := Store.getWatch_mem hget
  have hfunded : watch.funded = true := by
    rcases hstate with hstate | hstate <;> simp [WatchRow.funded, hstate]
  refine ⟨p, by rw [hdelivery.deeds]; exact hp, watch, hdelivery.store ▸ hrow, ?_, ?_, ?_⟩
  · rw [Store.getWatch_id hget, ← hid, bindText_val]
  · rcases hstate with hstate | hstate <;> simp [WatchRow.settling, hstate]
  · exact ((h.rows watch hrow).2.funded hfunded).1

/-- A process that ends loses no answer. -/
theorem dropped_of_answered {r : RouteRequest} {status : ℕ}
    (h : (dropped r).phase = .answered status) : dropped r = r := by
  cases hphase : r.phase with
  | answered status' => simp [dropped, hphase]
  | _ => simp [dropped, hphase] at h

theorem Delivers.step (hled : a.Ledger cfg first) (h : a.Delivers) (e : PaidEvent) :
    (a.step cfg e).Delivers := by
  cases e with
  | arrive resource requestId paymentHeader now =>
      intro r hr hsucceeded
      rcases List.mem_append.1 hr with hr | hr
      · exact h r hr hsucceeded
      · rw [List.mem_singleton.1 hr] at hsucceeded
        refine absurd hsucceeded (not_succeeded_of_waiting ?_)
        simp [arrived]
  | act request act =>
      unfold PaidApp.step
      dsimp only
      cases hr : a.requests[request]? with
      | none => exact h
      | some r =>
          have hact := advanced cfg a.toPaidServer r act
          have hmem := List.mem_of_getElem? hr
          intro q hq hsucceeded
          rcases List.mem_or_eq_of_mem_set hq with hq | rfl
          · obtain ⟨p, hp, hfunded⟩ := h q hq hsucceeded
            exact ⟨p, hp, hact.turn.funded hled.paid_rows hfunded⟩
          · rcases hact.delivery hsucceeded with hold | hdelivery
            · obtain ⟨p, hp, hfunded⟩ := h r hmem hold
              refine ⟨p, ?_, hact.turn.funded hled.paid_rows hfunded⟩
              cases hact.turn with
              | rewrite _ _ _ hpurchase => exact hpurchase.trans hp
              | prepare hbefore _ _ =>
                  obtain ⟨-, status, hphase, -⟩ := hold
                  rw [hphase] at hbefore
                  cases hbefore
            · exact hled.delivered hr hdelivery
  | elsewhere op =>
      unfold PaidApp.step
      dsimp only
      split
      · intro r hr hsucceeded
        obtain ⟨p, hp, hfunded⟩ := h r hr hsucceeded
        exact ⟨p, hp, hfunded.run hled.paid_rows [op]⟩
      · exact h
  | restart config now =>
      intro q hq hsucceeded
      obtain ⟨r, hr, rfl⟩ := List.mem_map.1 hq
      obtain ⟨-, status, hphase, -⟩ := id hsucceeded
      have hsame : dropped r = r := dropped_of_answered hphase
      rw [hsame] at hsucceeded ⊢
      obtain ⟨p, hp, hfunded⟩ := h r hr hsucceeded
      exact ⟨p, hp, hfunded.run hled.paid_rows [.reopen config]⟩

theorem delivers_after (cfg : CreateConfig) (config : StoreConfig) (history : List StoreOp)
    (start : ℚ) (es : List PaidEvent) :
    let a := after cfg ((Store.empty config).run history) start es
    a.Ledger cfg ((Store.empty config).run history).rows ∧ a.Delivers := by
  intro a
  have hopened := ledger_after cfg config history start []
  exact Runs.run_invariant'
    (I := fun a : PaidApp => a.Ledger cfg ((Store.empty config).run history).rows ∧ a.Delivers)
    (fun _ e h => ⟨h.1.step e, h.2.step h.1 e⟩) es ⟨hopened, by simp [Delivers, opened]⟩

/-! ## Recovery -/

/-- What the intent of a header says. -/
theorem settlementIntent_some {paymentHeader : Option JsString} {intent : SettlementIntent}
    (h : settlementIntent cfg paymentHeader = some intent) :
    ∃ encoded transaction, cfg.readTransaction encoded = some transaction ∧
      intent.expectedTransaction = transaction.transactionId ∧
      intent.payer = some transaction.payer := by
  unfold settlementIntent at h
  split at h
  · cases h
  · cases h
  · unfold extractSettlementIntent at h
    obtain ⟨decoded, -, h⟩ := Option.bind_eq_some_iff.1 h
    split at h
    · cases h
    · obtain ⟨encoded, -, h⟩ := Option.bind_eq_some_iff.1 h
      obtain ⟨transaction, hread, h⟩ := Option.bind_eq_some_iff.1 h
      split at h
      · obtain rfl := Option.some.inj h
        exact ⟨encoded, transaction, hread, rfl, rfl⟩
      · cases h

/-- **A success can be recovered for ever.**  In every schedule, from a store with any
history: an answer below 400 of the create route was given for a watch that was prepared
for that request, has left settlement and has its payment on record; and whoever repeats
the specification with the payer of the signed payment, at any later moment and after any
restart, is handed that watch by the recovery route, if the note has neither an unpaired
surrogate nor U+0000. -/
theorem success_recoverable (cfg : CreateConfig)
    (hvalid : ∀ a, cfg.isValidAlgorandAddress a → AddressText a)
    (hids : ∀ encoded transaction, cfg.readTransaction encoded = some transaction →
      transaction.transactionId ≠ [])
    (config : StoreConfig) (history : List StoreOp) (start : ℚ) (es : List PaidEvent) :
    let a := after cfg ((Store.empty config).run history) start es
    ∀ r ∈ a.requests, r.Succeeded → ∃ p row, r.purchase = some p ∧
      a.store.getWatch p.watch.id.val = some row ∧ Lasting p.watch row ∧
      row.settling = false ∧ row.serviceTransaction.isSome = true ∧
      ∀ intent payer body, p.intent = some intent → intent.payer = some payer →
        RecoveryRequest cfg.isValidAlgorandAddress cfg.usdcAssetId body p.spec payer →
        (∀ note, p.spec.invoiceNote = some note → TextRead.untilNul.Keeps note) →
        recoverWatch cfg.isValidAlgorandAddress cfg.usdcAssetId a.store body =
          .recovered (publicWatch row) := by
  intro a r hr hsucceeded
  obtain ⟨hled, hdelivers⟩ := delivers_after cfg config history start es
  obtain ⟨p, hp, row, hrow, hid, hleft, hsome⟩ := hdelivers r hr hsucceeded
  obtain ⟨hadmitted, hwritten⟩ := (hled.sound r hr).purchase p hp
  obtain ⟨i, hi⟩ := List.getElem?_of_mem hr
  have hlasting : Lasting p.watch row := by
    obtain ⟨row', hrow', hlasting⟩ := hled.kept i p ⟨r, hi, hp⟩
    rwa [Store.eq_of_id hrow hrow' (hid.trans hlasting.evolves.same.id.symm)]
  refine ⟨p, row, hp, ?_, hlasting, hleft, hsome, ?_⟩
  · exact Store.getWatch_of_mem hrow (by rw [hid, bindText_val])
  intro intent payer body hintent hpayer hrequest hnote
  obtain ⟨config', id, now, expiresAt, hwatch⟩ := hwritten.row
  rw [hintent] at hwatch
  have haccepted := parseWatchSpec_ok.1 hrequest.spec
  have hpayerValid : cfg.isValidAlgorandAddress payer = true :=
    (Option.filter_eq_some_iff.1 hrequest.payer).2
  obtain ⟨encoded, transaction, hread, htx, -⟩ :=
    settlementIntent_some (hadmitted.intent_eq.symm.trans hintent)
  have hpaid : Paid row := hled.paid_rows row hrow
  have hkept : Kept payer p.spec p.watch row := by
    have hevolves := hlasting.evolves
    rw [hwatch] at hevolves ⊢
    exact .of_evolves hpayer (hvalid payer hpayerValid).ne_nil
      (by rw [htx]; exact hids encoded transaction hread) hevolves hpaid
  have hterms : Written config' p.spec p.watch := hwatch ▸ .preparedRow ..
  have hexact : exactMatch row p.spec payer = true :=
    (exactMatch_iff hvalid haccepted hpayerValid hterms hkept).2
      fun note hsome => (hnote note hsome).all _
  have hconfirmed : row.settlementConfirmed = true := by
    obtain ⟨expected, hexpected, hne⟩ := hkept.expected
    obtain ⟨t, ht⟩ := Option.isSome_iff_exists.1 hsome
    have hsame : expected = t := hpaid.expected _ t hexpected hne ht
    rw [WatchRow.settlementConfirmed, ht, ← hsame]
    exact decide_eq_true fun hnil => hne (SqlText.ext hnil)
  rw [recoverWatch_of_answered hrequest ⟨hrow, hkept.holds, hexact⟩, recoveryReply, if_pos]
  rw [hconfirmed, WatchRow.handedBack_eq, hleft]
  rfl

end PaidApp

theorem sampleRate_positive : (0 : ℚ) < 1 := by decide

theorem sampleLimit_positive : positiveInteger 1 := by decide

/-- A service on the mainnet whose packages read one payment out of every header. -/
def sampleCreateConfig : CreateConfig where
  isValidAlgorandAddress := isKnownAddress
  usdcAssetId := 31566704
  network := js "algorand:mainnet"
  avmAddress := algorandZeroAddress
  serviceAtomicAmount := js "10000"
  requireSettlementIntent := true
  signedWatchBodyGateOptions :=
    ⟨1, 1, 1, sampleRate_positive, sampleLimit_positive, sampleLimit_positive⟩
  signedPaymentGateOptions :=
    ⟨1, 1, 1, sampleRate_positive, sampleLimit_positive, sampleLimit_positive⟩
  decodePaymentSignatureHeader := fun _ => some <| .obj
    [(js "accepted", .obj [(js "network", .str (js "algorand:mainnet"))]),
      (js "payload", .obj
        [(js "paymentGroup", .arr [.str (js "YQ==")]), (js "paymentIndex", .num 0)])]
  readTransaction := fun _ => some
    { transactionId := js "TX"
      payer := probeAddress
      receiver := some algorandZeroAddress
      assetId := some 31566704
      atomicAmount := some (js "10000")
      firstValid := 1
      lastValid := 1000 }

/-- One purchase, from the request to its answer. -/
def samplePurchase : List PaidEvent :=
  [.arrive .watch (js "request-1") (some (js "header")) 0,
    .act 0 (.preChallenge (.snapshot true []) 1),
    .act 0 (.readBody (.ok (.obj (requestFields (js "invoice-1")))) 2),
    .act 0 (.client (.invoke .verify 3)),
    .act 0 (.client (.answer 0 (.result (some true)) 4)),
    .act 0 (.verified 5),
    .act 0 (.prePrepare (.snapshot true []) 0 (js "watch-1") 6),
    .act 0 (.client (.invoke .settle 7)),
    .act 0 (.client (.answer 1 (.result (some true)) 8)),
    .act 0 (.settled ⟨js "TX", js "algorand:mainnet", some probeAddress⟩ 9),
    .act 0 (.lookedUp (.transfer
      ⟨js "TX", probeAddress, algorandZeroAddress, 31566704, js "10000", 10⟩) 0 10),
    .act 0 (.returned 200)]

/-- The purchase is answered with 200, and its watch is recovered with the body of the
request and the payer. -/
theorem PaidApp.success_recoverable_sample :
    let a := after sampleCreateConfig (Store.empty .default) 0 samplePurchase
    ∃ r ∈ a.requests, r.phase = .answered 200 ∧ ∃ p row, r.purchase = some p ∧
      a.store.getWatch p.watch.id.val = some row ∧
      row.settling = false ∧ row.serviceTransaction.isSome = true ∧
      recoverWatch isKnownAddress 31566704 a.store
          (.obj ((js "servicePayer", .str probeAddress) :: requestFields (js "invoice-1"))) =
        .recovered (publicWatch row) := by
  have hrun : (PaidResource.watch, PaidPhase.answered 200,
      some (requestSpec (js "invoice-1"), some (js "TX", some probeAddress))) ∈
      (after sampleCreateConfig (Store.empty .default) 0 samplePurchase).requests.map
        fun r => (r.resource, r.phase, r.purchase.map fun p =>
          (p.spec, p.intent.map fun i => (i.expectedTransaction, i.payer))) := by decide +kernel
  obtain ⟨r, hr, hsame⟩ := List.mem_map.1 hrun
  obtain ⟨hresource, hrest⟩ := Prod.mk.inj hsame
  obtain ⟨hphase, hpurchase⟩ := Prod.mk.inj hrest
  have hids : ∀ encoded transaction, sampleCreateConfig.readTransaction encoded =
      some transaction → transaction.transactionId ≠ [] := by
    rintro encoded transaction ⟨⟩
    decide
  obtain ⟨p, row, hp, hget, -, hsettling, hpaid, hrecover⟩ :=
    success_recoverable sampleCreateConfig addressText_of_isKnownAddress hids .default [] 0
      samplePurchase r hr ⟨hresource, 200, hphase, by omega⟩
  refine ⟨r, hr, hphase, p, row, hp, hget, hsettling, hpaid, ?_⟩
  rw [hp] at hpurchase
  obtain ⟨hspec, hintents⟩ := Prod.mk.inj (Option.some.inj hpurchase)
  obtain ⟨intent, hintent, hterms⟩ := Option.map_eq_some_iff.1 hintents
  refine hrecover intent probeAddress _ hintent (Prod.mk.inj hterms).2 ⟨?_, by decide⟩ ?_
  · rw [hspec]
    rfl
  · rw [hspec]
    intro note hnote
    cases hnote
    decide

end RoundWatch
