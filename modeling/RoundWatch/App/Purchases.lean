import RoundWatch.App.CreateLeases
import RoundWatch.App.Finality
import RoundWatch.Store.Attribution

/-!
# Purchases

What x402 settles is money, so everything that leads to a settlement is followed here from
the request to its row, over every schedule of requests, workers and restarts.

* `RouteRequest.Sound` — what a request has been through in the phase it is in;
* `StoreTurn` — what one act does to the store and to the purchase of its request;
* `Ledger` — purchases and rows: every purchase has a row of its own, and every row that
  was not there at the start belongs to a purchase;
* `purchases_traced` — the ledger of every run, and what it says of settlements.
-/

namespace RoundWatch

open JsText

/-! ## What a request has been through -/

/-- The specification a request carries before its watch is prepared. -/
def PaidPhase.spec : PaidPhase → Option WatchSpec
  | .protocol _ spec => spec
  | .prePrepare _ spec _ => some spec
  | _ => none

/-- The watch that x402 has a response for. -/
def PaidPhase.watchId : PaidPhase → Option JsString
  | .settling _ watchId => some watchId
  | .activating _ watchId _ => some watchId
  | .returning _ watchId _ => some watchId
  | _ => none

/-- Nothing was prepared yet. -/
def PaidPhase.beforePurchase : PaidPhase → Bool
  | .arrived | .readingBody _ | .protocol .. | .prePrepare .. => true
  | _ => false

/-- A body that the route accepts asks for the specification. -/
def CreateConfig.Accepts (cfg : CreateConfig) (spec : WatchSpec) : Prop :=
  ∃ body, acceptCreate cfg.isValidAlgorandAddress cfg.usdcAssetId body = .ok spec

/-- What has to be settled about a request before a watch is prepared for it. -/
structure PaidDeeds.Admitted (cfg : CreateConfig) (d : PaidDeeds) (spec : WatchSpec)
    (intent : Option SettlementIntent) : Prop where
  resource : d.resource = .watch
  verified : d.verified = true
  accepted : cfg.Accepts spec
  intent_eq : intent = settlementIntent cfg d.paymentHeader
  required : cfg.requireSettlementIntent = true → intent.isSome = true

/-- A row that was written for the specification and the intent. -/
structure Purchase.Written (p : Purchase) : Prop where
  row : ∃ config id now expiresAt, p.watch = preparedRow config id p.spec p.intent now expiresAt

/-- What a request has been through in the phase it is in. -/
structure RouteRequest.Sound (cfg : CreateConfig) (r : RouteRequest) : Prop where
  spec : ∀ spec, r.phase.spec = some spec → cfg.Accepts spec
  preparing : ∀ lease spec intent, r.phase = .prePrepare lease spec intent →
    r.Admitted cfg spec intent
  before : r.phase.beforePurchase = true → r.purchase = none ∧ r.settled = none ∧
    r.activated = none
  watch : ∀ id, r.phase.watchId = some id → ∃ p, r.purchase = some p ∧ p.watch.id.val = id
  unsettled : ∀ lease id, r.phase = .settling lease id → r.settled = none ∧ r.activated = none
  settled : ∀ lease id evidence, r.phase = .activating lease id evidence →
    r.settled = some evidence
  purchase : ∀ p, r.purchase = some p → r.Admitted cfg p.spec p.intent ∧ p.Written
  paid : r.settled.isSome = true → r.purchase.isSome = true

section Requests

variable {cfg : CreateConfig} {sv : PaidServer} {r : RouteRequest}

/-- A request with the same deeds, in a phase that says nothing more of them. -/
theorem RouteRequest.Sound.keep (h : r.Sound cfg) {r' : RouteRequest}
    (hdeeds : r'.toPaidDeeds = r.toPaidDeeds)
    (hspec : ∀ spec, r'.phase.spec = some spec → cfg.Accepts spec)
    (hpreparing : ∀ lease spec intent, r'.phase ≠ .prePrepare lease spec intent)
    (hbefore : r'.phase.beforePurchase = true → r.phase.beforePurchase = true)
    (hwatch : r'.phase.watchId = none) : r'.Sound cfg where
  spec := hspec
  preparing lease spec intent hphase := absurd hphase (hpreparing lease spec intent)
  before hp := by
    rw [hdeeds]
    exact h.before (hbefore hp)
  watch id hid := by
    rw [hwatch] at hid
    cases hid
  unsettled lease id hphase := by
    rw [hphase] at hwatch
    cases hwatch
  settled lease id evidence hphase := by
    rw [hphase] at hwatch
    cases hwatch
  purchase := by
    rw [hdeeds]
    exact h.purchase
  paid := by
    rw [hdeeds]
    exact h.paid

theorem RouteRequest.Sound.answered (h : r.Sound cfg) {r' : RouteRequest} {status : ℕ}
    (hphase : r'.phase = .answered status) (hdeeds : r'.toPaidDeeds = r.toPaidDeeds) :
    r'.Sound cfg := by
  refine h.keep hdeeds ?_ ?_ ?_ ?_ <;> rw [hphase] <;> simp [PaidPhase.spec,
    PaidPhase.beforePurchase, PaidPhase.watchId]

theorem RouteRequest.Sound.leave (h : r.Sound cfg) {r' : RouteRequest}
    (hdeeds : r'.toPaidDeeds = r.toPaidDeeds) (lease : Option ℕ) (status : ℕ)
    (watchId : Option JsString) : (leave sv r' lease status watchId).2.Sound cfg := by
  have hall : (RoundWatch.leave sv r' lease status watchId).2.toPaidDeeds = r.toPaidDeeds := by
    rw [leave_toPaidDeeds, hdeeds]
  rcases leave_phase sv r' lease status watchId with ⟨hphase, -⟩ | hphase
  · exact h.answered hphase hall
  · exact h.answered hphase hall

theorem RouteRequest.Sound.protocol (h : r.Sound cfg) (hbefore : r.phase.beforePurchase = true)
    {spec : Option WatchSpec} (hspec : ∀ s, spec = some s → cfg.Accepts s) {r' : RouteRequest}
    {lease : Option ℕ} (hphase : r'.phase = .protocol lease spec)
    (hdeeds : r'.toPaidDeeds = r.toPaidDeeds) : r'.Sound cfg := by
  refine h.keep hdeeds ?_ ?_ (fun _ => hbefore) ?_ <;> rw [hphase]
  · exact hspec
  · intro _ _ _ heq
    cases heq
  · rfl

theorem RouteRequest.Sound.admitPayment (h : r.Sound cfg) (hbefore : r.phase.beforePurchase = true)
    {r' : RouteRequest} (hdeeds : r'.toPaidDeeds = r.toPaidDeeds) (now : ℚ)
    {spec : Option WatchSpec} (hspec : ∀ s, spec = some s → cfg.Accepts s) :
    (admitPayment cfg sv r' now spec).2.Sound cfg := by
  have hall : (RoundWatch.admitPayment cfg sv r' now spec).2.toPaidDeeds = r.toPaidDeeds := by
    rw [admitPayment_toPaidDeeds, hdeeds]
  revert hall
  unfold RoundWatch.admitPayment
  dsimp only
  split
  · exact h.protocol hbefore hspec (RouteRequest.enterProtocol_phase ..)
  · exact h.protocol hbefore hspec (RouteRequest.enterProtocol_phase ..)
  · split
    · exact h.answered (RouteRequest.refuse_phase ..)
    split
    · exact h.answered (RouteRequest.refuse_phase ..)
    split
    · exact h.protocol hbefore hspec (RouteRequest.enterProtocol_phase ..)
    · exact h.answered (RouteRequest.refuse_phase ..)

/-- A request that x402 has a watch for, at another point of its settlement. -/
theorem RouteRequest.Sound.pass (h : r.Sound cfg) {id : JsString} (hid : r.phase.watchId = some id)
    {r' : RouteRequest} (hid' : r'.phase.watchId = some id)
    (hmid : ∀ lease id, r'.phase ≠ .settling lease id)
    (hsettled : ∀ lease id evidence, r'.phase = .activating lease id evidence →
      r'.settled = some evidence)
    (hresource : r'.resource = r.resource) (hheader : r'.paymentHeader = r.paymentHeader)
    (hverified : r'.verified = r.verified) (hpurchase : r'.purchase = r.purchase) :
    r'.Sound cfg := by
  obtain ⟨p, hp, hpid⟩ := h.watch id hid
  have hnone : r'.phase.spec = none ∧ r'.phase.beforePurchase = false := by
    cases hphase : r'.phase <;> rw [hphase] at hid' <;>
      first
      | exact ⟨rfl, rfl⟩
      | cases hid'
  refine ⟨?_, ?_, ?_, ?_, ?_, hsettled, ?_, ?_⟩
  · intro spec hspec
    rw [hnone.1] at hspec
    cases hspec
  · intro lease spec intent hphase
    rw [hphase] at hnone
    cases hnone.2
  · intro hbefore
    rw [hnone.2] at hbefore
    cases hbefore
  · intro id' hid''
    rw [hid'] at hid''
    obtain rfl := Option.some.inj hid''
    exact ⟨p, hpurchase.trans hp, hpid⟩
  · intro lease id' hphase
    exact absurd hphase (hmid lease id')
  · intro q hq
    obtain ⟨hadmitted, hwritten⟩ := h.purchase q (hpurchase ▸ hq)
    exact ⟨⟨hresource.trans hadmitted.resource, hverified.trans hadmitted.verified,
      hadmitted.accepted, by rw [hheader]; exact hadmitted.intent_eq, hadmitted.required⟩, hwritten⟩
  · intro _
    rw [hpurchase, hp]
    rfl

/-- x402 lets a request through to the handler. -/
theorem RouteRequest.Sound.verify (h : r.Sound cfg) :
    RouteRequest.Sound cfg { r with verified := true } where
  spec := h.spec
  preparing lease spec intent hphase :=
    let hadmitted := h.preparing lease spec intent hphase
    ⟨hadmitted.resource, rfl, hadmitted.accepted, hadmitted.intent_eq, hadmitted.required⟩
  before := h.before
  watch := h.watch
  unsettled := h.unsettled
  settled := h.settled
  purchase p hp :=
    let ⟨hadmitted, hwritten⟩ := h.purchase p hp
    ⟨⟨hadmitted.resource, rfl, hadmitted.accepted, hadmitted.intent_eq, hadmitted.required⟩,
      hwritten⟩
  paid := h.paid

theorem RouteRequest.Sound.congr (h : r.Sound cfg) {r' : RouteRequest}
    (hphase : r'.phase = r.phase) (hdeeds : r'.toPaidDeeds = r.toPaidDeeds) : r'.Sound cfg := by
  obtain ⟨hspec, hpreparing, hbefore, hwatch, hunsettled, hsettled, hpurchase, hpaid⟩ := h
  rw [← hphase] at hspec hpreparing hbefore hwatch hunsettled hsettled
  rw [← hdeeds] at hpreparing hbefore hwatch hunsettled hsettled hpurchase hpaid
  exact ⟨hspec, hpreparing, hbefore, hwatch, hunsettled, hsettled, hpurchase, hpaid⟩

/-- A watch that was created was written for its call. -/
theorem written_of_prepared {s : Store} {clock : ℤ} {id : JsString} {spec : WatchSpec}
    {intent : Option SettlementIntent} {watch : WatchRow}
    (h : (s.prepareWatch clock id spec intent).2 = .ok ⟨watch, true⟩) :
    Purchase.Written ⟨spec, intent, watch⟩ := by
  rcases s.prepareWatch_cases clock id spec intent with ⟨e, he⟩ | ⟨w, -, -, -, hw⟩ |
    ⟨s', expiresAt, -, hok⟩
  · simp [he] at h
  · simp [hw] at h
  · rw [hok] at h
    injection h with h
    injection h with hwatch _
    exact ⟨_, _, _, _, hwatch.symm⟩

/-- **The step lemma for requests.** -/
theorem Advanced.sound {result : PaidServer × RouteRequest} (hact : Advanced cfg sv r result)
    (h : r.Sound cfg) : result.2.Sound cfg := by
  cases hact with
  | stay => exact h
  | preChallenge answer now hphase hwatch =>
      have hbefore : r.phase.beforePurchase = true := by rw [hphase]; rfl
      unfold RoundWatch.preChallenge
      dsimp only
      split
      · exact h.answered (RouteRequest.answer_phase ..) (by simp)
      · exact h.answered (RouteRequest.answer_phase ..) (by simp)
      · split
        · exact h.admitPayment hbefore (by simp) now (by simp)
        · unfold admitBody
          dsimp only
          split
          · refine h.keep (by simp) ?_ ?_ (fun _ => hbefore) ?_ <;> simp [PaidPhase.spec,
              PaidPhase.watchId]
          · exact h.answered (RouteRequest.refuse_phase ..) (by simp)
  | demo now hphase hdemo => exact h.admitPayment (by rw [hphase]; rfl) rfl now (by simp)
  | readBody outcome now hphase =>
      have hbefore : r.phase.beforePurchase = true := by rw [hphase]; rfl
      unfold RoundWatch.readBody
      dsimp only
      split
      · exact h.answered (RouteRequest.refuse_phase ..) (by simp)
      · rename_i body
        split
        · exact h.answered (RouteRequest.refuse_phase ..) (by simp)
        · rename_i spec haccepted
          refine h.admitPayment hbefore rfl now ?_
          rintro s ⟨⟩
          exact ⟨body, haccepted⟩
  | protocolAnswered status offer hphase => exact h.leave (by simp) _ _ _
  | @verified lease spec now hphase hwatch =>
      have hverified : RouteRequest.Sound cfg { r with verified := true } := h.verify
      unfold beginPreparation
      dsimp only
      split
      · exact hverified.leave (by simp) _ _ _
      · rename_i spec
        split
        · exact hverified.leave (by simp) _ _ _
        · rename_i hrequired
          simp only [RouteRequest.report_toPaidDeeds] at hrequired
          have haccepted : cfg.Accepts spec := h.spec spec (by rw [hphase]; rfl)
          have hbefore := h.before (by rw [hphase]; rfl)
          refine ⟨?_, ?_, ?_, ?_, ?_, ?_, ?_, ?_⟩
          · intro s hs
            simp only [RouteRequest.report_phase, PaidPhase.spec, Option.some.injEq] at hs
            rwa [← hs]
          · intro lease' spec' intent' hnew
            simp only [RouteRequest.report_phase, PaidPhase.prePrepare.injEq] at hnew
            obtain ⟨rfl, rfl, rfl⟩ := hnew
            refine ⟨by simpa using hwatch, by simp, haccepted, by simp, fun hmust => ?_⟩
            rw [RouteRequest.report_toPaidDeeds, Option.isSome_iff_ne_none]
            exact fun hnone => hrequired ⟨hmust, hnone⟩
          · intro _
            simpa using hbefore
          · intro id hid
            simp [PaidPhase.watchId] at hid
          · intro lease' id hnew
            simp at hnew
          · intro lease' id evidence hnew
            simp at hnew
          · intro p hp
            simp [hbefore.1] at hp
          · intro hsettled
            simp [hbefore.2.1] at hsettled
  | @prePrepare lease spec intent answer clock id now hphase =>
      have hadmitted := h.preparing lease spec intent hphase
      have hbefore := h.before (by rw [hphase]; rfl)
      unfold prepare
      dsimp only
      split
      · exact h.leave (by simp) _ _ _
      · exact h.leave (by simp) _ _ _
      · split
        · rename_i watch hprepared
          refine ⟨?_, ?_, ?_, ?_, ?_, ?_, ?_, ?_⟩
          · intro s hs
            simp [PaidPhase.spec] at hs
          · intro lease' spec' intent' hnew
            simp at hnew
          · intro hnew
            simp [PaidPhase.beforePurchase] at hnew
          · intro id' hid
            exact ⟨_, rfl, Option.some.inj hid⟩
          · intro lease' id' _
            simpa using hbefore.2
          · intro lease' id' evidence hnew
            simp at hnew
          · intro p hp
            obtain rfl := Option.some.inj hp
            refine ⟨⟨by simpa using hadmitted.resource, by simpa using hadmitted.verified,
              hadmitted.accepted, by simpa using hadmitted.intent_eq, hadmitted.required⟩, ?_⟩
            exact written_of_prepared hprepared
          · intro hsettled
            rfl
        · exact h.leave (by simp) _ _ _
  | settled evidence now hphase =>
      unfold afterSettled
      dsimp only
      split
      · exact h.pass (by rw [hphase]; rfl) (by simp [PaidPhase.watchId]) (by simp) (by simp)
          (by simp) (by simp) (by simp) (by simp)
      · refine h.pass (by rw [hphase]; rfl) (by simp [PaidPhase.watchId]) (by simp) ?_
          (by simp) (by simp) (by simp) (by simp)
        intro lease id evidence' hnew
        simp only [RouteRequest.report_phase, PaidPhase.activating.injEq] at hnew
        simp [hnew.2.2]
  | settleFailed hphase =>
      unfold RoundWatch.settleFailed
      refine h.pass ?_ rfl (by simp) (by simp) rfl rfl rfl rfl
      rcases hphase with hphase | hphase <;> rw [hphase] <;> rfl
  | lookedUp answer clock now hphase =>
      unfold activate
      dsimp only
      repeat' split
      all_goals
        exact h.pass (by rw [hphase]; rfl) (by simp [PaidPhase.watchId]) (by simp) (by simp)
          (by simp) (by simp) (by simp) (by simp)
  | returned status hphase => exact h.leave rfl _ _ _
  | client hclient => exact h.congr (by simp) (by simp)

end Requests

/-! ## What an act does to the store -/

/-- An operation that prepares no watch. -/
def StoreOp.isPrepare : StoreOp → Bool
  | .prepareWatch .. => true
  | _ => false

/-- An operation that prepares no watch rewrites rows. -/
theorem Store.rewrites_of_not_prepare (s : Store) {op : StoreOp} (hop : op.isPrepare = false) :
    Table.Rewrites (RowChange op) s.rows (s.apply op).rows := by
  rcases s.apply_cases op with ⟨now, id, spec, intent, expiresAt, rfl, -⟩ | hrewrites
  · cases hop
  · exact hrewrites

/-- The transfer pays for the watch: it is the settlement, on the terms of the row. -/
structure PaysFor (evidence : SettlementEvidence) (transfer : IndexedAssetTransfer)
    (watch : WatchRow) : Prop where
  transaction : transfer.transaction = evidence.transaction
  receiver : watch.serviceReceiver.map SqlText.val = some transfer.receiver
  asset : watch.serviceAssetId = some transfer.assetId
  amount : watch.serviceAtomicAmount.map SqlText.val = some transfer.atomicAmount
  first : watch.serviceFirstValid.getD Json.maxSafeInteger ≤ transfer.round
  last : transfer.round ≤ watch.serviceLastValid.getD (-1)

theorem paysFor_of_confirms {evidence : SettlementEvidence} {transfer : IndexedAssetTransfer}
    {watch : WatchRow} (h : confirmsSettlement evidence transfer watch = true) :
    PaysFor evidence transfer watch := by
  simp only [confirmsSettlement, Bool.and_eq_true, beq_iff_eq, decide_eq_true_eq] at h
  obtain ⟨⟨⟨⟨⟨⟨htransaction, -⟩, hreceiver⟩, hasset⟩, hamount⟩, hfirst⟩, hlast⟩ := h
  exact ⟨htransaction, hreceiver, hasset, hamount, hfirst, hlast⟩

/-- The terms of a row are the ones it was written with. -/
theorem PaysFor.of_same {evidence : SettlementEvidence} {transfer : IndexedAssetTransfer}
    {watch row : WatchRow} (h : PaysFor evidence transfer row) (hsame : SameWatch watch row) :
    PaysFor evidence transfer watch where
  transaction := h.transaction
  receiver := by rw [← hsame.serviceReceiver]; exact h.receiver
  asset := by rw [← hsame.serviceAssetId]; exact h.asset
  amount := by rw [← hsame.serviceAtomicAmount]; exact h.amount
  first := by rw [← hsame.serviceFirstValid]; exact h.first
  last := by rw [← hsame.serviceLastValid]; exact h.last

/-- What one act does to the store and to the purchase of its request. -/
inductive StoreTurn (sv : PaidServer) (r : RouteRequest) (result : PaidServer × RouteRequest) : Prop
  /-- It applies operations that prepare no watch. -/
  | rewrite (ops : List StoreOp) (hops : ∀ op ∈ ops, op.isPrepare = false)
      (hstore : result.1.store = sv.store.run ops) (hpurchase : result.2.purchase = r.purchase)
  /-- It prepares the watch of the request. -/
  | prepare {clock : ℤ} {id : JsString} {spec : WatchSpec} {intent : Option SettlementIntent}
      {expiresAt : ℤ} (hphase : r.phase.beforePurchase = true)
      (hcreated : Store.Created sv.store clock id spec intent expiresAt result.1.store)
      (hpurchase : result.2.purchase =
        some ⟨spec, intent, preparedRow sv.store.config id spec intent clock expiresAt⟩)

section Turns

variable {cfg : CreateConfig} {sv : PaidServer} {r : RouteRequest}

theorem StoreTurn.quiet {result : PaidServer × RouteRequest} (hstore : result.1.store = sv.store)
    (hpurchase : result.2.purchase = r.purchase) : StoreTurn sv r result :=
  .rewrite [] (by simp) hstore hpurchase

theorem StoreTurn.apply {result : PaidServer × RouteRequest} (op : StoreOp)
    (hop : op.isPrepare = false) (hstore : result.1.store = sv.store.apply op)
    (hpurchase : result.2.purchase = r.purchase) : StoreTurn sv r result :=
  .rewrite [op] (by simpa using hop) hstore hpurchase

theorem StoreTurn.deeds {result : PaidServer × RouteRequest} (hstore : result.1.store = sv.store)
    (hdeeds : result.2.toPaidDeeds = r.toPaidDeeds) : StoreTurn sv r result :=
  .quiet hstore (by rw [hdeeds])

theorem prepare_turn {lease : Option ℕ} {spec : WatchSpec} {intent : Option SettlementIntent}
    (hphase : r.phase = .prePrepare lease spec intent) (answer : ReadinessAnswer) (clock : ℤ)
    (id : JsString) (now : ℚ) :
    StoreTurn sv r (prepare sv r lease spec intent answer clock id now) := by
  unfold prepare
  dsimp only
  split
  · exact .quiet (by simp) (by simp)
  · exact .quiet (by simp) (by simp)
  · rcases sv.store.prepareWatch_cases clock id spec intent with ⟨e, he⟩ | ⟨w, -, -, -, hw⟩ |
      ⟨s', expiresAt, hcreated, hok⟩
    · rw [he]
      exact .quiet (by simp) (by simp)
    · rw [hw]
      exact .quiet (by simp) (by simp)
    · rw [hok]
      exact .prepare (by rw [hphase]; rfl) hcreated rfl

/-- **The step lemma for the store.** -/
theorem Advanced.turn {result : PaidServer × RouteRequest} (hact : Advanced cfg sv r result) :
    StoreTurn sv r result := by
  cases hact with
  | stay => exact .quiet rfl rfl
  | preChallenge answer now hphase hwatch => exact .deeds (by simp) (by simp)
  | demo now hphase hdemo => exact .deeds (by simp) (by simp)
  | readBody outcome now hphase => exact .deeds (by simp) (by simp)
  | protocolAnswered status offer hphase => exact .deeds (by simp) (by simp)
  | verified now hphase hwatch =>
      unfold beginPreparation
      dsimp only
      split
      · exact .quiet (by simp) (by simp)
      · split
        · exact .quiet (by simp) (by simp)
        · exact .quiet rfl (by simp)
  | prePrepare answer clock id now hphase => exact prepare_turn hphase answer clock id now
  | @settled lease watchId evidence now hphase =>
      refine .apply (.recordSettlementCandidate watchId evidence) rfl rfl ?_
      unfold afterSettled
      dsimp only
      split <;> simp
  | @settleFailed lease watchId hphase =>
      exact .apply (.markSettlementUnknown watchId) rfl rfl rfl
  | @lookedUp lease watchId evidence answer clock now hphase =>
      unfold activate
      dsimp only
      split
      · exact .quiet rfl (by simp)
      · exact .quiet rfl (by simp)
      · rename_i transfer
        split
        · exact .quiet rfl (by simp)
        · split
          · exact .apply (.markSettlementInvalid watchId) rfl rfl (by simp)
          · refine .apply (.activateWatch clock watchId evidence transfer.round) rfl rfl ?_
            dsimp only
            split <;> simp
  | returned status hphase => exact .deeds (by simp) (by simp)
  | client hclient => exact .deeds rfl (by simp)

/-- What an act does to the evidence of its request. -/
inductive EvidenceTurn (sv : PaidServer) (r : RouteRequest) (result : PaidServer × RouteRequest) :
    Prop
  | keep (hsettled : result.2.settled = r.settled) (hactivated : result.2.activated = r.activated)
  /-- The facilitator settled. -/
  | settle {lease : Option ℕ} {watchId : JsString} (hphase : r.phase = .settling lease watchId)
      (hactivated : result.2.activated = r.activated)
  /-- The hook activates the watch on a transfer that pays for it. -/
  | activate {lease : Option ℕ} {watchId : JsString} {evidence : SettlementEvidence}
      {transfer : IndexedAssetTransfer} {watch : WatchRow}
      (hphase : r.phase = .activating lease watchId evidence)
      (hwatch : sv.store.getWatch watchId = some watch) (hpays : PaysFor evidence transfer watch)
      (hsettled : result.2.settled = r.settled) (hactivated : result.2.activated = some transfer)

theorem EvidenceTurn.deeds {result : PaidServer × RouteRequest}
    (h : result.2.toPaidDeeds = r.toPaidDeeds) : EvidenceTurn sv r result :=
  .keep (by rw [h]) (by rw [h])

theorem activate_evidence {lease : Option ℕ} {watchId : JsString} {evidence : SettlementEvidence}
    (hphase : r.phase = .activating lease watchId evidence) (answer : LookupAnswer) (clock : ℤ)
    (now : ℚ) : EvidenceTurn sv r (activate sv r lease watchId evidence answer clock now) := by
  unfold activate
  dsimp only
  split
  · exact .keep (by simp) (by simp)
  · exact .keep (by simp) (by simp)
  · rename_i transfer
    split
    · exact .keep (by simp) (by simp)
    · rename_i watch hwatch
      split
      · exact .keep (by simp) (by simp)
      · rename_i hconfirms
        split
        · exact .keep (by simp) (by simp)
        · exact .activate hphase hwatch (paysFor_of_confirms (by simpa using hconfirms)) (by simp)
            (by simp)

theorem Advanced.evidence {result : PaidServer × RouteRequest} (hact : Advanced cfg sv r result) :
    EvidenceTurn sv r result := by
  cases hact with
  | stay => exact .keep rfl rfl
  | preChallenge answer now hphase hwatch => exact .deeds (by simp)
  | demo now hphase hdemo => exact .deeds (by simp)
  | readBody outcome now hphase => exact .deeds (by simp)
  | protocolAnswered status offer hphase => exact .deeds (by simp)
  | verified now hphase hwatch =>
      unfold beginPreparation
      dsimp only
      repeat' split
      all_goals exact .keep (by simp) (by simp)
  | prePrepare answer clock id now hphase =>
      unfold prepare
      dsimp only
      repeat' split
      all_goals exact .keep (by simp) (by simp)
  | settled evidence now hphase =>
      refine .settle hphase ?_
      unfold afterSettled
      dsimp only
      split <;> simp
  | settleFailed hphase => exact .keep rfl rfl
  | lookedUp answer clock now hphase => exact activate_evidence hphase answer clock now
  | returned status hphase => exact .deeds (by simp)
  | client hclient => exact .deeds (by simp)

end Turns

/-! ## The ledger -/

/-- A row that is there after operations that prepare nothing was there before them. -/
theorem Store.exists_of_mem_run {s : Store} {ops : List StoreOp}
    (hops : ∀ op ∈ ops, op.isPrepare = false) {row' : WatchRow} (hrow : row' ∈ (s.run ops).rows) :
    ∃ row ∈ s.rows, row.id = row'.id := by
  induction ops generalizing s with
  | nil => exact ⟨row', hrow, rfl⟩
  | cons op ops ih =>
      obtain ⟨row, hrow, hid⟩ := ih (fun op' h => hops op' (List.mem_cons_of_mem op h)) hrow
      have hrewrites := s.rewrites_of_not_prepare (hops op (List.mem_cons_self ..))
      obtain ⟨row₀, hrow₀, heq | hchange⟩ := hrewrites.exists_of_mem_right hrow
      · exact ⟨row₀, hrow₀, (congrArg WatchRow.id heq).symm.trans hid⟩
      · exact ⟨row₀, hrow₀, hchange.sameWatch.id.symm.trans hid⟩

/-- The hook of a request has activated its watch on a transfer that pays for it. -/
def RouteRequest.Confirmed (r : RouteRequest) : Prop :=
  ∀ transfer, r.activated = some transfer → ∃ p evidence, r.purchase = some p ∧
    r.settled = some evidence ∧ PaysFor evidence transfer p.watch

namespace PaidApp

/-- A watch was prepared for the request. -/
def Bought (a : PaidApp) (i : ℕ) (p : Purchase) : Prop :=
  ∃ r, a.requests[i]? = some r ∧ r.purchase = some p

/-- Purchases and rows.  `first` are the rows the store was opened with. -/
structure Ledger (cfg : CreateConfig) (first : List WatchRow) (a : PaidApp) : Prop where
  sound : ∀ r ∈ a.requests, RouteRequest.Sound cfg r
  confirmed : ∀ r ∈ a.requests, RouteRequest.Confirmed r
  rows : ∀ row ∈ a.store.rows, Paid row ∧ Lifecycle row
  /-- The rows of the beginning are still there. -/
  old : ∀ row ∈ first, ∃ row' ∈ a.store.rows, Lasting row row'
  /-- Every purchase has its row. -/
  kept : ∀ i p, a.Bought i p → ∃ row ∈ a.store.rows, Lasting p.watch row
  /-- No two purchases share a row. -/
  apart : ∀ i j p p', a.Bought i p → a.Bought j p' → p.watch.id = p'.watch.id → i = j
  /-- No purchase is given a row of the beginning. -/
  fresh : ∀ i p, a.Bought i p → ∀ row ∈ first, row.id ≠ p.watch.id
  /-- Every row is an old one or a purchase. -/
  origin : ∀ row ∈ a.store.rows, (∃ old ∈ first, old.id = row.id) ∨
    ∃ i p, a.Bought i p ∧ p.watch.id = row.id

variable {cfg : CreateConfig} {first : List WatchRow} {a : PaidApp}

/-- Operations that prepare nothing, and requests with the purchases they had. -/
theorem Ledger.rewrite (h : a.Ledger cfg first) {a' : PaidApp}
    (hsound : ∀ r ∈ a'.requests, RouteRequest.Sound cfg r)
    (hconfirmed : ∀ r ∈ a'.requests, RouteRequest.Confirmed r)
    (hbought : ∀ i p, a'.Bought i p ↔ a.Bought i p) (ops : List StoreOp)
    (hops : ∀ op ∈ ops, op.isPrepare = false) (hstore : a'.store = a.store.run ops) :
    a'.Ledger cfg first where
  sound := hsound
  confirmed := hconfirmed
  rows row hrow := by
    rw [hstore] at hrow
    exact ⟨Paid.run (fun r hr => (h.rows r hr).1) ops row hrow,
      Lifecycle.run (fun r hr => (h.rows r hr).2) ops row hrow⟩
  old row hrow := by
    obtain ⟨row', hrow', hlasting⟩ := h.old row hrow
    obtain ⟨row'', hrow'', hlasting'⟩ := Store.lasting_run hrow' (h.rows row' hrow').1 ops
    exact ⟨row'', hstore ▸ hrow'', hlasting.trans hlasting'⟩
  kept i p hp := by
    obtain ⟨row, hrow, hlasting⟩ := h.kept i p ((hbought i p).1 hp)
    obtain ⟨row', hrow', hlasting'⟩ := Store.lasting_run hrow (h.rows row hrow).1 ops
    exact ⟨row', hstore ▸ hrow', hlasting.trans hlasting'⟩
  apart i j p p' hp hp' := h.apart i j p p' ((hbought i p).1 hp) ((hbought j p').1 hp')
  fresh i p hp := h.fresh i p ((hbought i p).1 hp)
  origin row hrow := by
    rw [hstore] at hrow
    obtain ⟨row', hrow', hid⟩ := Store.exists_of_mem_run hops hrow
    rcases h.origin row' hrow' with ⟨old, hold, heq⟩ | ⟨i, p, hp, heq⟩
    · exact .inl ⟨old, hold, heq.trans hid⟩
    · exact .inr ⟨i, p, (hbought i p).2 hp, heq.trans hid⟩

/-- The purchases after a request was replaced. -/
theorem bought_set {i : ℕ} {r r' : RouteRequest} (hr : a.requests[i]? = some r) {sv : PaidServer}
    {j : ℕ} {p : Purchase} :
    Bought { toPaidServer := sv, requests := a.requests.set i r' } j p ↔
      (j = i ∧ r'.purchase = some p) ∨ (j ≠ i ∧ a.Bought j p) := by
  obtain ⟨hlt, -⟩ := List.getElem?_eq_some_iff.1 hr
  constructor
  · rintro ⟨q, hq, hp⟩
    rcases Leases.getElem?_set_cases hq with ⟨hj, rfl⟩ | ⟨hj, hq⟩
    · exact .inl ⟨hj, hp⟩
    · exact .inr ⟨hj, q, hq, hp⟩
  · rintro (⟨rfl, hp⟩ | ⟨hj, q, hq, hp⟩)
    · exact ⟨r', by simp [hlt], hp⟩
    · exact ⟨q, by rw [List.getElem?_set_ne (Ne.symm hj)]; exact hq, hp⟩

/-- A request whose watch is prepared. -/
theorem Ledger.prepare (h : a.Ledger cfg first) {i : ℕ} {r : RouteRequest}
    (hr : a.requests[i]? = some r) (hbefore : r.phase.beforePurchase = true)
    {sv : PaidServer} {r' : RouteRequest} (hsound : r'.Sound cfg) (hconfirmed : RouteRequest.Confirmed r')
    {clock : ℤ} {id : JsString} {spec : WatchSpec} {intent : Option SettlementIntent}
    {expiresAt : ℤ} (hcreated : Store.Created a.store clock id spec intent expiresAt sv.store)
    (hpurchase : r'.purchase =
      some ⟨spec, intent, preparedRow a.store.config id spec intent clock expiresAt⟩) :
    Ledger cfg first { toPaidServer := sv, requests := a.requests.set i r' } := by
  have hnone : r.purchase = none := ((h.sound r (List.mem_of_getElem? hr)).before hbefore).1
  have hbought : ∀ j p, Bought { toPaidServer := sv, requests := a.requests.set i r' } j p →
      (j = i ∧ p.watch = preparedRow a.store.config id spec intent clock expiresAt) ∨
        (j ≠ i ∧ a.Bought j p) := by
    intro j p hp
    rcases (bought_set hr).1 hp with ⟨hj, hp⟩ | hp
    · rw [hpurchase] at hp
      exact .inl ⟨hj, congrArg Purchase.watch (Option.some.inj hp).symm⟩
    · exact .inr hp
  have hnew : ∀ j p, a.Bought j p → p.watch.id ≠ bindText id := by
    intro j p hp
    obtain ⟨row, hrow, hlasting⟩ := h.kept j p hp
    rw [← hlasting.evolves.same.id]
    exact hcreated.id_new hrow
  refine ⟨?_, ?_, ?_, ?_, ?_, ?_, ?_, ?_⟩
  · intro q hq
    rcases List.mem_or_eq_of_mem_set hq with hq | rfl
    · exact h.sound q hq
    · exact hsound
  · intro q hq
    rcases List.mem_or_eq_of_mem_set hq with hq | rfl
    · exact h.confirmed q hq
    · exact hconfirmed
  · intro row hrow
    rw [hcreated.rows, List.mem_append, List.mem_singleton] at hrow
    rcases hrow with hrow | rfl
    · exact h.rows row hrow
    · exact ⟨Paid.preparedRow .., Lifecycle.preparedRow ..⟩
  · intro row hrow
    obtain ⟨row', hrow', hid⟩ := h.old row hrow
    exact ⟨row', by rw [hcreated.rows]; exact List.mem_append_left _ hrow', hid⟩
  · intro j p hp
    rcases hbought j p hp with ⟨-, hwatch⟩ | ⟨-, hp⟩
    · refine ⟨p.watch, ?_, .refl _⟩
      rw [hcreated.rows, hwatch]
      exact List.mem_append_right _ (List.mem_singleton_self _)
    · obtain ⟨row, hrow, hlasting⟩ := h.kept j p hp
      exact ⟨row, by rw [hcreated.rows]; exact List.mem_append_left _ hrow, hlasting⟩
  · intro j k p p' hp hp' hid
    rcases hbought j p hp with ⟨hj, hwatch⟩ | ⟨-, hp⟩ <;>
      rcases hbought k p' hp' with ⟨hk, hwatch'⟩ | ⟨-, hp'⟩
    · exact hj.trans hk.symm
    · rw [hwatch] at hid
      exact absurd hid.symm (hnew k p' hp')
    · rw [hwatch'] at hid
      exact absurd hid (hnew j p hp)
    · exact h.apart j k p p' hp hp' hid
  · intro j p hp row hrow
    rcases hbought j p hp with ⟨-, hwatch⟩ | ⟨-, hp⟩
    · obtain ⟨row', hrow', hlasting⟩ := h.old row hrow
      rw [hwatch, ← hlasting.evolves.same.id]
      exact hcreated.id_new hrow'
    · exact h.fresh j p hp row hrow
  · intro row hrow
    rw [hcreated.rows, List.mem_append, List.mem_singleton] at hrow
    rcases hrow with hrow | rfl
    · rcases h.origin row hrow with hold | ⟨j, p, hp, hid⟩
      · exact .inl hold
      · refine .inr ⟨j, p, (bought_set hr).2 (.inr ⟨?_, hp⟩), hid⟩
        rintro rfl
        obtain ⟨q, hq, hpq⟩ := hp
        rw [hr] at hq
        obtain rfl := Option.some.inj hq
        rw [hnone] at hpq
        cases hpq
    · exact .inr ⟨i, _, (bought_set hr).2 (.inl ⟨rfl, hpurchase⟩), rfl⟩

/-- **The step lemma for confirmations.** -/
theorem Ledger.confirm (h : a.Ledger cfg first) {i : ℕ} {r : RouteRequest}
    (hr : a.requests[i]? = some r) {result : PaidServer × RouteRequest}
    (hact : Advanced cfg a.toPaidServer r result) : result.2.Confirmed := by
  have hmem := List.mem_of_getElem? hr
  have hsound := h.sound r hmem
  have hconfirmed := h.confirmed r hmem
  intro transfer htransfer
  cases hact.evidence with
  | keep hsettled hactivated =>
      obtain ⟨p, evidence, hp, hevidence, hpays⟩ := hconfirmed transfer (hactivated ▸ htransfer)
      have hkept : result.2.purchase = some p := by
        cases hact.turn with
        | rewrite _ _ _ hpurchase => rw [hpurchase, hp]
        | prepare hbefore _ _ =>
            rw [(hsound.before hbefore).1] at hp
            cases hp
      exact ⟨p, evidence, hkept, hsettled.trans hevidence, hpays⟩
  | settle hphase hactivated =>
      rw [hactivated, (hsound.unsettled _ _ hphase).2] at htransfer
      cases htransfer
  | @activate lease watchId evidence paid watch hphase hwatch hpays hsettled hactivated =>
      obtain ⟨p, hp, hid⟩ := hsound.watch watchId (by rw [hphase]; rfl)
      obtain ⟨row, hrow, hlasting⟩ := h.kept i p ⟨r, hr, hp⟩
      have hsame : watch = row := by
        refine Store.eq_of_id (Store.getWatch_mem hwatch) hrow ?_
        rw [Store.getWatch_id hwatch, hlasting.evolves.same.id, ← hid, bindText_val]
      have hkept : result.2.purchase = some p := by
        cases hact.turn with
        | rewrite _ _ _ hpurchase => rw [hpurchase, hp]
        | prepare hbefore _ _ =>
            rw [hphase] at hbefore
            cases hbefore
      rw [htransfer] at hactivated
      obtain rfl := Option.some.inj hactivated
      refine ⟨p, evidence, hkept, hsettled.trans (hsound.settled _ _ _ hphase), ?_⟩
      exact hpays.of_same (hsame ▸ hlasting.evolves.same)

/-- **The step lemma.** -/
theorem Ledger.step (h : a.Ledger cfg first) (e : PaidEvent) : (a.step cfg e).Ledger cfg first := by
  cases e with
  | arrive resource requestId paymentHeader now =>
      have hdeeds : (arrived resource requestId paymentHeader now).toPaidDeeds =
          ⟨resource, paymentHeader, false, none, none, none⟩ := by simp [arrived]
      have hphase : (arrived resource requestId paymentHeader now).phase = .arrived := by
        simp [arrived]
      refine h.rewrite ?_ ?_ ?_ [] (by simp) rfl
      · intro r hr
        rcases List.mem_append.1 hr with hr | hr
        · exact h.sound r hr
        · rw [List.mem_singleton.1 hr]
          refine ⟨?_, ?_, ?_, ?_, ?_, ?_, ?_, ?_⟩ <;>
            simp [hphase, hdeeds, PaidPhase.spec, PaidPhase.watchId]
      · intro r hr
        rcases List.mem_append.1 hr with hr | hr
        · exact h.confirmed r hr
        · rw [List.mem_singleton.1 hr]
          intro transfer htransfer
          rw [hdeeds] at htransfer
          cases htransfer
      · intro i p
        constructor
        · rintro ⟨r, hr, hp⟩
          have hr : (a.requests ++ [arrived resource requestId paymentHeader now])[i]? = some r := hr
          rw [List.getElem?_append] at hr
          split at hr
          · exact ⟨r, hr, hp⟩
          · have hmem := List.mem_singleton.1 (List.mem_of_getElem? hr)
            rw [hmem, hdeeds] at hp
            cases hp
        · rintro ⟨r, hr, hp⟩
          refine ⟨r, ?_, hp⟩
          show (a.requests ++ [arrived resource requestId paymentHeader now])[i]? = some r
          rw [List.getElem?_append_left (List.getElem?_eq_some_iff.1 hr).1]
          exact hr
  | act request act =>
      unfold PaidApp.step
      dsimp only
      cases hr : a.requests[request]? with
      | none => exact h
      | some r =>
          have hact := advanced cfg a.toPaidServer r act
          have hsound := hact.sound (h.sound r (List.mem_of_getElem? hr))
          have hconfirmed := h.confirm hr hact
          cases hact.turn with
          | prepare hbefore hcreated hpurchase =>
              exact h.prepare hr hbefore hsound hconfirmed hcreated hpurchase
          | rewrite ops hops hstore hpurchase =>
              refine h.rewrite ?_ ?_ ?_ _ hops hstore
              · intro q hq
                rcases List.mem_or_eq_of_mem_set hq with hq | rfl
                · exact h.sound q hq
                · exact hsound
              · intro q hq
                rcases List.mem_or_eq_of_mem_set hq with hq | rfl
                · exact h.confirmed q hq
                · exact hconfirmed
              · intro j p
                refine (bought_set hr).trans ⟨?_, fun hp => ?_⟩
                · rintro (⟨rfl, hp⟩ | ⟨-, hp⟩)
                  · exact ⟨r, hr, hpurchase ▸ hp⟩
                  · exact hp
                · by_cases hj : j = request
                  · subst hj
                    obtain ⟨q, hq, hp⟩ := hp
                    rw [hr] at hq
                    obtain rfl := Option.some.inj hq
                    exact .inl ⟨rfl, hpurchase.trans hp⟩
                  · exact .inr ⟨hj, hp⟩
  | elsewhere op =>
      unfold PaidApp.step
      dsimp only
      split
      · rename_i hop
        have hprepare : op.isPrepare = false := by
          cases op <;> first | rfl | cases hop
        exact h.rewrite h.sound h.confirmed (fun _ _ => Iff.rfl) [op]
          (by simpa using hprepare) rfl
      · exact h
  | restart config now =>
      have hdropped : ∀ r, (dropped r).toPaidDeeds = r.toPaidDeeds := by
        intro r
        unfold dropped
        split <;> rfl
      refine h.rewrite ?_ ?_ ?_ [.reopen config] (by simp [StoreOp.isPrepare]) rfl
      · intro q hq
        obtain ⟨r, hr, rfl⟩ := List.mem_map.1 hq
        rcases dropped_phase r with ⟨status, hphase⟩ | hphase
        · exact (h.sound r hr).answered hphase (hdropped r)
        · refine (h.sound r hr).keep (hdropped r) ?_ ?_ ?_ ?_ <;> rw [hphase] <;>
            simp [PaidPhase.spec, PaidPhase.watchId, PaidPhase.beforePurchase]
      · intro q hq
        obtain ⟨r, hr, rfl⟩ := List.mem_map.1 hq
        intro transfer htransfer
        rw [hdropped] at htransfer ⊢
        exact h.confirmed r hr transfer htransfer
      · intro i p
        constructor
        · rintro ⟨q, hq, hp⟩
          have hq : (a.requests.map dropped)[i]? = some q := hq
          rw [List.getElem?_map] at hq
          obtain ⟨r, hr, rfl⟩ := Option.map_eq_some_iff.1 hq
          exact ⟨r, hr, by rwa [hdropped] at hp⟩
        · rintro ⟨r, hr, hp⟩
          refine ⟨dropped r, ?_, by rw [hdropped]; exact hp⟩
          show (a.requests.map dropped)[i]? = some (dropped r)
          rw [List.getElem?_map, hr]
          rfl

theorem ledger_opened {s : Store} (h : ∀ row ∈ s.rows, Paid row ∧ Lifecycle row) (start : ℚ) :
    (opened cfg s start []).Ledger cfg s.rows where
  sound := by simp [opened]
  confirmed := by simp [opened]
  rows := h
  old row hrow := ⟨row, hrow, .refl row⟩
  kept := by simp [Bought, opened]
  apart := by simp [Bought, opened]
  fresh := by simp [Bought, opened]
  origin row hrow := .inl ⟨row, hrow, rfl⟩

/-- **The run lemma.** -/
theorem ledger_after (cfg : CreateConfig) (config : StoreConfig) (history : List StoreOp)
    (start : ℚ) (es : List PaidEvent) :
    (after cfg ((Store.empty config).run history) start es).Ledger cfg
      ((Store.empty config).run history).rows :=
  Runs.run_invariant' (fun _ e h => h.step e) es
    (ledger_opened (fun row hrow => ⟨Paid.run (by simp [Store.empty]) history row hrow,
      Lifecycle.run (by simp [Store.empty]) history row hrow⟩) start)

/-- The row of a purchase still expects the payment it was prepared with. -/
theorem Ledger.expects (h : a.Ledger cfg first) {i : ℕ} {p : Purchase} (hp : a.Bought i p)
    {intent : SettlementIntent} (hintent : p.intent = some intent) :
    ∃ row ∈ a.store.rows, row.id = p.watch.id ∧
      row.expectedServiceTransaction = some (bindText intent.expectedTransaction) := by
  obtain ⟨row, hrow, hlasting⟩ := h.kept i p hp
  obtain ⟨r, hr, hpurchase⟩ := hp
  obtain ⟨config, id, now, expiresAt, hwatch⟩ :=
    ((h.sound r (List.mem_of_getElem? hr)).purchase p hpurchase).2.row
  refine ⟨row, hrow, hlasting.evolves.same.id, hlasting.evolves.expectedTransaction _ ?_⟩
  rw [hwatch, hintent]
  rfl

/-- **Every settlement has a purchase of its own.**  In every schedule of requests, workers
and restarts, from a store with any history, and whatever x402, the clients and the
indexer do:

* a watch is prepared for a request of the create route that x402 let through, whose body
  was accepted as the specification and whose header signs the intent; its id is new, and
  its row is in the store for good;
* two requests never share a watch, and no signed payment is prepared, and so settled,
  for a second time: not for another request and not for a row of the beginning;
* every other row was there at the beginning;
* nothing is settled for a request without a watch;
* a hook activates the watch of its request, on a transfer that is the settlement and pays
  what the purchase was prepared with. -/
theorem purchases_traced (cfg : CreateConfig) (config : StoreConfig) (history : List StoreOp)
    (start : ℚ) (es : List PaidEvent) :
    let s := (Store.empty config).run history
    let a := after cfg s start es
    (∀ r ∈ a.requests, ∀ p, r.purchase = some p →
      r.Admitted cfg p.spec p.intent ∧ p.Written ∧ (∀ row ∈ s.rows, row.id ≠ p.watch.id) ∧
        ∃ row, a.store.getWatch p.watch.id.val = some row ∧ Lasting p.watch row) ∧
    (∀ i j p p', a.Bought i p → a.Bought j p' → i ≠ j → p.watch.id ≠ p'.watch.id ∧
      ∀ intent intent', p.intent = some intent → p'.intent = some intent' →
        bindText intent.expectedTransaction ≠ bindText intent'.expectedTransaction) ∧
    (∀ i p intent, a.Bought i p → p.intent = some intent → ∀ row ∈ s.rows,
      row.expectedServiceTransaction ≠ some (bindText intent.expectedTransaction)) ∧
    (∀ row ∈ a.store.rows, (∃ old ∈ s.rows, old.id = row.id) ∨
      ∃ i p, a.Bought i p ∧ p.watch.id = row.id) ∧
    (∀ r ∈ a.requests, r.settled.isSome = true → r.purchase.isSome = true) ∧
    ∀ r ∈ a.requests, r.Confirmed := by
  intro s a
  have h : a.Ledger cfg s.rows := ledger_after cfg config history start es
  refine ⟨?_, ?_, ?_, h.origin, fun r hr => (h.sound r hr).paid, h.confirmed⟩
  · intro r hr p hp
    obtain ⟨i, hi⟩ := List.getElem?_of_mem hr
    obtain ⟨hadmitted, hwritten⟩ := (h.sound r hr).purchase p hp
    obtain ⟨row, hrow, hlasting⟩ := h.kept i p ⟨r, hi, hp⟩
    refine ⟨hadmitted, hwritten, h.fresh i p ⟨r, hi, hp⟩, row, ?_, hlasting⟩
    refine Store.getWatch_of_mem hrow ?_
    rw [hlasting.evolves.same.id, bindText_val]
  · intro i j p p' hp hp' hne
    have hids : p.watch.id ≠ p'.watch.id := fun heq => hne (h.apart i j p p' hp hp' heq)
    refine ⟨hids, fun intent intent' hintent hintent' hsame => ?_⟩
    obtain ⟨row, hrow, hid, hexpects⟩ := h.expects hp hintent
    obtain ⟨row', hrow', hid', hexpects'⟩ := h.expects hp' hintent'
    have heq : row = row' := a.store.constraints.expected.eq_of_key hrow hrow'
      (hsame ▸ hexpects) hexpects'
    exact hids (by rw [← hid, ← hid', heq])
  · intro i p intent hp hintent old hold hsame
    obtain ⟨row, hrow, hid, hexpects⟩ := h.expects hp hintent
    obtain ⟨row', hrow', hlasting⟩ := h.old old hold
    have heq : row' = row := a.store.constraints.expected.eq_of_key hrow' hrow
      (hlasting.evolves.expectedTransaction _ hsame) hexpects
    refine h.fresh i p hp old hold ?_
    rw [← hid, ← heq, hlasting.evolves.same.id]

end PaidApp

end RoundWatch
