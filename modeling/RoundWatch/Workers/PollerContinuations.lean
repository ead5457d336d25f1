import RoundWatch.Workers.Continuations
import RoundWatch.Workers.PollerSound

/-!
# The poller goes on where it left off

One lemma for each stretch of the poller, in the order of its code: what it does with the
session objects and the requests it makes keep the invariant.

* `Settles` — a stretch of sweep `i` ends with the invariant, its request counted;
* `Settles.resumePoll`, `Settles.runOnce` — what the scheduler can call.
-/

namespace RoundWatch

open JsText

variable {cfg : WorkerConfig} {asked : List PageRequest} {σ σ' : System} {i : ℕ}
  {busy : SqlText → Prop} {sweep : Sweep} {turn : PollTurn}

/-! ## The end of a stretch -/

/-- A stretch of sweep `i` is over: the invariant holds of the requests so far and of the one
it ends in. -/
abbrev Settles (cfg : WorkerConfig) (asked : List PageRequest) (i : ℕ) (σ : System) : Prop :=
  Ordered cfg ((σ.pageRequest? i).toList ++ asked) σ

theorem System.pageRequest?_setSweep (σ : System) (i : ℕ) (sweep : Sweep) :
    (σ.setSweep i sweep).pageRequest? i =
      match sweep.phase with
      | .serving turn => turn.pageRequest? σ
      | _ => none := by
  simp only [System.pageRequest?, System.setSweep, Function.update_self, Option.bind_some]
  rfl

theorem LoopOrdered.mono (h : LoopOrdered σ sweep)
    (hstopped : σ'.poller.schedulingStopped = σ.poller.schedulingStopped) :
    LoopOrdered σ' sweep := by
  refine ⟨?_, ?_⟩
  · rw [hstopped]
    exact h.tip
  · rw [hstopped]
    exact h.pages

/-- A sweep comes to another point; it goes on with the sessions that are kept for it. -/
theorem Midway.setSweep (h : Midway cfg asked i busy σ)
    (hsweep : SweepOrdered asked (σ.setSweep i sweep) sweep)
    (hbusy : ∀ id, busy id → sweep.Holds id ∨
      (σ.poller.schedulingStopped = true ∧ ∀ turn, sweep.phase ≠ .serving turn)) :
    Ordered cfg asked (σ.setSweep i sweep) := by
  have hat : ∀ j s, (σ.setSweep i sweep).poller.sweeps j = some s → j = i ∧ s = sweep := by
    intro j s hs
    by_cases hj : j = i
    · subst hj
      exact ⟨rfl, by simpa [System.setSweep] using hs.symm⟩
    · have hs' : σ.poller.sweeps j = some s := by simpa [System.setSweep, hj] using hs
      exact absurd (h.alone j (by simp [hs'])) hj
  refine ⟨h.toMemory.keep (List.Subset.refl _) (.refl _) rfl rfl fun _ _ h => h,
    fun j k hj hk => ?_, fun j hj => ?_, fun j s hs => ?_, fun id ref href hid => ?_⟩
  · obtain ⟨s, hs⟩ := Option.isSome_iff_exists.1 hj
    obtain ⟨s', hs'⟩ := Option.isSome_iff_exists.1 hk
    rw [(hat j s hs).1, (hat k s' hs').1]
  · obtain ⟨s, hs⟩ := Option.isSome_iff_exists.1 hj
    rw [(hat j s hs).1]
    exact h.numbered
  · obtain ⟨-, rfl⟩ := hat j s hs
    exact hsweep
  · refine h.ready id ref href fun hb => hid ?_
    rcases hbusy id hb with hholds | ⟨hstopped, hphase⟩
    · exact Or.inl ⟨i, sweep, by simp [System.setSweep], hholds⟩
    · refine Or.inr ⟨hstopped, fun j s turn hs => ?_⟩
      obtain ⟨-, rfl⟩ := hat j s hs
      exact hphase turn

/-- The turn of a watch ends. -/
theorem Midway.served (h : Midway cfg asked i busy σ) (hloop : LoopOrdered σ sweep)
    {watch : WatchRow} {result : Except TurnError CustomerTurnOutcome}
    (hshutdown : result = .error .shutdown → σ.poller.schedulingStopped = true)
    (hbusy : ∀ id, busy id → σ.poller.schedulingStopped = true ∨
      (watch.id = id ∧ ∃ e, result = .error e)) :
    Settles cfg asked i (σ.served i sweep watch result) := by
  unfold Settles System.served
  rw [System.pageRequest?_setSweep]
  refine h.setSweep ⟨⟨hloop.tip, hloop.pages⟩, by simp, fun w hw => ?_⟩ fun id hid => ?_
  · cases hw
    exact hshutdown rfl
  · rcases hbusy id hid with hstopped | ⟨hwatch, e, rfl⟩
    · exact Or.inr ⟨hstopped, by simp⟩
    · exact Or.inl (Or.inr ⟨watch, e, rfl, hwatch⟩)

/-- It ends in an error of the provider or the store. -/
theorem Midway.failed (h : Midway cfg asked i busy σ) (hloop : LoopOrdered σ sweep)
    {watch : WatchRow} {e : TurnError}
    (he : e = .shutdown → σ.poller.schedulingStopped = true)
    (hbusy : ∀ id, busy id → watch.id = id) :
    Settles cfg asked i (σ.served i sweep watch (.error e)) :=
  h.served hloop (fun heq => he (Except.error.inj heq)) fun id hid => Or.inr ⟨hbusy id hid, e, rfl⟩

/-- It ends well. -/
theorem Midway.done (h : Midway cfg asked i (fun _ => False) σ) (hloop : LoopOrdered σ sweep)
    {watch : WatchRow} {outcome : CustomerTurnOutcome} :
    Settles cfg asked i (σ.served i sweep watch (.ok outcome)) :=
  h.served hloop (by simp) fun _ hid => hid.elim

/-- The turn waits for something else than a page. -/
theorem Midway.awaitAt (h : Midway cfg asked i (fun _ => False) σ) (hloop : LoopOrdered σ sweep)
    (hturn : TurnOrdered asked σ turn)
    (hpoint : ∀ ref query held, turn.point ≠ .page ref query held) :
    Settles cfg asked i (σ.awaitAt i sweep turn) := by
  have hnone : turn.pageRequest? σ = none := by
    unfold PollTurn.pageRequest?
    split
    · rename_i ref query held heq
      exact absurd heq (hpoint ref query held)
    · rfl
  unfold Settles System.awaitAt
  rw [System.pageRequest?_setSweep]
  dsimp only
  rw [hnone]
  refine h.setSweep ⟨⟨hloop.tip, hloop.pages⟩, fun turn' hphase => ?_, by simp⟩ fun _ hid => hid.elim
  cases hphase
  exact ⟨hturn.same, hturn.current, hturn.tip, fun ref query held heq =>
    absurd heq (hpoint ref query held)⟩

/-- The turn waits for a page of its session. -/
theorem Midway.askPage (h : Midway cfg asked i (fun _ => False) σ) (hloop : LoopOrdered σ sweep)
    (hsame : turn.watch.row.id = turn.initial.id) (hcurrent : Current σ.store turn.watch)
    {ref : ℕ} {query : ScanQuery} {held : Option (Except TurnError TransactionPage × Bool)}
    (href : σ.poller.sessions turn.initial.id = some ref)
    (hmin : (σ.poller.objects ref).minRound = turn.watch.scanAfterRound + 1)
    (hmax : ∀ closingRound, turn.watch.row.closingRound = some closingRound →
      (σ.poller.objects ref).maxRound ≤ closingRound)
    (hquery : buildWatchSearchUrl cfg.scanQueryVariant turn.watch.row.terms
      (σ.poller.objects ref).minRound (σ.poller.objects ref).maxRound
      (σ.poller.objects ref).nextToken = .ok query)
    (hheld : ∀ fresh, held = some (.error .shutdown, fresh) →
      σ.poller.schedulingStopped = true) (used : ℕ) :
    Settles cfg asked i
      (σ.awaitAt i sweep { turn with used := used, point := .page ref query held }) := by
  obtain ⟨hlt, hwatch⟩ := h.sessions _ _ href
  have hunasked := h.ready _ _ href id
  let q : PageRequest :=
    { session := ref
      object := σ.poller.objects ref
      terms := turn.watch.row.terms
      query := query
      sent := held.isNone
      row := σ.store.getWatch (σ.poller.objects ref).watchId.val }
  have hq : q.Continues cfg.scanQueryVariant σ.log asked := by
    refine ⟨fun t ht => ?_, hunasked, ?_, hquery⟩
    · obtain ⟨-, p, hp, hsession, hreturned⟩ := h.tokens ref hlt t ht
      have hfor := (h.requests p hp).2
      rw [hsession] at hfor
      exact ⟨p, hp, hsession, hfor.watchId, hfor.minRound, hfor.maxRound, hreturned⟩
    · exact hcurrent.fits (hwatch.trans hsame.symm) hmin hmax
  have hmemory : Memory cfg (q :: asked) σ := by
    refine ⟨.cons hq h.history, h.sessions, fun ref' href' t ht => ?_, fun p hp => ?_, h.opened⟩
    · obtain ⟨hseen, p, hp, hrest⟩ := h.tokens ref' href' t ht
      exact ⟨hseen, p, List.mem_cons_of_mem _ hp, hrest⟩
    · rcases List.mem_cons.1 hp with rfl | hp
      · exact ⟨hlt, rfl, rfl, rfl, fun t ht => (h.tokens ref hlt t ht).1⟩
      · exact h.requests p hp
  have hmidway : Midway cfg (q :: asked) i (· = turn.initial.id) σ := by
    refine ⟨hmemory, h.alone, h.numbered, fun id' ref' href' hid p hp hsession => ?_⟩
    rcases List.mem_cons.1 hp with rfl | hp
    · cases hsession
      exact absurd ((h.sessions _ _ href').2.symm.trans hwatch) hid
    · exact h.ready id' ref' href' id p hp hsession
  unfold Settles System.awaitAt
  rw [System.pageRequest?_setSweep]
  refine hmidway.setSweep ⟨⟨hloop.tip, hloop.pages⟩, fun turn' hphase => ?_, by simp⟩ fun id hid => ?_
  · cases hphase
    refine ⟨hsame, hcurrent, by simp, fun ref' query' held' hpoint => ?_⟩
    cases hpoint
    exact ⟨href, ⟨q, List.mem_cons_self, rfl, rfl⟩, hheld⟩
  · exact Or.inl (Or.inl ⟨_, ref, query, held, rfl, rfl, hid.symm⟩)

/-! ## Errors -/

theorem spend_ne_shutdown {limit used : ℕ} {label : String} :
    spend limit label used ≠ .error .shutdown := by
  unfold spend turnBudgetError
  split <;> simp

theorem TurnError.ofStore_ne_shutdown (e : StoreError) : TurnError.ofStore e ≠ .shutdown := by
  cases e <;> simp [TurnError.ofStore]

/-- A request is interrupted by the answer only. -/
theorem received_shutdown {α : Type} {purpose : IndexerRequestPurpose} {query : Option ScanQuery}
    {parse : Json → Except String α} {answer : Answer}
    (h : received purpose query parse answer = .error .shutdown) : answer = .shutdown := by
  cases answer with
  | body value => cases hparse : parse value <;> simp [received, hparse, Except.mapError] at h
  | status status message retryAfter => simp [received] at h
  | timeout => simp [received] at h
  | network => simp [received] at h
  | unreadable message => simp [received] at h
  | shutdown => rfl

/-! ## A turn, up to an `await` -/

theorem Midway.withRequest (h : Midway cfg asked i (fun _ => False) σ) (hloop : LoopOrdered σ sweep)
    {operation : PollTurn → System}
    (hop : ∀ used, Settles cfg asked i (operation { turn with used := used })) :
    Settles cfg asked i (σ.withRequest i sweep turn operation) := by
  unfold System.withRequest
  split
  · rename_i e hspend
    refine (h.observe _).failed (hloop.mono rfl) (fun he => ?_) fun _ hid => hid.elim
    exact absurd (he ▸ hspend) spend_ne_shutdown
  · exact hop _

/-- A request is sent unless scheduling has stopped. -/
theorem Midway.sendRequest (h : Midway cfg asked i (fun _ => False) σ) (hloop : LoopOrdered σ sweep)
    (hawait : Settles cfg asked i
      ((σ.observe (.requested turn.number turn.initial.id)).awaitAt i sweep turn)) :
    Settles cfg asked i (σ.sendRequest i sweep turn) := by
  unfold System.sendRequest
  split
  · rename_i hstopped
    exact h.failed hloop (fun _ => hstopped) fun _ hid => hid.elim
  · exact hawait

theorem Midway.requestPage (h : Midway cfg asked i (fun _ => False) σ) (hloop : LoopOrdered σ sweep)
    (hsame : turn.watch.row.id = turn.initial.id) (hcurrent : Current σ.store turn.watch)
    {ref : ℕ} (href : σ.poller.sessions turn.initial.id = some ref)
    (hmin : (σ.poller.objects ref).minRound = turn.watch.scanAfterRound + 1)
    (hmax : ∀ closingRound, turn.watch.row.closingRound = some closingRound →
      (σ.poller.objects ref).maxRound ≤ closingRound) :
    Settles cfg asked i (σ.requestPage cfg i sweep turn ref) := by
  refine h.withRequest hloop fun used => ?_
  dsimp only
  split
  · exact h.failed hloop (by simp) fun _ hid => hid.elim
  · rename_i query hquery
    split
    · have hread := h.setCache (σ.poller.cache.get query).1
      exact hread.askPage (hloop.mono rfl) hsame hcurrent href hmin hmax hquery (by simp) used
    · split
      · rename_i shared hshared
        refine h.askPage hloop hsame hcurrent href hmin hmax hquery (fun fresh heq => ?_) used
        refine hloop.pages shared.1 ?_
        have hresult : shared.2 = .error .shutdown := by simpa using congrArg (·.map Prod.fst) heq
        rw [← hresult]
        exact List.mem_of_find?_eq_some hshared
      · refine h.sendRequest hloop ?_
        exact (h.observe _).askPage (hloop.mono rfl) hsame hcurrent href hmin hmax hquery (by simp)
          used

theorem Midway.requestTip (h : Midway cfg asked i (fun _ => False) σ) (hloop : LoopOrdered σ sweep)
    (hsame : turn.watch.row.id = turn.initial.id) (hcurrent : Current σ.store turn.watch) :
    Settles cfg asked i (σ.requestTip i sweep turn) := by
  refine h.withRequest hloop fun used => ?_
  dsimp only
  split
  · rename_i tip htip
    refine h.awaitAt hloop ⟨hsame, hcurrent, fun heq => hloop.tip ?_, by simp⟩ (by simp)
    have hresult : tip = .error .shutdown := by simpa using heq
    rw [htip, hresult]
  · refine h.sendRequest hloop ((h.observe _).awaitAt (hloop.mono rfl) ?_ (by simp))
    exact ⟨hsame, hcurrent, by simp, by simp⟩

theorem stopped_retainSession (id : SqlText) (watch : Option WatchRow) :
    (σ.retainSession id watch).poller.schedulingStopped = σ.poller.schedulingStopped := by
  unfold System.retainSession
  split
  · split <;> rfl
  · rfl

/-- The turn goes on with the session of the watch if it fits the row. -/
theorem Midway.scan (h : Midway cfg asked i (fun _ => False) σ) (hloop : LoopOrdered σ sweep)
    (hsame : turn.watch.row.id = turn.initial.id) (hcurrent : Current σ.store turn.watch) :
    Settles cfg asked i (σ.scan cfg i sweep turn) := by
  unfold System.scan
  split
  · exact (h.perform _).done (hloop.mono rfl)
  · have hkept := h.retainSession turn.watch.row.id (some turn.watch.row)
    have hstore : (σ.retainSession turn.watch.row.id (some turn.watch.row)).store = σ.store :=
      System.store_retainSession σ _ _
    have hloop' : LoopOrdered (σ.retainSession turn.watch.row.id (some turn.watch.row)) sweep :=
      hloop.mono (stopped_retainSession _ _)
    rw [← hstore] at hcurrent
    dsimp only
    split
    · rename_i ref href
      obtain ⟨hsessions, hfits⟩ := System.sessions_retainSession.1 href
      obtain ⟨row, hrow, hfits⟩ := isScanSessionCompatible_iff.1 hfits
      cases hrow
      rw [← objects_retainSession turn.watch.row.id (some turn.watch.row)] at hfits
      refine hkept.requestPage hloop' hsame hcurrent (hsame ▸ href) ?_ hfits.closing
      have hcursor := hfits.cursor
      rw [turn.watch.scan_eq, Option.some.injEq] at hcursor
      omega
    · exact hkept.requestTip hloop' hsame hcurrent

theorem Midway.serveClaimed (h : Midway cfg asked i (fun _ => False) σ)
    (hloop : LoopOrdered σ sweep) {initial : WatchRow} {watch : ScanWatch}
    (hsame : watch.row.id = initial.id) (hcurrent : Current σ.store watch) (number : ℕ)
    (clock : Clock) : Settles cfg asked i (σ.serveClaimed cfg i sweep number initial watch clock) := by
  unfold System.serveClaimed
  dsimp only
  split
  · refine h.withRequest hloop fun used => h.sendRequest hloop ?_
    exact (h.observe _).awaitAt (hloop.mono rfl) ⟨hsame, hcurrent, by simp, by simp⟩ (by simp)
  · exact h.scan hloop hsame hcurrent

/-- A claim that succeeds found the row as the turn sees it. -/
theorem current_of_claimed {s : Store} {watch : ScanWatch} {now : ℤ}
    (h : (s.claimWorkUnit now watch.row.id.val (.polling watch.scanAfterRound watch.row.closingRound
      watch.row.pollingFailureCount)).2 = .ok .claimed) :
    Current (s.claimWorkUnit now watch.row.id.val (.polling watch.scanAfterRound
      watch.row.closingRound watch.row.pollingFailureCount)).1 watch := by
  obtain ⟨hstore, r, hr, hclaimable⟩ := Store.claimWorkUnit_claimed h
  have heligible : Store.eligible (.polling watch.scanAfterRound watch.row.closingRound
      watch.row.pollingFailureCount) now r = true := by
    simp only [Store.claimable, Bool.and_eq_true] at hclaimable
    exact hclaimable.1.2
  simp only [Store.eligible, Bool.and_eq_true, beq_iff_eq] at heligible
  obtain ⟨⟨⟨⟨⟨⟨hactive, hversion⟩, hscan⟩, hexpires⟩, hclosing⟩, -⟩, -⟩ := heligible
  refine ⟨r.charge, ?_, ?_, hactive, hversion, hexpires, hscan, hclosing⟩
  · rw [hstore]
    exact Table.mem_updateWhere.2 (Or.inl ⟨r, Store.getWatch_mem hr, hclaimable, rfl⟩)
  · exact (Store.getWatch_id hr).trans (bindText_val _)

theorem Midway.serviceWatch (h : Midway cfg asked i (fun _ => False) σ)
    (hloop : LoopOrdered σ sweep) (initial : WatchRow) (clock : Clock) :
    Settles cfg asked i (σ.serviceWatch cfg i sweep initial clock) := by
  unfold System.serviceWatch
  split
  · exact h.done hloop
  · rename_i watch hwatch
    have hrow := ScanWatch.of?_row hwatch
    split
    · exact h.done hloop
    · have hclaimed := h.claimUnit .polling clock.claim initial.id
        (.polling watch.scanAfterRound initial.closingRound initial.pollingFailureCount)
      have hloop' : LoopOrdered (σ.claimUnit .polling clock.claim initial.id
          (.polling watch.scanAfterRound initial.closingRound initial.pollingFailureCount)) sweep :=
        hloop.mono (by simp)
      dsimp only
      split
      · exact hclaimed.failed hloop' (fun he => absurd he (TurnError.ofStore_ne_shutdown _))
          fun _ hid => hid.elim
      · exact (hclaimed.forgetSession _).done (hloop'.mono rfl)
      · exact (hclaimed.retainSession _ _).done (hloop'.mono (stopped_retainSession _ _))
      · rename_i hclaim
        subst hrow
        refine hclaimed.serveClaimed hloop' rfl ?_ _ clock
        rw [System.store_claimUnit]
        exact current_of_claimed hclaim

/-! ## Behind an answer -/

theorem Midway.closeAtTip (h : Midway cfg asked i (fun _ => False) σ) (hloop : LoopOrdered σ sweep)
    (hsame : turn.watch.row.id = turn.initial.id) (hcurrent : Current σ.store turn.watch)
    {answer : Answer} (hanswer : answer = .shutdown → σ.poller.schedulingStopped = true) :
    Settles cfg asked i (σ.closeAtTip i sweep turn answer) := by
  unfold System.closeAtTip
  split
  · rename_i e he
    refine h.failed hloop (fun heq => hanswer ?_) fun _ hid => hid.elim
    exact received_shutdown (heq ▸ he)
  · refine h.withRequest hloop fun used => h.sendRequest hloop ?_
    exact (h.observe _).awaitAt (hloop.mono rfl) ⟨hsame, hcurrent, by simp, by simp⟩ (by simp)

/-- The row that is read back behind `setClosingRound` is the one the turn worked on. -/
theorem Current.close {s : Store} {watch watch' : ScanWatch} (h : Current s watch) {round : ℤ}
    (hread : ((s.apply (.setClosingRound watch.row.id.val round)).getWatch watch.row.id.val).bind
      ScanWatch.of? = some watch') :
    watch'.row.id = watch.row.id ∧
      Current (s.apply (.setClosingRound watch.row.id.val round)) watch' := by
  obtain ⟨row, hrow, hid, hactive, hversion, hdeadline, -, -⟩ := h
  obtain ⟨read, hget, hof⟩ := Option.bind_eq_some_iff.1 hread
  have hreadRow := ScanWatch.of?_row hof
  have hreadId : read.id = watch.row.id := (Store.getWatch_id hget).trans (bindText_val _)
  have hkept : read.state = .active ∧ read.evidenceVersion = 1 ∧ read.expiresAt.isSome := by
    obtain ⟨row', hrow', heq | hchange⟩ :=
      Store.exists_apply_of_mem hrow (.setClosingRound watch.row.id.val round)
    · rw [Store.eq_of_id (Store.getWatch_mem hget) hrow' (by rw [hreadId, heq, hid]), heq]
      exact ⟨hactive, hversion, hdeadline⟩
    · have hsame := hchange.sameWatch
      rw [Store.eq_of_id (Store.getWatch_mem hget) hrow' (by rw [hreadId, hsame.id, hid])]
      cases hchange with
      | closeAt _ _ _ => exact ⟨hactive, hversion, hdeadline⟩
  rw [hreadRow]
  refine ⟨hreadId, read, Store.getWatch_mem hget, hreadRow ▸ rfl, hkept.1, hkept.2.1, hkept.2.2,
    ?_, hreadRow ▸ rfl⟩
  rw [← hreadRow]
  exact watch'.scan_eq

theorem Midway.closeAtBlock (h : Midway cfg asked i (fun _ => False) σ)
    (hloop : LoopOrdered σ sweep) (hsame : turn.watch.row.id = turn.initial.id)
    (hcurrent : Current σ.store turn.watch) (tip : ℤ) {answer : Answer}
    (hanswer : answer = .shutdown → σ.poller.schedulingStopped = true) :
    Settles cfg asked i (σ.closeAtBlock cfg i sweep turn tip answer) := by
  have hseen := h.observeBody answer (.checkpointed tip)
  have hstore : (σ.observeBody answer (.checkpointed tip)).store = σ.store :=
    System.store_observeBody _ _ _
  have hpoller : (σ.observeBody answer (.checkpointed tip)).poller = σ.poller :=
    System.poller_observeBody _ _ _
  have hloop' : LoopOrdered (σ.observeBody answer (.checkpointed tip)) sweep :=
    hloop.mono (by rw [hpoller])
  rw [← hstore] at hcurrent
  unfold System.closeAtBlock
  dsimp only
  split
  · rename_i e he
    refine hseen.failed hloop' (fun heq => ?_) fun _ hid => hid.elim
    rw [hpoller]
    exact hanswer (received_shutdown (heq ▸ he))
  · rename_i block _
    split
    · have hclosed := hseen.perform (.setClosingRound turn.watch.row.id.val block.round)
      split
      · rename_i watch hwatch
        obtain ⟨hid, hread⟩ := hcurrent.close hwatch
        exact hclosed.scan (hloop'.mono rfl) (hid.trans hsame) hread
      · exact hclosed.failed (hloop'.mono rfl) (by simp) fun _ hid => hid.elim
    · exact hseen.scan hloop' hsame hcurrent

/-- The upper bound of a window does not pass the closing round. -/
theorem upperRound_le (cfg : WorkerConfig) (watch : ScanWatch) (tip : ℤ) {closingRound : ℤ}
    (h : watch.row.closingRound = some closingRound) :
    System.upperRound cfg watch tip ≤ closingRound := by
  unfold System.upperRound
  rw [h, Option.getD_some]
  exact min_le_right _ _

/-- A window starts behind the cursor of the row and is asked for without a token. -/
theorem Midway.scanTo (h : Midway cfg asked i (fun _ => False) σ) (hloop : LoopOrdered σ sweep)
    (hsame : turn.watch.row.id = turn.initial.id) (hcurrent : Current σ.store turn.watch)
    {tip : Except TurnError ℤ}
    (htip : tip = .error .shutdown → σ.poller.schedulingStopped = true) :
    Settles cfg asked i (σ.scanTo cfg i sweep turn tip) := by
  unfold System.scanTo
  split
  · exact h.failed hloop (fun heq => htip (heq ▸ rfl)) fun _ hid => hid.elim
  · rename_i tip
    dsimp only
    split
    · exact h.done hloop
    · let session : ScanSession :=
        { watchId := turn.watch.row.id
          minRound := turn.watch.scanAfterRound + 1
          maxRound := System.upperRound cfg turn.watch tip
          nextToken := none
          seenTokens := [] }
      have hopened : ∃ row ∈ σ.store.rows, session.Opened row := by
        obtain ⟨row, hrow, hid, hactive, hversion, hdeadline, hscan, -⟩ := hcurrent
        exact ⟨row, hrow, hid, Or.inl hactive, hversion, hdeadline, _, hscan, le_rfl⟩
      have hnew : (σ.openSession session).poller.objects σ.poller.nextObject = session := by
        simp [System.openSession]
      refine (h.openSession hopened rfl).requestPage (hloop.mono rfl) hsame hcurrent ?_ ?_ ?_
      · simp [System.openSession, ← hsame, session]
      · rw [hnew]
      · rw [hnew]
        exact fun closingRound hclosing => upperRound_le cfg turn.watch tip hclosing

theorem Midway.finishWindow (h : Midway cfg asked i (· = turn.initial.id) σ)
    (hloop : LoopOrdered σ sweep) (hsame : turn.watch.row.id = turn.initial.id) (maxRound : ℤ)
    (fresh : Bool) : Settles cfg asked i (σ.finishWindow i sweep turn maxRound fresh) := by
  have hadvanced : Midway cfg asked i (fun _ => False) ((σ.perform (.advanceScanRound
      turn.watch.row.id.val turn.watch.scanAfterRound maxRound)).forgetSession turn.watch.row.id) :=
    (h.perform _).forgetBusy fun _ hid => Or.inl (hid.trans hsame.symm)
  unfold System.finishWindow
  dsimp only
  split
  · exact hadvanced.done (hloop.mono rfl)
  · split
    · split
      · split
        · exact (hadvanced.perform _).done (hloop.mono rfl)
        · exact hadvanced.done (hloop.mono rfl)
      · exact hadvanced.done (hloop.mono rfl)
    · exact hadvanced.done (hloop.mono rfl)

/-- **A page is consumed.**  A token that is new goes into the session; one that was there
before ends the turn. -/
theorem Midway.consumePage (h : Midway cfg asked i (· = turn.initial.id) σ)
    (hloop : LoopOrdered σ sweep) (hsame : turn.watch.row.id = turn.initial.id) {ref : ℕ}
    {query : ScanQuery} (href : σ.poller.sessions turn.initial.id = some ref)
    (hasked : ∃ p ∈ asked, p.session = ref ∧ p.query = query)
    {result : Except TurnError TransactionPage}
    (hanswered : ∀ page, result = .ok page → Answered cfg.scanQueryVariant σ.log query page)
    (hresult : result = .error .shutdown → σ.poller.schedulingStopped = true) (fresh : Bool) :
    Settles cfg asked i (σ.consumePage i sweep turn ref result fresh) := by
  unfold System.consumePage
  split
  · exact h.failed hloop (fun heq => hresult (heq ▸ rfl)) fun _ hid => hid.symm
  · rename_i page
    dsimp only
    split
    · exact h.failed hloop (by simp) fun _ hid => hid.symm
    · split
      · rename_i found _
        have hmatched := h.perform (.markMatched turn.watch.row.id.val found.transaction found.round)
        rw [← hsame] at hmatched
        exact (hmatched.forgetBusy fun _ hid => Or.inl hid).done (hloop.mono rfl)
      · split
        · rename_i token htoken
          split
          · exact h.failed hloop (by simp) fun _ hid => hid.symm
          · rename_i hrepeats
            obtain ⟨p, hp, hsession, hquery⟩ := hasked
            have hreturned : p.Returned cfg.scanQueryVariant σ.log token :=
              ⟨page, hquery ▸ hanswered page rfl, htoken⟩
            have hnew : token ∉ (σ.poller.objects ref).seenTokens := fun hseen =>
              hrepeats (Or.inr hseen)
            exact (h.continueSession href hnew ⟨p, hp, hsession, hreturned⟩).done (hloop.mono rfl)
        · exact h.finishWindow hloop hsame _ fresh

theorem Midway.receivePage (h : Midway cfg asked i (· = turn.initial.id) σ)
    (hloop : LoopOrdered σ sweep) (hsame : turn.watch.row.id = turn.initial.id) {ref : ℕ}
    {query : ScanQuery} (href : σ.poller.sessions turn.initial.id = some ref)
    (hasked : ∃ p ∈ asked, p.session = ref ∧ p.query = query) {answer : Answer}
    (hanswer : answer = .shutdown → σ.poller.schedulingStopped = true) :
    Settles cfg asked i (σ.receivePage cfg i sweep turn ref query answer) := by
  have hseen := h.observeBody answer (.scanned turn.watch.row.terms query)
  have hpoller : (σ.observeBody answer (.scanned turn.watch.row.terms query)).poller = σ.poller :=
    System.poller_observeBody _ _ _
  have hresult : searchWatchPage cfg.scanQueryVariant turn.watch.row.terms query answer =
      .error .shutdown → σ.poller.schedulingStopped = true :=
    fun heq => hanswer (received_shutdown heq)
  have hanswered : ∀ page,
      searchWatchPage cfg.scanQueryVariant turn.watch.row.terms query answer = .ok page →
      Answered cfg.scanQueryVariant
        (σ.observeBody answer (.scanned turn.watch.row.terms query)).log query page := by
    intro page hpage
    obtain ⟨body, rfl, hparse⟩ := received_eq_ok hpage
    exact ⟨turn.watch.row.terms, body, List.mem_cons_self, hparse⟩
  have hshared : LoopOrdered (σ.observeBody answer (.scanned turn.watch.row.terms query))
      { sweep with sharedPages := (query, searchWatchPage cfg.scanQueryVariant
        turn.watch.row.terms query answer) :: sweep.sharedPages } := by
    refine ⟨?_, fun query' hmem => ?_⟩
    · rw [hpoller]
      exact hloop.tip
    · rw [hpoller]
      rcases List.mem_cons.1 hmem with heq | hmem
      · exact hresult (Prod.mk.inj heq).2.symm
      · exact hloop.pages query' hmem
  rw [← hpoller] at href hresult
  unfold System.receivePage
  dsimp only
  split
  · rename_i page _
    split
    · have hcached := hseen.setCache
        ((σ.observeBody answer (.scanned turn.watch.row.terms query)).poller.cache.store
          cfg.historicalPageCacheEntries cfg.historicalPageCacheByteBudget query page)
      exact hcached.consumePage (hshared.mono rfl) hsame href hasked hanswered hresult true
    · exact hseen.consumePage hshared hsame href hasked hanswered hresult true
  · exact hseen.consumePage hshared hsame href hasked hanswered hresult true

/-! ## The loop -/

theorem Midway.swept (h : Midway cfg asked i busy σ) (hloop : LoopOrdered σ sweep)
    (hphase : sweep.phase = .swept)
    (hbusy : ∀ id, busy id → σ.poller.schedulingStopped = true) :
    Settles cfg asked i (σ.setSweep i sweep) := by
  unfold Settles
  rw [System.pageRequest?_setSweep, hphase]
  refine h.setSweep ⟨⟨hloop.tip, hloop.pages⟩, by simp [hphase], by simp [hphase]⟩ fun id hid => ?_
  exact Or.inr ⟨hbusy id hid, by simp [hphase]⟩

theorem Midway.sweptOut (h : Midway cfg asked i busy σ) (hloop : LoopOrdered σ sweep)
    (hbusy : ∀ id, busy id → σ.poller.schedulingStopped = true) :
    Settles cfg asked i (σ.setSweep i { sweep with phase := .swept }) := by
  refine h.swept ?_ rfl hbusy
  exact ⟨hloop.tip, hloop.pages⟩

theorem Midway.nextTurn (h : Midway cfg asked i busy σ) (hloop : LoopOrdered σ sweep)
    (hbusy : ∀ id, busy id → σ.poller.schedulingStopped = true) (clock : Clock) :
    Settles cfg asked i (σ.nextTurn cfg i sweep clock) := by
  unfold System.nextTurn
  split
  · exact h.sweptOut hloop hbusy
  · split
    · exact h.sweptOut hloop hbusy
    · rename_i hopen
      refine (h.mono fun id hid => hopen (hbusy id hid)).serviceWatch ?_ _ clock
      exact ⟨hloop.tip, hloop.pages⟩

/-- A failed turn drops the session of its watch. -/
theorem Midway.failTurn (h : Midway cfg asked i busy σ) (hloop : LoopOrdered σ sweep)
    {watch : WatchRow}
    (hbusy : ∀ id, busy id → id = watch.id ∨ σ.poller.schedulingStopped = true) (e : TurnError)
    (clock : Clock) : Settles cfg asked i (σ.failTurn cfg i sweep watch e clock) := by
  have hforgotten : Midway cfg asked i (fun _ => σ.poller.schedulingStopped = true)
      (((σ.forgetSession watch.id).setCache .empty).perform (.recordPollingFailure clock.record
        watch.id.val (persistedFailure cfg clock watch (classifyPollingFailure e)))) :=
    ((h.forgetBusy hbusy).setCache _).perform _
  unfold System.failTurn
  dsimp only
  split
  · exact hforgotten.sweptOut (hloop.mono rfl) fun _ hid => hid
  · refine hforgotten.nextTurn ?_ (fun _ hid => hid) clock
    exact ⟨hloop.tip, hloop.pages⟩

theorem Midway.settleTurn (h : Midway cfg asked i busy σ) (hloop : LoopOrdered σ sweep)
    {watch : WatchRow} {result : Except TurnError CustomerTurnOutcome}
    (hshutdown : result = .error .shutdown → σ.poller.schedulingStopped = true)
    (hbusy : ∀ id, busy id → σ.poller.schedulingStopped = true ∨
      (id = watch.id ∧ ∃ e, result = .error e)) (clock : Clock) :
    Settles cfg asked i (σ.settleTurn cfg i sweep watch result clock) := by
  unfold System.settleTurn
  split
  · have hstopped : ∀ id, busy id → σ.poller.schedulingStopped = true := fun id hid =>
      (hbusy id hid).resolve_right fun ⟨_, e, he⟩ => by cases he
    dsimp only
    split
    · refine h.nextTurn ?_ hstopped clock
      exact ⟨hloop.tip, hloop.pages⟩
    · refine (h.perform _).nextTurn ?_ hstopped clock
      exact ⟨hloop.tip, hloop.pages⟩
  · exact h.sweptOut hloop fun _ _ => hshutdown rfl
  · refine h.failTurn hloop (fun id hid => ?_) _ clock
    exact (hbusy id hid).elim Or.inr fun hwatch => Or.inl hwatch.1

/-- A sweep returns. -/
theorem Midway.endSweep (h : Midway cfg asked i busy σ)
    (hbusy : ∀ id, busy id → σ.poller.schedulingStopped = true) :
    Settles cfg asked i (σ.endSweep i) := by
  have hnone : ∀ j, (σ.endSweep i).poller.sweeps j = none := by
    intro j
    by_cases hj : j = i
    · subst hj
      simp [System.endSweep]
    · cases hs : σ.poller.sweeps j with
      | none => simpa [System.endSweep, hj] using hs
      | some s => exact absurd (h.alone j (by simp [hs])) hj
  have hrequest : (σ.endSweep i).pageRequest? i = none := by
    simp [System.pageRequest?, hnone]
  unfold Settles
  rw [hrequest]
  refine ⟨h.toMemory.keep (List.Subset.refl _) (.refl _) rfl rfl fun _ _ h => h, ?_, ?_, ?_, ?_⟩
  · intro j k hj
    simp [hnone] at hj
  · intro j hj
    simp [hnone] at hj
  · intro j s hs
    simp [hnone] at hs
  · refine fun id ref href hid => h.ready id ref href fun hb => hid ?_
    exact Or.inr ⟨hbusy id hb, fun j s turn hs => by simp [hnone] at hs⟩

theorem Midway.finishSweep (h : Midway cfg asked i busy σ)
    (hbusy : ∀ id, busy id → σ.poller.schedulingStopped = true) (sweep : Sweep) :
    Settles cfg asked i (σ.finishSweep i sweep) := by
  have hpruned : Midway cfg asked i busy σ.pruneScanSessions :=
    h.keep (List.Subset.refl _) (.refl _) rfl rfl
      (fun _ _ => System.sessions_pruneScanSessions) rfl rfl
  unfold System.finishSweep
  split
  · exact hpruned.endSweep hbusy
  · exact h.endSweep hbusy

/-- No sweep is in flight. -/
def System.idle (σ : System) : Prop := ∀ i, σ.poller.sweeps i = none

theorem Ordered.runOnce (h : Ordered cfg asked σ) (hidle : σ.idle) (clock : Clock) :
    Settles cfg asked σ.poller.nextSweep (σ.runOnce cfg clock) := by
  unfold System.runOnce
  split
  · have hrequest : σ.pageRequest? σ.poller.nextSweep = none := by
      simp [System.pageRequest?, hidle _]
    unfold Settles
    rw [hrequest]
    exact h
  · rename_i hopen
    have hready : ∀ id, ¬Busy σ id := by
      rintro id (⟨i, sweep, hsweep, -⟩ | ⟨hstopped, -⟩)
      · simp [hidle i] at hsweep
      · exact hopen hstopped
    have hstart : ∀ index, Midway cfg asked σ.poller.nextSweep (fun _ => False)
        (σ.pruneScanSessions.openSweep index) := by
      intro index
      refine ⟨h.toMemory.keep (List.Subset.refl _) (.refl _) rfl rfl fun _ _ =>
        System.sessions_pruneScanSessions, fun j hj => ?_, Nat.lt_succ_self _,
        fun id ref href _ => ?_⟩
      · have hj' : (σ.poller.sweeps j).isSome = true := hj
        simp [hidle j] at hj'
      · exact h.ready id ref (System.sessions_pruneScanSessions href) (hready id)
    dsimp only
    split
    · refine (hstart _).swept ?_ rfl fun _ hid => hid.elim
      exact ⟨by simp, by simp⟩
    · refine (hstart _).nextTurn ?_ (fun _ hid => hid.elim) clock
      exact ⟨by simp, by simp⟩

/-- Within a stretch of a sweep that is in flight. -/
theorem Ordered.midway (h : Ordered cfg asked σ) (hsweep : σ.poller.sweeps i = some sweep) :
    Midway cfg asked i (Busy σ) σ :=
  ⟨h.toMemory, fun j hj => h.alone j i hj (by simp [hsweep]), h.numbered i (by simp [hsweep]),
    h.ready⟩

/-- What is busy while a sweep is in flight. -/
theorem Ordered.holds_or_stopped (h : Ordered cfg asked σ) (hsweep : σ.poller.sweeps i = some sweep)
    {id : SqlText} (hid : Busy σ id) : sweep.Holds id ∨
      (σ.poller.schedulingStopped = true ∧ ∀ turn, sweep.phase ≠ .serving turn) := by
  rcases hid with ⟨j, other, hother, hholds⟩ | ⟨hstopped, hphase⟩
  · have hj := h.alone j i (by simp [hother]) (by simp [hsweep])
    subst hj
    rw [hsweep] at hother
    cases hother
    exact Or.inl hholds
  · exact Or.inr ⟨hstopped, fun turn => hphase i sweep turn hsweep⟩

/-- **A sweep goes on.** -/
theorem Ordered.resumePoll (h : Ordered cfg asked σ) (hsound : Sound cfg σ) (i : ℕ)
    {answer : Answer} (hanswer : answer = .shutdown → σ.poller.schedulingStopped = true)
    (clock : Clock) : Settles cfg asked i (σ.resumePoll cfg i answer clock) := by
  unfold System.resumePoll
  split
  · rename_i hnone
    have hrequest : σ.pageRequest? i = none := by simp [System.pageRequest?, hnone]
    unfold Settles
    rw [hrequest]
    exact h
  · rename_i sweep hsweep
    have hmidway := h.midway hsweep
    have hs := h.sweeps i sweep hsweep
    have hloop := hs.toLoopOrdered
    split
    · rename_i turn hphase
      obtain ⟨hsame, hcurrent, htip, hpage⟩ := hs.serving turn hphase
      have hholds : ∀ id, Busy σ id → sweep.Holds id := fun id hid =>
        (h.holds_or_stopped hsweep hid).resolve_right fun hnot => hnot.2 turn hphase
      have hatPage : ∀ id, Busy σ id → ∃ ref query held, turn.point = .page ref query held ∧
          turn.initial.id = id := by
        intro id hid
        rcases hholds id hid with ⟨turn', ref, query, held, hphase', hpoint, hinitial⟩ |
          ⟨w, e, hphase', -⟩
        · rw [hphase] at hphase'
          cases hphase'
          exact ⟨ref, query, held, hpoint, hinitial⟩
        · rw [hphase] at hphase'
          cases hphase'
      have hown : Midway cfg asked i (· = turn.initial.id) σ := hmidway.mono fun id hid => by
        obtain ⟨_, _, _, -, heq⟩ := hatPage id hid
        exact heq.symm
      have helsewhere : (∀ ref query held, turn.point ≠ .page ref query held) →
          Midway cfg asked i (fun _ => False) σ := fun hpoint => hmidway.mono fun id hid => by
        obtain ⟨ref, query, held, heq, -⟩ := hatPage id hid
        exact hpoint ref query held heq
      split
      · rename_i hpoint
        have hfree := helsewhere (by simp [hpoint])
        exact hfree.closeAtTip hloop hsame hcurrent hanswer
      · rename_i tip hpoint
        have hfree := helsewhere (by simp [hpoint])
        exact hfree.closeAtBlock hloop hsame hcurrent tip hanswer
      · rename_i tip hpoint
        have hfree := helsewhere (by simp [hpoint])
        exact hfree.scanTo hloop hsame hcurrent fun heq => htip (heq ▸ hpoint)
      · rename_i hpoint
        have hfree := helsewhere (by simp [hpoint])
        have hread : getCurrentRound .health answer = .error .shutdown →
            σ.poller.schedulingStopped = true := fun heq => hanswer (received_shutdown heq)
        refine hfree.scanTo ?_ hsame hcurrent hread
        exact ⟨fun heq => hread (Option.some.inj heq), hloop.pages⟩
      · rename_i ref query result fresh hpoint
        obtain ⟨href, hasked, hheld⟩ := hpage _ _ _ hpoint
        have hpageSound := ((hsound.poller.sweeps i sweep hsweep).turn turn hphase).page _ _ _ hpoint
        refine hown.consumePage hloop hsame href hasked (fun page hresult => ?_) (fun hresult => ?_)
          fresh
        · exact hpageSound.held page fresh (by rw [hresult])
        · exact hheld fresh (by rw [hresult])
      · rename_i ref query hpoint
        obtain ⟨href, hasked, -⟩ := hpage _ _ _ hpoint
        exact hown.receivePage hloop hsame href hasked hanswer
    · rename_i watch result hphase
      refine hmidway.settleTurn hloop (fun heq => hs.served watch (heq ▸ hphase)) (fun id hid => ?_)
        clock
      rcases h.holds_or_stopped hsweep hid with hholds | ⟨hstopped, -⟩
      · rcases hholds with ⟨turn', _, _, _, hphase', -⟩ | ⟨w, e, hphase', hw⟩
        · rw [hphase] at hphase'
          cases hphase'
        · rw [hphase] at hphase'
          cases hphase'
          exact Or.inr ⟨hw.symm, e, rfl⟩
      · exact Or.inl hstopped
    · rename_i hphase
      refine hmidway.finishSweep (fun id hid => ?_) sweep
      rcases h.holds_or_stopped hsweep hid with hholds | ⟨hstopped, -⟩
      · rcases hholds with ⟨turn', _, _, _, hphase', -⟩ | ⟨w, e, hphase', -⟩
        · rw [hphase] at hphase'
          cases hphase'
        · rw [hphase] at hphase'
          cases hphase'
      · exact hstopped

end RoundWatch
