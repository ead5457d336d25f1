import RoundWatch.Indexer.Chain
import RoundWatch.Workers.ReconcilerSound

/-!
# Expiry is sound

With a provider whose pages and block times are honest, what a watch was scanned through
holds no match for it, and a watch that has expired has none on the whole chain.

* `Cleared.clear`, `Covered.clear`, `Scanned.clear` — what the trail proves about the
  chain: before a token, in a window, up to the cursor;
* `ClosedAt.late` — the closing round is at or past the deadline;
* `expiry_sound` — in every run.
-/

namespace RoundWatch

open JsText

section Trail

variable {P : Type*} [LinearOrder P] {chain : Chain} {listing : Listing P}
  {variant : ScanQueryVariant} {log : List Observation} {terms : WatchTerms}
  {minRound maxRound : ℤ}

/-- A transfer that is no match in the window. -/
def ClearOf (chain : Chain) (terms : WatchTerms) (minRound maxRound : ℤ)
    (x : IndexedWatchTransaction) : Prop :=
  x ∈ chain.transfers → minRound ≤ x.round → x.round ≤ maxRound → matchesWatch x terms = false

/-- An honest provider's answers to the scans in a log. -/
def HonestScans (chain : Chain) (listing : Listing P) (log : List Observation) : Prop :=
  ∀ fetcher query body, .scanned fetcher query body ∈ log → HonestScan chain listing query body

/-- A blank page holds no match. -/
theorem BlankPage.clear (hhonest : HonestScans chain listing log) {token : Option JsString}
    {page : TransactionPage} (h : BlankPage variant log terms minRound maxRound token page)
    {q : ScanQuery}
    (hq : buildWatchSearchUrl variant terms minRound maxRound token = .ok q)
    {x : IndexedWatchTransaction}
    (hx : Paging.Within (listing.position q.base) (listing.start q.base) q.next
      (page.nextToken.map toWellFormed) x) :
    ClearOf chain terms minRound maxRound x := by
  intro hchain hmin hmax
  obtain ⟨q', hq', fetcher, body, hmem, hparse⟩ := h.answered
  cases hq.symm.trans hq'
  obtain ⟨⟨items, hitems, -, hall⟩, hcurrent, hnext⟩ := parseScan_eq_ok hparse
  by_contra hmatch
  have hmatch : matchesWatch x terms = true := by simpa using hmatch
  obtain ⟨amount, hbuilt⟩ := buildWatchSearchUrl_eq_ok hq
  have hselects := selects_of_matchesWatch hq hmatch (chain.amount x hchain) hmin hmax
  have hcovers : q.maxRound ≤ page.currentRound := by
    rw [hbuilt.maxRound]
    exact h.covers
  -- the page shows the transfer, and nothing it shows is a match
  obtain ⟨item, hitem, hshows⟩ := hhonest fetcher q body hmem page.currentRound items hcurrent
    hcovers hitems x hchain hselects (by rw [OnPage, hnext]; exact hx)
  have hblank := h.blank x (hall item hitem x hshows)
  simp [hblank] at hmatch

/-- **Before the token of a cleared window nothing matches.** -/
theorem Cleared.clear (hhonest : HonestScans chain listing log) {token : Option JsString}
    (h : Cleared variant log terms minRound maxRound token) {q : ScanQuery}
    (hq : buildWatchSearchUrl variant terms minRound maxRound token = .ok q)
    (x : IndexedWatchTransaction)
    (hx : Paging.Before (listing.position q.base) (listing.start q.base) q.next x) :
    ClearOf chain terms minRound maxRound x := by
  induction h generalizing q x with
  | start =>
      obtain ⟨amount, hbuilt⟩ := buildWatchSearchUrl_eq_ok hq
      rw [hbuilt.next] at hx
      exact absurd hx (Paging.not_before_none x)
  | @next token page next _ hblank hnext ih =>
      obtain ⟨q', hq', hanswered⟩ := hblank.answered
      have hbase := base_eq_of_window hq hq'
      rw [hbase] at hx
      -- the token of the query is the one the page before it returned
      have htoken : q.next = some (toWellFormed next) := by
        obtain ⟨amount, hbuilt⟩ := buildWatchSearchUrl_eq_ok hq
        obtain ⟨fetcher, body, -, hparse⟩ := hanswered
        have hne : next ≠ [] := nextTokenOf_ne_nil ((parseScan_eq_ok hparse).nextToken.trans hnext)
        rw [hbuilt.next]
        simp [hne]
      rw [htoken] at hx
      refine Paging.clear_next (fun y hy => ih hq' y hy) (fun y hy => ?_) hx
      exact hblank.clear hhonest hq' (by rw [hnext]; exact hy)

/-- A covered window holds no match. -/
theorem Covered.clear (hhonest : HonestScans chain listing log)
    (h : Covered variant log terms minRound maxRound) (x : IndexedWatchTransaction) :
    ClearOf chain terms minRound maxRound x := by
  obtain ⟨token, page, hcleared, hblank, hend⟩ := h
  obtain ⟨q, hq, -⟩ := hblank.answered
  refine Paging.clear_end (fun y hy => hcleared.clear hhonest hq y hy) (fun y hy => ?_) x
  exact hblank.clear hhonest hq (by rw [hend]; exact hy)

/-- **Up to the cursor nothing matches.** -/
theorem Scanned.clear (hhonest : HonestScans chain listing log) {scanned : ℤ}
    (h : Scanned variant log terms scanned) {x : IndexedWatchTransaction}
    (hx : x ∈ chain.transfers) (hround : x.round ≤ scanned) : matchesWatch x terms = false := by
  induction h with
  | @activation round hactivation =>
      -- a match is later than the activation
      by_contra hmatch
      obtain ⟨activationRound, _, hactivation', -, hafter, -⟩ :=
        matchesWatch_iff.1 (by simpa using hmatch)
      have heq : activationRound = round := by simpa using hactivation'.symm.trans hactivation
      omega
  | @window scanned maxRound _ hlt hcovered ih =>
      by_cases hold : x.round ≤ scanned
      · exact ih hold
      · exact hcovered.clear hhonest x hx (by omega) hround

/-- The closing round is at or past the deadline. -/
theorem ClosedAt.late {expiresAt : Option ℤ} {round : ℤ} (h : ClosedAt log expiresAt round)
    (hhonest : ∀ tip body, .checkpointed tip body ∈ log → HonestBlock chain body) :
    ∃ deadline, expiresAt = some deadline ∧ deadline ≤ chain.blockTime round * 1000 := by
  obtain ⟨tip, body, timestamp, deadline, hmem, hround, htime, hexpires, hle⟩ := h
  exact ⟨deadline, hexpires, hhonest tip body hmem round timestamp hround htime ▸ hle⟩

/-- A match is no later than any block past the deadline. -/
theorem lt_of_matchesWatch {x : IndexedWatchTransaction} (hx : x ∈ chain.transfers)
    (hmatch : matchesWatch x terms = true) {deadline closing : ℤ}
    (hexpires : terms.expiresAt = some deadline)
    (hlate : deadline ≤ chain.blockTime closing * 1000) : x.round < closing := by
  obtain ⟨_, expiresAt, -, hexpires', -, -, -, -, -, hbefore, -⟩ := matchesWatch_iff.1 hmatch
  have heq : expiresAt = deadline := by simpa using hexpires'.symm.trans hexpires
  by_contra hge
  have hmono := chain.blockTime_mono (Int.not_lt.1 hge)
  rw [chain.roundTime x hx, heq] at hbefore
  omega

end Trail

/-- The answers in a log are those of an honest provider of the chain. -/
structure HonestIndexer {P : Type*} [LinearOrder P] (chain : Chain) (listing : Listing P)
    (log : List Observation) : Prop where
  scans : HonestScans chain listing log
  blocks : ∀ tip body, .checkpointed tip body ∈ log → HonestBlock chain body

/-- **Expiry is sound.**  In every run of the process whose scans and block requests an
honest provider answered:

* an expired watch has no match on the chain;
* the chain holds no match for an active watch after its activation and up to its cursor;
* a closing round is a round at or past the deadline. -/
theorem expiry_sound {P : Type*} [LinearOrder P] (chain : Chain) (listing : Listing P)
    (cfg : WorkerConfig) (config : StoreConfig) (es : List Event)
    (hhonest : HonestIndexer chain listing (System.run cfg (.boot (.empty config)) es).log) :
    ∀ watch ∈ (System.run cfg (.boot (.empty config)) es).store.rows,
      (watch.state = .expired → ∀ x ∈ chain.transfers, matchesWatch x watch.terms = false) ∧
      (watch.state = .active → watch.evidenceVersion = 1 → ∀ activationRound scanned,
        watch.activationRound = some activationRound → watch.scanAfterRound = some scanned →
        ∀ x ∈ chain.transfers, activationRound < x.round → x.round ≤ scanned →
          matchesWatch x watch.terms = false) ∧
      (∀ closing, watch.closingRound = some closing → ∃ deadline,
        watch.expiresAt = some deadline ∧ deadline ≤ chain.blockTime closing * 1000) := by
  intro watch hwatch
  have hsound := (sound_run cfg config es).rows watch hwatch
  have htrail := hsound.trail
  refine ⟨fun hexpired x hx => ?_, fun _ _ _ scanned _ hscan x hx _ hround => ?_,
    fun closing hclosing => (htrail.closing closing hclosing).late hhonest.blocks⟩
  · obtain ⟨-, closing, scanned, hclosing, hscan, hle⟩ := hsound.lifecycle.expired hexpired
    obtain ⟨deadline, hexpires, hlate⟩ := (htrail.closing closing hclosing).late hhonest.blocks
    by_contra hmatch
    have hbefore := lt_of_matchesWatch hx (by simpa using hmatch) hexpires hlate
    exact hmatch ((htrail.scanned scanned hscan).clear hhonest.scans hx (by omega))
  · exact (htrail.scanned scanned hscan).clear hhonest.scans hx hround

/-- A payment of what the sample watch waits for, two seconds late. -/
def latePayment : IndexedWatchTransaction where
  transaction := js "LATE"
  sender := sampleSpec.expectedSender
  receiver := sampleSpec.expectedReceiver
  assetId := sampleSpec.assetId
  atomicAmount := decimal 1000000
  round := 60
  roundTime := 1802
  note := none

def lateTime (round : ℤ) : ℤ := if round ≤ 50 then 1801 else 1802

/-- A chain that holds nothing else. -/
def lateChain : Chain where
  transfers := {x | x = latePayment}
  blockTime := lateTime
  blockTime_mono h := by
    unfold lateTime
    split <;> split <;> omega
  roundTime := by
    rintro x rfl
    decide
  amount := by
    rintro x rfl
    exact ⟨1000000, rfl⟩

/-- The sample watch is closed at round 50, scanned up to it and expires. -/
def expiryHistory : List Event :=
  activeOpening ++ [.poll (.at 1800001),
    .resumePoll 0 (.body (tipBody 50)) (.at 1800002),
    .resumePoll 0 (.body (blockBody 50 1801)) (.at 1800003),
    .resumePoll 0 (.body (tipBody 60)) (.at 1800004),
    .resumePoll 0 (.body (blankBody 60)) (.at 1800005)]

/-- An answer that agrees with the late chain. -/
def agreesWithLateChain : Observation → Bool
  | .scanned _ query _ => query.maxRound < 60
  | .checkpointed _ body =>
      match body.get? "round", body.get? "timestamp" with
      | some (.num round), some (.num timestamp) => timestamp == lateTime round
      | _, _ => true
  | _ => true

theorem honestIndexer_of_agrees {log : List Observation} (h : log.all agreesWithLateChain = true) :
    HonestIndexer lateChain ⟨fun _ x => x.round, fun _ _ => 0⟩ log := by
  rw [List.all_eq_true] at h
  refine ⟨fun fetcher query body hmem => ?_, fun tip body hmem => ?_⟩
  · rintro current items - - - x rfl hselects -
    have hwindow := hselects.window.2
    have hearly : query.maxRound < 60 := by simpa [agreesWithLateChain] using h _ hmem
    exact absurd hearly (Int.not_lt.2 hwindow)
  · intro round timestamp hround htime
    have htold := h _ hmem
    simp only [agreesWithLateChain, hround, htime, beq_iff_eq] at htold
    exact htold

theorem expiry_sound_late_payment :
    ∃ watch ∈ (System.run sampleWorker (.boot (.empty .default)) expiryHistory).store.rows,
      watch.state = .expired ∧ ∀ x ∈ lateChain.transfers, matchesWatch x watch.terms = false := by
  have hexpired : (System.run sampleWorker (.boot (.empty .default))
      expiryHistory).store.rows.any (·.state == .expired) = true := by decide +kernel
  obtain ⟨watch, hwatch, hstate⟩ := List.any_eq_true.1 hexpired
  have hstate : watch.state = .expired := by simpa using hstate
  exact ⟨watch, hwatch, hstate, (expiry_sound lateChain ⟨fun _ x => x.round, fun _ _ => 0⟩
    sampleWorker .default expiryHistory (honestIndexer_of_agrees (by decide +kernel))
    watch hwatch).1 hstate⟩

end RoundWatch
