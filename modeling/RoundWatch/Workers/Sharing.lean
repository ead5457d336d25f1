import RoundWatch.Workers.PollerTraffic
import RoundWatch.Workers.ReconcilerSound

/-!
# Shared pages are a watch's own

Whoever asked first, a page that a turn takes from its sweep or from the cache is what its
own request would have been read as.

* `Event.PaysCanonically` — watches are bought with an amount in positive decimals;
* `pages_shared_transparently` — equal keys read every item alike, and so every page a turn
  receives is its own.
-/

namespace RoundWatch

open JsText Checks

/-- A row whose amount a query can filter by. -/
def WatchRow.paysCanonically (r : WatchRow) : Prop := CanonicalAmount r.terms

/-- A watch that is bought is bought with a canonical amount. -/
def Event.PaysCanonically : Event → Prop
  | .call ⟨.prepareWatch _ _ spec _, _⟩ => ∃ n : ℕ, 0 < n ∧ spec.atomicAmount = decimal n
  | _ => True

theorem canonicalAmount_of_sameWatch {r r' : WatchRow} (h : SameWatch r r')
    (hamount : CanonicalAmount r.terms) : CanonicalAmount r'.terms := by
  obtain ⟨n, hpos, hn⟩ := hamount
  refine ⟨n, hpos, ?_⟩
  rw [← hn]
  exact congrArg SqlText.val h.atomicAmount

theorem rowLaw_paysCanonically : RowLaw WatchRow.paysCanonically :=
  fun _ _ _ hchange h _ => canonicalAmount_of_sameWatch hchange.sameWatch h

theorem Event.PaysCanonically.keeps {e : Event} (h : e.PaysCanonically) :
    e.Keeps WatchRow.paysCanonically := by
  cases e with
  | call op =>
      obtain ⟨op, hop⟩ := op
      refine ⟨fun r r' hchange hpays => canonicalAmount_of_sameWatch hchange.sameWatch hpays, ?_⟩
      rintro now id spec intent rfl config expiresAt
      obtain ⟨n, hpos, hn⟩ := h
      refine ⟨n, hpos, ?_⟩
      have hwell : WellFormed (decimal n) := wellFormed_of_plain fun u hu =>
        UInt16.lt_iff_toNat_lt.2 (Nat.lt_of_le_of_lt (decimal_range hu).2 (by decide))
      have hplain : 0 ∉ decimal n := fun hzero => absurd (decimal_range hzero).1 (by decide)
      show (config.columnText spec.atomicAmount).val = decimal n
      rw [hn]
      exact StoreConfig.val_columnText.2 (TextRead.keeps_of_plain _ hwell hplain)
  | _ => trivial

/-- Two watches that ask for one query read its answer as one page. -/
theorem parseScan_of_query {variant : ScanQueryVariant} {watch watch' : WatchTerms}
    (hamount : CanonicalAmount watch) (hamount' : CanonicalAmount watch') {query : ScanQuery}
    (h : AsksFor variant watch query) (h' : AsksFor variant watch' query) (body : Json) :
    parseScan variant watch query body = parseScan variant watch' query body := by
  obtain ⟨_, _, _, hquery⟩ := h
  obtain ⟨_, _, _, hquery'⟩ := h'
  obtain ⟨hplan, hsame⟩ := sameFilters_of_query hamount hamount' hquery hquery'
  simp only [parseScan, parseWatchPage, buildScanQueryPlan_of_canonical hamount,
    buildScanQueryPlan_of_canonical hamount', hplan, Except.bind, hsame.parse_eq]

section Run

variable {cfg : WorkerConfig} {σ : System}

/-- The watch of a turn pays canonically when the rows do. -/
theorem Traffic.canonicalAmount (h : Traffic cfg WatchRow.paysCanonically σ) {w : WatchRow}
    (hknown : Known σ.store w) : CanonicalAmount w.terms := by
  obtain ⟨r, hr, hsame⟩ := hknown
  exact canonicalAmount_of_sameWatch hsame.symm (h.rows r hr)

/-- A page that was answered to some watch is what the asking watch reads in the answer. -/
theorem Traffic.own_page (h : Traffic cfg WatchRow.paysCanonically σ) {w : WatchRow}
    (hknown : Known σ.store w) {query : ScanQuery}
    (hasks : AsksFor cfg.scanQueryVariant w.terms query) {page : TransactionPage}
    (hanswered : Answered cfg.scanQueryVariant σ.log query page) :
    ∃ fetcher body, .scanned fetcher query body ∈ σ.log ∧
      parseScan cfg.scanQueryVariant w.terms query body = .ok page := by
  obtain ⟨fetcher, body, hmem, hparse⟩ := hanswered
  obtain ⟨⟨w', hknown', rfl⟩, hasks'⟩ := h.asked fetcher query body hmem
  refine ⟨_, body, hmem, ?_⟩
  rw [parseScan_of_query (h.canonicalAmount hknown) (h.canonicalAmount hknown') hasks hasks']
  exact hparse

end Run

/-- **Sharing pages is transparent.**  Watches with one key read every raw item alike, in
every variant.  So in every run, a page that a turn takes from its sweep or from the cache
is what the turn's own query would have been read as in some answer to exactly that query;
and a cached page covers the window it was asked for. -/
theorem pages_shared_transparently :
    (∀ (origin : JsString) (variant : ScanQueryVariant) (watch watch' : WatchTerms)
      (minRound maxRound minRound' maxRound' : ℤ) (token token' : Option JsString) (key : JsString),
      CanonicalAmount watch → CanonicalAmount watch' →
      watchPageQueryKey origin variant watch minRound maxRound token = .ok key →
      watchPageQueryKey origin variant watch' minRound' maxRound' token' = .ok key →
      ∀ (item : Json) (index : ℕ),
        parseWatchTransaction item index minRound maxRound watch (scanPlan watch variant) =
          parseWatchTransaction item index minRound' maxRound' watch' (scanPlan watch' variant)) ∧
    ∀ (cfg : WorkerConfig) (config : StoreConfig) (es : List Event),
      (∀ e ∈ es, e.PaysCanonically) →
      let σ := System.run cfg (.boot (.empty config)) es
      (∀ i sweep turn ref query page fresh, σ.poller.sweeps i = some sweep →
        sweep.phase = .serving turn → turn.point = .page ref query (some (.ok page, fresh)) →
        AsksFor cfg.scanQueryVariant turn.watch.row.terms query ∧
          ∃ fetcher body, .scanned fetcher query body ∈ σ.log ∧
            parseScan cfg.scanQueryVariant turn.watch.row.terms query body = .ok page) ∧
      ∀ query page, σ.poller.cache.Holds query page → query.maxRound ≤ page.currentRound := by
  refine ⟨fun origin variant watch watch' _ _ _ _ _ _ key hamount hamount' h h' =>
    parseWatchTransaction_of_key hamount hamount' h h', fun cfg config es hes => ?_⟩
  have hsound := sound_run cfg config es
  have htraffic := traffic_run cfg rowLaw_paysCanonically config fun e he => (hes e he).keeps
  refine ⟨fun i sweep turn ref query page fresh hsweep hphase hpoint => ?_, htraffic.covers⟩
  obtain ⟨hturn, -⟩ := (htraffic.sweeps i sweep hsweep).serving turn hphase
  have hanswered := (((hsound.poller.sweeps i sweep hsweep).turn turn hphase).page _ _ _ hpoint).held
    page fresh rfl
  have hasks := (hturn.page _ _ _ hpoint).1
  exact ⟨hasks, htraffic.own_page (hturn.known.same hturn.same) hasks hanswered⟩

/-- The page a sweep's turn has in hand. -/
def System.heldPage (σ : System) (i : ℕ) : Option (ScanQuery × TransactionPage) :=
  match σ.poller.sweeps i with
  | some sweep =>
      match sweep.phase with
      | .serving turn =>
          match turn.point with
          | .page _ query (some (.ok page, _)) => some (query, page)
          | _ => none
      | _ => none
  | none => none

theorem System.heldPage_eq_some {σ : System} {i : ℕ} {query : ScanQuery} {page : TransactionPage}
    (h : σ.heldPage i = some (query, page)) : ∃ sweep turn ref fresh,
      σ.poller.sweeps i = some sweep ∧ sweep.phase = .serving turn ∧
        turn.point = .page ref query (some (.ok page, fresh)) := by
  unfold heldPage at h
  split at h
  · rename_i sweep hsweep
    split at h
    · rename_i turn hphase
      split at h
      · rename_i ref query' page' fresh hpoint
        cases h
        exact ⟨sweep, turn, ref, fresh, hsweep, hphase, hpoint⟩
      · cases h
    · cases h
  · cases h

/-- A second watch for the payments the sample watch waits for. -/
def secondOpening : List Event :=
  [.call ⟨.prepareWatch 0 (js "v") { sampleSpec with idempotencyKey := js "order-2" }
      (some { sampleIntent with expectedTransaction := js "TY" }), rfl⟩,
    .call ⟨.activateWatch 1 (js "v") { sampleEvidence with transaction := js "TY" } 10, rfl⟩]

/-- The second watch finds the page of the first one in the cache. -/
def sharingHistory : List Event :=
  activeOpening ++ secondOpening ++ [.poll (.at 1000),
    .resumePoll 0 (.body (tipBody 50)) (.at 1000), .resumePoll 0 (.body (blankBody 50)) (.at 1000),
    .resumePoll 0 .network (.at 1000), .resumePoll 0 .network (.at 1000)]

/-- The terms of a watch for payments to a receiver. -/
def termsTo (receiver : JsString) : WatchTerms :=
  (preparedRow .default (js "w") { sampleSpec with expectedReceiver := receiver } none 0 100).terms

theorem pages_shared_transparently_second_watch :
    (∃ key, watchPageQueryKey (js "https://indexer") .C (termsTo (js "RECEIVER")) 11 50 none =
        .ok key ∧
      watchPageQueryKey (js "https://indexer") .C (termsTo (js "OTHER")) 11 50 none = .ok key ∧
      ∀ item index, parseWatchTransaction item index 11 50 (termsTo (js "RECEIVER"))
          (scanPlan (termsTo (js "RECEIVER")) .C) =
        parseWatchTransaction item index 11 50 (termsTo (js "OTHER"))
          (scanPlan (termsTo (js "OTHER")) .C)) ∧
    ∃ watch query page fetcher body,
      (System.run sampleWorker (.boot (.empty .default)) sharingHistory).heldPage 0 =
        some (query, page) ∧
      .scanned fetcher query body ∈
        (System.run sampleWorker (.boot (.empty .default)) sharingHistory).log ∧
      parseScan .C watch query body = .ok page := by
  have hcanonical : ∃ n : ℕ, 0 < n ∧ sampleSpec.atomicAmount = decimal n :=
    ⟨1000000, by decide, by decide +kernel⟩
  refine ⟨?_, ?_⟩
  · have hamount : ∀ receiver, CanonicalAmount (termsTo receiver) := fun _ => hcanonical
    obtain ⟨key, hkey⟩ : ∃ key, watchPageQueryKey (js "https://indexer") .C
        (termsTo (js "RECEIVER")) 11 50 none = .ok key := ⟨_, rfl⟩
    have hkey' : watchPageQueryKey (js "https://indexer") .C (termsTo (js "OTHER")) 11 50 none =
        .ok key := hkey
    exact ⟨key, hkey, hkey', pages_shared_transparently.1 _ _ _ _ 11 50 11 50 none none key
      (hamount _) (hamount _) hkey hkey'⟩
  have hheld : ((System.run sampleWorker (.boot (.empty .default)) sharingHistory).heldPage
      0).isSome = true := by decide +kernel
  obtain ⟨⟨query, page⟩, hpage⟩ := Option.isSome_iff_exists.1 hheld
  obtain ⟨sweep, turn, ref, fresh, hsweep, hphase, hpoint⟩ := System.heldPage_eq_some hpage
  have hpays : ∀ e ∈ sharingHistory, e.PaysCanonically := by
    intro e he
    simp only [sharingHistory, activeOpening, secondOpening, List.cons_append, List.nil_append,
      List.mem_cons, List.not_mem_nil, or_false] at he
    rcases he with rfl | rfl | rfl | rfl | rfl | rfl | rfl | rfl | rfl
    · exact hcanonical
    · trivial
    · exact hcanonical
    all_goals trivial
  obtain ⟨-, fetcher, body, hmem, hparse⟩ :=
    (pages_shared_transparently.2 sampleWorker .default sharingHistory hpays).1 0 sweep turn ref
      query page fresh hsweep hphase hpoint
  exact ⟨turn.watch.row.terms, query, page, fetcher, body, hpage, hmem, hparse⟩

end RoundWatch
