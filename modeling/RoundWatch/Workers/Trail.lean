import RoundWatch.Foundation.Paging
import RoundWatch.Workers.Run

/-!
# The trail of evidence

What the columns of a watch rest on, in terms of the log alone: whoever reads the log can
check each step, and nothing here speaks about workers, sessions or caches.

* `Answered`, `BlankPage` — a page that was answered, and one that covers its window and
  shows no match;
* `Cleared` — a chain of such pages, each asked for with the token of the one before;
* `Scanned` — windows cleared one after the other from the activation round on;
* `ClosedAt`, `Seen` — the checkpoint and the match;
* `Shown`, `AbsentAfter`, `Rejected` — why a service payment was turned down;
* `Trail` — the columns of a row have all that behind them, and which operations keep
  it so (`Trail.change`).
-/

namespace RoundWatch

open JsText

/-! ## Pages and windows -/

section Log

variable (variant : ScanQueryVariant) (log : List Observation)

/-- A page is what an answer to the query was read as. -/
def Answered (query : ScanQuery) (page : TransactionPage) : Prop :=
  ∃ fetcher body, .scanned fetcher query body ∈ log ∧
    parseScan variant fetcher query body = .ok page

/-- The page behind a token of a window covers the window and shows no match. -/
structure BlankPage (terms : WatchTerms) (minRound maxRound : ℤ) (token : Option JsString)
    (page : TransactionPage) : Prop where
  answered : ∃ query, buildWatchSearchUrl variant terms minRound maxRound token = .ok query ∧
    Answered variant log query page
  covers : maxRound ≤ page.currentRound
  blank : ∀ t ∈ page.transactions, matchesWatch t terms = false

/-- Everything before a token of a window was on a blank page. -/
inductive Cleared (terms : WatchTerms) (minRound maxRound : ℤ) : Option JsString → Prop
  | start : Cleared terms minRound maxRound none
  | next {token : Option JsString} {page : TransactionPage} {next : JsString} :
      Cleared terms minRound maxRound token →
      BlankPage variant log terms minRound maxRound token page →
      page.nextToken = some next → Cleared terms minRound maxRound (some next)

/-- A window whose pages are blank from the first to the last. -/
def Covered (terms : WatchTerms) (minRound maxRound : ℤ) : Prop :=
  ∃ token page, Cleared variant log terms minRound maxRound token ∧
    BlankPage variant log terms minRound maxRound token page ∧ page.nextToken = none

/-- The windows from the activation round up to a round are covered. -/
inductive Scanned (terms : WatchTerms) : ℤ → Prop
  | activation {round : ℤ} : terms.activationRound = some round → Scanned terms round
  | window {scanned maxRound : ℤ} : Scanned terms scanned → scanned < maxRound →
      Covered variant log terms (scanned + 1) maxRound → Scanned terms maxRound

/-- A block at or past the deadline. -/
def ClosedAt (expiresAt : Option ℤ) (round : ℤ) : Prop :=
  ∃ tip body timestamp deadline, .checkpointed tip body ∈ log ∧
    body.get? "round" = some (.num round) ∧ body.get? "timestamp" = some (.num timestamp) ∧
    expiresAt = some deadline ∧ deadline ≤ timestamp * 1000

/-- A match on an answer to a query of the watch, in a window the answer covers. -/
def Seen (terms : WatchTerms) (transaction : SqlText) (round : ℤ) : Prop :=
  ∃ minRound maxRound token query fetcher body items item t,
    buildWatchSearchUrl variant terms minRound maxRound token = .ok query ∧
    .scanned fetcher query body ∈ log ∧ body.get? "transactions" = some (.arr items) ∧
    item ∈ items ∧ ShowsDirectTransfer item t ∧ matchesWatch t terms = true ∧
    minRound ≤ t.round ∧ t.round ≤ maxRound ∧
    (∃ current, body.get? "current-round" = some (.num current) ∧ maxRound ≤ current) ∧
    transaction = bindText t.transaction ∧ round = t.round

end Log

/-! ## Service payments -/

/-- A page of a transaction search, as it was asked for and answered. -/
structure SearchPage where
  token : Option JsString
  body : Json

namespace SearchPage

def observation (transaction : JsString) (p : SearchPage) : Observation :=
  .searched transaction p.token p.body

/-- The token the page returns. -/
def next (p : SearchPage) : Option JsString := nextTokenOf p.body

/-- The page was asked for with a token. -/
def Serves (token : Option JsString) (p : SearchPage) : Prop := p.token = token

/-- The page shows nothing and was current at a round. -/
structure Empty (p : SearchPage) (current : ℤ) : Prop where
  transactions : p.body.get? "transactions" = some (.arr [])
  currentRound : p.body.get? "current-round" = some (.num current)

end SearchPage

section Payments

variable (log : List Observation) (transaction : JsString)

/-- A lookup of the transaction, or a search for it, was answered with an item that shows
the transfer. -/
def Shown (t : IndexedAssetTransfer) : Prop :=
  ∃ item, ShowsTransfer item t ∧ t.transaction = transaction ∧
    ((∃ body, .lookedUp transaction (some body) ∈ log ∧ body.get? "transaction" = some item) ∨
      ∃ token body items, .searched transaction token body ∈ log ∧
        body.get? "transactions" = some (.arr items) ∧ item ∈ items)

/-- Pages of a search for the transaction, in the order they were answered. -/
def Logged (pages : List SearchPage) : Prop :=
  (pages.map (·.observation transaction)).Sublist log.reverse

/-- A complete search found nothing, and every page of it was current past a round. -/
def AbsentAfter (lastValid : ℤ) : Prop :=
  ∃ pages, Logged log transaction pages ∧
    Paging.CompleteRead SearchPage.next SearchPage.Serves pages ∧
    ∀ p ∈ pages, ∃ current, p.Empty current ∧ lastValid < current

end Payments

/-- The terms name no transaction, or one that was shown to be another payment than they
speak of or to be absent after its last valid round. -/
def Rejected (network : JsString) (log : List Observation) (terms : ImmutableTerms) : Prop :=
  terms.transaction = emptyText ∨
    (∃ t, Shown log terms.transaction.val t ∧ confirmsTerms network t terms = false) ∨
    AbsentAfter log terms.transaction.val terms.lastValid

variable {variant : ScanQueryVariant} {log log' : List Observation}

/-! ## A longer log keeps the trail -/

theorem Answered.mono {query : ScanQuery} {page : TransactionPage}
    (h : Answered variant log query page) (hlog : log ⊆ log') :
    Answered variant log' query page := by
  obtain ⟨fetcher, body, hmem, hparse⟩ := h
  exact ⟨fetcher, body, hlog hmem, hparse⟩

theorem BlankPage.mono {terms : WatchTerms} {minRound maxRound : ℤ} {token : Option JsString}
    {page : TransactionPage} (h : BlankPage variant log terms minRound maxRound token page)
    (hlog : log ⊆ log') : BlankPage variant log' terms minRound maxRound token page := by
  obtain ⟨⟨query, hquery, hanswered⟩, hcovers, hblank⟩ := h
  exact ⟨⟨query, hquery, hanswered.mono hlog⟩, hcovers, hblank⟩

theorem Cleared.mono {terms : WatchTerms} {minRound maxRound : ℤ} {token : Option JsString}
    (h : Cleared variant log terms minRound maxRound token) (hlog : log ⊆ log') :
    Cleared variant log' terms minRound maxRound token := by
  induction h with
  | start => exact .start
  | next _ hblank hnext ih => exact .next ih (hblank.mono hlog) hnext

theorem Covered.mono {terms : WatchTerms} {minRound maxRound : ℤ}
    (h : Covered variant log terms minRound maxRound) (hlog : log ⊆ log') :
    Covered variant log' terms minRound maxRound := by
  obtain ⟨token, page, hcleared, hblank, hend⟩ := h
  exact ⟨token, page, hcleared.mono hlog, hblank.mono hlog, hend⟩

theorem Scanned.mono {terms : WatchTerms} {round : ℤ} (h : Scanned variant log terms round)
    (hlog : log ⊆ log') : Scanned variant log' terms round := by
  induction h with
  | activation hactivation => exact .activation hactivation
  | window _ hlt hcovered ih => exact .window ih hlt (hcovered.mono hlog)

theorem ClosedAt.mono {expiresAt : Option ℤ} {round : ℤ} (h : ClosedAt log expiresAt round)
    (hlog : log ⊆ log') : ClosedAt log' expiresAt round := by
  obtain ⟨tip, body, timestamp, deadline, hmem, hrest⟩ := h
  exact ⟨tip, body, timestamp, deadline, hlog hmem, hrest⟩

theorem Seen.mono {terms : WatchTerms} {transaction : SqlText} {round : ℤ}
    (h : Seen variant log terms transaction round) (hlog : log ⊆ log') :
    Seen variant log' terms transaction round := by
  obtain ⟨minRound, maxRound, token, query, fetcher, body, items, item, t, hquery, hmem, hrest⟩ := h
  exact ⟨minRound, maxRound, token, query, fetcher, body, items, item, t, hquery, hlog hmem, hrest⟩

theorem Shown.mono {transaction : JsString} {t : IndexedAssetTransfer}
    (h : Shown log transaction t) (hlog : log ⊆ log') : Shown log' transaction t := by
  obtain ⟨item, hshows, hid, ⟨body, hmem, hitem⟩ | ⟨token, body, items, hmem, hrest⟩⟩ := h
  · exact ⟨item, hshows, hid, Or.inl ⟨body, hlog hmem, hitem⟩⟩
  · exact ⟨item, hshows, hid, Or.inr ⟨token, body, items, hlog hmem, hrest⟩⟩

theorem Logged.mono {transaction : JsString} {pages : List SearchPage}
    (h : Logged log transaction pages) (hlog : log <:+ log') : Logged log' transaction pages :=
  h.trans (List.reverse_prefix.2 hlog).sublist

/-- One more page is answered. -/
theorem Logged.snoc {transaction : JsString} {pages : List SearchPage}
    (h : Logged log transaction pages) (p : SearchPage) :
    Logged (p.observation transaction :: log) transaction (pages ++ [p]) := by
  unfold Logged
  rw [List.map_append, List.reverse_cons]
  exact h.append (List.Sublist.refl _)

theorem AbsentAfter.mono {transaction : JsString} {lastValid : ℤ}
    (h : AbsentAfter log transaction lastValid) (hlog : log <:+ log') :
    AbsentAfter log' transaction lastValid := by
  obtain ⟨pages, hlogged, hrest⟩ := h
  exact ⟨pages, hlogged.mono hlog, hrest⟩

theorem Rejected.mono {network : JsString} {terms : ImmutableTerms}
    (h : Rejected network log terms) (hlog : log <:+ log') : Rejected network log' terms := by
  rcases h with hempty | ⟨t, hshown, hother⟩ | habsent
  · exact Or.inl hempty
  · exact Or.inr (Or.inl ⟨t, hshown.mono hlog.subset, hother⟩)
  · exact Or.inr (Or.inr (habsent.mono hlog))

/-! ## Rows -/

variable {cfg : WorkerConfig}

/-- The columns of a row have their evidence in the log. -/
structure Trail (cfg : WorkerConfig) (log : List Observation) (r : WatchRow) : Prop where
  scanned : ∀ s, r.scanAfterRound = some s → Scanned cfg.scanQueryVariant log r.terms s
  closing : ∀ c, r.closingRound = some c → ClosedAt log r.expiresAt c
  matched : ∀ t k, r.matchedTransaction = some t → r.matchedRound = some k →
    Seen cfg.scanQueryVariant log r.terms t k
  rejected : ∀ terms, r.immutableTerms? = some terms → r.state = .settlementUnknown →
    r.settlementReconciliationTerminal = true → Rejected cfg.network log terms

/-- Everything that holds of a row in every reachable state. -/
structure SoundRow (cfg : WorkerConfig) (log : List Observation) (r : WatchRow) : Prop where
  lifecycle : Lifecycle r
  paid : Paid r
  trail : Trail cfg log r

theorem Trail.mono {r : WatchRow} (h : Trail cfg log r) (hlog : log <:+ log') :
    Trail cfg log' r where
  scanned s hs := (h.scanned s hs).mono hlog.subset
  closing c hc := (h.closing c hc).mono hlog.subset
  matched t k ht hk := (h.matched t k ht hk).mono hlog.subset
  rejected terms hterms hstate hterminal := (h.rejected terms hterms hstate hterminal).mono hlog

theorem SoundRow.mono {r : WatchRow} (h : SoundRow cfg log r) (hlog : log <:+ log') :
    SoundRow cfg log' r :=
  ⟨h.lifecycle, h.paid, h.trail.mono hlog⟩

theorem SoundRow.preparedRow (config : StoreConfig) (id : JsString) (spec : WatchSpec)
    (intent : Option SettlementIntent) (now expiresAt : ℤ) :
    SoundRow cfg log (preparedRow config id spec intent now expiresAt) where
  lifecycle := .preparedRow config id spec intent now expiresAt
  paid := .preparedRow config id spec intent now expiresAt
  trail := by constructor <;> simp [RoundWatch.preparedRow]

/-- The evidence an operation needs for the row it is about to change. -/
def Supported (cfg : WorkerConfig) (log : List Observation) : StoreOp → WatchRow → Prop
  | .markMatched _ transaction round, r =>
      Seen cfg.scanQueryVariant log r.terms (bindText transaction) round
  | .advanceScanRound _ expectedRound round, r =>
      Covered cfg.scanQueryVariant log r.terms (expectedRound + 1) round
  | .setClosingRound _ round, r => ClosedAt log r.expiresAt round
  | .markSettlementInvalid _, r =>
      ∀ terms, r.immutableTerms? = some terms → Rejected cfg.network log terms
  | _, _ => True

/-- A row is turned down by `markSettlementInvalid` alone. -/
theorem Trail.rejected_change {op : StoreOp} {r r' : WatchRow} (h : Trail cfg log r)
    (hchange : RowChange op r r') (hsupported : Supported cfg log op r) {terms : ImmutableTerms}
    (hterms : r'.immutableTerms? = some terms) (hstate : r'.state = .settlementUnknown)
    (hterminal : r'.settlementReconciliationTerminal = true) : Rejected cfg.network log terms := by
  by_cases hfinished : r.finished = true
  · cases hchange.eq_of_finished hfinished
    exact h.rejected terms hterms hstate hterminal
  · -- the row was open before, so the change is the one that turns it down
    have hopen : ¬ (r.state = .settlementUnknown ∧ r.settlementReconciliationTerminal = true) :=
      fun ⟨h₁, h₂⟩ => hfinished (by simp [WatchRow.finished, h₁, h₂])
    cases hchange with
    | settleInvalid _ _ => exact hsupported terms hterms
    | settleUnknown _ _ => cases hterminal
    | activate _ _ _ => cases hstate
    | exhaust _ _ _ => cases hstate
    | matchWith _ _ => cases hstate
    | expire _ _ _ _ _ _ => cases hstate
    | recordFailure _ hactive =>
        simp only [WatchRow.recordFailure] at hstate
        split at hstate
        · cases hstate
        · exact absurd (hactive.symm.trans hstate) (by simp)
    | _ => exact absurd ⟨hstate, hterminal⟩ hopen

/-- **Every change that has its evidence keeps the trail.** -/
theorem Trail.change {op : StoreOp} {r r' : WatchRow} (h : SoundRow cfg log r)
    (hchange : RowChange op r r') (hsupported : Supported cfg log op r) :
    Trail cfg log r' := by
  have htrail := h.trail
  have hrejected := fun terms hterms =>
    @Trail.rejected_change log cfg op r r' htrail hchange hsupported terms hterms
  cases hchange with
  | activate _ hopen _ =>
      obtain ⟨h₁, h₂, -⟩ := h.lifecycle.of_settling (WatchRow.settling_of_unsettled hopen).1
      refine ⟨fun s hs => .activation ?_, htrail.closing, fun t k ht => ?_, hrejected⟩
      · exact hs
      · exact absurd (h₁.symm.trans ht) (by simp)
  | @matchWith id transaction round _ _ _ =>
      refine ⟨htrail.scanned, htrail.closing, fun t k ht hk => ?_, hrejected⟩
      cases ht
      cases hk
      exact hsupported
  | @advanceTo id expectedRound round _ _ _ hscan hlt =>
      refine ⟨fun s hs => ?_, htrail.closing, htrail.matched, hrejected⟩
      cases hs
      exact .window (htrail.scanned _ hscan) hlt hsupported
  | @closeAt id round _ _ _ _ =>
      refine ⟨htrail.scanned, fun c hc => ?_, htrail.matched, hrejected⟩
      cases hold : r.closingRound with
      | some c' =>
          simp only [WatchRow.closeAt, hold] at hc
          exact htrail.closing c (hold.trans hc)
      | none =>
          simp only [WatchRow.closeAt, hold] at hc
          cases hc
          exact hsupported
  | _ => exact ⟨htrail.scanned, htrail.closing, htrail.matched, hrejected⟩

theorem SoundRow.change {op : StoreOp} {r r' : WatchRow} (h : SoundRow cfg log r)
    (hchange : RowChange op r r') (hsupported : Supported cfg log op r) :
    SoundRow cfg log r' :=
  ⟨h.lifecycle.change hchange, h.paid.change hchange, Trail.change h hchange hsupported⟩

/-- Once a watch is activated its terms are fixed. -/
theorem terms_eq_of_evolves {r r' : WatchRow} (h : Evolves r r') {round : ℤ}
    (hround : r.activationRound = some round) : r'.terms = r.terms := by
  have hactivation : r'.activationRound = r.activationRound := by
    rw [h.activation round hround, hround]
  simp only [WatchRow.terms, WatchTerms.mk.injEq]
  exact ⟨h.same.expectedSender, h.same.expectedReceiver, h.same.assetId, h.same.atomicAmount,
    h.same.invoiceNote, hactivation, h.same.expiresAt⟩

/-- Settlement terms that are complete are fixed. -/
theorem immutableTerms?_of_evolves {r r' : WatchRow} (h : Evolves r r') {terms : ImmutableTerms}
    (hterms : r.immutableTerms? = some terms) : r'.immutableTerms? = some terms := by
  rw [WatchRow.immutableTerms?_eq_some] at hterms ⊢
  obtain ⟨hversion, h₁, h₂, h₃, h₄, h₅, h₆, h₇, h₈, hsafe⟩ := hterms
  exact ⟨h.same.evidenceVersion.trans hversion, h.expectedTransaction _ h₁,
    h.expectedNetwork _ h₂, h.expectedPayer _ h₃, h.same.serviceReceiver.trans h₄,
    h.same.serviceAssetId.trans h₅, h.same.serviceAtomicAmount.trans h₆,
    h.same.serviceFirstValid.trans h₇, h.same.serviceLastValid.trans h₈, hsafe⟩

end RoundWatch
