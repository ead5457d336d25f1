import RoundWatch.Foundation.Paging
import RoundWatch.Indexer.Client
import Mathlib.Data.Set.Defs

/-!
# What an honest Indexer promises

The Indexer is no part of the repository, so what it answers is arbitrary.  A result that
needs it to be honest says so with the definitions below; none of them speaks about the
state of a worker.

* `Chain` — the asset transfers of the chain and the times of its blocks;
* `Listing` — where transfers stand in the listing of a query, and which position a
  continuation token denotes;
* `HonestScan`, `HonestBlock` — a scan answer that is current past its window shows what
  the query selects between its two tokens; a block answer tells the time of the block.
-/

namespace RoundWatch

open JsText

/-- The top-level direct asset transfers of a chain. -/
structure Chain where
  transfers : Set IndexedWatchTransaction
  blockTime : ℤ → ℤ
  blockTime_mono : ∀ {round later : ℤ}, round ≤ later → blockTime round ≤ blockTime later
  roundTime : ∀ x ∈ transfers, x.roundTime = blockTime x.round
  amount : ∀ x ∈ transfers, ∃ n : ℕ, x.atomicAmount = decimal n

/-- The order a provider lists the answers to a query in, and the position a token
denotes. -/
structure Listing (P : Type*) where
  position : ScanQuery → IndexedWatchTransaction → P
  start : ScanQuery → JsString → P

/-- The listing a query reads a page of: the query without its token. -/
def ScanQuery.base (q : ScanQuery) : ScanQuery := { q with next := none }

section Scans

variable {P : Type*} [LinearOrder P] (chain : Chain) (listing : Listing P)

/-- The transfer stands on the page a body is for. -/
def OnPage (query : ScanQuery) (body : Json) (x : IndexedWatchTransaction) : Prop :=
  Paging.Within (listing.position query.base) (listing.start query.base) query.next
    ((nextTokenOf body).map toWellFormed) x

/-- A page that is current past its window shows every transfer of the chain that the
query selects and that stands on it. -/
def HonestScan (query : ScanQuery) (body : Json) : Prop :=
  ∀ current items, body.get? "current-round" = some (.num current) → query.maxRound ≤ current →
    body.get? "transactions" = some (.arr items) →
    ∀ x ∈ chain.transfers, query.Selects x → OnPage listing query body x →
      ∃ item ∈ items, ShowsDirectTransfer item x

/-- A block answer tells the time of its block. -/
def HonestBlock (body : Json) : Prop :=
  ∀ round timestamp, body.get? "round" = some (.num round) →
    body.get? "timestamp" = some (.num timestamp) → timestamp = chain.blockTime round

end Scans

/-! ## The tokens of a window -/

theorem nextTokenOf_ne_nil {body : Json} {token : JsString} (h : nextTokenOf body = some token) :
    token ≠ [] := by
  unfold nextTokenOf at h
  split at h
  · cases h
    simp
  · cases h

/-- The queries of a window differ in their token alone. -/
theorem base_eq_of_window {variant : ScanQueryVariant} {watch : WatchTerms}
    {minRound maxRound : ℤ} {token token' : Option JsString} {q q' : ScanQuery}
    (h : buildWatchSearchUrl variant watch minRound maxRound token = .ok q)
    (h' : buildWatchSearchUrl variant watch minRound maxRound token' = .ok q') :
    q.base = q'.base := by
  obtain ⟨amount, hb⟩ := buildWatchSearchUrl_eq_ok h
  obtain ⟨amount', hb'⟩ := buildWatchSearchUrl_eq_ok h'
  have hamount : amount = amount' := by simpa using hb.plan.symm.trans hb'.plan
  subst hamount
  simp only [ScanQuery.base, ScanQuery.mk.injEq]
  exact ⟨hb.assetId.trans hb'.assetId.symm, hb.address.trans hb'.address.symm,
    hb.addressRole.trans hb'.addressRole.symm, hb.minRound.trans hb'.minRound.symm,
    hb.maxRound.trans hb'.maxRound.symm, hb.greaterThan.trans hb'.greaterThan.symm,
    hb.lessThan.trans hb'.lessThan.symm, hb.notePrefix.trans hb'.notePrefix.symm, trivial⟩

end RoundWatch
