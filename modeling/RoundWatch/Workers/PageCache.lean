import RoundWatch.Indexer.Client

/-!
# The historical page cache

The pages the poller keeps between sweeps, least recently used first.  A page is kept
as the JSON text `JSON.stringify` makes of it; what `JSON.parse` gives back for that text
is the value `pageJson`, which is what an entry holds next to the length of the text.

* `pageOfJson_pageJson` — a page survives the trip through JSON;
* `HistoricalPageCache.get`, `.store`, `.clear` — the three operations, and what they
  leave in the cache.
-/

namespace RoundWatch

open JsText

/-! ## Pages as JSON -/

/-- An optional property. -/
def optionalField? (name : String) (value : Option Json) : List (JsString × Json) :=
  match value with
  | some v => [(js name, v)]
  | none => []

/-- A transaction of a page, as an object. -/
def transactionJson (t : IndexedWatchTransaction) : Json :=
  .obj ([(js "transaction", .str t.transaction), (js "sender", .str t.sender),
    (js "receiver", .str t.receiver), (js "assetId", .num t.assetId),
    (js "atomicAmount", .str t.atomicAmount), (js "round", .num t.round),
    (js "roundTime", .num t.roundTime)] ++ optionalField? "note" (t.note.map .str))

/-- The value of the text `JSON.stringify` makes of a page. -/
def pageJson (page : TransactionPage) : Json :=
  .obj ([(js "transactions", .arr (page.transactions.map transactionJson)),
    (js "currentRound", .num page.currentRound)] ++
      optionalField? "nextToken" (page.nextToken.map .str))

def Json.asStr? : Json → Option JsString
  | .str s => some s
  | _ => none

def Json.asNum? : Json → Option ℤ
  | .num n => some n
  | _ => none

def Json.asArr? : Json → Option (List Json)
  | .arr items => some items
  | _ => none

/-- An object read as a transaction of a page. -/
def transactionOfJson (value : Json) : Option IndexedWatchTransaction :=
  ((value.get? "transaction").bind Json.asStr?).bind fun transaction =>
  ((value.get? "sender").bind Json.asStr?).bind fun sender =>
  ((value.get? "receiver").bind Json.asStr?).bind fun receiver =>
  ((value.get? "assetId").bind Json.asNum?).bind fun assetId =>
  ((value.get? "atomicAmount").bind Json.asStr?).bind fun atomicAmount =>
  ((value.get? "round").bind Json.asNum?).bind fun round =>
  ((value.get? "roundTime").bind Json.asNum?).bind fun roundTime =>
  some { transaction := transaction, sender := sender, receiver := receiver, assetId := assetId,
         atomicAmount := atomicAmount, round := round, roundTime := roundTime,
         note := (value.get? "note").bind Json.asStr? }

/-- A parsed entry, read as the page it was made of. -/
def pageOfJson (value : Json) : Option TransactionPage :=
  ((value.get? "transactions").bind Json.asArr?).bind fun items =>
  ((value.get? "currentRound").bind Json.asNum?).bind fun currentRound =>
  (items.mapM transactionOfJson).bind fun transactions =>
  some { transactions := transactions, currentRound := currentRound,
         nextToken := (value.get? "nextToken").bind Json.asStr? }

theorem transactionOfJson_transactionJson (t : IndexedWatchTransaction) :
    transactionOfJson (transactionJson t) = some t := by
  obtain ⟨⟨transaction, sender, receiver, assetId, atomicAmount, round⟩, roundTime, note⟩ := t
  cases note <;> rfl

theorem mapM_transactionJson (ts : List IndexedWatchTransaction) :
    (ts.map transactionJson).mapM transactionOfJson = some ts := by
  induction ts with
  | nil => rfl
  | cons t ts ih => simp [List.mapM_cons, transactionOfJson_transactionJson, ih]

/-- **A page survives the trip through JSON.** -/
@[simp] theorem pageOfJson_pageJson (page : TransactionPage) :
    pageOfJson (pageJson page) = some page := by
  obtain ⟨transactions, currentRound, nextToken⟩ := page
  have hitems := mapM_transactionJson transactions
  cases nextToken with
  | none =>
      have hread : pageOfJson (pageJson ⟨transactions, currentRound, none⟩) =
          ((transactions.map transactionJson).mapM transactionOfJson).bind fun ts =>
            some ⟨ts, currentRound, none⟩ := rfl
      rw [hread, hitems]
      rfl
  | some token =>
      have hread : pageOfJson (pageJson ⟨transactions, currentRound, some token⟩) =
          ((transactions.map transactionJson).mapM transactionOfJson).bind fun ts =>
            some ⟨ts, currentRound, some token⟩ := rfl
      rw [hread, hitems]
      rfl

/-! ## The length of the text -/

/-- How many bytes `JSON.stringify` writes for a string: the quotes, an escape for what
needs one, UTF-8 for the rest. -/
def quotedBytes : JsString → ℕ
  | [] => 2
  | [u] => unitCost u + 2
  | u :: v :: rest =>
      if isHigh u && isLow v then 4 + quotedBytes rest else unitCost u + quotedBytes (v :: rest)
where
  /-- The bytes of a code unit that stands alone. -/
  unitCost (u : UInt16) : ℕ :=
    if u = 34 ∨ u = 92 ∨ u = 8 ∨ u = 9 ∨ u = 10 ∨ u = 12 ∨ u = 13 then 2
    else if u < 32 ∨ isHigh u ∨ isLow u then 6
    else if u < 0x80 then 1
    else if u < 0x800 then 2
    else 3

/-- How many bytes an integer takes. -/
def integerBytes (n : ℤ) : ℕ := (if n < 0 then 1 else 0) + (decimal n.natAbs).length

/-- A property: its quoted name, a colon, and its value. -/
def propertyBytes (name : String) (value : ℕ) : ℕ := quotedBytes (js name) + 1 + value

/-- The bytes of a list of parts between two brackets, with commas in between. -/
def bracketedBytes (parts : List ℕ) : ℕ := 2 + parts.sum + (parts.length - 1)

def transactionBytes (t : IndexedWatchTransaction) : ℕ :=
  bracketedBytes ([propertyBytes "transaction" (quotedBytes t.transaction),
    propertyBytes "sender" (quotedBytes t.sender),
    propertyBytes "receiver" (quotedBytes t.receiver),
    propertyBytes "assetId" (integerBytes t.assetId),
    propertyBytes "atomicAmount" (quotedBytes t.atomicAmount),
    propertyBytes "round" (integerBytes t.round),
    propertyBytes "roundTime" (integerBytes t.roundTime)] ++
      t.note.toList.map fun note => propertyBytes "note" (quotedBytes note))

/-- `Buffer.from(JSON.stringify(page), 'utf8').byteLength`. -/
def pageBytes (page : TransactionPage) : ℕ :=
  bracketedBytes ([propertyBytes "transactions"
      (bracketedBytes (page.transactions.map transactionBytes)),
    propertyBytes "currentRound" (integerBytes page.currentRound)] ++
      page.nextToken.toList.map fun token => propertyBytes "nextToken" (quotedBytes token))

/-! ## The cache -/

/-- `CachedHistoricalPage`. -/
structure CachedHistoricalPage where
  encoded : Json
  bytes : ℕ

/-- The cache and the bytes it accounts for; the entries stand in insertion order. -/
structure HistoricalPageCache where
  entries : List (ScanQuery × CachedHistoricalPage)
  bytes : ℕ

namespace HistoricalPageCache

/-- `clearHistoricalPageCache`. -/
def empty : HistoricalPageCache := ⟨[], 0⟩

def find? (c : HistoricalPageCache) (key : ScanQuery) : Option CachedHistoricalPage :=
  (c.entries.find? fun e => e.1 == key).map Prod.snd

/-- `Map.prototype.delete`. -/
def remove (c : HistoricalPageCache) (key : ScanQuery) :
    List (ScanQuery × CachedHistoricalPage) :=
  c.entries.filter fun e => e.1 != key

/-- `getCachedHistoricalPage`: the entry found becomes the most recently used one. -/
def get (c : HistoricalPageCache) (key : ScanQuery) :
    HistoricalPageCache × Option TransactionPage :=
  match c.find? key with
  | none => (c, none)
  | some cached =>
      ({ c with entries := c.remove key ++ [(key, cached)] }, pageOfJson cached.encoded)

/-- The eviction loop: the oldest entries go until both limits hold. -/
def evict (maxEntries maxBytes : ℕ) :
    List (ScanQuery × CachedHistoricalPage) → ℕ → HistoricalPageCache
  | [], bytes => ⟨[], bytes⟩
  | oldest :: rest, bytes =>
      if maxEntries < (oldest :: rest).length ∨ maxBytes < bytes then
        evict maxEntries maxBytes rest (bytes - oldest.2.bytes)
      else ⟨oldest :: rest, bytes⟩

/-- `cacheHistoricalPage`. -/
def store (maxEntries maxBytes : ℕ) (c : HistoricalPageCache) (key : ScanQuery)
    (page : TransactionPage) : HistoricalPageCache :=
  if maxEntries = 0 ∨ maxBytes = 0 then c
  else if maxBytes < pageBytes page then c
  else
    let bytes := match c.find? key with
      | some existing => c.bytes - existing.bytes
      | none => c.bytes
    evict maxEntries maxBytes (c.remove key ++ [(key, ⟨pageJson page, pageBytes page⟩)])
      (bytes + pageBytes page)

/-- The page an entry was made of. -/
def Holds (c : HistoricalPageCache) (key : ScanQuery) (page : TransactionPage) : Prop :=
  ∃ e ∈ c.entries, e.1 = key ∧ pageOfJson e.2.encoded = some page

theorem mem_entries_of_find? {c : HistoricalPageCache} {key : ScanQuery}
    {cached : CachedHistoricalPage} (h : c.find? key = some cached) :
    (key, cached) ∈ c.entries := by
  obtain ⟨e, he, rfl⟩ := Option.map_eq_some_iff.1 h
  have hkey : e.1 = key := by simpa using List.find?_some he
  exact hkey ▸ List.mem_of_find?_eq_some he

/-- A page the cache returns is one it holds. -/
theorem holds_of_get {c : HistoricalPageCache} {key : ScanQuery} {page : TransactionPage}
    (h : (c.get key).2 = some page) : c.Holds key page := by
  unfold get at h
  split at h
  · cases h
  · rename_i cached hfind
    exact ⟨(key, cached), mem_entries_of_find? hfind, rfl, h⟩

/-- Reading makes no new entries. -/
theorem mem_get {c : HistoricalPageCache} {key : ScanQuery} {e : ScanQuery × CachedHistoricalPage}
    (h : e ∈ (c.get key).1.entries) : e ∈ c.entries := by
  unfold get at h
  split at h
  · exact h
  · rename_i cached hfind
    rcases List.mem_append.1 h with h | h
    · exact (List.mem_filter.1 h).1
    · rw [List.mem_singleton.1 h]
      exact mem_entries_of_find? hfind

theorem mem_evict {maxEntries maxBytes : ℕ} {entries : List (ScanQuery × CachedHistoricalPage)}
    {bytes : ℕ} {e : ScanQuery × CachedHistoricalPage}
    (h : e ∈ (evict maxEntries maxBytes entries bytes).entries) : e ∈ entries := by
  induction entries generalizing bytes with
  | nil => exact h
  | cons oldest rest ih =>
      rw [evict] at h
      split at h
      · exact List.mem_cons_of_mem _ (ih h)
      · exact h

/-- Storing adds one entry, for the page stored. -/
theorem mem_store {maxEntries maxBytes : ℕ} {c : HistoricalPageCache} {key : ScanQuery}
    {page : TransactionPage} {e : ScanQuery × CachedHistoricalPage}
    (h : e ∈ (c.store maxEntries maxBytes key page).entries) :
    e ∈ c.entries ∨ e = (key, ⟨pageJson page, pageBytes page⟩) := by
  unfold store at h
  split at h
  · exact Or.inl h
  · split at h
    · exact Or.inl h
    · rcases List.mem_append.1 (mem_evict h) with h | h
      · exact Or.inl (List.mem_filter.1 h).1
      · exact Or.inr (List.mem_singleton.1 h)

end HistoricalPageCache

end RoundWatch
