import RoundWatch.Foundation.Recency
import RoundWatch.Foundation.Runs
import RoundWatch.Workers.PageCache

/-!
# Runs of the page cache

What holds of the cache after any calls.  The bytes are counted call by call and the recency is
the order of the entries, so both are invariants of runs.

* `PageCacheLimits`, `PageCacheCall`, `HistoricalPageCache.perform` — the calls;
* `lastStored`, `PageCacheRun.step` — what a reader of the calls expects;
* `HistoricalPageCache.Sound` — the invariant;
* `page_cache_invariant` — the bytes add up, the limits hold, and a page is the last one stored.
-/

namespace RoundWatch

open Recency

/-! ## Calls -/

structure PageCacheLimits where
  entries : ℕ
  bytes : ℕ

/-- The page is stored, and not ignored. -/
def PageCacheLimits.admits (limits : PageCacheLimits) (page : TransactionPage) : Bool :=
  decide (limits.entries ≠ 0) && decide (limits.bytes ≠ 0) && decide (pageBytes page ≤ limits.bytes)

inductive PageCacheCall where
  | cacheHistoricalPage (key : ScanQuery) (page : TransactionPage)
  | getCachedHistoricalPage (key : ScanQuery)
  | clearHistoricalPageCache

namespace HistoricalPageCache

def perform (limits : PageCacheLimits) (c : HistoricalPageCache) :
    PageCacheCall → HistoricalPageCache
  | .cacheHistoricalPage key page => c.store limits.entries limits.bytes key page
  | .getCachedHistoricalPage key => (c.get key).1
  | .clearHistoricalPageCache => empty

/-- The cache after some calls. -/
def after (limits : PageCacheLimits) (calls : List PageCacheCall) : HistoricalPageCache :=
  Runs.run (perform limits) empty calls

def keys (c : HistoricalPageCache) : List ScanQuery := c.entries.map Prod.fst

/-- The bytes of some entries. -/
def sizeOf (entries : List (ScanQuery × CachedHistoricalPage)) : ℕ :=
  (entries.map fun e => e.2.bytes).sum

/-- The key that a call uses: one that it stores, or one that it finds. -/
def usedKey (limits : PageCacheLimits) (c : HistoricalPageCache) : PageCacheCall → Option ScanQuery
  | .cacheHistoricalPage key page => if limits.admits page then some key else none
  | .getCachedHistoricalPage key => if (c.find? key).isSome then some key else none
  | .clearHistoricalPageCache => none

end HistoricalPageCache

/-! ## What the calls say -/

/-- The pages that were stored and not cleared, the last under each key. -/
def storedBy (limits : PageCacheLimits) (stored : ScanQuery → Option TransactionPage) :
    PageCacheCall → ScanQuery → Option TransactionPage
  | .cacheHistoricalPage key page =>
      if limits.admits page then Function.update stored key (some page) else stored
  | .getCachedHistoricalPage _ => stored
  | .clearHistoricalPageCache => fun _ => none

def lastStored (limits : PageCacheLimits) (calls : List PageCacheCall) :
    ScanQuery → Option TransactionPage :=
  Runs.run (storedBy limits) (fun _ => none) calls

/-- The cache, with the keys that were used since it was cleared, the latest last. -/
structure PageCacheRun where
  cache : HistoricalPageCache
  recency : List ScanQuery

namespace PageCacheRun

def step (limits : PageCacheLimits) (r : PageCacheRun) (call : PageCacheCall) : PageCacheRun where
  cache := r.cache.perform limits call
  recency :=
    match call with
    | .clearHistoricalPageCache => []
    | call =>
        match r.cache.usedKey limits call with
        | some key => touch key r.recency
        | none => r.recency

def after (limits : PageCacheLimits) (calls : List PageCacheCall) : PageCacheRun :=
  Runs.run (step limits) ⟨.empty, []⟩ calls

end PageCacheRun

/-! ## The operations -/

namespace HistoricalPageCache

theorem find?_eq_some {c : HistoricalPageCache} (hnodup : c.keys.Nodup) {key : ScanQuery}
    {cached : CachedHistoricalPage} (h : (key, cached) ∈ c.entries) :
    c.find? key = some cached := by
  obtain ⟨entries, bytes⟩ := c
  induction entries with
  | nil => cases h
  | cons e rest ih =>
    obtain ⟨hhead, hrest⟩ := List.nodup_cons.1 hnodup
    obtain rfl | h := List.mem_cons.1 h
    · simp [find?]
    · have hne : (e.1 == key) = false := by
        rw [beq_eq_false_iff_ne]
        rintro rfl
        exact hhead (List.mem_map.2 ⟨_, h, rfl⟩)
      have hfind := ih hrest h
      simp only [find?] at hfind ⊢
      rw [List.find?_cons_of_neg (by simp [hne]), hfind]

theorem find?_eq_none {c : HistoricalPageCache} {key : ScanQuery} :
    c.find? key = none ↔ key ∉ c.keys := by
  rw [find?, Option.map_eq_none_iff, List.find?_eq_none, keys, List.mem_map]
  constructor
  · rintro h ⟨e, he, rfl⟩
    exact h e he (by simp)
  · intro h e he heq
    exact h ⟨e, he, by simpa using heq⟩

theorem keys_remove {c : HistoricalPageCache} (hnodup : c.keys.Nodup) (key : ScanQuery) :
    (c.remove key).map Prod.fst = c.keys.erase key := by
  rw [hnodup.erase_eq_filter, keys, List.filter_map, remove]
  rfl

theorem remove_of_notMem {c : HistoricalPageCache} {key : ScanQuery} (h : key ∉ c.keys) :
    c.remove key = c.entries := by
  rw [remove, List.filter_eq_self]
  intro e he
  rw [bne_iff_ne]
  rintro rfl
  exact h (List.mem_map.2 ⟨e, he, rfl⟩)

theorem sizeOf_append (l l' : List (ScanQuery × CachedHistoricalPage)) :
    sizeOf (l ++ l') = sizeOf l + sizeOf l' := by
  rw [sizeOf, List.map_append, List.sum_append]
  rfl

theorem sizeOf_cons (key : ScanQuery) (cached : CachedHistoricalPage)
    (l : List (ScanQuery × CachedHistoricalPage)) :
    sizeOf ((key, cached) :: l) = cached.bytes + sizeOf l := by
  rw [sizeOf, List.map_cons, List.sum_cons]
  rfl

theorem sizeOf_cons_sub (e : ScanQuery × CachedHistoricalPage)
    (rest : List (ScanQuery × CachedHistoricalPage)) :
    sizeOf (e :: rest) - e.2.bytes = sizeOf rest := by
  rw [← Prod.eta e, sizeOf_cons, Nat.add_sub_cancel_left]

theorem sizeOf_remove {c : HistoricalPageCache} (hnodup : c.keys.Nodup) {key : ScanQuery}
    {cached : CachedHistoricalPage} (h : (key, cached) ∈ c.entries) :
    sizeOf (c.remove key) + cached.bytes = sizeOf c.entries := by
  obtain ⟨before, behind, hsplit⟩ := List.append_of_mem h
  have hkeys : key ∉ (before ++ behind).map Prod.fst := by
    rw [keys, hsplit, List.map_append, List.map_cons] at hnodup
    rw [List.map_append]
    exact (List.nodup_cons.1 (List.perm_middle.nodup_iff.1 hnodup)).1
  have hremove : c.remove key = before ++ behind := by
    have hkept : (⟨before ++ behind, 0⟩ : HistoricalPageCache).remove key = before ++ behind :=
      remove_of_notMem hkeys
    rw [remove, List.filter_append] at hkept
    rw [remove, hsplit, List.filter_append, List.filter_cons_of_neg (by simp), hkept]
  rw [hremove, hsplit, sizeOf_append, sizeOf_append, sizeOf_cons]
  omega

/-- The condition under which the eviction loop stops. -/
def fits (limits : PageCacheLimits) (entries : List (ScanQuery × CachedHistoricalPage)) : Bool :=
  decide (entries.length ≤ limits.entries) && decide (sizeOf entries ≤ limits.bytes)

/-- The loop of the source, with the bytes counted along. -/
theorem evict_eq_shed (limits : PageCacheLimits)
    (entries : List (ScanQuery × CachedHistoricalPage)) :
    evict limits.entries limits.bytes entries (sizeOf entries) =
      ⟨shed (fits limits) entries, sizeOf (shed (fits limits) entries)⟩ := by
  induction entries with
  | nil => rfl
  | cons e rest ih =>
    by_cases hover : limits.entries < (e :: rest).length ∨ limits.bytes < sizeOf (e :: rest)
    · have hfits : fits limits (e :: rest) = false := by
        rw [fits, Bool.and_eq_false_iff, decide_eq_false_iff_not, decide_eq_false_iff_not]
        omega
      rw [evict, if_pos hover, sizeOf_cons_sub, ih, shed, if_neg (by simp [hfits])]
    · have hfits : fits limits (e :: rest) = true := by
        rw [fits, Bool.and_eq_true, decide_eq_true_eq, decide_eq_true_eq]
        omega
      rw [evict, if_neg hover, shed, if_pos hfits]

/-- **Storing a page that is admitted**: it becomes the latest entry, and the oldest ones go
until the rest fits. -/
theorem store_eq {limits : PageCacheLimits} {c : HistoricalPageCache} (hnodup : c.keys.Nodup)
    (hbytes : c.bytes = sizeOf c.entries) {key : ScanQuery} {page : TransactionPage}
    (hadmits : limits.admits page = true) :
    c.store limits.entries limits.bytes key page =
      let entries := c.remove key ++ [(key, ⟨pageJson page, pageBytes page⟩)]
      ⟨shed (fits limits) entries, sizeOf (shed (fits limits) entries)⟩ := by
  simp only [PageCacheLimits.admits, Bool.and_eq_true, decide_eq_true_eq] at hadmits
  obtain ⟨⟨hentries, hbudget⟩, hpage⟩ := hadmits
  rw [store, if_neg (by omega), if_neg (by omega), ← evict_eq_shed, sizeOf_append, sizeOf_cons]
  cases hfind : c.find? key with
  | none =>
    rw [remove_of_notMem (find?_eq_none.1 hfind)]
    simp only [hbytes, sizeOf, List.map_nil, List.sum_nil, Nat.add_zero]
  | some existing =>
    have hremove := sizeOf_remove hnodup (mem_entries_of_find? hfind)
    have hrest : c.bytes - existing.bytes = sizeOf (c.remove key) := by omega
    simp only [hrest, sizeOf, List.map_nil, List.sum_nil, Nat.add_zero]

/-- **A page that is not admitted changes nothing.** -/
theorem store_of_not_admits {limits : PageCacheLimits} {page : TransactionPage}
    (h : limits.admits page = false) (c : HistoricalPageCache) (key : ScanQuery) :
    c.store limits.entries limits.bytes key page = c := by
  rw [store]
  split
  · rfl
  · next hlimits =>
    rw [if_pos]
    by_contra hpage
    have hadmits : limits.admits page = true := by
      simp only [PageCacheLimits.admits, Bool.and_eq_true, decide_eq_true_eq]
      omega
    rw [h] at hadmits
    cases hadmits

/-! ## The loop -/

/-- The body of the eviction loop. -/
def evictPass (c : HistoricalPageCache) : HistoricalPageCache :=
  match c.entries with
  | [] => c
  | oldest :: rest => ⟨rest, c.bytes - oldest.2.bytes⟩

/-- The condition of the eviction loop. -/
def Exceeds (limits : PageCacheLimits) (c : HistoricalPageCache) : Prop :=
  limits.entries < c.entries.length ∨ limits.bytes < c.bytes

theorem iterate_evictPass (entries : List (ScanQuery × CachedHistoricalPage)) (n : ℕ) :
    evictPass^[n] ⟨entries, sizeOf entries⟩ = ⟨entries.drop n, sizeOf (entries.drop n)⟩ := by
  induction n generalizing entries with
  | zero => rfl
  | succ n ih =>
    rw [Function.iterate_succ_apply]
    cases entries with
    | nil =>
      have hpass : evictPass ⟨[], sizeOf []⟩ = ⟨[], sizeOf []⟩ := rfl
      rw [hpass, ih, List.drop_nil, List.drop_nil]
    | cons e rest =>
      have hpass : evictPass ⟨e :: rest, sizeOf (e :: rest)⟩ = ⟨rest, sizeOf rest⟩ := by
        rw [← sizeOf_cons_sub e rest]
        rfl
      rw [hpass, ih, List.drop_succ_cons]

theorem exceeds_iff {limits : PageCacheLimits} {entries : List (ScanQuery × CachedHistoricalPage)} :
    Exceeds limits ⟨entries, sizeOf entries⟩ ↔ fits limits entries = false := by
  rw [Exceeds, fits, Bool.and_eq_false_iff, decide_eq_false_iff_not, decide_eq_false_iff_not,
    Nat.not_le, Nat.not_le]

/-- **The loop stops**: it makes no more passes than there are entries, and no pass that the
limits do not ask for. -/
theorem exists_passes {limits : PageCacheLimits} {c : HistoricalPageCache} (hnodup : c.keys.Nodup)
    (hbytes : c.bytes = sizeOf c.entries) (key : ScanQuery) {page : TransactionPage}
    (hadmits : limits.admits page = true) :
    let entries := c.remove key ++ [(key, ⟨pageJson page, pageBytes page⟩)]
    ∃ n ≤ entries.length,
      c.store limits.entries limits.bytes key page = evictPass^[n] ⟨entries, sizeOf entries⟩ ∧
      ¬ Exceeds limits (evictPass^[n] ⟨entries, sizeOf entries⟩) ∧
      ∀ m < n, Exceeds limits (evictPass^[m] ⟨entries, sizeOf entries⟩) := by
  intro entries
  have hnil : fits limits [] = true := by simp [fits, sizeOf]
  obtain ⟨n, hn, hshed, hfits, hbefore⟩ := exists_shed hnil entries
  refine ⟨n, hn, ?_, ?_, ?_⟩
  · have hstore := @store_eq limits c hnodup hbytes key page hadmits
    simp only at hstore
    rw [hstore, iterate_evictPass, hshed]
  · rw [iterate_evictPass, exceeds_iff, hfits]
    simp
  · intro m hm
    rw [iterate_evictPass, exceeds_iff]
    exact hbefore m hm

/-! ## The invariant -/

/-- The cache after some calls: its bytes add up, its limits hold, it holds the most recently
used keys, and under each the last page that was stored. -/
structure Sound (limits : PageCacheLimits) (stored : ScanQuery → Option TransactionPage)
    (recency : List ScanQuery) (c : HistoricalPageCache) : Prop where
  bytes : c.bytes = sizeOf c.entries
  fits : fits limits c.entries = true
  recent : c.keys <:+ recency
  nodup : recency.Nodup
  pages : ∀ e ∈ c.entries, ∃ page, stored e.1 = some page ∧ e.2 = ⟨pageJson page, pageBytes page⟩

variable {limits : PageCacheLimits} {stored : ScanQuery → Option TransactionPage}
  {recency : List ScanQuery} {c : HistoricalPageCache}

theorem Sound.keys_nodup (h : c.Sound limits stored recency) : c.keys.Nodup :=
  h.nodup.sublist h.recent.sublist

theorem sound_empty (limits : PageCacheLimits) : empty.Sound limits (fun _ => none) [] where
  bytes := rfl
  fits := by simp [HistoricalPageCache.fits, empty, sizeOf]
  recent := List.nil_suffix
  nodup := List.nodup_nil
  pages := by simp [empty]

theorem Sound.get (h : c.Sound limits stored recency) {key : ScanQuery}
    {cached : CachedHistoricalPage} (hfind : c.find? key = some cached) :
    (c.get key).1.Sound limits stored (touch key recency) := by
  have hmem := mem_entries_of_find? hfind
  have hsize := sizeOf_remove h.keys_nodup hmem
  have hget : (c.get key).1 = { c with entries := c.remove key ++ [(key, cached)] } := by
    rw [HistoricalPageCache.get, hfind]
  have hkeys : (c.get key).1.keys = touch key c.keys := by
    rw [hget, keys, List.map_append, keys_remove h.keys_nodup]
    rfl
  have hsame : sizeOf (c.remove key ++ [(key, cached)]) = sizeOf c.entries := by
    rw [sizeOf_append, sizeOf_cons, ← hsize]
    rfl
  have hlength : (c.get key).1.entries.length = c.entries.length := by
    have hkey : key ∈ c.keys := List.mem_map.2 ⟨_, hmem, rfl⟩
    have hcount := congrArg List.length hkeys
    have hpos := List.length_pos_of_mem hkey
    rw [touch, List.length_append, List.length_erase_of_mem hkey, List.length_singleton] at hcount
    simp only [keys, List.length_map] at hcount hpos
    omega
  refine ⟨?_, ?_, hkeys ▸ suffix_touch h.recent h.nodup, nodup_touch h.nodup, ?_⟩
  · rw [hget, hsame]
    exact h.bytes
  · have hfits := h.fits
    simp only [HistoricalPageCache.fits, hlength] at hfits ⊢
    rw [hget, hsame]
    exact hfits
  · intro e he
    exact h.pages e (mem_get he)

theorem Sound.store (h : c.Sound limits stored recency) (key : ScanQuery) {page : TransactionPage}
    (hadmits : limits.admits page = true) :
    (c.store limits.entries limits.bytes key page).Sound limits
      (Function.update stored key (some page)) (touch key recency) := by
  have hnil : HistoricalPageCache.fits limits [] = true := by
    simp [HistoricalPageCache.fits, sizeOf]
  have hstore := @store_eq limits c h.keys_nodup h.bytes key page hadmits
  simp only at hstore
  obtain ⟨n, -, hshed, hfits, -⟩ :=
    exists_shed hnil (c.remove key ++ [(key, ⟨pageJson page, pageBytes page⟩)])
  rw [hshed] at hstore
  have hkeys : (c.remove key ++ [(key, (⟨pageJson page, pageBytes page⟩ : CachedHistoricalPage))]).map
      Prod.fst = touch key c.keys := by
    rw [List.map_append, keys_remove h.keys_nodup]
    rfl
  rw [hstore]
  refine ⟨rfl, hfits, ?_, nodup_touch h.nodup, ?_⟩
  · have hsuffix := List.drop_suffix n (touch key c.keys)
    rw [← hkeys, ← List.map_drop] at hsuffix
    exact hsuffix.trans (hkeys ▸ suffix_touch h.recent h.nodup)
  · intro e he
    obtain he | he := List.mem_append.1 (List.mem_of_mem_drop he)
    · obtain ⟨hmem, hne⟩ := List.mem_filter.1 he
      obtain ⟨page', hpage', hcached⟩ := h.pages e hmem
      exact ⟨page', by rw [Function.update_of_ne (by simpa using hne)]; exact hpage', hcached⟩
    · obtain rfl := List.mem_singleton.1 he
      exact ⟨page, by simp, rfl⟩

/-- What a call leaves of the invariant. -/
theorem sound_step {r : PageCacheRun} (h : r.cache.Sound limits stored r.recency)
    (call : PageCacheCall) :
    (r.step limits call).cache.Sound limits (storedBy limits stored call)
      (r.step limits call).recency := by
  cases call with
  | cacheHistoricalPage key page =>
    cases hadmits : limits.admits page with
    | true =>
      simpa [PageCacheRun.step, perform, usedKey, storedBy, hadmits] using h.store key hadmits
    | false =>
      simpa [PageCacheRun.step, perform, usedKey, storedBy, hadmits,
        store_of_not_admits hadmits] using h
  | getCachedHistoricalPage key =>
    cases hfind : r.cache.find? key with
    | none =>
      have hget : (r.cache.get key).1 = r.cache := by rw [HistoricalPageCache.get, hfind]
      simpa [PageCacheRun.step, perform, usedKey, storedBy, hfind, hget] using h
    | some cached =>
      simpa [PageCacheRun.step, perform, usedKey, storedBy, hfind] using h.get hfind
  | clearHistoricalPageCache => exact sound_empty limits

end HistoricalPageCache

/-- The run has the cache of the calls. -/
theorem PageCacheRun.cache_after (limits : PageCacheLimits) (calls : List PageCacheCall) :
    (PageCacheRun.after limits calls).cache = HistoricalPageCache.after limits calls := by
  induction calls using List.reverseRecOn with
  | nil => rfl
  | append_singleton calls call ih =>
    rw [PageCacheRun.after, HistoricalPageCache.after, Runs.run_append, Runs.run_append]
    exact congrArg (HistoricalPageCache.perform limits · call) ih

/-- **The invariant holds after any calls.** -/
theorem sound_pageCache_after (limits : PageCacheLimits) (calls : List PageCacheCall) :
    (HistoricalPageCache.after limits calls).Sound limits (lastStored limits calls)
      (PageCacheRun.after limits calls).recency := by
  rw [← PageCacheRun.cache_after]
  induction calls using List.reverseRecOn with
  | nil => exact HistoricalPageCache.sound_empty limits
  | append_singleton calls call ih =>
    rw [PageCacheRun.after, lastStored, Runs.run_append, Runs.run_append]
    exact HistoricalPageCache.sound_step ih call

/-- **The cache accounts for what it holds.**  After any calls the bytes add up and both limits
hold; the keys held are the most recently used ones; what is found is the last page stored
under the key; a page that is too long changes nothing, and making room for another one stops. -/
theorem page_cache_invariant (limits : PageCacheLimits) (calls : List PageCacheCall) :
    let c := HistoricalPageCache.after limits calls
    c.bytes = HistoricalPageCache.sizeOf c.entries ∧
      c.entries.length ≤ limits.entries ∧ c.bytes ≤ limits.bytes ∧
      c.keys <:+ (PageCacheRun.after limits calls).recency ∧
      (PageCacheRun.after limits calls).recency.Nodup ∧
      (∀ key, (key ∈ c.keys → ∃ page, (c.get key).2 = some page ∧
          lastStored limits calls key = some page) ∧
        (key ∉ c.keys → (c.get key).2 = none)) ∧
      ∀ key page,
        (limits.bytes < pageBytes page → c.store limits.entries limits.bytes key page = c) ∧
        (limits.admits page = true →
          let entries := c.remove key ++ [(key, ⟨pageJson page, pageBytes page⟩)]
          let start : HistoricalPageCache := ⟨entries, HistoricalPageCache.sizeOf entries⟩
          ∃ n ≤ entries.length,
            c.store limits.entries limits.bytes key page = HistoricalPageCache.evictPass^[n] start ∧
            ¬ HistoricalPageCache.Exceeds limits (HistoricalPageCache.evictPass^[n] start) ∧
            ∀ m < n, HistoricalPageCache.Exceeds limits (HistoricalPageCache.evictPass^[m] start)) := by
  intro c
  have h := sound_pageCache_after limits calls
  have hfits := h.fits
  rw [HistoricalPageCache.fits, Bool.and_eq_true, decide_eq_true_eq, decide_eq_true_eq] at hfits
  refine ⟨h.bytes, hfits.1, h.bytes ▸ hfits.2, h.recent, h.nodup, ?_, ?_⟩
  · intro key
    constructor
    · intro hkey
      obtain ⟨e, he, rfl⟩ := List.mem_map.1 hkey
      obtain ⟨page, hpage, hcached⟩ := h.pages e he
      have hfind := HistoricalPageCache.find?_eq_some h.keys_nodup he
      refine ⟨page, ?_, hpage⟩
      have hget : (c.get e.1).2 = pageOfJson e.2.encoded := by
        rw [HistoricalPageCache.get, hfind]
      rw [hget, hcached]
      exact pageOfJson_pageJson page
    · intro hkey
      rw [HistoricalPageCache.get, HistoricalPageCache.find?_eq_none.2 hkey]
  · intro key page
    constructor
    · intro hlong
      refine HistoricalPageCache.store_of_not_admits ?_ c key
      have hover : ¬ pageBytes page ≤ limits.bytes := by omega
      simp [PageCacheLimits.admits, hover]
    · exact HistoricalPageCache.exists_passes h.keys_nodup h.bytes key

end RoundWatch
