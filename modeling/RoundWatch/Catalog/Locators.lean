import RoundWatch.Catalog.Normalize
import RoundWatch.Foundation.JsonLayout
import RoundWatch.Foundation.Utf8

/-!
# A report points at what it says

Every pointer of a report, resolved in the document by RFC 6901, yields the value the
report gives for it.

* `HeldAt` — an object that may be missing, and the pointer it is read under;
* `OfferSound`, `RecordSound` — what an offer and a record of the report say about the
  entry and the item they were made from;
* `placesIn`, `envelope_eq_ok_iff` — the documents that are accepted;
* `catalog_reports_its_contents` — the whole report.
-/

namespace RoundWatch.Catalog

open JsText JsonPointer

variable {ν : Type} {payload : JsonDoc ν}

/-! ## Pointers -/

/-- The two replacements, one after the other, escape each unit once. -/
theorem replaceAll_eq_escape (key : JsString) :
    replaceAll 47 (js "~1") (replaceAll 126 (js "~0") key) = escape key := by
  unfold replaceAll escape
  rw [List.flatMap_assoc]
  congr 1
  funext u
  by_cases htilde : u = 126
  · subst htilde
    decide
  · by_cases hslash : u = 47
    · subst hslash
      decide
    · simp [escapeUnit, htilde, hslash]

theorem pointer_eq_child (base key : JsString) : pointer base key = child base key := by
  rw [pointer, replaceAll_eq_escape, List.append_assoc]
  rfl

/-- A member of an object is found where `pointer` says. -/
theorem resolve_pointer {base key : JsString} {fields : JsonRecord ν} {value : JsonDoc ν}
    (hbase : resolve payload base = some (.obj fields)) (hvalue : lookup fields key = some value) :
    resolve payload (pointer base key) = some value := by
  rw [pointer_eq_child, resolve_child hbase]
  exact hvalue

/-- An element of an array, likewise. -/
theorem resolve_pointerAt {base : JsString} {items : List (JsonDoc ν)} {index : ℕ}
    {item : JsonDoc ν} (hbase : resolve payload base = some (.arr items))
    (hitem : items[index]? = some item) : resolve payload (pointerAt base index) = some item := by
  rw [pointerAt, pointer_eq_child, resolve_child hbase, member_decimal]
  exact hitem

/-! ## Holders -/

/-- The object a holder is, if it is one, stands at this place. -/
def HeldAt (payload : JsonDoc ν) (base : JsString) (holder : Option (JsonRecord ν)) : Prop :=
  ∀ fields, holder = some fields → resolve payload base = some (.obj fields)

theorem record_eq_some {value : JsonDoc ν} {fields : JsonRecord ν}
    (h : record value = some fields) : value = .obj fields := by
  cases value <;> cases h
  rfl

theorem string?_eq_some {value : Option (JsonDoc ν)} {s : JsString} (h : string? value = some s) :
    value = some (.str s) := by
  unfold string? at h
  split at h
  · cases h
    rfl
  · cases h

theorem array?_eq_some {value : Option (JsonDoc ν)} {items : List (JsonDoc ν)}
    (h : array? value = some items) : value = some (.arr items) := by
  unfold array? at h
  split at h
  · cases h
    rfl
  · cases h

theorem heldAt_record {base : JsString} {value : JsonDoc ν}
    (h : resolve payload base = some value) : HeldAt payload base (record value) := by
  intro fields hfields
  rw [h, record_eq_some hfields]

namespace HeldAt

variable {base : JsString} {holder : Option (JsonRecord ν)}

/-- What a holder has under a key stands behind the key. -/
theorem resolve (h : HeldAt payload base holder) {key : String} {value : JsonDoc ν}
    (hvalue : at? holder key = some value) :
    JsonPointer.resolve payload (pointerTo base key) = some value := by
  obtain ⟨fields, hfields, hlookup⟩ := Option.bind_eq_some_iff.1 hvalue
  exact resolve_pointer (h fields hfields) hlookup

/-- So does an object it has there. -/
theorem nested (h : HeldAt payload base holder) (key : String) :
    HeldAt payload (pointerTo base key) ((at? holder key).bind record) := by
  intro fields hfields
  obtain ⟨value, hvalue, hrecord⟩ := Option.bind_eq_some_iff.1 hfields
  rw [h.resolve hvalue, record_eq_some hrecord]

theorem resolve_string (h : HeldAt payload base holder) {key : String} {s : JsString}
    (hs : string? (at? holder key) = some s) :
    JsonPointer.resolve payload (pointerTo base key) = some (.str s) :=
  h.resolve (string?_eq_some hs)

end HeldAt

/-! ## Located values -/

/-- The value is the string at its place. -/
def LocatedValue.FoundIn (payload : JsonDoc ν) (v : LocatedValue) : Prop :=
  resolve payload v.locator = some (.str v.value)

/-- The value is how the string at its place begins. -/
def LocatedValue.BeginsIn (payload : JsonDoc ν) (v : LocatedValue) : Prop :=
  ∃ s, resolve payload v.locator = some (.str s) ∧ v.value = s.take 500

theorem foundIn_fieldsOf {base : JsString} {holder : Option (JsonRecord ν)}
    (h : HeldAt payload base holder) {keys : List String} {v : LocatedValue}
    (hv : v ∈ fieldsOf holder base keys) : v.FoundIn payload := by
  cases holder with
  | none => cases hv
  | some fields =>
      obtain ⟨key, -, hkey⟩ := List.mem_filterMap.1 hv
      obtain ⟨s, hs, rfl⟩ := Option.map_eq_some_iff.1 hkey
      exact h.resolve_string hs

theorem beginsIn_describe {base : JsString} {holder : Option (JsonRecord ν)}
    (h : HeldAt payload base holder) {v : LocatedValue} (hv : (describe holder base).1 = some v) :
    v.BeginsIn payload := by
  cases holder with
  | none => cases hv
  | some fields =>
      unfold describe boundedDescription at hv
      dsimp only at hv
      split at hv
      · cases hv
      · rename_i s hs
        cases hv
        exact ⟨s, h.resolve_string hs, rfl⟩

/-! ## Unknown fields -/

section Unknown

variable {fields : JsonRecord ν} {base : JsString} {known : List String}

theorem mem_unknownFields {p : JsString} :
    p ∈ unknownFields fields base known ↔
      ∃ key ∈ fields.map Prod.fst, key ∉ known.map js ∧ p = pointer base key := by
  simp only [unknownFields, keysOf, List.mem_map, List.mem_insertionSort, List.mem_filter,
    List.mem_dedup, decide_eq_true_eq]
  constructor
  · rintro ⟨key, ⟨hkey, hunknown⟩, rfl⟩
    exact ⟨key, hkey, hunknown, rfl⟩
  · rintro ⟨key, hkey, hunknown, rfl⟩
    exact ⟨key, ⟨hkey, hunknown⟩, rfl⟩

theorem pointer_injective (base : JsString) : Function.Injective (pointer base) := by
  intro key key' h
  rw [pointer_eq_child, pointer_eq_child] at h
  exact child_injective base h

/-- No unknown field is listed twice. -/
theorem nodup_unknownFields : (unknownFields fields base known).Nodup := by
  refine List.Nodup.map (pointer_injective base) ?_
  rw [(List.perm_insertionSort _ _).nodup_iff]
  exact (List.nodup_dedup _).filter _

/-- An unknown field points at a value. -/
theorem resolve_unknownFields (h : resolve payload base = some (.obj fields)) {p : JsString}
    (hp : p ∈ unknownFields fields base known) : ∃ value, resolve payload p = some value := by
  obtain ⟨key, hkey, -, rfl⟩ := mem_unknownFields.1 hp
  obtain ⟨value, hvalue⟩ := lookup_eq_some_of_mem hkey
  exact ⟨value, resolve_pointer h hvalue⟩

/-- **Each key is known or listed once.** -/
theorem known_or_listed {key : JsString} (hkey : key ∈ fields.map Prod.fst) :
    (key ∈ known.map js ∧ pointer base key ∉ unknownFields fields base known) ∨
      (key ∉ known.map js ∧ (unknownFields fields base known).count (pointer base key) = 1) := by
  by_cases hknown : key ∈ known.map js
  · refine .inl ⟨hknown, fun hlisted => ?_⟩
    obtain ⟨key', -, hunknown, heq⟩ := mem_unknownFields.1 hlisted
    exact hunknown (pointer_injective base heq ▸ hknown)
  · refine .inr ⟨hknown, List.count_eq_one_of_mem nodup_unknownFields ?_⟩
    exact mem_unknownFields.2 ⟨key, hkey, hknown, rfl⟩

end Unknown

/-! ## Offers and records -/

/-- What an offer of the report says about the entry it was made from. -/
structure OfferSound (payload entry : JsonDoc ν) (o : PaymentOffer) : Prop where
  locator : resolve payload o.locator = some entry
  /-- The asset is the string at its place, and has a place. -/
  asset : ∀ place, o.assetLocator = some place →
    ∃ s, o.asset = some s ∧ resolve payload place = some (.str s)
  assetLocator : o.asset.isSome = o.assetLocator.isSome
  scheme : ∀ s, o.scheme = some s →
    resolve payload (pointerTo o.locator "scheme") = some (.str s)
  network : ∀ s, o.rawNetwork = some s →
    resolve payload (pointerTo o.locator "network") = some (.str s)
  amount : ∀ s, o.atomicAmount = some s →
    resolve payload (pointerTo o.locator "amount") = some (.str s)
  payee : ∀ s, o.payee = some s →
    resolve payload (pointerTo o.locator "payTo") = some (.str s)
  unknownFields : ∀ p ∈ o.unknownFields, ∃ value, resolve payload p = some value

theorem offerSound_offer {entry : JsonDoc ν} {locator : JsString}
    (h : resolve payload locator = some entry) :
    OfferSound payload entry (offer entry locator) := by
  have hentry := heldAt_record h
  have hextra := hentry.nested "extra"
  refine ⟨h, fun place hplace => ?_, ?_, fun s => hentry.resolve_string,
    fun s => hentry.resolve_string, fun s hs => ?_, fun s => hentry.resolve_string, fun p hp => ?_⟩
  · simp only [offer] at hplace ⊢
    cases hdirect : string? (at? (record entry) "asset") with
    | some s =>
        rw [hdirect] at hplace
        cases hplace
        exact ⟨s, rfl, hentry.resolve_string hdirect⟩
    | none =>
        rw [hdirect] at hplace
        cases hnested : string? (at? ((at? (record entry) "extra").bind record) "asset") with
        | some s =>
            rw [hnested] at hplace
            cases hplace
            exact ⟨s, rfl, hextra.resolve_string hnested⟩
        | none =>
            rw [hnested] at hplace
            cases hplace
  · simp only [offer]
    cases string? (at? (record entry) "asset") with
    | some s => rfl
    | none => cases string? (at? ((at? (record entry) "extra").bind record) "asset") <;> rfl
  · exact hentry.resolve_string (Option.eq_some_of_filter_eq_some hs)
  · simp only [offer] at hp
    cases hfields : record entry with
    | none =>
        rw [hfields] at hp
        cases hp
    | some fields =>
        simp only [hfields] at hp
        rcases List.mem_append.1 hp with hp | hp
        · exact resolve_unknownFields (hentry fields hfields) hp
        · split at hp
          · cases hp
          · rename_i extra hextra'
            exact resolve_unknownFields (hextra extra (hfields ▸ hextra')) hp

/-- The entries of an item that are offers. -/
def acceptsOf (item : JsonDoc ν) : List (JsonDoc ν) :=
  (array? (at? (record item) "accepts")).getD []

/-- What a record of the report says about the item it was made from. -/
structure RecordSound (payload item : JsonDoc ν) (r : ObservedService) : Prop where
  locator : resolve payload r.locator = some item
  resourceIdentifiers : ∀ v ∈ r.resourceIdentifiers, v.FoundIn payload
  sourceTimestamps : ∀ v ∈ r.sourceTimestamps, v.FoundIn payload
  descriptions : ∀ v ∈ r.descriptions, v.BeginsIn payload
  sourceRecordId : ∀ s, r.sourceRecordId = some s →
    resolve payload (pointerTo r.locator "id") = some (.str s)
  httpMethod : ∀ s, r.httpMethod = some s →
    resolve payload (pointerTo (pointerTo (pointerTo (pointerTo (pointerTo r.locator "extensions")
      "bazaar") "info") "input") "method") = some (.str s) ∨
    resolve payload (pointerTo r.locator "method") = some (.str s)
  mcpTool : ∀ s, r.mcpTool = some s →
    resolve payload (pointerTo (pointerTo r.locator "mcp") "tool") = some (.str s)
  unknownFields : ∀ p ∈ r.unknownFields, ∃ value, resolve payload p = some value
  /-- The offers are those of `accepts`, one by one and in order. -/
  paymentOffers : List.Forall₂ (OfferSound payload) (acceptsOf item) r.paymentOffers
  /-- Each key is interpreted or listed once. -/
  keys : ∀ fields, record item = some fields → ∀ key ∈ fields.map Prod.fst,
    (key ∈ itemKeys.map js ∧ pointer r.locator key ∉ r.unknownFields) ∨
      (key ∉ itemKeys.map js ∧ r.unknownFields.count (pointer r.locator key) = 1)

/-- A list and what is made of its elements at their indices. -/
theorem forall₂_mapIdx {α β : Type} {R : α → β → Prop} {items : List α} {f : ℕ → α → β}
    (h : ∀ n a, items[n]? = some a → R a (f n a)) : List.Forall₂ R items (items.mapIdx f) := by
  induction items generalizing f with
  | nil => exact .nil
  | cons a items ih =>
      rw [List.mapIdx_cons]
      refine .cons (h 0 a rfl) (ih fun n b hb => h (n + 1) b ?_)
      rwa [List.getElem?_cons_succ]

theorem recordSound_normalizeItem [BEq ν] {item : JsonDoc ν} {locator : JsString}
    (h : resolve payload locator = some item) (artifactId : JsString) :
    RecordSound payload item (normalizeItem item locator artifactId) := by
  have hitem := heldAt_record h
  have hresource := hitem.nested "resource"
  have hmetadata := hitem.nested "metadata"
  have hmetadataResource := hmetadata.nested "resource"
  have hresourceInfo := hitem.nested "resourceInfo"
  refine ⟨h, fun v hv => ?_, fun v hv => foundIn_fieldsOf hitem hv, fun v hv => ?_,
    fun s => hitem.resolve_string, fun s hs => ?_, fun s => (hitem.nested "mcp").resolve_string,
    fun p hp => ?_, ?_, fun fields hfields key hkey => ?_⟩
  · simp only [normalizeItem, List.mem_append] at hv
    rcases hv with ((hv | hv) | hv) | hv
    · exact foundIn_fieldsOf hitem hv
    · exact foundIn_fieldsOf hresource hv
    · exact foundIn_fieldsOf hmetadata hv
    · exact foundIn_fieldsOf hmetadataResource hv
  · obtain ⟨described, hdescribed, hv⟩ := List.mem_filterMap.1 hv
    simp only [List.mem_cons, List.not_mem_nil, or_false] at hdescribed
    rcases hdescribed with rfl | rfl | rfl | rfl
    · exact beginsIn_describe hitem hv
    · exact beginsIn_describe hresource hv
    · exact beginsIn_describe hmetadata hv
    · exact beginsIn_describe hresourceInfo hv
  · have hinput := (((hitem.nested "extensions").nested "bazaar").nested "info").nested "input"
    rcases Option.or_eq_some_iff.1 hs with hinner | ⟨-, houter⟩
    · exact .inl (hinput.resolve_string hinner)
    · exact .inr (hitem.resolve_string houter)
  · simp only [normalizeItem] at hp
    split at hp
    · cases hp
    · rename_i fields hfields
      exact resolve_unknownFields (hitem fields hfields) hp
  · refine forall₂_mapIdx fun n entry hentry => offerSound_offer ?_
    cases haccepts : array? (at? (record item) "accepts") with
    | none =>
        rw [acceptsOf, haccepts] at hentry
        cases hentry
    | some entries =>
        rw [acceptsOf, haccepts] at hentry
        exact resolve_pointerAt (hitem.resolve (array?_eq_some haccepts)) hentry
  · have hunknown : (normalizeItem item locator artifactId).unknownFields =
        unknownFields fields locator itemKeys := by
      simp only [normalizeItem, hfields]
    rw [hunknown]
    exact known_or_listed hkey

/-! ## Envelopes -/

/-- The places a list of records may stand at. -/
def envelopePlaces : List JsString :=
  ["/resources", "/items", "/data/resources", "/data/items", "/result/resources", "/result/items",
    "/result/data/resources", "/result/data/items"].map js

/-- The candidate at a place of the document. -/
def placed (payload : JsonDoc ν) (place : JsString) : Candidate ν := ⟨resolve payload place, place⟩

/-- A named member, for a name that is no index. -/
theorem at?_resolve {base : JsString} (hbase : (tokens? base).isSome = true) {key : String}
    (hkey : arrayIndex? (js key) = none) :
    at? ((resolve payload base).bind record) key = resolve payload (pointerTo base key) := by
  obtain ⟨tokens, htokens⟩ := Option.isSome_iff_exists.1 hbase
  rw [pointerTo, pointer_eq_child, resolve, resolve, tokens?_child htokens, htokens,
    Option.bind_some, Option.bind_some, List.foldlM_append]
  cases tokens.foldlM member payload with
  | none => rfl
  | some value =>
      cases value with
      | obj fields => simp [at?, record, member]
      | arr items => simp [at?, record, member, hkey]
      | null => rfl
      | bool b => rfl
      | num n => rfl
      | str t => rfl

/-- The candidates of a holder that are present are those of its place. -/
theorem filter_candidatesOf {base : JsString} (hbase : (tokens? base).isSome = true) :
    (candidatesOf ((resolve payload base).bind record) base).filter Candidate.present =
      ((envelopeKeys.map (pointerTo base)).map (placed payload)).filter Candidate.present := by
  have hkeys : ∀ key ∈ envelopeKeys, at? ((resolve payload base).bind record) key =
      resolve payload (pointerTo base key) := by
    intro key hkey
    refine at?_resolve hbase ?_
    simp only [envelopeKeys, List.mem_cons, List.not_mem_nil, or_false] at hkey
    rcases hkey with rfl | rfl <;> decide
  cases hholder : (resolve payload base).bind record with
  | none =>
      have hnone : ∀ key ∈ envelopeKeys, resolve payload (pointerTo base key) = none := by
        intro key hkey
        rw [← hkeys key hkey, hholder]
        rfl
      refine (List.filter_eq_nil_iff.2 fun candidate hcandidate => ?_).symm
      obtain ⟨place, hplace, rfl⟩ := List.mem_map.1 hcandidate
      obtain ⟨key, hkey, rfl⟩ := List.mem_map.1 hplace
      simp [placed, Candidate.present, hnone key hkey]
  | some fields =>
      rw [List.map_map]
      congr 1
      refine List.map_congr_left fun key hkey => ?_
      rw [Function.comp_apply, placed, ← hkeys key hkey, hholder]

theorem envelopePlaces_eq :
    envelopePlaces = envelopeKeys.map (pointerTo []) ++ envelopeKeys.map (pointerTo (js "/data")) ++
      envelopeKeys.map (pointerTo (js "/result")) ++
      envelopeKeys.map (pointerTo (js "/result/data")) := by
  decide

/-- The candidates that are present, by their places in the document; where the document
is no object, none of the places has a value. -/
theorem filter_places (payload : JsonDoc ν) :
    (envelopePlaces.map (placed payload)).filter Candidate.present =
      (record payload).elim [] fun root => (candidates root).filter Candidate.present := by
  have hroot : (resolve payload []).bind record = record payload := rfl
  have hdata : at? (record payload) "data" = resolve payload (js "/data") := by
    rw [← hroot, at?_resolve rfl (by decide)]
    congr 1
  have hresult : at? (record payload) "result" = resolve payload (js "/result") := by
    rw [← hroot, at?_resolve rfl (by decide)]
    congr 1
  have hnested : at? ((at? (record payload) "result").bind record) "data" =
      resolve payload (js "/result/data") := by
    rw [hresult, at?_resolve (by decide) (by decide)]
    congr 1
  rw [envelopePlaces_eq]
  simp only [List.map_append, List.filter_append]
  rw [← @filter_candidatesOf ν payload [] rfl, ← filter_candidatesOf (by decide),
    ← filter_candidatesOf (by decide), ← filter_candidatesOf (by decide), hroot, ← hdata,
    ← hresult, ← hnested]
  cases record payload with
  | none => rfl
  | some root => simp only [candidates, List.filter_append, Option.elim_some]

/-- The places that have a value. -/
def placesIn (payload : JsonDoc ν) : List JsString :=
  envelopePlaces.filter fun place => (resolve payload place).isSome

theorem map_placesIn (payload : JsonDoc ν) :
    (placesIn payload).map (placed payload) =
      (record payload).elim [] fun root => (candidates root).filter Candidate.present := by
  rw [← filter_places, List.filter_map]
  rfl

/-- **Exactly one list.**  A document is accepted as far as its envelope goes when one of
the places has a value and the others have none, and that value is an array. -/
theorem envelope_eq_ok_iff {found : Found ν} :
    envelope payload = .ok found ↔
      placesIn payload = [found.locator] ∧
        resolve payload found.locator = some (.arr found.items) := by
  have hpresent := map_placesIn payload
  unfold envelope
  cases hroot : record payload with
  | none =>
      rw [hroot, Option.elim_none, List.map_eq_nil_iff] at hpresent
      simp [hpresent]
  | some root =>
      rw [hroot, Option.elim_some] at hpresent
      dsimp only
      rw [← hpresent]
      rcases placesIn payload with _ | ⟨place, _ | ⟨place', rest⟩⟩
      · simp
      · have hlist : (placed payload place).value = resolve payload place := rfl
        cases harray : array? (resolve payload place) with
        | none =>
            simp only [List.map_cons, List.map_nil, List.any_cons, hlist, harray, reduceCtorEq]
            constructor
            · rintro ⟨⟩
            · rintro ⟨hplace, hvalue⟩
              obtain ⟨rfl, -⟩ := List.cons.inj hplace
              rw [hvalue] at harray
              cases harray
        | some items =>
            have hitems := array?_eq_some harray
            simp only [List.map_cons, List.map_nil, List.any_cons, hlist, harray, reduceCtorEq]
            constructor
            · rintro ⟨⟩
              exact ⟨rfl, hitems⟩
            · rintro ⟨hplace, hvalue⟩
              obtain ⟨rfl, -⟩ := List.cons.inj hplace
              rw [hitems] at hvalue
              obtain ⟨items', locator⟩ := found
              cases hvalue
              rfl
      · simp only [List.map_cons, reduceCtorEq, if_false, List.cons.injEq, and_false, false_and,
          iff_false]
        split
        · rintro ⟨⟩
        · rintro ⟨⟩

/-! ## The report -/

/-- The document holds a catalog at a place: no other place has a value, and this one has
a list of objects. -/
def HoldsCatalog (payload : JsonDoc ν) (place : JsString) (items : List (JsonDoc ν)) : Prop :=
  placesIn payload = [place] ∧ resolve payload place = some (.arr items) ∧
    ∀ item ∈ items, (record item).isSome = true

/-- What `normalizeSnapshot` finds is the catalog of the document. -/
theorem diagnose_eq_some_iff {found : Found ν} :
    (diagnose (some payload)).2.1 = some found ↔
      HoldsCatalog payload found.locator found.items := by
  unfold diagnose
  dsimp only
  split
  · rename_i diagnostic herror
    constructor
    · rintro ⟨⟩
    · rintro ⟨hplaces, hlist, -⟩
      rw [envelope_eq_ok_iff.2 ⟨hplaces, hlist⟩] at herror
      cases herror
  · rename_i parsed hparsed
    have hobjects : (parsed.items.findIdx? fun item => (record item).isNone) = none ↔
        ∀ item ∈ parsed.items, (record item).isSome = true := by
      simp [List.findIdx?_eq_none_iff]
    -- there is one catalog at most
    have hsame : HoldsCatalog payload found.locator found.items → found = parsed := by
      rintro ⟨hplaces, hlist, -⟩
      have henvelope := envelope_eq_ok_iff.2 ⟨hplaces, hlist⟩
      rw [hparsed] at henvelope
      cases henvelope
      rfl
    split
    · rename_i index hindex
      constructor
      · rintro ⟨⟩
      · intro hcatalog
        have hfound := hsame hcatalog
        subst hfound
        rw [hobjects.2 hcatalog.2.2] at hindex
        cases hindex
    · rename_i hall
      constructor
      · rintro ⟨⟩
        obtain ⟨hplaces, hlist⟩ := envelope_eq_ok_iff.1 hparsed
        exact ⟨hplaces, hlist, hobjects.1 hall⟩
      · intro hcatalog
        rw [hsame hcatalog]

/-- **A report says what the artifact says, where it says it.**  It has an envelope exactly
when the document holds a catalog, and then its records are those of the catalog's items,
one by one and in order, with pointers that resolve to what they report. -/
theorem catalog_reports_its_contents [BEq ν] (reader : SnapshotReader ν) (bytes : List UInt8)
    (hparse : reader.parse bytes = some payload) :
    (∀ place, (normalizeSnapshot reader bytes).envelopeLocator = some place ↔
      ∃ items, HoldsCatalog payload place items) ∧
    (∀ place items, HoldsCatalog payload place items →
      List.Forall₂ (RecordSound payload) items (normalizeSnapshot reader bytes).records) ∧
    ((normalizeSnapshot reader bytes).envelopeLocator = none →
      (normalizeSnapshot reader bytes).records = []) := by
  have hlocator : (normalizeSnapshot reader bytes).envelopeLocator =
      (diagnose (some payload)).2.1.map Found.locator := by
    rw [← hparse]
    rfl
  have hrecords : (normalizeSnapshot reader bytes).records =
      (diagnose (some payload)).2.1.elim [] fun found => found.items.mapIdx fun index item =>
        normalizeItem item (pointerAt found.locator index)
          (js "sha256-" ++ reader.sha256 bytes) := by
    rw [← hparse, normalizeSnapshot]
    rcases diagnose (reader.parse bytes) with ⟨diagnostic, _ | found, warnings⟩
    · rfl
    · rfl
  refine ⟨fun place => ?_, fun place items hcatalog => ?_, fun hnone => ?_⟩
  · rw [hlocator, Option.map_eq_some_iff]
    constructor
    · rintro ⟨found, hfound, rfl⟩
      exact ⟨found.items, diagnose_eq_some_iff.1 hfound⟩
    · rintro ⟨items, hcatalog⟩
      exact ⟨⟨items, place⟩, diagnose_eq_some_iff.2 hcatalog, rfl⟩
  · have hfound : (diagnose (some payload)).2.1 = some ⟨items, place⟩ :=
      diagnose_eq_some_iff.2 hcatalog
    rw [hrecords, hfound, Option.elim_some]
    exact forall₂_mapIdx fun index item hitem =>
      recordSound_normalizeItem (resolve_pointerAt hcatalog.2.1 hitem) _
  · rw [hlocator, Option.map_eq_none_iff] at hnone
    rw [hrecords, hnone, Option.elim_none]

/-- A reader by the decoder and the parser, of documents with whole numbers. -/
def wholeReader (sha256 : List UInt8 → JsString) : SnapshotReader ℤ where
  sha256 := sha256
  parse bytes := (Utf8.decodeText bytes).bind (JsonText.parseValue JsonText.wholeNumbers)

theorem parse_wholeReader (sha256 : List UInt8 → JsString) (payload : JsonDoc ℤ) :
    (wholeReader sha256).parse (utf8Bytes (JsonText.stringify JsonText.wholeNumbers payload)) =
      some payload.folded := by
  have hwhole : JsonText.Whole (JsonText.stringify JsonText.wholeNumbers payload) :=
    JsonText.whole_stringify JsonText.whole_wholeNumbers payload
  show (Utf8.decodeText _).bind _ = _
  rw [Utf8.decodeText, Utf8.decode_eq_some_iff.2 ⟨hwhole.wellFormed, rfl⟩,
    Option.map_some, Option.bind_some, Utf8.stripMark_of_ne (JsonText.stringify_unmarked payload),
    JsonText.parseValue_stringify]

/-- An item with a key of nothing but separators. -/
def sampleItem : JsonDoc ℤ :=
  .obj [(js "resource", .str (js "one")), (js "~/", .num 1),
    (js "accepts", .arr [.obj [(js "extra", .obj [(js "asset", .str (js "31566704"))])]])]

def sampleCatalog : JsonDoc ℤ := .obj [(js "items", .arr [sampleItem])]

theorem sampleCatalog_folded : sampleCatalog.folded = sampleCatalog := by
  refine JsonDoc.folded_of_unrepeated ?_
  simp only [sampleCatalog, sampleItem, JsonDoc.Unrepeated, JsonDoc.UnrepeatedFields,
    JsonDoc.UnrepeatedItems, List.map_cons, List.map_nil, and_true, true_and]
  decide +kernel

/-- The bytes of an artifact with the sample catalog. -/
def sampleBytes : List UInt8 :=
  utf8Bytes (JsonText.stringify JsonText.wholeNumbers sampleCatalog)

def sampleReader : SnapshotReader ℤ := wholeReader fun _ => []

theorem catalog_reports_sample :
    (normalizeSnapshot sampleReader sampleBytes).envelopeLocator = some (js "/items") ∧
      List.Forall₂ (RecordSound sampleCatalog) [sampleItem]
        (normalizeSnapshot sampleReader sampleBytes).records := by
  have hparse : sampleReader.parse sampleBytes = some sampleCatalog := by
    rw [sampleReader, sampleBytes, parse_wholeReader, sampleCatalog_folded]
  have hreport := @catalog_reports_its_contents ℤ sampleCatalog _ sampleReader sampleBytes hparse
  have hcatalog : HoldsCatalog sampleCatalog (js "/items") [sampleItem] := by
    refine ⟨by decide +kernel, rfl, fun item hitem => ?_⟩
    rw [List.mem_singleton.1 hitem]
    rfl
  exact ⟨(hreport.1 _).2 ⟨_, hcatalog⟩, hreport.2.1 _ _ hcatalog⟩

example : (normalizeSnapshot sampleReader sampleBytes).records.map ObservedService.unknownFields =
    [[js "/items/0/~0~1"]] := by
  decide +kernel

end RoundWatch.Catalog
