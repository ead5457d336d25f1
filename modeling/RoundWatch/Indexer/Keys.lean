import RoundWatch.Foundation.Url
import RoundWatch.Indexer.Coverage

/-!
# What a page is shared under

The URL of a scan request is the key its page is shared and cached under.  A key leaves
nothing of the query out (`ScanQuery.url_injective`), and what the query leaves out of the
watch is nothing the parser reads: watches with one key read every item alike
(`parseWatchTransaction_of_key`).
-/

namespace RoundWatch

open JsText Checks

/-! ## Keys -/

/-- `String(n)`. -/
def integerText (n : ℤ) : JsString :=
  if n < 0 then js "-" ++ decimal n.natAbs else decimal n.natAbs

/-- The parameters the source sets, in its order. -/
def ScanQuery.params (q : ScanQuery) : List (JsString × JsString) :=
  [(js "tx-type", js "axfer"), (js "address", q.address),
    (js "address-role", js q.addressRole.name), (js "min-round", integerText q.minRound),
    (js "max-round", integerText q.maxRound), (js "limit", js "1000"),
    (js "exclude-close-to", js "true")] ++
  (Url.optional (js "currency-greater-than") (q.currencyGreaterThan.map integerText) ++
    (Url.optional (js "currency-less-than") (q.currencyLessThan.map integerText) ++
      (Url.optional (js "note-prefix") q.notePrefix ++ (Url.optional (js "next") q.next ++ []))))

/-- The URL of a query at the origin of the provider. -/
def ScanQuery.url (origin : JsString) (q : ScanQuery) : JsString :=
  origin ++ (js "/v2/assets/" ++ (integerText q.assetId ++
    47 :: (js "transactions?" ++ Url.query q.params)))

/-- `watchPageQueryKey`. -/
def watchPageQueryKey (origin : JsString) (variant : ScanQueryVariant) (watch : WatchTerms)
    (minRound maxRound : ℤ) (nextToken : Option JsString) : Except String JsString :=
  (buildWatchSearchUrl variant watch minRound maxRound nextToken).map (·.url origin)

theorem decimal_injective {m n : ℕ} (h : decimal m = decimal n) : m = n := by
  have hm := bigInt?_decimal m
  rw [h, bigInt?_decimal] at hm
  exact (Int.ofNat.inj (Option.some.inj hm)).symm

theorem minus_ne_of_mem_decimal {n : ℕ} {u : UInt16} (h : u ∈ decimal n) : u ≠ 45 := by
  rintro rfl
  have hrange := decimal_range h
  exact absurd hrange.1 (by decide)

theorem integerText_injective {m n : ℤ} (h : integerText m = integerText n) : m = n := by
  have hminus : ∀ k l : ℕ, js "-" ++ decimal k ≠ decimal l := by
    intro k l heq
    refine minus_ne_of_mem_decimal (n := l) (u := 45) ?_ rfl
    rw [← heq]
    exact List.mem_append_left _ (by decide)
  unfold integerText at h
  split at h <;> split at h
  · have habs := decimal_injective (List.append_cancel_left h)
    omega
  · exact absurd h (hminus _ _)
  · exact absurd h.symm (hminus _ _)
  · have habs := decimal_injective h
    omega

theorem integerText_plain {n : ℤ} {u : UInt16} (h : u ∈ integerText n) :
    u = 45 ∨ (48 ≤ u.toNat ∧ u.toNat ≤ 57) := by
  unfold integerText at h
  split at h
  · rcases List.mem_append.1 h with h | h
    · exact Or.inl (by simpa [js, charUnits] using h)
    · exact Or.inr (decimal_range h)
  · exact Or.inr (decimal_range h)

theorem wellFormed_integerText (n : ℤ) : WellFormed (integerText n) := by
  refine wellFormed_of_plain fun u hu => ?_
  rcases integerText_plain hu with rfl | hrange
  · decide
  · exact UInt16.lt_iff_toNat_lt.2 (Nat.lt_of_le_of_lt hrange.2 (by decide))

theorem slash_notMem_integerText (n : ℤ) : (47 : UInt16) ∉ integerText n := by
  intro hmem
  rcases integerText_plain hmem with h | h
  · exact absurd h (by decide)
  · exact absurd h.1 (by decide)

/-- The texts of a query have nothing a URL would repair. -/
structure ScanQuery.Plain (q : ScanQuery) : Prop where
  address : WellFormed q.address
  notePrefix : ∀ p, q.notePrefix = some p → WellFormed p
  next : ∀ t, q.next = some t → WellFormed t

theorem wellFormed_encode (bs : List UInt8) : WellFormed (Base64.encode bs) := by
  have hsymbol : ∀ n, n < 64 → Base64.symbol n < 0xD800 := by
    intro n hn
    interval_cases n <;> decide
  refine wellFormed_of_plain fun u hu => ?_
  rcases List.mem_append.1 hu with hu | hu
  · obtain ⟨n, hn, rfl⟩ := List.mem_map.1 hu
    exact hsymbol n (Base64.mem_sextetsOfBytes hn)
  · rw [List.eq_of_mem_replicate hu]
    decide

theorem plain_of_buildWatchSearchUrl {variant : ScanQueryVariant} {watch : WatchTerms}
    {minRound maxRound : ℤ} {token : Option JsString} {q : ScanQuery}
    (h : buildWatchSearchUrl variant watch minRound maxRound token = .ok q) : q.Plain := by
  obtain ⟨amount, hbuilt⟩ := buildWatchSearchUrl_eq_ok h
  refine ⟨?_, fun p hp => ?_, fun t ht => ?_⟩
  · rw [hbuilt.address]
    exact wellFormed_toWellFormed _
  · rw [hbuilt.notePrefix] at hp
    split at hp
    · obtain ⟨note, -, rfl⟩ := Option.map_eq_some_iff.1 hp
      exact wellFormed_encode _
    · cases hp
  · rw [hbuilt.next] at ht
    obtain ⟨t', -, rfl⟩ := Option.map_eq_some_iff.1 ht
    exact wellFormed_toWellFormed _

theorem wellFormed_optional {name : JsString} (hname : WellFormed name) {value : Option JsString}
    (hvalue : ∀ v, value = some v → WellFormed v) :
    ∀ p ∈ Url.optional name value, Url.WellFormedParameter p := by
  intro p hp
  obtain ⟨v, hv, rfl⟩ := List.mem_map.1 hp
  exact ⟨hname, hvalue v (Option.mem_toList.1 hv)⟩

theorem ScanQuery.Plain.params {q : ScanQuery} (h : q.Plain) :
    ∀ p ∈ q.params, Url.WellFormedParameter p := by
  have hrole : WellFormed (js q.addressRole.name) := by
    cases q.addressRole <;> decide
  have hinteger : ∀ (value : Option ℤ) v, value.map integerText = some v → WellFormed v := by
    intro value v hv
    obtain ⟨n, -, rfl⟩ := Option.map_eq_some_iff.1 hv
    exact wellFormed_integerText n
  simp only [ScanQuery.params, List.forall_mem_append, List.forall_mem_cons]
  refine ⟨⟨⟨by decide, by decide⟩, ⟨show WellFormed (js "address") by decide, h.address⟩,
    ⟨show WellFormed (js "address-role") by decide, hrole⟩,
    ⟨show WellFormed (js "min-round") by decide, wellFormed_integerText _⟩,
    ⟨show WellFormed (js "max-round") by decide, wellFormed_integerText _⟩,
    ⟨by decide, by decide⟩, ⟨by decide, by decide⟩, by simp⟩, ?_, ?_, ?_, ?_, by simp⟩
  · exact wellFormed_optional (by decide) (hinteger _)
  · exact wellFormed_optional (by decide) (hinteger _)
  · exact wellFormed_optional (by decide) h.notePrefix
  · exact wellFormed_optional (by decide) h.next

theorem AddressRole.name_injective {a b : AddressRole} (h : js a.name = js b.name) : a = b := by
  cases a <;> cases b
  · rfl
  · exact absurd h (by decide)
  · exact absurd h (by decide)
  · rfl

/-- The parameters of a query tell the query, but for the asset. -/
theorem params_injective {q q' : ScanQuery} (h : q.params = q'.params)
    (hasset : q.assetId = q'.assetId) : q = q' := by
  obtain ⟨hhead, htail⟩ := List.append_inj h rfl
  simp only [List.cons.injEq, Prod.mk.injEq, true_and, and_true] at hhead
  obtain ⟨haddress, hrole, hmin, hmax⟩ := hhead
  have hgreater := congrArg (Url.get · (js "currency-greater-than")) htail
  have hless := congrArg (Url.get · (js "currency-less-than")) htail
  have hnote := congrArg (Url.get · (js "note-prefix")) htail
  have hnext := congrArg (Url.get · (js "next")) htail
  have hne₁ : js "currency-greater-than" ≠ js "currency-less-than" := by decide
  have hne₂ : js "currency-greater-than" ≠ js "note-prefix" := by decide
  have hne₃ : js "currency-greater-than" ≠ js "next" := by decide
  have hne₄ : js "currency-less-than" ≠ js "note-prefix" := by decide
  have hne₅ : js "currency-less-than" ≠ js "next" := by decide
  have hne₆ : js "note-prefix" ≠ js "next" := by decide
  simp only [Url.get_optional_self, Url.get_optional_other hne₁, Url.get_optional_other hne₂,
    Url.get_optional_other hne₃, Url.get_optional_other hne₁.symm,
    Url.get_optional_other hne₂.symm, Url.get_optional_other hne₃.symm,
    Url.get_optional_other hne₄, Url.get_optional_other hne₅, Url.get_optional_other hne₄.symm,
    Url.get_optional_other hne₅.symm, Url.get_optional_other hne₆,
    Url.get_optional_other hne₆.symm, Url.get_nil, Option.or_none] at hgreater hless hnote hnext
  have hinteger : Function.Injective (Option.map integerText) :=
    Option.map_injective fun _ _ => integerText_injective
  cases q
  cases q'
  simp only [ScanQuery.mk.injEq]
  exact ⟨hasset, haddress, AddressRole.name_injective hrole, integerText_injective hmin,
    integerText_injective hmax, hinteger hgreater, hinteger hless, hnote, hnext⟩

/-- **A URL tells its query.** -/
theorem ScanQuery.url_injective {origin : JsString} {q q' : ScanQuery} (hq : q.Plain)
    (hq' : q'.Plain) (h : q.url origin = q'.url origin) : q = q' := by
  have hslash : ∀ q : ScanQuery, (47 : UInt16) ∉ js "transactions?" ++ Url.query q.params := by
    intro q hmem
    rcases List.mem_append.1 hmem with hmem | hmem
    · exact absurd hmem (by decide)
    · exact Url.slash_notMem_query _ hmem
  have hpath := List.append_cancel_left (List.append_cancel_left h)
  obtain ⟨hasset, -, hquery⟩ := (List.append_cons_inj_of_notMem
    (slash_notMem_integerText q.assetId) (hslash q)).1 hpath
  have hparams := Url.query_injective (by simp [ScanQuery.params]) (by simp [ScanQuery.params])
    hq.params hq'.params (List.append_cancel_left hquery)
  exact params_injective hparams (integerText_injective hasset)

/-! ## What the parser reads of a watch -/

/-- Two watches that the parser cannot tell apart under a plan. -/
structure SameFilters (watch watch' : WatchTerms) (plan : ScanQueryPlan) : Prop where
  assetId : watch.assetId = watch'.assetId
  amount : plan.exactAmount = true → watch.atomicAmount = watch'.atomicAmount
  note : plan.notePrefix = true →
    watch.invoiceNote.map (fun note => utf8Bytes note.val) =
      watch'.invoiceNote.map fun note => utf8Bytes note.val

section SameFilters

variable {watch watch' : WatchTerms} {plan : ScanQueryPlan} (h : SameFilters watch watch' plan)

include h

theorem SameFilters.amount_eq (amount : JsString) :
    (!plan.exactAmount || amount == watch.atomicAmount.val) =
      (!plan.exactAmount || amount == watch'.atomicAmount.val) := by
  cases hexact : plan.exactAmount with
  | false => rfl
  | true => rw [h.amount hexact]

theorem SameFilters.note_eq (note : Option JsString) :
    satisfiesNotePrefix note watch plan = satisfiesNotePrefix note watch' plan := by
  unfold satisfiesNotePrefix
  cases hnoted : plan.notePrefix with
  | false => rfl
  | true =>
      have hnote := h.note hnoted
      cases note with
      | none => rfl
      | some note =>
          cases hw : watch.invoiceNote <;> cases hw' : watch'.invoiceNote
          · rfl
          · rw [hw, hw'] at hnote
            cases hnote
          · rw [hw, hw'] at hnote
            cases hnote
          · rw [hw, hw'] at hnote
            simp only [Option.map_some, Option.some.injEq] at hnote
            simp [hnote]

theorem SameFilters.scanFilters_eq (p : ParsedAssetTransferEnvelope) :
    satisfiesScanFilters p watch plan = satisfiesScanFilters p watch' plan := by
  simp only [satisfiesScanFilters, h.assetId, h.amount_eq, h.note_eq]

theorem SameFilters.inspect_eq (minRound maxRound : ℤ) (depth : ℕ) :
    inspectInnerTransaction minRound maxRound watch plan depth =
      inspectInnerTransaction minRound maxRound watch' plan depth := by
  induction depth with
  | zero => rfl
  | succ depth ih =>
      funext value label visited
      simp only [inspectInnerTransaction, ih, h.scanFilters_eq]

/-- Watches with the same filters read every item alike. -/
theorem SameFilters.parse_eq (item : Json) (index : ℕ) (minRound maxRound : ℤ) :
    parseWatchTransaction item index minRound maxRound watch plan =
      parseWatchTransaction item index minRound maxRound watch' plan := by
  simp only [parseWatchTransaction, assertTopLevelScanFilters, assertInnerMatch, h.assetId,
    h.amount_eq, h.note_eq, h.inspect_eq]

end SameFilters

/-- The amount a query filters by is the amount of the watch. -/
theorem planAmount_eq {variant : ScanQueryVariant} {watch : WatchTerms} {n : ℕ}
    (hn : watch.atomicAmount.val = decimal n) {amount : Option ℤ}
    (h : planAmount watch variant = .ok amount) :
    amount = if variant = .A then none else some (n : ℤ) := by
  unfold planAmount at h
  split at h
  · rename_i hA
    cases h
    rw [if_pos hA]
  · rename_i hA
    rw [checkExactAmount, hn, bigInt?_decimal] at h
    dsimp only at h
    split at h
    · cases h
    · cases h
      rw [if_neg hA]

/-- One query, one plan: what two watches with a canonical amount ask for in one query is
told apart by nothing the parser reads. -/
theorem sameFilters_of_query {variant : ScanQueryVariant} {watch watch' : WatchTerms}
    (hamount : CanonicalAmount watch) (hamount' : CanonicalAmount watch')
    {minRound maxRound minRound' maxRound' : ℤ} {token token' : Option JsString} {q : ScanQuery}
    (h : buildWatchSearchUrl variant watch minRound maxRound token = .ok q)
    (h' : buildWatchSearchUrl variant watch' minRound' maxRound' token' = .ok q) :
    scanPlan watch' variant = scanPlan watch variant ∧
      SameFilters watch watch' (scanPlan watch variant) := by
  obtain ⟨amount, hbuilt⟩ := buildWatchSearchUrl_eq_ok h
  obtain ⟨amount', hbuilt'⟩ := buildWatchSearchUrl_eq_ok h'
  obtain ⟨n, -, hn⟩ := hamount
  obtain ⟨n', -, hn'⟩ := hamount'
  have haddress : (scanPlan watch' variant).address = (scanPlan watch variant).address := by
    have hwell : ∀ w : WatchTerms, WellFormed (scanPlan w variant).address := by
      intro w
      unfold scanPlan
      dsimp only
      split
      · exact w.expectedReceiver.wellFormed
      · exact w.expectedSender.wellFormed
    rw [← hwell watch', ← hbuilt'.address, hbuilt.address, hwell watch]
  have hnoted : ∀ {w : WatchTerms} {lo hi : ℤ} {t : Option JsString} {a : Option ℤ},
      q.BuiltFrom variant w lo hi t a → (scanPlan w variant).notePrefix = q.notePrefix.isSome := by
    intro w lo hi t a hw
    rw [hw.notePrefix]
    cases hflag : (scanPlan w variant).notePrefix with
    | false => rfl
    | true =>
        have hsome : w.invoiceNote.isSome := by
          simp only [scanPlan, Bool.and_eq_true] at hflag
          exact hflag.2
        simp [hsome]
  have hnotePrefix : (scanPlan watch' variant).notePrefix = (scanPlan watch variant).notePrefix :=
    (hnoted hbuilt').trans (hnoted hbuilt).symm
  refine ⟨?_, hbuilt.assetId.symm.trans hbuilt'.assetId, fun hexact => ?_, fun hflag => ?_⟩
  · simp only [scanPlan, ScanQueryPlan.mk.injEq] at haddress hnotePrefix ⊢
    exact ⟨haddress, trivial, trivial, hnotePrefix⟩
  · have hA : variant ≠ .A := by simpa [scanPlan] using hexact
    have hgreater := hbuilt.greaterThan.symm.trans hbuilt'.greaterThan
    rw [planAmount_eq hn hbuilt.plan, planAmount_eq hn' hbuilt'.plan, if_neg hA, if_neg hA]
      at hgreater
    have hnat : n = n' := by
      simp only [Option.map_some, Option.some.injEq] at hgreater
      omega
    exact SqlText.ext (by rw [hn, hn', hnat])
  · have hnote := hbuilt.notePrefix.symm.trans hbuilt'.notePrefix
    rw [if_pos hflag, if_pos (hnotePrefix.trans hflag)] at hnote
    have hdecoded := congrArg (Option.map Base64.decode) hnote
    simpa [Option.map_map, Function.comp_def] using hdecoded

/-- **Sharing a page is sharing its reading.**  Two watches with one key read every item
alike: as the same record, as an item to pass over, or not at all. -/
theorem parseWatchTransaction_of_key {origin : JsString} {variant : ScanQueryVariant}
    {watch watch' : WatchTerms} (hamount : CanonicalAmount watch)
    (hamount' : CanonicalAmount watch') {minRound maxRound minRound' maxRound' : ℤ}
    {token token' : Option JsString} {key : JsString}
    (h : watchPageQueryKey origin variant watch minRound maxRound token = .ok key)
    (h' : watchPageQueryKey origin variant watch' minRound' maxRound' token' = .ok key)
    (item : Json) (index : ℕ) :
    parseWatchTransaction item index minRound maxRound watch (scanPlan watch variant) =
      parseWatchTransaction item index minRound' maxRound' watch' (scanPlan watch' variant) := by
  obtain ⟨q, hq, rfl⟩ := map_eq_ok.1 h
  obtain ⟨q', hq', hkey⟩ := map_eq_ok.1 h'
  have heq := ScanQuery.url_injective (plain_of_buildWatchSearchUrl hq')
    (plain_of_buildWatchSearchUrl hq) hkey
  subst heq
  obtain ⟨amount, hbuilt⟩ := buildWatchSearchUrl_eq_ok hq
  obtain ⟨amount', hbuilt'⟩ := buildWatchSearchUrl_eq_ok hq'
  obtain ⟨hplan, hsame⟩ := sameFilters_of_query hamount hamount' hq hq'
  rw [hplan, hsame.parse_eq, ← hbuilt.minRound, ← hbuilt.maxRound, hbuilt'.minRound,
    hbuilt'.maxRound]

end RoundWatch
