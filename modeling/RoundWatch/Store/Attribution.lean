import RoundWatch.Store.Capacity

/-!
# Late attribution

A watch that was prepared without a payer is counted for none until a settlement gives it
one, and a settlement is not refused for capacity.

* `preparedFor` — the watches that were prepared for a payer;
* `AttributesLate` — an operation that gives a payerless watch its payer;
* `late_attribution_over_cap` — such an operation can go over the limit of the payer;
* `capacity_of_late_attribution` — the watches that were prepared for a payer stay within
  the limit, and so do all of them where a late attribution finds room.
-/

namespace RoundWatch

open JsText

/-- The limits are fixed: the database is only opened again with the same ones. -/
def StoreOp.fixesLimits (config : StoreConfig) : StoreOp → Prop
  | .reopen config' => config' = config
  | _ => True

/-- **A row that has a payer keeps it.** -/
theorem RowChange.obligationPayer_eq {op : StoreOp} {r r' : WatchRow} (hchange : RowChange op r r')
    (hpaid : Paid r) {p : SqlText} (hp : r.obligationPayer = some p) :
    r'.obligationPayer = some p := by
  cases hexpected : r.expectedServicePayer with
  | some q =>
      rw [hchange.obligationPayer (by simp [WatchRow.attributed, hexpected])]
      exact hp
  | none =>
      have hservice : r.servicePayer = some p := by
        simpa [WatchRow.obligationPayer, hexpected] using hp
      cases hchange with
      | recordCandidate _ hopen _ =>
          rw [(hpaid.unpaid (WatchRow.settling_of_unsettled hopen).1).2.2.1] at hservice
          cases hservice
      | activate _ hopen _ =>
          rw [(hpaid.unpaid (WatchRow.settling_of_unsettled hopen).1).2.2.1] at hservice
          cases hservice
      | settleUnknown _ _ => exact hp
      | settleInvalid _ _ => exact hp
      | charge _ _ _ => exact hp
      | exhaust _ _ _ => exact hp
      | recordFailure _ _ => exact hp
      | clearFailure _ _ => exact hp
      | matchWith _ _ => exact hp
      | advanceTo _ _ _ _ => exact hp
      | closeAt _ _ _ => exact hp
      | expire _ _ _ _ _ _ => exact hp
      | deferUntil _ _ => exact hp
      | repairBudget _ _ => exact hp

/-- A row gets its payer by a settlement that names it. -/
theorem RowChange.late {op : StoreOp} {r r' : WatchRow} (hchange : RowChange op r r')
    (hnone : r.obligationPayer = none) (hsome : r'.obligationPayer ≠ none) :
    ∃ id, r.id = bindText id ∧
      ((∃ evidence, op = .recordSettlementCandidate id evidence) ∨
        ∃ now evidence round, op = .activateWatch now id evidence round) := by
  cases hchange with
  | recordCandidate hid _ _ => exact ⟨_, hid, Or.inl ⟨_, rfl⟩⟩
  | activate hid _ _ => exact ⟨_, hid, Or.inr ⟨_, _, _, rfl⟩⟩
  | settleUnknown _ _ => exact absurd hnone hsome
  | settleInvalid _ _ => exact absurd hnone hsome
  | charge _ _ _ => exact absurd hnone hsome
  | exhaust _ _ _ => exact absurd hnone hsome
  | recordFailure _ _ => exact absurd hnone hsome
  | clearFailure _ _ => exact absurd hnone hsome
  | matchWith _ _ => exact absurd hnone hsome
  | advanceTo _ _ _ _ => exact absurd hnone hsome
  | closeAt _ _ _ => exact absurd hnone hsome
  | expire _ _ _ _ _ _ => exact absurd hnone hsome
  | deferUntil _ _ => exact absurd hnone hsome
  | repairBudget _ _ => exact absurd hnone hsome

namespace Store

/-! ## The watches that were prepared for a payer -/

/-- The watch an operation has prepared for a payer. -/
def preparesFor (s : Store) : StoreOp → List SqlText
  | .prepareWatch now id spec intent =>
      match (s.prepareWatch now id spec intent).2 with
      | .ok ⟨_, true⟩ => if (truthyPayer intent).isSome then [bindText id] else []
      | _ => []
  | _ => []

/-- The watches a history has prepared for a payer. -/
def preparedFor : Store → List StoreOp → List SqlText
  | _, [] => []
  | s, op :: ops => s.preparesFor op ++ preparedFor (s.apply op) ops

/-- The open obligations of a payer among some watches. -/
def countAmong (s : Store) (ids : List SqlText) (payer : JsString) : ℕ :=
  s.rows.countP fun r =>
    r.openObligation && r.obligationPayer == some (bindText payer) && decide (r.id ∈ ids)

theorem countAmong_le (s : Store) (ids : List SqlText) (payer : JsString) :
    s.countAmong ids payer ≤ s.countOpenObligations (some payer) := by
  refine List.countP_mono_left fun r _ h => ?_
  simp only [Bool.and_eq_true] at h ⊢
  exact h.1

/-- The watches that were prepared for a payer are watches, have one, and are within its
limit. -/
structure Within (config : StoreConfig) (s : Store) (ids : List SqlText) : Prop where
  limits : s.config = config
  known : ∀ id ∈ ids, ∃ r ∈ s.rows, r.id = id
  attributed : ∀ r ∈ s.rows, r.id ∈ ids → r.attributed
  limit : ∀ payer, s.countAmong ids payer ≤ config.maxOpenWatchesPerPayer

theorem preparesFor_eq_nil {s : Store} {op : StoreOp}
    (h : ∀ now id spec intent expiresAt, op = .prepareWatch now id spec intent →
      ¬ Created s now id spec intent expiresAt (s.apply op)) : s.preparesFor op = [] := by
  cases op with
  | prepareWatch now id spec intent =>
      rw [preparesFor]
      rcases s.prepareWatch_cases now id spec intent with ⟨e, he⟩ | ⟨w, -, -, -, hw⟩ |
        ⟨s', expiresAt, hcreated, hok⟩
      · rw [he]
      · rw [hw]
      · refine absurd ?_ (h now id spec intent expiresAt rfl)
        rw [apply, hok]
        exact hcreated
  | _ => rfl

theorem preparesFor_created {s : Store} {now : ℤ} {id : JsString} {spec : WatchSpec}
    {intent : Option SettlementIntent} {expiresAt : ℤ}
    (h : Created s now id spec intent expiresAt (s.apply (.prepareWatch now id spec intent))) :
    s.preparesFor (.prepareWatch now id spec intent) =
      if (truthyPayer intent).isSome then [bindText id] else [] := by
  obtain ⟨watch, hwatch⟩ := h.result
  rw [preparesFor, hwatch]

/-- The id of a watch that was created is new. -/
theorem Created.id_new {s s' : Store} {now : ℤ} {id : JsString} {spec : WatchSpec}
    {intent : Option SettlementIntent} {expiresAt : ℤ}
    (h : Created s now id spec intent expiresAt s') {r : WatchRow} (hr : r ∈ s.rows) :
    r.id ≠ bindText id := by
  have hunique := s'.constraints.ids
  rw [h.rows, Table.UniqueOn, List.filterMap_append, List.nodup_append] at hunique
  exact hunique.2.2 r.id (List.mem_filterMap.mpr ⟨r, hr, rfl⟩) _
    (List.mem_filterMap.mpr ⟨_, List.mem_singleton_self _, rfl⟩)

theorem countAmong_created {s s' : Store} {now : ℤ} {id : JsString} {spec : WatchSpec}
    {intent : Option SettlementIntent} {expiresAt : ℤ}
    (h : Created s now id spec intent expiresAt s') {config : StoreConfig} {ids : List SqlText}
    (hwithin : Within config s ids) (payer : JsString) :
    s'.countAmong (ids ++ if (truthyPayer intent).isSome then [bindText id] else []) payer ≤
      config.maxOpenWatchesPerPayer := by
  generalize hadded : (if (truthyPayer intent).isSome then [bindText id] else []) = added
  have hmem : ∀ known ∈ added, known = bindText id ∧ (truthyPayer intent).isSome := by
    intro known hknown
    rw [← hadded] at hknown
    split at hknown
    · exact ⟨List.mem_singleton.mp hknown, by assumption⟩
    · cases hknown
  have hold : s.rows.countP (fun r => r.openObligation &&
      r.obligationPayer == some (bindText payer) && decide (r.id ∈ ids ++ added)) =
      s.countAmong ids payer := by
    refine List.countP_congr fun r hr => ?_
    have hnew : r.id ∉ added := fun hin => h.id_new hr (hmem _ hin).1
    simp [hnew]
  have hlimit := hwithin.limit payer
  rw [countAmong, h.rows, List.countP_append, hold, List.countP_singleton]
  split
  · rename_i hcounted
    simp only [Bool.and_eq_true, beq_iff_eq, decide_eq_true_eq] at hcounted
    obtain ⟨⟨-, hpayer⟩, hin⟩ := hcounted
    -- The new row is among the watches only because it was prepared for a payer.
    have htruthy : (truthyPayer intent).isSome := by
      rcases List.mem_append.mp hin with hin | hin
      · obtain ⟨r, hr, hid⟩ := hwithin.known _ hin
        exact absurd hid (h.id_new hr)
      · exact (hmem _ hin).2
    obtain ⟨p, hp⟩ := Option.isSome_iff_exists.1 htruthy
    have hexpected := expectedServicePayer_preparedRow hp s.config id spec now expiresAt
    have hsame : bindText p = bindText payer := by
      simpa [WatchRow.obligationPayer, hexpected] using hpayer
    have hroom := h.payerCapacity p hp
    have hcount : s.countOpenObligations (some p) = s.countOpenObligations (some payer) := by
      simp only [countOpenObligations, hsame]
    have hle := s.countAmong_le ids payer
    rw [hwithin.limits] at hroom
    omega
  · exact hlimit

/-- **One operation keeps the watches that were prepared for a payer within its limit.** -/
theorem Within.apply {config : StoreConfig} {s : Store} {ids : List SqlText}
    (h : Within config s ids) {op : StoreOp} (hop : op.fixesLimits config) :
    Within config (s.apply op) (ids ++ s.preparesFor op) := by
  have hlimits : (s.apply op).config = config := by
    rw [config_apply fun config' heq => ?_]
    · exact h.limits
    · rw [heq] at hop
      exact hop.trans h.limits.symm
  by_cases hcreates : ∃ now id spec intent expiresAt, op = .prepareWatch now id spec intent ∧
      Created s now id spec intent expiresAt (s.apply op)
  · obtain ⟨now, id, spec, intent, expiresAt, rfl, hcreated⟩ := hcreates
    rw [preparesFor_created hcreated]
    refine ⟨hlimits, fun known hknown => ?_, fun r hr hmem => ?_, fun payer =>
      countAmong_created hcreated h payer⟩
    · rw [hcreated.rows]
      rcases List.mem_append.mp hknown with hknown | hknown
      · obtain ⟨r, hr, hid⟩ := h.known known hknown
        exact ⟨r, List.mem_append_left _ hr, hid⟩
      · split at hknown
        · exact ⟨_, List.mem_append_right _ (List.mem_singleton_self _),
            (List.mem_singleton.mp hknown).symm⟩
        · cases hknown
    · rw [hcreated.rows] at hr
      rcases List.mem_append.mp hmem with hmem | hmem
      · rcases List.mem_append.mp hr with hr | hr
        · exact h.attributed r hr hmem
        · obtain ⟨r', hr', hid⟩ := h.known _ hmem
          rw [List.mem_singleton.mp hr] at hid
          exact absurd hid (hcreated.id_new hr')
      · split at hmem
        · rename_i htruthy
          rcases List.mem_append.mp hr with hr | hr
          · exact absurd (List.mem_singleton.mp hmem) (hcreated.id_new hr)
          · obtain ⟨p, hp⟩ := Option.isSome_iff_exists.1 htruthy
            rw [List.mem_singleton.mp hr, WatchRow.attributed,
              expectedServicePayer_preparedRow hp]
            rfl
        · cases hmem
  · have hno : ∀ now id spec intent expiresAt, op = .prepareWatch now id spec intent →
        ¬ Created s now id spec intent expiresAt (s.apply op) :=
      fun now id spec intent expiresAt heq hcreated =>
        hcreates ⟨now, id, spec, intent, expiresAt, heq, hcreated⟩
    rw [preparesFor_eq_nil hno, List.append_nil]
    rcases s.apply_cases op with ⟨now, id, spec, intent, expiresAt, heq, hcreated⟩ | hrewrites
    · exact absurd hcreated (hno now id spec intent expiresAt heq)
    · refine ⟨hlimits, fun known hknown => ?_, fun r' hr' hmem => ?_, fun payer => ?_⟩
      · obtain ⟨r, hr, rfl⟩ := h.known known hknown
        obtain ⟨r', hr', rfl | hchange⟩ := hrewrites.exists_of_mem hr
        · exact ⟨r', hr', rfl⟩
        · exact ⟨r', hr', hchange.sameWatch.id⟩
      · obtain ⟨r, hr, rfl | hchange⟩ := hrewrites.exists_of_mem_right hr'
        · exact h.attributed _ hr hmem
        · exact hchange.attributed (h.attributed r hr (hchange.sameWatch.id ▸ hmem))
      · refine (hrewrites.countP_le fun r hr r' hchange hcount => ?_).trans (h.limit payer)
        simp only [Bool.and_eq_true, decide_eq_true_eq] at hcount ⊢
        obtain ⟨⟨hopen, hpayer⟩, hmem⟩ := hcount
        rw [hchange.sameWatch.id] at hmem
        rw [hchange.obligationPayer (h.attributed r hr hmem)] at hpayer
        exact ⟨⟨hchange.openObligation hopen, hpayer⟩, hmem⟩

theorem Within.run {config : StoreConfig} {s : Store} {ids : List SqlText}
    (h : Within config s ids) {ops : List StoreOp} (hops : ∀ op ∈ ops, op.fixesLimits config) :
    Within config (s.run ops) (ids ++ preparedFor s ops) := by
  induction ops generalizing s ids with
  | nil =>
      rw [preparedFor, List.append_nil]
      exact h
  | cons op ops ih =>
      have hnext := ih (h.apply (hops op (List.mem_cons_self ..)))
        fun op' hop' => hops op' (List.mem_cons_of_mem _ hop')
      rw [List.append_assoc] at hnext
      exact hnext

/-! ## Late attributions -/

/-- The operation gives a payerless watch the payer. -/
def AttributesLate (payer : JsString) (s : Store) (op : StoreOp) : Prop :=
  ∃ r ∈ s.rows, ∃ r' ∈ (s.apply op).rows, r'.id = r.id ∧ r.obligationPayer = none ∧
    r'.obligationPayer = some (bindText payer)

/-- A late attribution finds room. -/
def Roomy (payer : JsString) (s : Store) (op : StoreOp) : Prop :=
  AttributesLate payer s op →
    s.countOpenObligations (some payer) < s.config.maxOpenWatchesPerPayer

/-- A creation for a payer finds room. -/
theorem countOpenObligations_created_le {s s' : Store} {now : ℤ} {id : JsString}
    {spec : WatchSpec} {intent : Option SettlementIntent} {expiresAt : ℤ}
    (h : Created s now id spec intent expiresAt s') {payer : JsString} (hpayer : payer ≠ [])
    (hlimit : s.countOpenObligations (some payer) ≤ s.config.maxOpenWatchesPerPayer) :
    s'.countOpenObligations (some payer) ≤ s.config.maxOpenWatchesPerPayer := by
  simp only [countOpenObligations, h.rows, List.countP_append, List.countP_singleton] at hlimit ⊢
  split
  · rename_i hcounted
    simp only [Bool.and_eq_true, beq_iff_eq] at hcounted
    have hbound : (intent.bind SettlementIntent.payer).map bindText = some (bindText payer) := by
      simpa [WatchRow.obligationPayer, preparedRow] using hcounted.2
    obtain ⟨p, hp, hsame⟩ := Option.map_eq_some_iff.mp hbound
    have htruthy : truthyPayer intent = some p := by
      rw [truthyPayer, hp]
      refine Option.filter_eq_some_iff.mpr ⟨rfl, ?_⟩
      have hne : p ≠ [] := by
        rintro rfl
        exact bindText_ne_empty hpayer hsame.symm
      simpa using hne
    have hroom := h.payerCapacity p htruthy
    simp only [countOpenObligations, hsame] at hroom
    omega
  · omega

/-- A settlement changes the row of its id. -/
theorem changes_of_late {s : Store} {op : StoreOp} {payer : JsString}
    (hrewrites : Table.Rewrites (RowChange op) s.rows (s.apply op).rows)
    (hlate : AttributesLate payer s op) : ∃ id, ∀ r r', RowChange op r r' → r.id = bindText id := by
  obtain ⟨r, hr, r', hr', hid, hnone, hsome⟩ := hlate
  obtain ⟨r'', hr'', heq⟩ := hrewrites.exists_of_mem hr
  have hsame : r''.id = r.id := by
    rcases heq with rfl | hchange
    · rfl
    · exact hchange.sameWatch.id
  have hrow : r'' = r' := eq_of_id hr'' hr' (hsame.trans hid.symm)
  rw [hrow] at heq
  rcases heq with rfl | hchange
  · rw [hnone] at hsome
    cases hsome
  · obtain ⟨id, -, ⟨evidence, rfl⟩ | ⟨now, evidence, round, rfl⟩⟩ :=
      hchange.late hnone (by simp [hsome])
    · exact ⟨id, fun _ _ h => by cases h; assumption⟩
    · exact ⟨id, fun _ _ h => by cases h; assumption⟩

theorem countP_or_le (p q : WatchRow → Bool) (rows : List WatchRow) :
    rows.countP (fun r => p r || q r) ≤ rows.countP p + rows.countP q := by
  induction rows with
  | nil => exact Nat.le_refl _
  | cons r rows ih =>
      simp only [List.countP_cons]
      cases p r <;> cases q r <;> simp <;> omega

/-- A settlement adds one obligation at most. -/
theorem countOpenObligations_late_le {s : Store} {op : StoreOp} {payer : JsString}
    (hrewrites : Table.Rewrites (RowChange op) s.rows (s.apply op).rows)
    (hlate : AttributesLate payer s op) :
    (s.apply op).countOpenObligations (some payer) ≤ s.countOpenObligations (some payer) + 1 := by
  obtain ⟨id, hchanges⟩ := changes_of_late hrewrites hlate
  let counted := fun r : WatchRow => r.openObligation && r.obligationPayer == some (bindText payer)
  have hone : s.rows.countP (hasId id) ≤ 1 :=
    s.constraints.ids.changes_le_one (k := bindText id) fun r hr => congrArg some (hasId_iff.1 hr)
  calc (s.apply op).countOpenObligations (some payer)
      ≤ (s.apply op).rows.countP (fun r => counted r || hasId id r) :=
        List.countP_mono_left fun r _ h => by simp [counted, h]
    _ ≤ s.rows.countP (fun r => counted r || hasId id r) :=
        hrewrites.countP_le fun r _ r' hchange _ => by
          simp [hasId_iff.2 (hchanges r r' hchange)]
    _ ≤ s.rows.countP counted + s.rows.countP (hasId id) := countP_or_le ..
    _ ≤ s.countOpenObligations (some payer) + 1 := Nat.add_le_add_left hone _

/-- An operation that attributes no watch late adds no obligation, a creation apart. -/
theorem countOpenObligations_prompt_le {s : Store} {op : StoreOp} {payer : JsString}
    (hpaid : ∀ r ∈ s.rows, Paid r)
    (hrewrites : Table.Rewrites (RowChange op) s.rows (s.apply op).rows)
    (hprompt : ¬ AttributesLate payer s op) :
    (s.apply op).countOpenObligations (some payer) ≤ s.countOpenObligations (some payer) := by
  refine hrewrites.mem_right.countP_le fun r hr r' ⟨hchange, hr'⟩ hcounted => ?_
  simp only [Bool.and_eq_true, beq_iff_eq] at hcounted ⊢
  refine ⟨hchange.openObligation hcounted.1, ?_⟩
  cases hbefore : r.obligationPayer with
  | none => exact absurd ⟨r, hr, r', hr', hchange.sameWatch.id, hbefore, hcounted.2⟩ hprompt
  | some p =>
      rw [hchange.obligationPayer_eq (hpaid r hr) hbefore] at hcounted
      exact hcounted.2

/-- What a run keeps when its late attributions find room. -/
structure RoomKept (config : StoreConfig) (payer : JsString) (s : Store) : Prop where
  paid : ∀ r ∈ s.rows, Paid r
  limits : s.config = config
  limit : s.countOpenObligations (some payer) ≤ config.maxOpenWatchesPerPayer

/-- **The step lemma.** -/
theorem RoomKept.apply {config : StoreConfig} {payer : JsString} (hpayer : payer ≠ [])
    {s : Store} (h : RoomKept config payer s) {op : StoreOp} (hop : op.fixesLimits config)
    (hroomy : Roomy payer s op) : RoomKept config payer (s.apply op) where
  paid := Paid.run h.paid [op]
  limits := by
    rw [config_apply fun config' heq => ?_]
    · exact h.limits
    · rw [heq] at hop
      exact hop.trans h.limits.symm
  limit := by
    have hlimit := h.limit
    rcases s.apply_cases op with ⟨now, id, spec, intent, expiresAt, -, hcreated⟩ | hrewrites
    · rw [← h.limits] at hlimit ⊢
      exact countOpenObligations_created_le hcreated hpayer hlimit
    · by_cases hlate : AttributesLate payer s op
      · have hroom := hroomy hlate
        have hone := countOpenObligations_late_le hrewrites hlate
        rw [h.limits] at hroom
        omega
      · exact (countOpenObligations_prompt_le h.paid hrewrites hlate).trans hlimit

/-- **The limit of a payer, with late attributions.**  Over any history on a store that
starts empty and whose limits are fixed, the open obligations of a payer that were prepared
for one are within its limit, a preparation that meets the limit leaves the store as it is,
and all its open obligations are within the limit where every late attribution finds
room. -/
theorem capacity_of_late_attribution (config : StoreConfig) (ops : List StoreOp)
    (hops : ∀ op ∈ ops, op.fixesLimits config) (payer : JsString) (hpayer : payer ≠ []) :
    let s := (Store.empty config).run ops
    s.countAmong (preparedFor (Store.empty config) ops) payer ≤ config.maxOpenWatchesPerPayer ∧
    (∀ now id spec intent, truthyPayer intent = some payer →
      config.maxOpenWatchesPerPayer ≤ s.countOpenObligations (some payer) →
        (s.prepareWatch now id spec intent).1 = s) ∧
    (Runs.Admissible Store.apply (Roomy payer) (Store.empty config) ops →
      s.countOpenObligations (some payer) ≤ config.maxOpenWatchesPerPayer) := by
  intro s
  have hempty : Within config (Store.empty config) [] :=
    { limits := rfl
      known := fun id hid => by cases hid
      attributed := fun r hr => by cases hr
      limit := fun payer => Nat.zero_le _ }
  have hwithin : Within config s (preparedFor (Store.empty config) ops) := hempty.run hops
  refine ⟨hwithin.limit payer, fun now id spec intent hp hfull => ?_, fun hroomy => ?_⟩
  · rcases s.prepareWatch_cases now id spec intent with ⟨e, he⟩ | ⟨w, -, -, -, hw⟩ |
      ⟨s', expiresAt, hcreated, -⟩
    · rw [he]
    · rw [hw]
    · have hroom := hcreated.payerCapacity payer hp
      rw [hwithin.limits] at hroom
      exact absurd hfull (not_le.mpr hroom)
  · have hkept : RoomKept config payer (Store.empty config) :=
      { paid := fun r hr => by cases hr
        limits := rfl
        limit := Nat.zero_le _ }
    have hboth := (Runs.admissible_of_forall hops).and hroomy
    exact (Runs.run_invariant (I := RoomKept config payer)
      (fun _ _ hop hkept => hkept.apply hpayer hop.1 hop.2) hboth hkept).limit

theorem positiveInteger_one : positiveInteger 1 := by decide

/-- One obligation for each payer. -/
def singleConfig : StoreConfig :=
  { StoreConfig.default with maxOpenWatchesPerPayer := 1, perPayer_positive := positiveInteger_one }

/-- A watch without a payer, one for the payer, and the settlement of the first one. -/
def lateHistory : List StoreOp :=
  [.prepareWatch 0 (js "v") { sampleSpec with idempotencyKey := js "order-0" } none,
    .prepareWatch 0 (js "w") sampleSpec (some sampleIntent),
    .recordSettlementCandidate (js "v") { sampleEvidence with transaction := js "TX0" }]

theorem capacity_of_late_attribution_once :
    ((Store.empty singleConfig).run lateHistory).countAmong
      (preparedFor (Store.empty singleConfig) lateHistory) (js "PAYER") ≤ 1 :=
  (capacity_of_late_attribution singleConfig lateHistory
    (by
      intro op hop
      simp only [lateHistory, List.mem_cons, List.not_mem_nil, or_false] at hop
      rcases hop with rfl | rfl | rfl <;> trivial)
    (js "PAYER") (by decide)).1

/-- **A late attribution goes over the limit.** -/
theorem late_attribution_over_cap : ¬ ∀ (config : StoreConfig) (ops : List StoreOp),
    (∀ op ∈ ops, op.fixesLimits config) → ∀ payer : JsString, payer ≠ [] →
      ((Store.empty config).run ops).countOpenObligations (some payer) ≤
        config.maxOpenWatchesPerPayer := by
  intro h
  have hlimit := h singleConfig lateHistory
    (by
      intro op hop
      simp only [lateHistory, List.mem_cons, List.not_mem_nil, or_false] at hop
      rcases hop with rfl | rfl | rfl <;> trivial)
    (js "PAYER") (by decide)
  have hcount : ((Store.empty singleConfig).run lateHistory).countOpenObligations
      (some (js "PAYER")) = 2 := by decide
  rw [hcount] at hlimit
  exact absurd hlimit (by decide)

end Store

end RoundWatch
