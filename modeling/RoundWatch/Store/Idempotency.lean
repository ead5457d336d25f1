import RoundWatch.Store.Capacity

/-!
# Idempotent preparation

A payer repeats a call of `prepareWatch` under one key and gets one watch.

* `Holds` — a row is the payer's own row under a key; `Holds.change` says that no
  operation takes it away, and `Holds.findIdempotencyRow` that the lookup finds it,
  whatever else was written meanwhile.
* `PrepareCall.first_holds` — the watch a call returned is held in that sense, and its
  columns are the specification of the call.
* `prepareWatch_idempotent` joins both with the outcomes of one call.
-/

namespace RoundWatch

open JsText

/-! ## The row of a payer -/

/-- The row is the payer's own row under the key. -/
structure Holds (payer key : JsString) (r : WatchRow) : Prop where
  payer : r.expectedServicePayer = some (bindText payer)
  key : r.idempotencyKey = bindText key

/-- **No operation takes a key from its payer.** -/
theorem Holds.change {payer key : JsString} {op : StoreOp} {r r' : WatchRow}
    (h : Holds payer key r) (hchange : RowChange op r r') : Holds payer key r' := by
  refine ⟨?_, hchange.sameWatch.idempotencyKey.trans h.key⟩
  have hpayer := h.payer
  cases hchange with
  | recordCandidate _ _ _ => simp [WatchRow.recordCandidate, hpayer]
  | _ => exact hpayer

namespace Store

/-- The lookup by payer finds the row that is held, and only that. -/
theorem findPayerIdempotencyRow_eq {s : Store} {payer key : JsString} {r : WatchRow}
    (hr : r ∈ s.rows) (h : Holds payer key r) : s.findPayerIdempotencyRow payer key = some r := by
  unfold findPayerIdempotencyRow
  cases hfind : s.rows.find? fun r =>
      r.expectedServicePayer.getD emptyText == bindText payer && r.expectedServicePayer.isSome &&
        r.idempotencyKey == bindText key with
  | none =>
      rw [List.find?_eq_none] at hfind
      exact absurd (hfind r hr) (by simp [h.payer, h.key])
  | some r' =>
      have hp := List.find?_some hfind
      simp only [Bool.and_eq_true, beq_iff_eq] at hp
      obtain ⟨⟨hscope, -⟩, hkey⟩ := hp
      have heq : r' = r := s.constraints.scopes.eq_of_key (List.mem_of_find?_eq_some hfind) hr
        (k := (bindText payer, bindText key)) (by simp [WatchRow.idempotencyScope, hscope, hkey])
        (by simp [WatchRow.idempotencyScope, h.payer, h.key])
      rw [heq]

theorem findPayerIdempotencyRow_some {s : Store} {payer key : JsString} {r : WatchRow}
    (h : s.findPayerIdempotencyRow payer key = some r) : r ∈ s.rows ∧ Holds payer key r := by
  have hp := List.find?_some h
  simp only [Bool.and_eq_true, beq_iff_eq] at hp
  obtain ⟨⟨hscope, hsome⟩, hkey⟩ := hp
  refine ⟨List.mem_of_find?_eq_some h, ?_, hkey⟩
  obtain ⟨p, hp⟩ := Option.isSome_iff_exists.1 hsome
  rw [hp] at hscope ⊢
  exact congrArg some hscope

theorem findPayerlessIdempotencyRow_some {s : Store} {key : JsString} {r : WatchRow}
    (h : s.findPayerlessIdempotencyRow key = some r) : r.expectedServicePayer = none := by
  have hp := List.find?_some h
  simp only [Bool.and_eq_true, Option.isNone_iff_eq_none] at hp
  exact hp.1

theorem findIdempotencyRow_mem {s : Store} {key : JsString} {payer : Option JsString}
    {r : WatchRow} (h : s.findIdempotencyRow key payer = some r) : r ∈ s.rows := by
  unfold findIdempotencyRow at h
  cases hexact : payer.bind fun p => s.findPayerIdempotencyRow p key with
  | some r' =>
      obtain ⟨p, -, hp⟩ := Option.bind_eq_some_iff.1 hexact
      have heq : r' = r := by simpa [hexact] using h
      exact heq ▸ (findPayerIdempotencyRow_some hp).1
  | none =>
      have hless : s.findPayerlessIdempotencyRow key = some r := by simpa [hexact] using h
      exact List.mem_of_find?_eq_some hless

theorem findIdempotencyRow_key {s : Store} {key : JsString} {payer : Option JsString}
    {r : WatchRow} (h : s.findIdempotencyRow key payer = some r) :
    r.idempotencyKey = bindText key := by
  unfold findIdempotencyRow at h
  cases hexact : payer.bind fun p => s.findPayerIdempotencyRow p key with
  | some r' =>
      obtain ⟨p, -, hp⟩ := Option.bind_eq_some_iff.1 hexact
      have heq : r' = r := by simpa [hexact] using h
      exact heq ▸ (findPayerIdempotencyRow_some hp).2.key
  | none =>
      have hless : s.findPayerlessIdempotencyRow key = some r := by simpa [hexact] using h
      have hp := List.find?_some hless
      simp only [Bool.and_eq_true, beq_iff_eq] at hp
      exact hp.2

end Store

/-! ## Calls -/

/-- The arguments of one call of `prepareWatch`. -/
structure PrepareCall where
  now : ℤ
  id : JsString
  spec : WatchSpec
  intent : Option SettlementIntent

namespace PrepareCall

def run (c : PrepareCall) (s : Store) : Store × Except StoreError PreparedWatch :=
  s.prepareWatch c.now c.id c.spec c.intent

/-- The call carries a settlement intent of the payer, who has a name. -/
def isBy (c : PrepareCall) (payer : JsString) : Prop := Store.truthyPayer c.intent = some payer

end PrepareCall

/-- What a read returns unchanged.  Of a driver that returns texts whole this asks for
well-formed strings only. -/
structure WatchSpec.Storable (read : TextRead) (spec : WatchSpec) : Prop where
  expectedSender : read.Keeps spec.expectedSender
  expectedReceiver : read.Keeps spec.expectedReceiver
  atomicAmount : read.Keeps spec.atomicAmount
  invoiceNote : ∀ note, spec.invoiceNote = some note → read.Keeps note

/-- Two specifications of the same watch, keys aside. -/
structure WatchSpec.SameTerms (spec spec' : WatchSpec) : Prop where
  expectedSender : spec.expectedSender = spec'.expectedSender
  expectedReceiver : spec.expectedReceiver = spec'.expectedReceiver
  assetId : spec.assetId = spec'.assetId
  atomicAmount : spec.atomicAmount = spec'.atomicAmount
  invoiceNote : spec.invoiceNote = spec'.invoiceNote

theorem watchSpecMatches_iff {r : WatchRow} {spec : WatchSpec} :
    watchSpecMatches r spec = true ↔ r.expectedSender.val = spec.expectedSender ∧
      r.expectedReceiver.val = spec.expectedReceiver ∧ r.assetId = spec.assetId ∧
      r.atomicAmount.val = spec.atomicAmount ∧
      r.invoiceNote.map SqlText.val = spec.invoiceNote := by
  simp [watchSpecMatches, and_assoc]

/-- A row that matches one specification matches exactly those with its terms. -/
theorem watchSpecMatches_congr {r : WatchRow} {spec spec' : WatchSpec}
    (h : watchSpecMatches r spec = true) :
    watchSpecMatches r spec' = true ↔ spec.SameTerms spec' := by
  obtain ⟨h₁, h₂, h₃, h₄, h₅⟩ := watchSpecMatches_iff.1 h
  rw [watchSpecMatches_iff, h₁, h₂, h₃, h₄, h₅]
  constructor
  · rintro ⟨g₁, g₂, g₃, g₄, g₅⟩
    exact ⟨g₁, g₂, g₃, g₄, g₅⟩
  · rintro ⟨g₁, g₂, g₃, g₄, g₅⟩
    exact ⟨g₁, g₂, g₃, g₄, g₅⟩

/-- The columns of a row no operation touches decide what it matches. -/
theorem SameWatch.watchSpecMatches {r r' : WatchRow} (h : SameWatch r r') (spec : WatchSpec) :
    watchSpecMatches r' spec = watchSpecMatches r spec := by
  simp [RoundWatch.watchSpecMatches, h.expectedSender, h.expectedReceiver, h.assetId,
    h.atomicAmount, h.invoiceNote]

/-- A created row reads back as its specification. -/
theorem watchSpecMatches_preparedRow {spec : WatchSpec} {config : StoreConfig}
    (h : spec.Storable config.textRead) (id : JsString) (intent : Option SettlementIntent)
    (now expiresAt : ℤ) :
    watchSpecMatches (preparedRow config id spec intent now expiresAt) spec = true := by
  rw [watchSpecMatches_iff]
  refine ⟨StoreConfig.val_columnText.2 h.expectedSender,
    StoreConfig.val_columnText.2 h.expectedReceiver, rfl,
    StoreConfig.val_columnText.2 h.atomicAmount, ?_⟩
  cases hnote : spec.invoiceNote with
  | none => simp [preparedRow, hnote]
  | some note =>
      have hnoteText : (config.columnText note).val = note :=
        StoreConfig.val_columnText.2 (h.invoiceNote note hnote)
      simp only [preparedRow, hnote, Option.map_some, hnoteText]

namespace PrepareCall

/-- The row found for a payer, when some payer owns it. -/
theorem holds_of_found {c : PrepareCall} {s : Store} {payer : JsString} {existing : WatchRow}
    (hby : c.isBy payer)
    (hfind : s.findIdempotencyRow c.spec.idempotencyKey (Store.truthyPayer c.intent) =
      some existing)
    (hsome : existing.expectedServicePayer.isSome) :
    existing ∈ s.rows ∧ Holds payer c.spec.idempotencyKey existing := by
  simp only [isBy] at hby
  simp only [Store.findIdempotencyRow, hby, Option.bind_some] at hfind
  cases hexact : s.findPayerIdempotencyRow payer c.spec.idempotencyKey with
  | some r =>
      have heq : r = existing := by simpa [hexact] using hfind
      exact heq ▸ Store.findPayerIdempotencyRow_some hexact
  | none =>
      have hless : s.findPayerlessIdempotencyRow c.spec.idempotencyKey = some existing := by
        simpa [hexact] using hfind
      have hnone := Store.findPayerlessIdempotencyRow_some hless
      simp [hnone] at hsome

/-- **The watch a call returned.**  It is in the table and the payer holds it. -/
theorem result_holds {c : PrepareCall} {s : Store} {payer : JsString} {result : PreparedWatch}
    (hby : c.isBy payer) (h : (c.run s).2 = .ok result) :
    result.watch ∈ (c.run s).1.rows ∧ Holds payer c.spec.idempotencyKey result.watch := by
  rcases s.prepareWatch_cases c.now c.id c.spec c.intent with ⟨e, he⟩ |
    ⟨existing, hfind, howner, -, hok⟩ | ⟨s', expiresAt, hcreated, hok⟩
  · simp [run, he] at h
  · have hresult : result = ⟨existing, false⟩ := by simpa [run, hok] using h.symm
    have hpayer : (Store.truthyPayer c.intent).isSome = true := by
      simp only [isBy] at hby
      simp [hby]
    simpa only [run, hok, hresult] using holds_of_found hby hfind (howner hpayer)
  · have hresult : result = ⟨preparedRow s.config c.id c.spec c.intent c.now expiresAt, true⟩ := by
      simpa [run, hok] using h.symm
    simp only [run, hok, hresult]
    exact ⟨by simp [hcreated.rows], Store.expectedServicePayer_preparedRow hby .., rfl⟩

/-- The watch a call returned reads back as the specification of the call. -/
theorem result_matches {c : PrepareCall} {s : Store} {result : PreparedWatch}
    (hspec : c.spec.Storable s.config.textRead) (h : (c.run s).2 = .ok result) :
    watchSpecMatches result.watch c.spec = true := by
  rcases s.prepareWatch_cases c.now c.id c.spec c.intent with ⟨e, he⟩ |
    ⟨existing, -, -, hmatch, hok⟩ | ⟨s', expiresAt, -, hok⟩
  · simp [run, he] at h
  · have hresult : result = ⟨existing, false⟩ := by simpa [run, hok] using h.symm
    rw [hresult]
    exact hmatch
  · have hresult : result = ⟨preparedRow s.config c.id c.spec c.intent c.now expiresAt, true⟩ := by
      simpa [run, hok] using h.symm
    rw [hresult]
    exact watchSpecMatches_preparedRow hspec ..

/-- The row a conflict names was found under the key, and some payer owns it. -/
theorem conflict_holds {c : PrepareCall} {s : Store} {payer : JsString} {existing : WatchRow}
    (hby : c.isBy payer) (h : (c.run s).2 = .error (.idempotencyConflict existing)) :
    existing ∈ s.rows ∧ Holds payer c.spec.idempotencyKey existing := by
  have hpayer : (Store.truthyPayer c.intent).isSome = true := by
    simp only [isBy] at hby
    simp [hby]
  by_cases hclock : validDate c.now = true
  · cases hfind : s.findIdempotencyRow c.spec.idempotencyKey (Store.truthyPayer c.intent) with
    | some found =>
        by_cases hnone : found.expectedServicePayer = none
        · simp [run, Store.prepareWatch, currentTime, hclock, Store.inTransaction, hfind, hpayer,
            hnone] at h
        · have hsome : found.expectedServicePayer.isSome = true := by
            simpa [Option.isSome_iff_ne_none] using hnone
          by_cases hmatch : watchSpecMatches found c.spec = true
          · simp [run, Store.prepareWatch, currentTime, hclock, Store.inTransaction, hfind,
              hnone, hmatch] at h
          · have heq : found = existing := by
              simpa [run, Store.prepareWatch, currentTime, hclock, Store.inTransaction, hfind,
                hnone, hmatch] using h
            exact heq ▸ holds_of_found hby hfind hsome
    | none =>
        simp only [run, Store.prepareWatch, currentTime, hclock, if_true, Store.inTransaction,
          hfind] at h
        rcases s.createWatch_cases c.now c.id c.spec c.intent with ⟨e, hne, he⟩ |
          ⟨s', expiresAt, -, -, -, -, hok⟩
        · exact absurd (by simpa [he] using h) (hne existing)
        · simp [hok] at h
  · simp [run, Store.prepareWatch, currentTime, hclock] at h

/-- A call whose payer holds the key: no row is created, the terms decide. -/
theorem run_of_holds {c : PrepareCall} {s : Store} {payer : JsString} {r : WatchRow}
    (hby : c.isBy payer) (hclock : validDate c.now) (hr : r ∈ s.rows)
    (h : Holds payer c.spec.idempotencyKey r) :
    c.run s = (s, if watchSpecMatches r c.spec then .ok ⟨r, false⟩
      else .error (.idempotencyConflict r)) := by
  have hfind : s.findIdempotencyRow c.spec.idempotencyKey (Store.truthyPayer c.intent) =
      some r := by
    simp only [isBy] at hby
    simp [Store.findIdempotencyRow, hby, Store.findPayerIdempotencyRow_eq hr h]
  simp only [run, Store.prepareWatch, currentTime, hclock, if_true, Store.inTransaction, hfind,
    h.payer, Option.isNone_some, Bool.and_false, Bool.false_eq_true, if_false]
  by_cases hmatch : watchSpecMatches r c.spec = true
  · simp [hmatch]
  · simp [hmatch]

/-- A call whose key a payerless row reserves. -/
theorem run_of_reserved {c : PrepareCall} {s : Store} {payer : JsString} {r : WatchRow}
    (hby : c.isBy payer) (hclock : validDate c.now)
    (hown : ∀ r ∈ s.rows, ¬ Holds payer c.spec.idempotencyKey r) (hr : r ∈ s.rows)
    (hnone : r.expectedServicePayer = none)
    (hkey : r.idempotencyKey = bindText c.spec.idempotencyKey) :
    c.run s = (s, .error .legacyIdempotencyReservation) := by
  have hexact : s.findPayerIdempotencyRow payer c.spec.idempotencyKey = none := by
    cases hfind : s.findPayerIdempotencyRow payer c.spec.idempotencyKey with
    | none => rfl
    | some r' =>
        obtain ⟨hr', hholds⟩ := Store.findPayerIdempotencyRow_some hfind
        exact absurd hholds (hown r' hr')
  have hfind : ∃ r', s.findIdempotencyRow c.spec.idempotencyKey (Store.truthyPayer c.intent) =
      some r' ∧ r'.expectedServicePayer = none := by
    simp only [isBy] at hby
    simp only [Store.findIdempotencyRow, hby, Option.bind_some, hexact]
    cases hless : s.findPayerlessIdempotencyRow c.spec.idempotencyKey with
    | none =>
        rw [Store.findPayerlessIdempotencyRow, List.find?_eq_none] at hless
        exact absurd (hless r hr) (by simp [hnone, hkey])
    | some r' => exact ⟨r', by simp, Store.findPayerlessIdempotencyRow_some hless⟩
  obtain ⟨r', hfind, hnone'⟩ := hfind
  have hpayer : (Store.truthyPayer c.intent).isSome = true := by
    simp only [isBy] at hby
    simp [hby]
  simp [run, Store.prepareWatch, currentTime, hclock, Store.inTransaction, hfind, hnone', hpayer]

/-- **The second call.**  After a call that returned a watch, and whatever was done
since, a call of the same payer under the same key creates nothing: it returns that
watch when the terms are the same, and conflicts when they are not. -/
theorem run_twice {payer : JsString} {c₁ c₂ : PrepareCall} {s : Store} {first : PreparedWatch}
    (hby₁ : c₁.isBy payer) (hby₂ : c₂.isBy payer)
    (hkey : c₁.spec.idempotencyKey = c₂.spec.idempotencyKey)
    (hspec : c₁.spec.Storable s.config.textRead)
    (hclock : validDate c₂.now) (hfirst : (c₁.run s).2 = .ok first) (between : List StoreOp) :
    ∃ watch, watch.id = first.watch.id ∧
      c₂.run ((c₁.run s).1.run between) = ((c₁.run s).1.run between,
        if watchSpecMatches watch c₂.spec then .ok ⟨watch, false⟩
        else .error (.idempotencyConflict watch)) ∧
      (watchSpecMatches watch c₂.spec = true ↔ c₁.spec.SameTerms c₂.spec) := by
  obtain ⟨hmem, hholds⟩ := result_holds hby₁ hfirst
  obtain ⟨watch, hwatch, hsame, hkept⟩ :=
    Store.exists_run_of_mem (P := Holds payer c₁.spec.idempotencyKey)
      (R := fun r r' => SameWatch r r' ∧ (Holds payer c₁.spec.idempotencyKey r →
        Holds payer c₁.spec.idempotencyKey r'))
      (fun r => ⟨.refl r, fun h => h⟩) (fun h h' => ⟨h.1.trans h'.1, h'.2 ∘ h.2⟩)
      (fun _ _ _ hchange h => ⟨h.change hchange, hchange.sameWatch, fun h => h.change hchange⟩)
      hmem hholds between
  refine ⟨watch, hsame.id, run_of_holds hby₂ hclock hwatch (hkey ▸ hkept hholds), ?_⟩
  rw [hsame.watchSpecMatches]
  exact watchSpecMatches_congr (result_matches hspec hfirst)

end PrepareCall

/-- **Idempotency and atomicity of `prepareWatch`.**  In every store, hence after any
history of operations:

* the second of two calls of one payer under one key (`PrepareCall.run_twice`);
* a key that only a payerless row holds is reserved;
* a call is only ever answered with a row of its own payer;
* a call that throws, or that returns a watch which was there, changes nothing, and a
  creation appends one pending row and changes nothing else. -/
theorem prepareWatch_idempotent (s : Store) :
    (∀ (payer : JsString) (c₁ c₂ : PrepareCall) (first : PreparedWatch)
      (between : List StoreOp), c₁.isBy payer → c₂.isBy payer →
      c₁.spec.idempotencyKey = c₂.spec.idempotencyKey →
      c₁.spec.Storable s.config.textRead → validDate c₂.now →
      (c₁.run s).2 = .ok first →
        let t := (c₁.run s).1.run between
        (c₂.run t).1 = t ∧
        (c₁.spec.SameTerms c₂.spec → ∃ watch, watch.id = first.watch.id ∧
          (c₂.run t).2 = .ok ⟨watch, false⟩) ∧
        (¬ c₁.spec.SameTerms c₂.spec → ∃ watch, watch.id = first.watch.id ∧
          (c₂.run t).2 = .error (.idempotencyConflict watch))) ∧
    (∀ (payer : JsString) (c : PrepareCall), c.isBy payer → validDate c.now →
      (∀ r ∈ s.rows, ¬ Holds payer c.spec.idempotencyKey r) →
      (∃ r ∈ s.rows, r.expectedServicePayer = none ∧
        r.idempotencyKey = bindText c.spec.idempotencyKey) →
        c.run s = (s, .error .legacyIdempotencyReservation)) ∧
    (∀ (payer : JsString) (c : PrepareCall), c.isBy payer → WellFormed payer →
      (∀ result, (c.run s).2 = .ok result →
        result.watch.expectedServicePayer.map SqlText.val = some payer) ∧
      (∀ existing, (c.run s).2 = .error (.idempotencyConflict existing) →
        existing.expectedServicePayer.map SqlText.val = some payer)) ∧
    (∀ (c : PrepareCall) (e : StoreError), (c.run s).2 = .error e → (c.run s).1 = s) ∧
    (∀ (c : PrepareCall) (watch : WatchRow), (c.run s).2 = .ok ⟨watch, false⟩ →
      (c.run s).1 = s ∧ watch ∈ s.rows) ∧
    (∀ (c : PrepareCall) (watch : WatchRow), (c.run s).2 = .ok ⟨watch, true⟩ →
      watch.state = .settlementPending ∧
      (c.run s).1.rows = s.rows ++ [watch] ∧ (c.run s).1.refunds = s.refunds ∧
      (c.run s).1.config = s.config) := by
  refine ⟨?_, ?_, ?_, fun c e h => Store.prepareWatch_error h, ?_, ?_⟩
  · intro payer c₁ c₂ first between hby₁ hby₂ hkey hspec hclock hfirst t
    obtain ⟨watch, hid, hrun, hiff⟩ :=
      PrepareCall.run_twice hby₁ hby₂ hkey hspec hclock hfirst between
    refine ⟨by rw [hrun], fun hsame => ⟨watch, hid, ?_⟩, fun hdiffer => ⟨watch, hid, ?_⟩⟩
    · rw [hrun, if_pos (hiff.2 hsame)]
    · rw [hrun, if_neg fun hmatch => hdiffer (hiff.1 hmatch)]
  · rintro payer c hby hclock hown ⟨r, hr, hnone, hkey⟩
    exact PrepareCall.run_of_reserved hby hclock hown hr hnone hkey
  · intro payer c hby hpayer
    refine ⟨fun result h => ?_, fun existing h => ?_⟩
    · rw [(PrepareCall.result_holds hby h).2.payer]
      exact congrArg some (val_bindText_of_wellFormed hpayer)
    · rw [(PrepareCall.conflict_holds hby h).2.payer]
      exact congrArg some (val_bindText_of_wellFormed hpayer)
  · intro c watch h
    rcases s.prepareWatch_cases c.now c.id c.spec c.intent with ⟨e, he⟩ |
      ⟨existing, hfind, -, -, hok⟩ | ⟨s', expiresAt, -, hok⟩
    · simp [PrepareCall.run, he] at h
    · have heq : existing = watch := by simpa [PrepareCall.run, hok] using h
      refine ⟨by simp [PrepareCall.run, hok], heq ▸ ?_⟩
      exact Store.findIdempotencyRow_mem hfind
    · simp [PrepareCall.run, hok] at h
  · intro c watch h
    rcases s.prepareWatch_cases c.now c.id c.spec c.intent with ⟨e, he⟩ |
      ⟨existing, -, -, -, hok⟩ | ⟨s', expiresAt, hcreated, hok⟩
    · simp [PrepareCall.run, he] at h
    · simp [PrepareCall.run, hok] at h
    · have heq : preparedRow s.config c.id c.spec c.intent c.now expiresAt = watch := by
        simpa [PrepareCall.run, hok] using h
      rw [← heq]
      simp only [PrepareCall.run, hok]
      exact ⟨rfl, hcreated.rows, hcreated.refunds, hcreated.config⟩

/-- A store that takes one watch at a time. -/
def oneWatch : StoreConfig :=
  { StoreConfig.default with maxOpenWatches := 1, open_positive := by decide }

/-- The call of a payer who waits for another payer's watch to end. -/
def waitingCall (now : ℤ) (id : JsString) : PrepareCall where
  now := now
  id := id
  spec := sampleSpec
  intent := some sampleIntent

/-- A first call that meets the capacity limit leaves the key to a later one, which
then creates a watch; and a repetition whose clock is out of range throws although its
terms are the same. -/
theorem later_call_creates_after_capacity_error :
    let other := { sampleIntent with payer := some (js "OTHER"), expectedTransaction := js "TX2" }
    let s := (Store.empty oneWatch).run [.prepareWatch 0 (js "o") sampleSpec (some other)]
    let t := ((waitingCall 1 (js "a")).run s).1.run [.markSettlementInvalid (js "o")]
    let u := ((waitingCall 2 (js "b")).run t).1
    ((waitingCall 1 (js "a")).run s).2 = .error (.watchCapacity .global) ∧
      (∃ watch, ((waitingCall 2 (js "b")).run t).2 = .ok ⟨watch, true⟩) ∧
      ((waitingCall (maxTimeValue + 1) (js "c")).run u).2 = .error .invalidClock := by
  exact ⟨rfl, ⟨_, rfl⟩, rfl⟩

end RoundWatch
