import RoundWatch.OpenIndex.Reading
import RoundWatch.Store.Operations

/-!
# The verdict of the open-index check

The check accepts an index whose predicate has the normal form of the open-obligation
predicate.  Equal normal forms have equal truth on every row, so the rows of such an index
are the open obligations.

* `eval_eq_of_normalize_eq` — the normal form determines the truth;
* `exists_reading` — a predicate with a normal form has a reading, and any of its readings
  has that truth;
* `hasOpenObligationPartialIndex_sound` — the rows of an accepted index;
* `hasOpenObligationPartialIndex_respelled` — comments and the case of words do not count.
-/

namespace RoundWatch

open JsText JsonText Checks

/-! ## The normal form -/

mutual

/-- The predicates behind `normalizeTerms`. -/
def flattenTerms (kind : Connective) : List OpenIndexPredicate → List OpenIndexPredicate
  | [] => []
  | term :: rest => flattenTerm kind term ++ flattenTerms kind rest

/-- `terms(term)`. -/
def flattenTerm (kind : Connective) : OpenIndexPredicate → List OpenIndexPredicate
  | .test kind' column values => [.test kind' column values]
  | .group kind' terms =>
      if kind' = kind then flattenTerms kind' terms else [.group kind' terms]

end

mutual

theorem normalizeTerms_eq (kind : Connective) (terms : List OpenIndexPredicate) :
    normalizeTerms kind terms = (flattenTerms kind terms).map normalize := by
  match terms with
  | [] => rfl
  | term :: rest =>
    rw [normalizeTerms, flattenTerms, List.map_append, normalizeTerm_eq kind term,
      normalizeTerms_eq kind rest]

theorem normalizeTerm_eq (kind : Connective) (term : OpenIndexPredicate) :
    normalizeTerm kind term = (flattenTerm kind term).map normalize := by
  match term with
  | .test _ _ _ => rfl
  | .group kind' terms =>
    rw [normalizeTerm, flattenTerm]
    split
    · exact normalizeTerms_eq kind' terms
    · rw [List.map_singleton, normalize]

end

mutual

/-- Flattening does not change the truth of a group. -/
theorem fold_flattenTerms (kind : Connective) (row : SqlRow) (terms : List OpenIndexPredicate) :
    kind.fold ((flattenTerms kind terms).map (OpenIndexPredicate.eval row)) =
      kind.fold (terms.map (OpenIndexPredicate.eval row)) := by
  match terms with
  | [] => rfl
  | term :: rest =>
    rw [flattenTerms, List.map_append, Connective.fold_append, fold_flattenTerm kind row term,
      fold_flattenTerms kind row rest, List.map_cons, ← Connective.fold_cons]

theorem fold_flattenTerm (kind : Connective) (row : SqlRow) (term : OpenIndexPredicate) :
    kind.fold ((flattenTerm kind term).map (OpenIndexPredicate.eval row)) = term.eval row := by
  match term with
  | .test _ _ _ => exact Connective.fold_singleton kind _
  | .group kind' terms =>
    rw [flattenTerm]
    split
    · next h =>
      subst h
      rw [fold_flattenTerms kind' row terms, OpenIndexPredicate.eval,
        OpenIndexPredicate.evalAll_eq]
    · exact Connective.fold_singleton kind _

end

mutual

/-- A flattened term is a part of the group. -/
theorem sizeOf_of_mem_flattenTerms (kind : Connective) (terms : List OpenIndexPredicate) :
    ∀ p ∈ flattenTerms kind terms, sizeOf p ≤ sizeOf terms := by
  match terms with
  | [] => simp [flattenTerms]
  | term :: rest =>
    intro p hp
    rw [flattenTerms, List.mem_append] at hp
    rw [List.cons.sizeOf_spec]
    obtain hp | hp := hp
    · have := sizeOf_of_mem_flattenTerm kind term p hp
      omega
    · have := sizeOf_of_mem_flattenTerms kind rest p hp
      omega

theorem sizeOf_of_mem_flattenTerm (kind : Connective) (term : OpenIndexPredicate) :
    ∀ p ∈ flattenTerm kind term, sizeOf p ≤ sizeOf term := by
  match term with
  | .test _ _ _ => simp [flattenTerm]
  | .group kind' terms =>
    intro p hp
    rw [flattenTerm] at hp
    split at hp
    · have := sizeOf_of_mem_flattenTerms kind' terms p hp
      rw [OpenIndexPredicate.group.sizeOf_spec]
      omega
    · rw [List.mem_singleton] at hp
      rw [hp]

end

theorem Connective.fold_congr (kind : Connective) {l l' : List Truth} (h : ∀ x, x ∈ l ↔ x ∈ l') :
    kind.fold l = kind.fold l' := by
  cases kind with
  | and => exact Kleene.all_congr h
  | or => exact Kleene.any_congr h

theorem keyword_injective : Function.Injective Connective.keyword := by
  intro a b h
  cases a <;> cases b <;> first | rfl | exact absurd h (by decide)

theorem map_str_injective {ν : Type} :
    Function.Injective (List.map (JsonDoc.str : JsString → JsonDoc ν)) :=
  List.map_injective_iff.2 fun _ _ h => JsonDoc.str.inj h

theorem groupText_inj {kind kind' : Connective} {texts texts' : List JsString}
    (h : groupText kind texts = groupText kind' texts') :
    kind = kind' ∧ ∀ text, text ∈ texts ↔ text ∈ texts' := by
  have hdoc := stringify_injective h
  simp only [JsonDoc.arr.injEq, List.cons.injEq, JsonDoc.str.injEq, and_true] at hdoc
  refine ⟨keyword_injective hdoc.1, fun text => ?_⟩
  have hsorted : sortTexts texts = sortTexts texts' := map_str_injective hdoc.2
  have hmem : text ∈ sortTexts texts ↔ text ∈ sortTexts texts' := by rw [hsorted]
  simpa only [sortTexts, List.mem_insertionSort] using hmem

theorem testText_inj {kind kind' : Comparison} {column column' : JsString}
    {values values' : List JsString}
    (h : testText kind column values = testText kind' column' values') :
    column = column' ∧ values = values' := by
  have hdoc := stringify_injective h
  simp only [JsonDoc.arr.injEq, List.cons.injEq, JsonDoc.str.injEq, and_true] at hdoc
  exact ⟨hdoc.2.1, map_str_injective hdoc.2.2⟩

theorem testText_ne_groupText (kind : Comparison) (column : JsString) (values : List JsString)
    (kind' : Connective) (texts : List JsString) :
    testText kind column values ≠ groupText kind' texts := by
  intro h
  have hdoc := stringify_injective h
  simp at hdoc

/-- **The normal form determines the truth.**  The terms of a group have the same texts as
those of the other, and every term is smaller than its group. -/
theorem eval_eq_of_normalize_eq (row : SqlRow) {p q : OpenIndexPredicate}
    (h : normalize p = normalize q) : p.eval row = q.eval row := by
  induction hn : sizeOf p using Nat.strong_induction_on generalizing p q with
  | _ n ih =>
  subst hn
  cases p with
  | test kind column values =>
    cases q with
    | test kind' column' values' =>
      rw [normalize, normalize] at h
      obtain ⟨rfl, rfl⟩ := testText_inj h
      rfl
    | group kind' terms' =>
      rw [normalize, normalize] at h
      exact absurd h (testText_ne_groupText _ _ _ _ _)
  | group kind terms =>
    cases q with
    | test kind' column' values' =>
      rw [normalize, normalize] at h
      exact absurd h.symm (testText_ne_groupText _ _ _ _ _)
    | group kind' terms' =>
      rw [normalize, normalize, normalizeTerms_eq, normalizeTerms_eq] at h
      obtain ⟨rfl, hmem⟩ := groupText_inj h
      have hterm : ∀ x ∈ flattenTerms kind terms, ∀ y, normalize x = normalize y →
          x.eval row = y.eval row := by
        intro x hx y hxy
        refine ih (sizeOf x) ?_ hxy rfl
        have := sizeOf_of_mem_flattenTerms kind terms x hx
        rw [OpenIndexPredicate.group.sizeOf_spec]
        omega
      rw [OpenIndexPredicate.eval, OpenIndexPredicate.eval, OpenIndexPredicate.evalAll_eq,
        OpenIndexPredicate.evalAll_eq, ← fold_flattenTerms kind row terms,
        ← fold_flattenTerms kind row terms']
      refine kind.fold_congr fun t => ?_
      simp only [List.mem_map] at hmem ⊢
      constructor
      · rintro ⟨x, hx, rfl⟩
        obtain ⟨y, hy, hxy⟩ := (hmem (normalize x)).1 ⟨x, hx, rfl⟩
        exact ⟨y, hy, (hterm x hx y hxy.symm).symm⟩
      · rintro ⟨y, hy, rfl⟩
        obtain ⟨x, hx, hxy⟩ := (hmem (normalize y)).2 ⟨y, hy, rfl⟩
        exact ⟨x, hx, hterm x hx y hxy⟩

/-! ## Readings -/

/-- `DerivesPredicate` as the parser sees it: an expression, and what may stand behind it. -/
theorem derivesPredicate_iff {tokens : List OpenIndexToken} {e : SqlExpr} :
    DerivesPredicate tokens e ↔
      ∃ ts rest, tokens = ts ++ rest ∧ (take .symbol (js ";") rest).getD rest = [] ∧
        Derives .or ts e := by
  constructor
  · rintro (h | ⟨ts, rfl, h⟩)
    · exact ⟨tokens, [], (List.append_nil _).symm, rfl, h⟩
    · exact ⟨ts, [symbolToken ";"], rfl, by simp [take, symbolToken], h⟩
  · rintro ⟨ts, rest, rfl, hrest, h⟩
    cases hend : take .symbol (js ";") rest with
    | none =>
      rw [hend, Option.getD_none] at hrest
      subst hrest
      exact .inl (by simpa using h)
    | some behind =>
      rw [hend, Option.getD_some] at hrest
      subst hrest
      rw [take_eq_some] at hend
      exact .inr ⟨ts, by rw [hend]; rfl, h⟩

/-- A predicate with a reading is accepted, and read with the truth of the reading. -/
theorem DerivesPredicate.normalizes {tokens : List OpenIndexToken} {e : SqlExpr}
    (h : DerivesPredicate tokens e) :
    ∃ p, Means p e ∧ normalizeOpenIndexPredicate tokens = .ok (normalize p) := by
  obtain ⟨ts, rest, rfl, hrest, he⟩ := derivesPredicate_iff.1 h
  have hlength : ts.length < (ts ++ rest).length + 1 := by
    rw [List.length_append]
    omega
  obtain ⟨p, hmeans, hreads⟩ := orExpression_complete he hlength
  have hends : Level.or.EndsBefore rest := by
    cases rest with
    | nil => exact ⟨rfl, rfl⟩
    | cons token behind =>
      obtain ⟨rfl⟩ : token = symbolToken ";" := by
        cases hend : take .symbol (js ";") (token :: behind) with
        | none => simp [hend] at hrest
        | some more =>
          rw [take_eq_some] at hend
          exact (List.cons.inj hend).1
      exact ⟨by simp [take, symbolToken], by simp [take, symbolToken]⟩
  refine ⟨p, hmeans, ?_⟩
  rw [normalizeOpenIndexPredicate, hreads rest hends]
  simp [Except.bind, hrest]

/-- What is accepted has a reading. -/
theorem exists_derivesPredicate {tokens : List OpenIndexToken} {text : JsString}
    (h : normalizeOpenIndexPredicate tokens = .ok text) : ∃ e, DerivesPredicate tokens e := by
  obtain ⟨⟨p, rest⟩, hread, hend⟩ := bind_eq_ok.1 h
  simp only at hend
  split at hend
  · next hrest =>
    obtain ⟨ts, htokens, e, he, -⟩ := orExpression_sound _ _ _ _ hread
    exact ⟨e, derivesPredicate_iff.2 ⟨ts, rest, htokens, hrest, he⟩⟩
  · cases hend

/-- Readings of predicates with one normal form have the same truth. -/
theorem DerivesPredicate.eval_eq {tokens tokens' : List OpenIndexToken} {e e' : SqlExpr}
    (he : DerivesPredicate tokens e) (he' : DerivesPredicate tokens' e')
    (h : normalizeOpenIndexPredicate tokens = normalizeOpenIndexPredicate tokens') (row : SqlRow) :
    e.eval row = e'.eval row := by
  obtain ⟨p, hp, hnormal⟩ := he.normalizes
  obtain ⟨p', hp', hnormal'⟩ := he'.normalizes
  rw [hnormal, hnormal', Except.ok.injEq] at h
  rw [← hp row, ← hp' row, eval_eq_of_normalize_eq row h]

/-! ## The open-obligation predicate -/

def openObligationTokens : List OpenIndexToken :=
  [wordToken "state", wordToken "in", symbolToken "(", ⟨.string, js "settlement_pending"⟩,
    symbolToken ",", ⟨.string, js "active"⟩, symbolToken ")", wordToken "or", symbolToken "(",
    wordToken "state", symbolToken "=", ⟨.string, js "settlement_unknown"⟩, wordToken "and",
    wordToken "settlement_reconciliation_terminal", symbolToken "=", ⟨.integer, js "0"⟩,
    symbolToken ")"]

def openObligationExpr : SqlExpr :=
  .join .or
    (.isIn (js "state") [⟨.string, js "settlement_pending"⟩, ⟨.string, js "active"⟩])
    (.join .and (.equal (js "state") ⟨.string, js "settlement_unknown"⟩)
      (.equal (js "settlement_reconciliation_terminal") ⟨.integer, js "0"⟩))

theorem tokenize_openObligationPredicate :
    tokenizeOpenIndexSql openObligationPredicate = .ok openObligationTokens := by
  decide +kernel

theorem derives_openObligation : DerivesPredicate openObligationTokens openObligationExpr := by
  have hname : ∀ s, (wordToken s).isName = true := fun s => rfl
  have hin : Derives .primary _ (.isIn (js "state") _) :=
    .isIn (hname "state") (.more ⟨⟨.string, js "settlement_pending"⟩, rfl, rfl⟩
      (.one ⟨⟨.string, js "active"⟩, rfl, rfl⟩))
  have hunknown : Derives .primary _ (.equal (js "state") ⟨.string, js "settlement_unknown"⟩) :=
    .equal (hname "state") (t := ⟨.string, js "settlement_unknown"⟩) rfl
  have hterminal : Derives .primary _
      (.equal (js "settlement_reconciliation_terminal") ⟨.integer, js "0"⟩) :=
    .equal (hname "settlement_reconciliation_terminal") (t := ⟨.integer, js "0"⟩) rfl
  exact .inl (.or (.ofAnd (.ofPrimary hin))
    (.ofPrimary (.parenthesis (.ofAnd (.and (.ofPrimary hunknown) hterminal)))))

/-- What SQL sees of a watch: both columns are never null, and compare as texts and as
integers do. -/
structure Reflects (row : SqlRow) (r : WatchRow) : Prop where
  state (text : JsString) :
    row (js "state") ⟨.string, text⟩ = .ofBool (js r.state.name == text)
  terminal (digits : JsString) :
    row (js "settlement_reconciliation_terminal") ⟨.integer, digits⟩ =
      .ofBool ((if r.settlementReconciliationTerminal then js "1" else js "0") == digits)

theorem openObligationExpr_eval {row : SqlRow} {r : WatchRow} (h : Reflects row r) :
    openObligationExpr.eval row = .yes ↔ r.openObligation = true := by
  simp only [openObligationExpr, SqlExpr.eval, List.map_cons, List.map_nil, Connective.fold,
    Kleene.any_cons, Kleene.any_nil, Kleene.all_cons, Kleene.all_nil, sup_bot_eq, inf_top_eq,
    Truth.sup_eq_yes, Truth.inf_eq_yes, h.state, h.terminal, Truth.ofBool_eq_yes]
  unfold WatchRow.openObligation
  cases r.state <;> cases r.settlementReconciliationTerminal <;> decide

/-! ## Accepted indexes -/

/-- The depth of parentheses behind tokens. -/
def depthBehind (depth : ℤ) (tokens : List OpenIndexToken) : ℤ :=
  tokens.foldl (fun depth token => (whereStep depth token).1) depth

/-- The predicate stands behind the first `WHERE` at depth zero. -/
structure SplitsAtWhere (depth : ℤ) (tokens head body : List OpenIndexToken) : Prop where
  split : tokens = head ++ wordToken "where" :: body
  outside : depthBehind depth head = 0
  first (before behind : List OpenIndexToken) :
    head = before ++ wordToken "where" :: behind → depthBehind depth before ≠ 0

theorem whereStep_snd {depth : ℤ} {token : OpenIndexToken} :
    (whereStep depth token).2 = true ↔ token = wordToken "where" ∧ depth = 0 := by
  constructor
  · intro h
    simp only [whereStep, Bool.and_eq_true, beq_iff_eq] at h
    obtain ⟨hdepth, rfl⟩ := h
    exact ⟨rfl, by simpa using hdepth⟩
  · rintro ⟨rfl, rfl⟩
    rfl

theorem splitsAtWhere_of_afterWhere {depth : ℤ} {tokens body : List OpenIndexToken}
    (h : afterWhere depth tokens = some body) : ∃ head, SplitsAtWhere depth tokens head body := by
  induction tokens generalizing depth with
  | nil => cases h
  | cons token rest ih =>
    rw [afterWhere] at h
    split at h
    · next hwhere =>
      cases h
      obtain ⟨rfl, rfl⟩ := whereStep_snd.1 hwhere
      exact ⟨[], rfl, rfl, fun before behind hnil => by simp at hnil⟩
    · next hwhere =>
      obtain ⟨head, hsplit, houtside, hfirst⟩ := ih h
      refine ⟨token :: head, by rw [hsplit, List.cons_append], houtside, ?_⟩
      intro before behind heq hzero
      cases before with
      | nil =>
        obtain rfl : token = wordToken "where" := (List.cons.inj heq).1
        exact hwhere (whereStep_snd.2 ⟨rfl, hzero⟩)
      | cons t before =>
        obtain ⟨rfl, htail⟩ := List.cons.inj heq
        exact hfirst before behind htail hzero

/-- The DDL of an accepted index has a predicate with the normal form of the open
obligations. -/
theorem normalizes_of_openIndexAccepts {sql : JsString} (h : openIndexAccepts sql = true) :
    ∃ tokens body text, tokenizeOpenIndexSql sql = .ok tokens ∧ afterWhere 0 tokens = some body ∧
      normalizeOpenIndexPredicate body = .ok text ∧
      normalizeOpenIndexPredicate openObligationTokens = .ok text := by
  have hexpected : (tokenizeOpenIndexSql openObligationPredicate).bind
      normalizeOpenIndexPredicate = normalizeOpenIndexPredicate openObligationTokens := by
    rw [tokenize_openObligationPredicate]
    rfl
  unfold openIndexAccepts at h
  rw [hexpected] at h
  split at h
  · cases h
  next tokens htokens =>
  split at h
  · cases h
  next body hwhere =>
  split at h
  · next text expected hbody hopen =>
    rw [beq_iff_eq] at h
    subst h
    exact ⟨tokens, body, text, htokens, hwhere, hbody, hopen⟩
  · cases h

/-- The entries of `sqlite_schema` that the check asks for. -/
def SchemaRow.Defines (row : SchemaRow) (index : IndexListRow) (sql : JsString) : Prop :=
  row.type = js "index" ∧ row.name = index.name ∧
    sqliteIdentifier row.tblName = js "roundwatch_watches" ∧ row.sql = some sql

/-- An accepted database has the index, it is partial, and its DDL is accepted. -/
theorem exists_index_of_accepted {database : Catalog}
    (h : hasOpenObligationPartialIndex database = true) :
    ∃ index ∈ database.indexList, ∃ row ∈ database.schema, ∃ sql,
      sqliteIdentifier index.name = js "roundwatch_open_obligations_idx" ∧ index.isPartial = 1 ∧
        row.Defines index sql ∧ openIndexAccepts sql = true := by
  unfold hasOpenObligationPartialIndex at h
  split at h
  · cases h
  next index hindex =>
  split at h
  · cases h
  next hpartial =>
  rw [not_not] at hpartial
  split at h
  · cases h
  next sql hsql =>
  split at h
  · cases h
  obtain ⟨row, hrow, hddl⟩ := Option.bind_eq_some_iff.1 hsql
  have hname := List.find?_some hindex
  have hschema := List.find?_some hrow
  simp only [Bool.and_eq_true, beq_iff_eq] at hname hschema
  exact ⟨index, List.mem_of_find?_eq_some hindex, row, List.mem_of_find?_eq_some hrow, sql, hname,
    hpartial, ⟨hschema.1.1, hschema.1.2, hschema.2, hddl⟩, h⟩

/-- **The rows of an accepted index are the open obligations.** -/
theorem openIndexAccepts_sound {sql : JsString} (h : openIndexAccepts sql = true) :
    ∃ tokens head body, tokenizeOpenIndexSql sql = .ok tokens ∧
      SplitsAtWhere 0 tokens head body ∧ (∃ e, DerivesPredicate body e) ∧
      ∀ e, DerivesPredicate body e → ∀ row,
        e.eval row = openObligationExpr.eval row ∧
          ∀ r, Reflects row r → (e.eval row = .yes ↔ r.openObligation = true) := by
  obtain ⟨tokens, body, text, htokens, hwhere, hbody, hexpected⟩ := normalizes_of_openIndexAccepts h
  obtain ⟨head, hsplit⟩ := splitsAtWhere_of_afterWhere hwhere
  refine ⟨tokens, head, body, htokens, hsplit, exists_derivesPredicate hbody, ?_⟩
  intro e he row
  have heval : e.eval row = openObligationExpr.eval row :=
    he.eval_eq derives_openObligation (hbody.trans hexpected.symm) row
  refine ⟨heval, fun r hr => ?_⟩
  rw [heval, openObligationExpr_eval hr]

/-- The DDL of the index in the migration, as `sqlite_schema` keeps it. -/
def openObligationIndexSql : JsString :=
  js "CREATE INDEX roundwatch_open_obligations_idx\n" ++
    js "         ON roundwatch_watches(COALESCE(expected_service_payer, service_payer))\n" ++
    js "         WHERE " ++ openObligationPredicate

def openObligationIndexHead : List OpenIndexToken :=
  [wordToken "create", wordToken "index", wordToken "roundwatch_open_obligations_idx",
    wordToken "on", wordToken "roundwatch_watches", symbolToken "(", wordToken "coalesce",
    symbolToken "(", wordToken "expected_service_payer", symbolToken ",",
    wordToken "service_payer", symbolToken ")", symbolToken ")"]

theorem tokenize_openObligationIndexSql :
    tokenizeOpenIndexSql openObligationIndexSql =
      .ok (openObligationIndexHead ++ wordToken "where" :: openObligationTokens) := by
  decide +kernel

/-- The index of the migration is accepted. -/
theorem openIndexAccepts_migration : openIndexAccepts openObligationIndexSql = true := by
  obtain ⟨p, -, hnormal⟩ := derives_openObligation.normalizes
  have hwhere : afterWhere 0
      (openObligationIndexHead ++ wordToken "where" :: openObligationTokens) =
        some openObligationTokens := by
    rfl
  rw [openIndexAccepts, tokenize_openObligationIndexSql, tokenize_openObligationPredicate]
  simp only [hwhere, Except.bind, hnormal, beq_self_eq_true]

/-! ## Other spellings -/

/-- The DDL of an entry is spelled another way. -/
structure SchemaRow.Respelled (row row' : SchemaRow) : Prop where
  type : row'.type = row.type
  name : row'.name = row.name
  tblName : row'.tblName = row.tblName
  sql : Option.Rel RoundWatch.Respelled row.sql row'.sql

/-- So are some entries of a database. -/
structure Catalog.Respelled (database database' : Catalog) : Prop where
  indexList : database'.indexList = database.indexList
  schema : List.Forall₂ SchemaRow.Respelled database.schema database'.schema

theorem openIndexAccepts_respelled {sql sql' : JsString} (h : Respelled sql sql') :
    openIndexAccepts sql' = openIndexAccepts sql := by
  rw [openIndexAccepts, openIndexAccepts, tokenize_respelled h]

theorem find?_respelled {p : SchemaRow → Bool}
    (hp : ∀ row row', SchemaRow.Respelled row row' → p row' = p row) {rows rows' : List SchemaRow}
    (h : List.Forall₂ SchemaRow.Respelled rows rows') :
    Option.Rel RoundWatch.Respelled ((rows.find? p).bind SchemaRow.sql)
      ((rows'.find? p).bind SchemaRow.sql) := by
  induction h with
  | nil => exact .none
  | @cons row row' rows rows' hrow _ ih =>
    rw [List.find?_cons, List.find?_cons, hp row row' hrow]
    cases p row with
    | true => exact hrow.sql
    | false => exact ih

/-- The empty DDL is refused in any case. -/
theorem accepts_of_nonempty (sql : JsString) :
    (if sql = [] then false else openIndexAccepts sql) = openIndexAccepts sql := by
  split
  · next h =>
    subst h
    rfl
  · rfl

theorem hasOpenObligationPartialIndex_respelled {database database' : Catalog}
    (h : database.Respelled database') :
    hasOpenObligationPartialIndex database' = hasOpenObligationPartialIndex database := by
  unfold hasOpenObligationPartialIndex
  rw [h.indexList]
  cases database.indexList.find? fun row =>
    sqliteIdentifier row.name == js "roundwatch_open_obligations_idx" with
  | none => rfl
  | some index =>
    have hsql := find?_respelled (p := fun row => row.type == js "index" &&
      row.name == index.name && sqliteIdentifier row.tblName == js "roundwatch_watches")
      (fun row row' hrow => by rw [hrow.type, hrow.name, hrow.tblName]) h.schema
    simp only [accepts_of_nonempty]
    split
    · rfl
    · revert hsql
      generalize (database.schema.find? _).bind SchemaRow.sql = sql
      generalize (database'.schema.find? _).bind SchemaRow.sql = sql'
      rintro (hrespelled | _)
      · exact openIndexAccepts_respelled hrespelled
      · rfl

/-! ## The check as a whole -/

theorem tokenizeOpenIndexSql_ne_outOfFuel (sql : JsString) :
    tokenizeOpenIndexSql sql ≠ .error .outOfFuel := by
  intro h
  obtain ⟨l, -, hl⟩ := exists_of_mapM_eq_error (map_eq_error.1 h)
  cases l with
  | quoted opening value =>
    simp only [Lexeme.tokens] at hl
    split at hl <;> cases hl
  | _ => cases hl

/-- **The check accepts only the open-obligation predicate.**  Predicates with one normal form
are equivalent; an accepted index has the open obligations as its rows; comments, quoted
texts and the case of words play no part; and lexer and parser end on every input. -/
theorem openIndex_check :
    (∀ tokens tokens' text, normalizeOpenIndexPredicate tokens = .ok text →
      normalizeOpenIndexPredicate tokens' = .ok text →
      (∃ e, DerivesPredicate tokens e) ∧ (∃ e', DerivesPredicate tokens' e') ∧
        ∀ e e', DerivesPredicate tokens e → DerivesPredicate tokens' e' →
          ∀ row, e.eval row = e'.eval row) ∧
    (∀ database, hasOpenObligationPartialIndex database = true →
      ∃ index ∈ database.indexList, ∃ entry ∈ database.schema, ∃ sql tokens head body,
        sqliteIdentifier index.name = js "roundwatch_open_obligations_idx" ∧ index.isPartial = 1 ∧
        entry.Defines index sql ∧ tokenizeOpenIndexSql sql = .ok tokens ∧
        SplitsAtWhere 0 tokens head body ∧ (∃ e, DerivesPredicate body e) ∧
        ∀ e, DerivesPredicate body e → ∀ row, e.eval row = openObligationExpr.eval row ∧
          ∀ r, Reflects row r → (e.eval row = .yes ↔ r.openObligation = true)) ∧
    (∀ database database' : Catalog, database.Respelled database' →
      hasOpenObligationPartialIndex database' = hasOpenObligationPartialIndex database) ∧
    (∀ sql, ∀ l ∈ openIndexScanner.lexemes sql, l.isComment = true ∨ l.isQuoted = true →
      ∀ tokens, l.tokens = .ok tokens → ∀ t ∈ tokens, t.kind ≠ .word ∧ t.kind ≠ .symbol) ∧
    (∀ sql, openIndexScanner.spell (openIndexScanner.lexemes sql) = sql ∧
      tokenizeOpenIndexSql sql ≠ .error .outOfFuel) ∧
    ∀ tokens, normalizeOpenIndexPredicate tokens ≠ .error .outOfFuel := by
  refine ⟨?_, ?_, ?_, ?_, ?_, normalizeOpenIndexPredicate_ne_outOfFuel⟩
  · intro tokens tokens' text h h'
    exact ⟨exists_derivesPredicate h, exists_derivesPredicate h',
      fun e e' he he' row => he.eval_eq he' (h.trans h'.symm) row⟩
  · intro database h
    obtain ⟨index, hindex, entry, hentry, sql, hname, hpartial, hdefines, haccepts⟩ :=
      exists_index_of_accepted h
    obtain ⟨tokens, head, body, htokens, hsplit, hreading, hrows⟩ :=
      openIndexAccepts_sound haccepts
    exact ⟨index, hindex, entry, hentry, sql, tokens, head, body, hname, hpartial, hdefines,
      htokens, hsplit, hreading, hrows⟩
  · intro database database' h
    exact hasOpenObligationPartialIndex_respelled h
  · intro sql l _ hhidden tokens htokens
    exact Lexeme.tokens_of_hidden hhidden htokens
  · intro sql
    exact ⟨Scanner.spell_lexemes sql, tokenizeOpenIndexSql_ne_outOfFuel sql⟩

end RoundWatch
