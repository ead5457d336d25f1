import RoundWatch.Foundation.Checks
import RoundWatch.OpenIndex.Meaning

/-!
# The parser reads the grammar

The recursive descent accepts the tokens of the grammar and no others, and what it builds
has the truth of the expression.

* `orExpression_complete` — an expression is read, up to the token that ends it;
* `orExpression_sound` — what is read is an expression;
* `orExpression_ne_outOfFuel` — the steps suffice: the descent ends on every input.
-/

namespace RoundWatch

open JsText JsonText Checks

/-! ## Tokens -/

theorem take_eq_some {kind : OpenIndexTokenKind} {value : JsString}
    {tokens rest : List OpenIndexToken} :
    take kind value tokens = some rest ↔ tokens = ⟨kind, value⟩ :: rest := by
  cases tokens with
  | nil => simp [take]
  | cons token tail =>
    obtain ⟨kind', value'⟩ := token
    by_cases h : kind' = kind ∧ value' = value
    · simp [take, h]
    · simp only [take, if_neg h]
      simp
      tauto

@[simp] theorem take_cons (token : OpenIndexToken) (rest : List OpenIndexToken) :
    take token.kind token.value (token :: rest) = some rest :=
  take_eq_some.2 rfl

theorem requireToken_eq_ok {kind : OpenIndexTokenKind} {value : JsString}
    {tokens rest : List OpenIndexToken} :
    requireToken kind value tokens = .ok rest ↔ tokens = ⟨kind, value⟩ :: rest := by
  rw [← take_eq_some]
  unfold requireToken
  cases take kind value tokens with
  | none => simp
  | some rest' => simp

theorem literal_eq_ok {tokens rest : List OpenIndexToken} {text : JsString} :
    literal tokens = .ok (text, rest) ↔
      ∃ t l, t.literal? = some l ∧ tokens = t :: rest ∧ text = literalText l := by
  cases tokens with
  | nil => simp [literal]
  | cons token tail =>
    rw [literal]
    cases h : token.literal? with
    | none =>
      constructor
      · intro h'
        cases h'
      · rintro ⟨t, l, ht, htokens, -⟩
        cases htokens
        rw [h] at ht
        cases ht
    | some l =>
      constructor
      · rintro h'
        cases h'
        exact ⟨token, l, h, rfl, rfl⟩
      · rintro ⟨t, l', ht, htokens, rfl⟩
        cases htokens
        rw [h] at ht
        cases ht
        rfl

/-! ## Items with separators -/

section Items

variable {α : Type} {item : List OpenIndexToken → Parsed α}

theorem SeparatedBy.snoc {β : Type} {p : List OpenIndexToken → β → Prop} {sep : OpenIndexToken}
    {ts us : List OpenIndexToken} {xs : List β} {x : β} (h : SeparatedBy p sep ts xs)
    (hx : p us x) : SeparatedBy p sep (ts ++ sep :: us) (xs ++ [x]) := by
  induction h with
  | one h => exact .more h (.one hx)
  | more h _ ih => simpa using SeparatedBy.more h ih

/-- `item` reads the tokens, whatever of a kind comes behind them. -/
def Reads (item : List OpenIndexToken → Parsed α) (before : List OpenIndexToken → Prop)
    (ts : List OpenIndexToken) (x : α) : Prop :=
  ∀ rest, before rest → item (ts ++ rest) = .ok (x, rest)

/-- Every separator is an item's end, so all items are read. -/
theorem separated_complete {before : List OpenIndexToken → Prop} {sep : OpenIndexToken}
    (hsep : ∀ rest, before (sep :: rest)) {ts : List OpenIndexToken} {xs : List α}
    (h : SeparatedBy (Reads item before) sep ts xs) :
    ∀ n rest, ts.length < n → before rest → take sep.kind sep.value rest = none →
      separated item sep.kind sep.value n (ts ++ rest) = .ok (xs, rest) := by
  induction h with
  | one h =>
    intro n rest hn hrest hend
    obtain ⟨n, rfl⟩ : ∃ m, n = m + 1 := ⟨n - 1, by omega⟩
    simp [separated, h rest hrest, Except.bind, hend]
  | @more ts us x xs h _ ih =>
    intro n rest hn hrest hend
    obtain ⟨n, rfl⟩ : ∃ m, n = m + 1 := ⟨n - 1, by omega⟩
    have hitem : item (ts ++ sep :: us ++ rest) = .ok (x, sep :: us ++ rest) := by
      rw [List.append_assoc]
      exact h _ (hsep _)
    have hus : us.length < n := by
      simp only [List.length_append, List.length_cons] at hn
      omega
    rw [separated, hitem]
    simp [Except.bind, ih n rest hus hrest hend, Except.map]

/-- What was read is items with separators. -/
theorem separated_sound {p : List OpenIndexToken → α → Prop} {kind : OpenIndexTokenKind}
    {value : JsString}
    (hitem : ∀ tokens x rest, item tokens = .ok (x, rest) → ∃ ts, tokens = ts ++ rest ∧ p ts x) :
    ∀ n tokens xs rest, separated item kind value n tokens = .ok (xs, rest) →
      ∃ ts, tokens = ts ++ rest ∧ SeparatedBy p ⟨kind, value⟩ ts xs := by
  intro n
  induction n with
  | zero => intro tokens xs rest h; cases h
  | succ n ih =>
    intro tokens xs rest h
    obtain ⟨⟨x, behind⟩, hx, hbehind⟩ := bind_eq_ok.1 h
    obtain ⟨ts, rfl, hp⟩ := hitem _ _ _ hx
    cases hsep : take kind value behind with
    | none =>
      simp only [hsep] at hbehind
      cases hbehind
      exact ⟨ts, rfl, .one hp⟩
    | some next =>
      simp only [hsep] at hbehind
      obtain ⟨⟨ys, rest'⟩, hnext, hxs⟩ := map_eq_ok.1 hbehind
      cases hxs
      obtain ⟨us, rfl, hus⟩ := ih _ _ _ hnext
      rw [take_eq_some] at hsep
      subst hsep
      exact ⟨ts ++ ⟨kind, value⟩ :: us, by simp, .more hp hus⟩

/-- Every item takes a token, so there are no more items than tokens. -/
theorem separated_ne_outOfFuel {kind : OpenIndexTokenKind} {value : JsString} {m : ℕ}
    (hshorter : ∀ tokens x rest, item tokens = .ok (x, rest) → rest.length ≤ tokens.length)
    (hitem : ∀ tokens : List OpenIndexToken, tokens.length ≤ m →
      item tokens ≠ .error .outOfFuel) :
    ∀ n tokens, tokens.length ≤ m → tokens.length < n →
      separated item kind value n tokens ≠ .error .outOfFuel := by
  intro n
  induction n with
  | zero => intro tokens _ h; omega
  | succ n ih =>
    intro tokens hm hn h
    obtain hx | ⟨⟨x, behind⟩, hx, h⟩ := bind_eq_error.1 h
    · exact hitem tokens hm hx
    have hlength := hshorter _ _ _ hx
    cases hsep : take kind value behind with
    | none => simp only [hsep] at h; cases h
    | some next =>
      simp only [hsep] at h
      have hnext : next.length < tokens.length := by
        have := congrArg List.length (take_eq_some.1 hsep)
        simp only [List.length_cons] at this
        omega
      exact ih next (by omega) (by omega) (map_eq_error.1 h)

end Items

/-! ## Every expression is read -/

/-- What may stand behind an expression of a level. -/
def Level.EndsBefore : Level → List OpenIndexToken → Prop
  | .primary, _ => True
  | .and, rest => take .word (js "and") rest = none
  | .or, rest => take .word (js "and") rest = none ∧ take .word (js "or") rest = none

/-- The level of the terms of a group, and that of the group. -/
def Connective.operand : Connective → Level
  | .and => .primary
  | .or => .and

def Connective.level : Connective → Level
  | .and => .and
  | .or => .or

theorem Connective.endsBefore_token (kind : Connective) (rest : List OpenIndexToken) :
    kind.operand.EndsBefore (kind.token :: rest) := by
  cases kind
  · trivial
  · simp [operand, Level.EndsBefore, take, Connective.token, Connective.keyword]
    decide

/-- The terms of a group are read as predicates with the truth of the expression. -/
def ReadsTerms (kind : Connective) (item : List OpenIndexToken → Parsed OpenIndexPredicate)
    (ts : List OpenIndexToken) (e : SqlExpr) : Prop :=
  ∃ terms, MeansAll kind terms e ∧
    SeparatedBy (Reads item kind.operand.EndsBefore) kind.token ts terms

/-- An expression of a level is read as a predicate with its truth. -/
def ReadsAs (level : Level) (item : List OpenIndexToken → Parsed OpenIndexPredicate)
    (ts : List OpenIndexToken) (e : SqlExpr) : Prop :=
  ∃ p, Means p e ∧ Reads item level.EndsBefore ts p

theorem ReadsAs.one {kind : Connective} {item : List OpenIndexToken → Parsed OpenIndexPredicate}
    {ts : List OpenIndexToken} {e : SqlExpr} (h : ReadsAs kind.operand item ts e) :
    ReadsTerms kind item ts e := by
  obtain ⟨p, hp, hreads⟩ := h
  exact ⟨[p], .one hp, .one hreads⟩

theorem ReadsTerms.snoc {kind : Connective}
    {item : List OpenIndexToken → Parsed OpenIndexPredicate} {ts us : List OpenIndexToken}
    {a b : SqlExpr} (ha : ReadsTerms kind item ts a) (hb : ReadsAs kind.operand item us b) :
    ReadsTerms kind item (ts ++ kind.token :: us) (.join kind a b) := by
  obtain ⟨terms, hterms, hts⟩ := ha
  obtain ⟨p, hp, hus⟩ := hb
  exact ⟨terms ++ [p], hterms.append hp, hts.snoc hus⟩

theorem Connective.ends_of_level {kind : Connective} {rest : List OpenIndexToken}
    (h : kind.level.EndsBefore rest) :
    kind.operand.EndsBefore rest ∧ take .word kind.keyword rest = none := by
  cases kind with
  | and => exact ⟨trivial, h⟩
  | or => exact h

/-- A group is read when its terms are. -/
theorem ReadsTerms.joined {kind : Connective}
    {item : List OpenIndexToken → Parsed OpenIndexPredicate} {ts : List OpenIndexToken}
    {e : SqlExpr} (h : ReadsTerms kind item ts e) :
    ReadsAs kind.level (joined kind item) ts e := by
  obtain ⟨terms, hterms, hts⟩ := h
  refine ⟨groupOf kind terms, hterms.groupOf, fun rest hrest => ?_⟩
  obtain ⟨hends, hnone⟩ := Connective.ends_of_level hrest
  have hread := separated_complete kind.endsBefore_token hts ((ts ++ rest).length + 1) rest
    (by simp only [List.length_append]; omega) hends hnone
  rw [RoundWatch.joined]
  exact congrArg (Except.map _) hread

/-- The literals of a list are read, up to the parenthesis. -/
theorem literals_complete {ts : List OpenIndexToken} {ls : List SqlLiteral}
    (h : SeparatedBy IsLiteral (symbolToken ",") ts ls) :
    SeparatedBy (Reads literal fun _ => True) (symbolToken ",") ts (ls.map literalText) := by
  have hread : ∀ {us l}, IsLiteral us l → Reads literal (fun _ => True) us (literalText l) := by
    rintro us l ⟨t, rfl, ht⟩ rest -
    exact literal_eq_ok.2 ⟨t, l, ht, rfl, rfl⟩
  induction h with
  | one h => exact .one (hread h)
  | more h _ ih => exact .more (hread h) ih

theorem means_equal (column : JsString) (l : SqlLiteral) :
    Means (.test .equal column [literalText l]) (.equal column l) := by
  intro row
  rw [OpenIndexPredicate.eval, List.map_singleton, SqlRow.ofText_literalText,
    Kleene.any_singleton]
  rfl

/-- The order in which the values are kept does not matter. -/
theorem means_isIn (column : JsString) (ls : List SqlLiteral) :
    Means (.test .isIn column (sortTexts (ls.map literalText))) (.isIn column ls) := by
  intro row
  rw [OpenIndexPredicate.eval, SqlExpr.eval]
  refine Kleene.any_congr fun x => ?_
  simp [sortTexts, List.mem_insertionSort]

theorem OpenIndexToken.isName_kind {token : OpenIndexToken} (h : token.isName = true)
    (value : JsString) (rest : List OpenIndexToken) :
    take .symbol value (token :: rest) = none := by
  obtain ⟨kind, name⟩ := token
  cases kind <;> simp_all [isName, take]

theorem readsAs_equal {column t : OpenIndexToken} {l : SqlLiteral} (hname : column.isName = true)
    (h : t.literal? = some l) (or : List OpenIndexToken → Parsed OpenIndexPredicate) :
    ReadsAs .primary (primary or) [column, symbolToken "=", t] (.equal column.value l) := by
  refine ⟨_, means_equal column.value l, fun rest _ => ?_⟩
  have htake : take .symbol (js "=") (symbolToken "=" :: t :: rest) = some (t :: rest) :=
    take_cons (symbolToken "=") _
  have hliteral : literal (t :: rest) = .ok (literalText l, rest) :=
    literal_eq_ok.2 ⟨t, l, h, rfl, rfl⟩
  simp [primary, OpenIndexToken.isName_kind hname, hname, htake, hliteral, Except.map]

theorem readsAs_isIn {column : OpenIndexToken} {ts : List OpenIndexToken} {ls : List SqlLiteral}
    (hname : column.isName = true) (h : SeparatedBy IsLiteral (symbolToken ",") ts ls)
    (or : List OpenIndexToken → Parsed OpenIndexPredicate) :
    ReadsAs .primary (primary or)
      (column :: wordToken "in" :: symbolToken "(" :: (ts ++ [symbolToken ")"]))
      (.isIn column.value ls) := by
  refine ⟨_, means_isIn column.value ls, fun rest _ => ?_⟩
  have hequal : take .symbol (js "=")
      (wordToken "in" :: symbolToken "(" :: (ts ++ symbolToken ")" :: rest)) = none := by
    simp [take, wordToken]
  have hin : requireToken .word (js "in")
      (wordToken "in" :: symbolToken "(" :: (ts ++ symbolToken ")" :: rest)) =
        .ok (symbolToken "(" :: (ts ++ symbolToken ")" :: rest)) :=
    requireToken_eq_ok.2 rfl
  have hopen : requireToken .symbol (js "(") (symbolToken "(" :: (ts ++ symbolToken ")" :: rest)) =
      .ok (ts ++ symbolToken ")" :: rest) :=
    requireToken_eq_ok.2 rfl
  have hclose : requireToken .symbol (js ")") (symbolToken ")" :: rest) = .ok rest :=
    requireToken_eq_ok.2 rfl
  have hend : take .symbol (js ",") (symbolToken ")" :: rest) = none := by
    simp [take, symbolToken]
    decide
  have hvalues : separated literal .symbol (js ",") ((ts ++ symbolToken ")" :: rest).length + 1)
      (ts ++ symbolToken ")" :: rest) = .ok (ls.map literalText, symbolToken ")" :: rest) :=
    separated_complete (fun _ => trivial) (literals_complete h) _ _
      (by simp only [List.length_append]; omega) trivial hend
  rw [List.cons_append, List.cons_append, List.cons_append, List.append_assoc,
    List.singleton_append, primary, OpenIndexToken.isName_kind hname]
  simp only [hname, hequal, hin, hopen, Except.bind, hvalues, hclose, Except.map,
    Bool.true_eq_false, if_false]

/-- A parenthesis is one more that is open. -/
theorem ReadsAs.parenthesis {or : List OpenIndexToken → Parsed OpenIndexPredicate}
    {ts : List OpenIndexToken} {e : SqlExpr} (h : ReadsAs .or or ts e) :
    ReadsAs .primary (primary or) (symbolToken "(" :: (ts ++ [symbolToken ")"])) e := by
  obtain ⟨p, hp, hreads⟩ := h
  refine ⟨p, hp, fun rest _ => ?_⟩
  have hopen : take .symbol (js "(") (symbolToken "(" :: (ts ++ symbolToken ")" :: rest)) =
      some (ts ++ symbolToken ")" :: rest) :=
    take_cons (symbolToken "(") _
  have hinside : or (ts ++ symbolToken ")" :: rest) = .ok (p, symbolToken ")" :: rest) :=
    hreads _ ⟨by simp [take, symbolToken], by simp [take, symbolToken]⟩
  have hclose : requireToken .symbol (js ")") (symbolToken ")" :: rest) = .ok rest :=
    requireToken_eq_ok.2 rfl
  rw [List.cons_append, List.append_assoc, List.singleton_append, primary, hopen]
  simp [hinside, Except.bind, hclose, Except.map]

/-- How an expression of a level is read with `n` parentheses to open: an operator's terms
are read one by one. -/
def ReadAtLevel (n : ℕ) : Level → List OpenIndexToken → SqlExpr → Prop
  | .primary => ReadsAs .primary (primary (orExpression n))
  | .and => ReadsTerms .and (primary (orExpression n))
  | .or => ReadsTerms .or (joined .and (primary (orExpression n)))

theorem Derives.readAtLevel {level : Level} {ts : List OpenIndexToken} {e : SqlExpr}
    (h : Derives level ts e) : ∀ n, ts.length ≤ n → ReadAtLevel n level ts e := by
  induction h with
  | equal hname h => exact fun n _ => readsAs_equal hname h _
  | isIn hname h => exact fun n _ => readsAs_isIn hname h _
  | @parenthesis ts e h ih =>
    intro n hn
    simp only [List.length_cons, List.length_append] at hn
    obtain ⟨n, rfl⟩ : ∃ m, n = m + 1 := ⟨n - 1, by omega⟩
    exact ReadsAs.parenthesis (ReadsTerms.joined (ih n (by omega)))
  | ofPrimary h ih => exact fun n hn => @ReadsAs.one .and _ _ _ (ih n hn)
  | and ha hb iha ihb =>
    intro n hn
    simp only [List.length_append, List.length_cons] at hn
    exact ReadsTerms.snoc (iha n (by omega)) (ihb n (by omega))
  | ofAnd h ih => exact fun n hn => @ReadsAs.one .or _ _ _ (ReadsTerms.joined (ih n hn))
  | or ha hb iha ihb =>
    intro n hn
    simp only [List.length_append, List.length_cons] at hn
    exact ReadsTerms.snoc (iha n (by omega)) (ReadsTerms.joined (ihb n (by omega)))

/-- The parser reads every expression, up to the token that ends it. -/
theorem orExpression_complete {ts : List OpenIndexToken} {e : SqlExpr} (h : Derives .or ts e)
    {n : ℕ} (hn : ts.length < n) : ReadsAs .or (orExpression n) ts e := by
  obtain ⟨n, rfl⟩ : ∃ m, n = m + 1 := ⟨n - 1, by omega⟩
  exact ReadsTerms.joined (h.readAtLevel n (by omega))

/-! ## Nothing else is read -/

/-- What `item` reads is an expression of the level, with the truth of what it builds. -/
def ReadsOnly (level : Level) (item : List OpenIndexToken → Parsed OpenIndexPredicate) : Prop :=
  ∀ tokens p rest, item tokens = .ok (p, rest) →
    ∃ ts, tokens = ts ++ rest ∧ ∃ e, Derives level ts e ∧ Means p e

theorem Derives.ofOperand {kind : Connective} {ts : List OpenIndexToken} {e : SqlExpr}
    (h : Derives kind.operand ts e) : Derives kind.level ts e := by
  cases kind with
  | and => exact .ofPrimary h
  | or => exact .ofAnd h

theorem Derives.join {kind : Connective} {ts us : List OpenIndexToken} {a b : SqlExpr}
    (ha : Derives kind.level ts a) (hb : Derives kind.operand us b) :
    Derives kind.level (ts ++ kind.token :: us) (.join kind a b) := by
  cases kind with
  | and => exact .and ha hb
  | or => exact .or ha hb

/-- Terms behind an expression continue it, to the left. -/
theorem SeparatedBy.derives_behind {kind : Connective} {us : List OpenIndexToken}
    {terms : List OpenIndexPredicate}
    (h : SeparatedBy (fun ts p => ∃ e, Derives kind.operand ts e ∧ Means p e) kind.token us terms) :
    ∀ {ts : List OpenIndexToken} {before : List OpenIndexPredicate} {a : SqlExpr},
      Derives kind.level ts a → MeansAll kind before a →
      ∃ e, Derives kind.level (ts ++ kind.token :: us) e ∧ MeansAll kind (before ++ terms) e := by
  induction h with
  | one h =>
    intro ts before a hts hbefore
    obtain ⟨b, hb, hp⟩ := h
    exact ⟨_, hts.join hb, hbefore.append hp⟩
  | more h _ ih =>
    intro ts before a hts hbefore
    obtain ⟨b, hb, hp⟩ := h
    simpa using ih (hts.join hb) (hbefore.append hp)

theorem SeparatedBy.derives {kind : Connective} {ts : List OpenIndexToken}
    {terms : List OpenIndexPredicate}
    (h : SeparatedBy (fun ts p => ∃ e, Derives kind.operand ts e ∧ Means p e) kind.token ts terms) :
    ∃ e, Derives kind.level ts e ∧ MeansAll kind terms e := by
  cases h with
  | one h =>
    obtain ⟨e, he, hp⟩ := h
    exact ⟨e, he.ofOperand, .one hp⟩
  | more h hus =>
    obtain ⟨e, he, hp⟩ := h
    exact hus.derives_behind he.ofOperand (.one hp)

theorem ReadsOnly.joined {kind : Connective}
    {item : List OpenIndexToken → Parsed OpenIndexPredicate} (h : ReadsOnly kind.operand item) :
    ReadsOnly kind.level (joined kind item) := by
  intro tokens p rest hp
  obtain ⟨⟨terms, rest'⟩, hread, hp⟩ := map_eq_ok.1 hp
  cases hp
  obtain ⟨ts, htokens, hts⟩ := separated_sound h _ _ _ _ hread
  obtain ⟨e, he, hterms⟩ : ∃ e, Derives kind.level ts e ∧ MeansAll kind terms e :=
    SeparatedBy.derives hts
  exact ⟨ts, htokens, e, he, hterms.groupOf⟩

theorem ReadsOnly.joined_and {item : List OpenIndexToken → Parsed OpenIndexPredicate}
    (h : ReadsOnly .primary item) : ReadsOnly .and (RoundWatch.joined .and item) :=
  @ReadsOnly.joined .and item h

theorem ReadsOnly.joined_or {item : List OpenIndexToken → Parsed OpenIndexPredicate}
    (h : ReadsOnly .and item) : ReadsOnly .or (RoundWatch.joined .or item) :=
  @ReadsOnly.joined .or item h

/-- The texts of a list of literals are those of its literals. -/
theorem literals_sound {ts : List OpenIndexToken} {texts : List JsString}
    (h : SeparatedBy (fun ts text => ∃ l, IsLiteral ts l ∧ text = literalText l)
      (symbolToken ",") ts texts) :
    ∃ ls, SeparatedBy IsLiteral (symbolToken ",") ts ls ∧ texts = ls.map literalText := by
  induction h with
  | one h =>
    obtain ⟨l, hl, rfl⟩ := h
    exact ⟨[l], .one hl, rfl⟩
  | more h _ ih =>
    obtain ⟨l, hl, rfl⟩ := h
    obtain ⟨ls, hls, rfl⟩ := ih
    exact ⟨l :: ls, .more hl hls, rfl⟩

theorem literal_sound {tokens rest : List OpenIndexToken} {text : JsString}
    (h : literal tokens = .ok (text, rest)) :
    ∃ ts, tokens = ts ++ rest ∧ ∃ l, IsLiteral ts l ∧ text = literalText l := by
  obtain ⟨t, l, ht, rfl, rfl⟩ := literal_eq_ok.1 h
  exact ⟨[t], rfl, l, ⟨t, rfl, ht⟩, rfl⟩

/-- What `primary` does behind a column that is not followed by `=`. -/
theorem isIn_sound {column : OpenIndexToken} {tokens rest : List OpenIndexToken}
    {p : OpenIndexPredicate} (hname : column.isName = true)
    (h : ((requireToken .word (js "in") tokens).bind fun rest =>
      (requireToken .symbol (js "(") rest).bind fun rest =>
      (separated literal .symbol (js ",") (rest.length + 1) rest).bind fun values =>
      (requireToken .symbol (js ")") values.2).map fun rest =>
        (OpenIndexPredicate.test .isIn column.value (sortTexts values.1), rest)) = .ok (p, rest)) :
    ∃ ts, column :: tokens = ts ++ rest ∧ ∃ e, Derives .primary ts e ∧ Means p e := by
  obtain ⟨behindIn, hin, h⟩ := bind_eq_ok.1 h
  obtain ⟨inside, hopen, h⟩ := bind_eq_ok.1 h
  obtain ⟨⟨texts, behind⟩, hvalues, h⟩ := bind_eq_ok.1 h
  obtain ⟨rest', hclose, h⟩ := map_eq_ok.1 h
  cases h
  rw [requireToken_eq_ok] at hin hopen hclose
  obtain ⟨ts, hts, hsep⟩ := separated_sound (fun _ _ _ => literal_sound) _ _ _ _ hvalues
  obtain ⟨ls, hls, rfl⟩ := literals_sound hsep
  refine ⟨_, ?_, _, .isIn hname hls, means_isIn column.value ls⟩
  rw [hin, hopen, hts, show behind = _ from hclose]
  simp [wordToken, symbolToken]

theorem ReadsOnly.primary {or : List OpenIndexToken → Parsed OpenIndexPredicate}
    (h : ReadsOnly .or or) : ReadsOnly .primary (primary or) := by
  intro tokens p rest hp
  unfold RoundWatch.primary at hp
  cases hopen : take .symbol (js "(") tokens with
  | some inside =>
    simp only [hopen] at hp
    obtain ⟨⟨p', behind⟩, hor, hp⟩ := bind_eq_ok.1 hp
    obtain ⟨rest', hclose, hp⟩ := map_eq_ok.1 hp
    cases hp
    obtain ⟨ts, rfl, e, he, hmeans⟩ := h _ _ _ hor
    rw [take_eq_some] at hopen
    rw [requireToken_eq_ok] at hclose
    refine ⟨_, ?_, e, .parenthesis he, hmeans⟩
    rw [hopen, show behind = _ from hclose]
    simp [symbolToken]
  | none =>
    cases tokens with
    | nil => simp only [hopen] at hp; cases hp
    | cons column behind =>
    simp only [hopen] at hp
    split at hp
    · cases hp
    next hname =>
    rw [Bool.not_eq_false] at hname
    cases hequal : take .symbol (js "=") behind with
    | none => exact isIn_sound hname (by simpa only [hequal] using hp)
    | some next =>
      simp only [hequal] at hp
      obtain ⟨⟨text, rest'⟩, hliteral, hp⟩ := map_eq_ok.1 hp
      cases hp
      obtain ⟨t, l, ht, rfl, rfl⟩ := literal_eq_ok.1 hliteral
      rw [take_eq_some] at hequal
      exact ⟨[column, symbolToken "=", t], by rw [hequal]; rfl, _, .equal hname ht,
        means_equal column.value l⟩

/-- The parser reads nothing but expressions. -/
theorem orExpression_sound (n : ℕ) : ReadsOnly .or (orExpression n) := by
  induction n with
  | zero => intro tokens p rest h; cases h
  | succ n ih =>
    have hand : ReadsOnly .and (joined .and (primary (orExpression n))) := ih.primary.joined_and
    exact hand.joined_or

/-! ## The descent ends -/

theorem ReadsOnly.length_le {level : Level}
    {item : List OpenIndexToken → Parsed OpenIndexPredicate} (h : ReadsOnly level item)
    (tokens : List OpenIndexToken) (p : OpenIndexPredicate) (rest : List OpenIndexToken)
    (hp : item tokens = .ok (p, rest)) : rest.length ≤ tokens.length := by
  obtain ⟨ts, rfl, -⟩ := h tokens p rest hp
  simp

theorem requireToken_ne_outOfFuel (kind : OpenIndexTokenKind) (value : JsString)
    (tokens : List OpenIndexToken) : requireToken kind value tokens ≠ .error .outOfFuel := by
  unfold requireToken
  cases take kind value tokens <;> simp

theorem literal_ne_outOfFuel (tokens : List OpenIndexToken) :
    literal tokens ≠ .error .outOfFuel := by
  cases tokens with
  | nil => simp [literal]
  | cons token rest =>
    rw [literal]
    cases token.literal? <;> simp

theorem literals_ne_outOfFuel (tokens : List OpenIndexToken) :
    separated literal .symbol (js ",") (tokens.length + 1) tokens ≠ .error .outOfFuel := by
  refine separated_ne_outOfFuel (m := tokens.length) ?_ (fun us _ => literal_ne_outOfFuel us) _ _
    le_rfl (by omega)
  intro us text rest h
  obtain ⟨ts, rfl, -⟩ := literal_sound h
  simp

/-- A parenthesis leaves fewer tokens to what reads behind it. -/
theorem primary_ne_outOfFuel {or : List OpenIndexToken → Parsed OpenIndexPredicate} {n : ℕ}
    (hor : ∀ tokens : List OpenIndexToken, tokens.length < n → or tokens ≠ .error .outOfFuel)
    (tokens : List OpenIndexToken) (hn : tokens.length ≤ n) :
    primary or tokens ≠ .error .outOfFuel := by
  intro h
  unfold primary at h
  cases hopen : take .symbol (js "(") tokens with
  | some inside =>
    simp only [hopen] at h
    have hinside := congrArg List.length (take_eq_some.1 hopen)
    simp only [List.length_cons] at hinside
    obtain h | ⟨q, -, h⟩ := bind_eq_error.1 h
    · exact hor inside (by omega) h
    · exact requireToken_ne_outOfFuel _ _ _ (map_eq_error.1 h)
  | none =>
    cases tokens with
    | nil => simp only [hopen] at h; cases h
    | cons column behind =>
    simp only [hopen] at h
    split at h
    · cases h
    cases hequal : take .symbol (js "=") behind with
    | some next =>
      simp only [hequal] at h
      exact literal_ne_outOfFuel _ (map_eq_error.1 h)
    | none =>
      simp only [hequal] at h
      obtain h | ⟨behindIn, -, h⟩ := bind_eq_error.1 h
      · exact requireToken_ne_outOfFuel _ _ _ h
      obtain h | ⟨inside, -, h⟩ := bind_eq_error.1 h
      · exact requireToken_ne_outOfFuel _ _ _ h
      obtain h | ⟨values, -, h⟩ := bind_eq_error.1 h
      · exact literals_ne_outOfFuel inside h
      exact requireToken_ne_outOfFuel _ _ _ (map_eq_error.1 h)

theorem joined_ne_outOfFuel {kind : Connective} {level : Level}
    {item : List OpenIndexToken → Parsed OpenIndexPredicate} (h : ReadsOnly level item) {n : ℕ}
    (hitem : ∀ tokens : List OpenIndexToken, tokens.length ≤ n → item tokens ≠ .error .outOfFuel)
    (tokens : List OpenIndexToken) (hn : tokens.length ≤ n) :
    joined kind item tokens ≠ .error .outOfFuel := by
  intro hfuel
  exact separated_ne_outOfFuel h.length_le hitem _ tokens hn (by omega) (map_eq_error.1 hfuel)

/-- So many parentheses as there are tokens suffice. -/
theorem orExpression_ne_outOfFuel (n : ℕ) :
    ∀ tokens : List OpenIndexToken, tokens.length < n →
      orExpression n tokens ≠ .error .outOfFuel := by
  induction n with
  | zero => intro tokens h; omega
  | succ n ih =>
    intro tokens hn
    have hprimary := primary_ne_outOfFuel ih
    have hreads := (orExpression_sound n).primary
    exact joined_ne_outOfFuel hreads.joined_and (joined_ne_outOfFuel hreads hprimary) tokens
      (by omega)

theorem normalizeOpenIndexPredicate_ne_outOfFuel (tokens : List OpenIndexToken) :
    normalizeOpenIndexPredicate tokens ≠ .error .outOfFuel := by
  intro h
  obtain h | ⟨q, -, h⟩ := bind_eq_error.1 h
  · exact orExpression_ne_outOfFuel _ tokens (by omega) h
  · split at h <;> cases h

end RoundWatch
