import RoundWatch.Foundation.Kleene
import RoundWatch.OpenIndex.Parser

/-!
# What a predicate says

The predicates of SQL that the check supports, with their grammar and their three-valued
truth.

* `SqlExpr`, `SqlExpr.eval` — expressions and their truth on a row;
* `Derives` — the grammar: `AND` binds tighter than `OR`, both to the left;
* `Means` — a parsed predicate has the truth of an expression, on every row.
-/

namespace RoundWatch

open JsText JsonText

/-! ## Expressions -/

/-- What is known of a row: the truth of `column = literal`.  A name stands for the column,
or for the constant that an unquoted word is; no column of the table is called like one. -/
abbrev SqlRow := JsString → SqlLiteral → Truth

inductive SqlExpr where
  | equal (column : JsString) (l : SqlLiteral)
  | isIn (column : JsString) (ls : List SqlLiteral)
  | join (kind : Connective) (a b : SqlExpr)

/-- The truth of a whole conjunction or disjunction. -/
def Connective.fold : Connective → List Truth → Truth
  | .and => Kleene.all
  | .or => Kleene.any

def SqlExpr.eval (row : SqlRow) : SqlExpr → Truth
  | .equal column l => row column l
  | .isIn column ls => Kleene.any (ls.map (row column))
  | .join kind a b => kind.fold [a.eval row, b.eval row]

/-! ## The grammar -/

inductive Level where
  | primary
  | and
  | or

def symbolToken (s : String) : OpenIndexToken := ⟨.symbol, js s⟩

def wordToken (s : String) : OpenIndexToken := ⟨.word, js s⟩

def Connective.token (kind : Connective) : OpenIndexToken := ⟨.word, kind.keyword⟩

/-- Items with a separator between them. -/
inductive SeparatedBy {α : Type} (item : List OpenIndexToken → α → Prop) (sep : OpenIndexToken) :
    List OpenIndexToken → List α → Prop
  | one {ts : List OpenIndexToken} {x : α} (h : item ts x) : SeparatedBy item sep ts [x]
  | more {ts us : List OpenIndexToken} {x : α} {xs : List α} (h : item ts x)
      (hus : SeparatedBy item sep us xs) : SeparatedBy item sep (ts ++ sep :: us) (x :: xs)

/-- The token of a literal. -/
def IsLiteral (ts : List OpenIndexToken) (l : SqlLiteral) : Prop :=
  ∃ t, ts = [t] ∧ OpenIndexToken.literal? t = some l

/-- The tokens are an expression of a level. -/
inductive Derives : Level → List OpenIndexToken → SqlExpr → Prop
  | equal {column t : OpenIndexToken} {l : SqlLiteral} (hname : column.isName = true)
      (h : t.literal? = some l) :
      Derives .primary [column, symbolToken "=", t] (.equal column.value l)
  | isIn {column : OpenIndexToken} {ts : List OpenIndexToken} {ls : List SqlLiteral}
      (hname : column.isName = true) (h : SeparatedBy IsLiteral (symbolToken ",") ts ls) :
      Derives .primary (column :: wordToken "in" :: symbolToken "(" :: (ts ++ [symbolToken ")"]))
        (.isIn column.value ls)
  | parenthesis {ts : List OpenIndexToken} {e : SqlExpr} (h : Derives .or ts e) :
      Derives .primary (symbolToken "(" :: (ts ++ [symbolToken ")"])) e
  | ofPrimary {ts : List OpenIndexToken} {e : SqlExpr} (h : Derives .primary ts e) :
      Derives .and ts e
  | and {ts us : List OpenIndexToken} {a b : SqlExpr} (ha : Derives .and ts a)
      (hb : Derives .primary us b) :
      Derives .and (ts ++ Connective.and.token :: us) (.join .and a b)
  | ofAnd {ts : List OpenIndexToken} {e : SqlExpr} (h : Derives .and ts e) : Derives .or ts e
  | or {ts us : List OpenIndexToken} {a b : SqlExpr} (ha : Derives .or ts a)
      (hb : Derives .and us b) :
      Derives .or (ts ++ Connective.or.token :: us) (.join .or a b)

/-- The tokens of a predicate: an expression, and perhaps one semicolon. -/
def DerivesPredicate (tokens : List OpenIndexToken) (e : SqlExpr) : Prop :=
  Derives .or tokens e ∨ ∃ ts, tokens = ts ++ [symbolToken ";"] ∧ Derives .or ts e

/-! ## What the parser builds -/

/-- The literal of a text. -/
def literalOfText (text : JsString) : Option SqlLiteral :=
  match parse noNumbers text with
  | some (.arr [.str kind, .str value]) =>
      if kind = LiteralKind.string.name then some ⟨.string, value⟩ else some ⟨.integer, value⟩
  | _ => none

theorem literalOfText_literalText (l : SqlLiteral) : literalOfText (literalText l) = some l := by
  obtain ⟨kind, value⟩ := l
  rw [literalOfText, literalText, parse_stringify]
  cases kind <;> rfl

/-- What is known of a row, by the texts of the literals. -/
def SqlRow.ofText (row : SqlRow) (column text : JsString) : Truth :=
  match literalOfText text with
  | some l => row column l
  | none => .unknown

@[simp] theorem SqlRow.ofText_literalText (row : SqlRow) (column : JsString) (l : SqlLiteral) :
    row.ofText column (literalText l) = row column l := by
  rw [ofText, literalOfText_literalText]

mutual

/-- The truth of a parsed predicate. -/
def OpenIndexPredicate.eval (row : SqlRow) : OpenIndexPredicate → Truth
  | .group kind terms => kind.fold (evalAll row terms)
  | .test _ column values => Kleene.any (values.map (row.ofText column))

def OpenIndexPredicate.evalAll (row : SqlRow) : List OpenIndexPredicate → List Truth
  | [] => []
  | term :: rest => eval row term :: evalAll row rest

end

theorem OpenIndexPredicate.evalAll_eq (row : SqlRow) (terms : List OpenIndexPredicate) :
    evalAll row terms = terms.map (eval row) := by
  induction terms with
  | nil => rfl
  | cons term rest ih => rw [evalAll, ih, List.map_cons]

/-- A predicate has the truth of an expression on every row. -/
def Means (p : OpenIndexPredicate) (e : SqlExpr) : Prop := ∀ row, p.eval row = e.eval row

/-- So have the terms of a group. -/
def MeansAll (kind : Connective) (terms : List OpenIndexPredicate) (e : SqlExpr) : Prop :=
  terms ≠ [] ∧ ∀ row, kind.fold (terms.map (OpenIndexPredicate.eval row)) = e.eval row

theorem Connective.fold_singleton (kind : Connective) (t : Truth) : kind.fold [t] = t := by
  cases kind
  · exact Kleene.all_singleton t
  · exact Kleene.any_singleton t

theorem Connective.fold_append (kind : Connective) (l l' : List Truth) :
    kind.fold (l ++ l') = kind.fold [kind.fold l, kind.fold l'] := by
  cases kind
  · simp [Connective.fold, Kleene.all_append]
  · simp [Connective.fold, Kleene.any_append]

theorem Connective.fold_cons (kind : Connective) (t : Truth) (l : List Truth) :
    kind.fold (t :: l) = kind.fold [t, kind.fold l] := by
  cases kind
  · simp [Connective.fold]
  · simp [Connective.fold]

theorem MeansAll.one {kind : Connective} {p : OpenIndexPredicate} {e : SqlExpr} (h : Means p e) :
    MeansAll kind [p] e :=
  ⟨by simp, fun row => by rw [List.map_singleton, Connective.fold_singleton, h row]⟩

theorem MeansAll.append {kind : Connective} {terms : List OpenIndexPredicate} {a b : SqlExpr}
    {p : OpenIndexPredicate} (h : MeansAll kind terms a) (hp : Means p b) :
    MeansAll kind (terms ++ [p]) (.join kind a b) := by
  refine ⟨by simp, fun row => ?_⟩
  rw [List.map_append, Connective.fold_append, h.2 row, List.map_singleton,
    Connective.fold_singleton, hp row]
  rfl

/-- One term needs no group. -/
theorem MeansAll.groupOf {kind : Connective} {terms : List OpenIndexPredicate} {e : SqlExpr}
    (h : MeansAll kind terms e) : Means (groupOf kind terms) e := by
  intro row
  unfold RoundWatch.groupOf
  split
  · rw [← h.2 row, List.map_singleton, Connective.fold_singleton]
  · rw [OpenIndexPredicate.eval, OpenIndexPredicate.evalAll_eq, h.2 row]

end RoundWatch
