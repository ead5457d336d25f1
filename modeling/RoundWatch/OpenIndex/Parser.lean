import RoundWatch.Foundation.JsonText
import RoundWatch.OpenIndex.Lexer
import Mathlib.Data.List.Sort

/-!
# The parser of the open-index check

The predicate of a partial index is read by recursive descent, and compared by a normal
form: groups of one kind are flattened, and the texts of their terms are sorted.

* `orExpression` — the parser, by the parentheses that it may open;
* `normalize` and `normalizeOpenIndexPredicate` — the normal form;
* `openIndexAccepts`, `hasOpenObligationPartialIndex` — the verdict on a database.
-/

namespace RoundWatch

open JsText JsonText

/-! ## Predicates -/

inductive Connective where
  | and
  | or
  deriving DecidableEq, Repr

def Connective.keyword : Connective → JsString
  | .and => js "and"
  | .or => js "or"

inductive Comparison where
  | equal
  | isIn
  deriving DecidableEq, Repr

def Comparison.kind : Comparison → JsString
  | .equal => js "="
  | .isIn => js "in"

/-- `OpenIndexPredicate`; the values are the texts of literals. -/
inductive OpenIndexPredicate where
  | group (kind : Connective) (terms : List OpenIndexPredicate)
  | test (kind : Comparison) (column : JsString) (values : List JsString)

inductive LiteralKind where
  | string
  | integer
  deriving DecidableEq, Repr

def LiteralKind.name : LiteralKind → JsString
  | .string => js "string"
  | .integer => js "integer"

structure SqlLiteral where
  kind : LiteralKind
  value : JsString
  deriving DecidableEq, Repr

/-- `JSON.stringify([token.kind, token.value])`. -/
def literalText (l : SqlLiteral) : JsString :=
  stringify noNumbers (.arr [.str l.kind.name, .str l.value])

/-- `Array.prototype.sort` of strings. -/
def sortTexts (texts : List JsString) : List JsString := texts.insertionSort (· ≤ ·)

/-! ## The parser -/

abbrev Parsed (α : Type) := Except OpenIndexError (α × List OpenIndexToken)

/-- `take`: the tokens behind an expected one. -/
def take (kind : OpenIndexTokenKind) (value : JsString) :
    List OpenIndexToken → Option (List OpenIndexToken)
  | [] => none
  | token :: rest => if token.kind = kind ∧ token.value = value then some rest else none

def requireToken (kind : OpenIndexTokenKind) (value : JsString) (tokens : List OpenIndexToken) :
    Except OpenIndexError (List OpenIndexToken) :=
  match take kind value tokens with
  | some rest => .ok rest
  | none => .error .unsupportedPredicate

/-- The literal that a token is. -/
def OpenIndexToken.literal? (token : OpenIndexToken) : Option SqlLiteral :=
  match token.kind with
  | .string => some ⟨.string, token.value⟩
  | .integer => some ⟨.integer, token.value⟩
  | _ => none

/-- A token that can name a column. -/
def OpenIndexToken.isName (token : OpenIndexToken) : Bool :=
  token.kind == .word || token.kind == .identifier

def literal : List OpenIndexToken → Parsed JsString
  | [] => .error .unsupportedLiteral
  | token :: rest =>
      match token.literal? with
      | some l => .ok (literalText l, rest)
      | none => .error .unsupportedLiteral

/-- `[item()]`, and one more as long as there is a separator. -/
def separated {α : Type} (item : List OpenIndexToken → Parsed α) (kind : OpenIndexTokenKind)
    (value : JsString) : ℕ → List OpenIndexToken → Parsed (List α)
  | 0, _ => .error .outOfFuel
  | n + 1, tokens =>
      (item tokens).bind fun p =>
      match take kind value p.2 with
      | none => .ok ([p.1], p.2)
      | some rest => (separated item kind value n rest).map fun q => (p.1 :: q.1, q.2)

/-- `primary`, where a parenthesis is read by `or`. -/
def primary (or : List OpenIndexToken → Parsed OpenIndexPredicate)
    (tokens : List OpenIndexToken) : Parsed OpenIndexPredicate :=
  match take .symbol (js "(") tokens with
  | some rest =>
      (or rest).bind fun p =>
      (requireToken .symbol (js ")") p.2).map fun rest => (p.1, rest)
  | none =>
      match tokens with
      | [] => .error .unsupportedColumn
      | column :: rest =>
          if column.isName = false then .error .unsupportedColumn
          else
            match take .symbol (js "=") rest with
            | some rest => (literal rest).map fun p => (.test .equal column.value [p.1], p.2)
            | none =>
                (requireToken .word (js "in") rest).bind fun rest =>
                (requireToken .symbol (js "(") rest).bind fun rest =>
                (separated literal .symbol (js ",") (rest.length + 1) rest).bind fun values =>
                (requireToken .symbol (js ")") values.2).map fun rest =>
                  (.test .isIn column.value (sortTexts values.1), rest)

/-- `terms.length === 1 ? terms[0] : { kind, terms }`. -/
def groupOf (kind : Connective) : List OpenIndexPredicate → OpenIndexPredicate
  | [term] => term
  | terms => .group kind terms

/-- `and` and `or`, over what reads their terms. -/
def joined (kind : Connective) (item : List OpenIndexToken → Parsed OpenIndexPredicate)
    (tokens : List OpenIndexToken) : Parsed OpenIndexPredicate :=
  (separated item .word kind.keyword (tokens.length + 1) tokens).map fun p =>
    (groupOf kind p.1, p.2)

/-- `or`, with so many parentheses to open. -/
def orExpression : ℕ → List OpenIndexToken → Parsed OpenIndexPredicate
  | 0, _ => .error .outOfFuel
  | n + 1, tokens => joined .or (joined .and (primary (orExpression n))) tokens

/-! ## The normal form -/

def testText (kind : Comparison) (column : JsString) (values : List JsString) : JsString :=
  stringify noNumbers (.arr [.str kind.kind, .str column, .arr (values.map .str)])

def groupText (kind : Connective) (texts : List JsString) : JsString :=
  stringify noNumbers (.arr [.str kind.keyword, .arr ((sortTexts texts).map .str)])

mutual

/-- `normalize`. -/
def normalize : OpenIndexPredicate → JsString
  | .test kind column values => testText kind column values
  | .group kind terms => groupText kind (normalizeTerms kind terms)

/-- `predicate.terms.flatMap(terms).map(normalize)`. -/
def normalizeTerms (kind : Connective) : List OpenIndexPredicate → List JsString
  | [] => []
  | term :: rest => normalizeTerm kind term ++ normalizeTerms kind rest

/-- `terms(term).map(normalize)`: a group of the same kind is replaced by its terms. -/
def normalizeTerm (kind : Connective) : OpenIndexPredicate → List JsString
  | .test kind' column values => [testText kind' column values]
  | .group kind' terms =>
      if kind' = kind then normalizeTerms kind' terms
      else [groupText kind' (normalizeTerms kind' terms)]

end

/-- `normalizeOpenIndexPredicate`. -/
def normalizeOpenIndexPredicate (tokens : List OpenIndexToken) : Except OpenIndexError JsString :=
  (orExpression (tokens.length + 1) tokens).bind fun p =>
  if (take .symbol (js ";") p.2).getD p.2 = [] then .ok (normalize p.1)
  else .error .unsupportedSuffix

/-! ## The verdict -/

/-- `OPEN_OBLIGATION_PREDICATE`. -/
def openObligationPredicate : JsString :=
  js "\n   state IN ('settlement_pending', 'active')\n" ++
    js "   OR (state = 'settlement_unknown' AND settlement_reconciliation_terminal = 0)\n"

/-- Whether a token is a `WHERE` outside parentheses, and the depth behind it. -/
def whereStep (depth : ℤ) (token : OpenIndexToken) : ℤ × Bool :=
  let depth := if token = ⟨.symbol, js "("⟩ then depth + 1 else depth
  let depth := if token = ⟨.symbol, js ")"⟩ then depth - 1 else depth
  (depth, depth == 0 && token == ⟨.word, js "where"⟩)

/-- The tokens behind the first `WHERE` outside parentheses. -/
def afterWhere (depth : ℤ) : List OpenIndexToken → Option (List OpenIndexToken)
  | [] => none
  | token :: rest =>
      if (whereStep depth token).2 then some rest else afterWhere (whereStep depth token).1 rest

/-- The `try` block of `hasOpenObligationPartialIndex`, on the DDL of the index. -/
def openIndexAccepts (sql : JsString) : Bool :=
  match tokenizeOpenIndexSql sql with
  | .error _ => false
  | .ok tokens =>
      match afterWhere 0 tokens with
      | none => false
      | some predicate =>
          match normalizeOpenIndexPredicate predicate,
              (tokenizeOpenIndexSql openObligationPredicate).bind normalizeOpenIndexPredicate with
          | .ok text, .ok expected => text == expected
          | _, _ => false

/-- A row of `PRAGMA index_list`. -/
structure IndexListRow where
  name : JsString
  isPartial : ℤ

/-- A row of `sqlite_schema`. -/
structure SchemaRow where
  type : JsString
  name : JsString
  tblName : JsString
  sql : Option JsString

/-- What a database says about its indexes. -/
structure Catalog where
  indexList : List IndexListRow
  schema : List SchemaRow

/-- `hasOpenObligationPartialIndex`. -/
def hasOpenObligationPartialIndex (database : Catalog) : Bool :=
  match database.indexList.find? fun row =>
      sqliteIdentifier row.name == js "roundwatch_open_obligations_idx" with
  | none => false
  | some index =>
      if index.isPartial ≠ 1 then false
      else
        match (database.schema.find? fun row => row.type == js "index" && row.name == index.name &&
            sqliteIdentifier row.tblName == js "roundwatch_watches").bind SchemaRow.sql with
        | none => false
        | some sql => if sql = [] then false else openIndexAccepts sql

end RoundWatch
