import RoundWatch.Foundation.Scanner
import RoundWatch.Foundation.Text
import Mathlib.Data.List.TakeWhile

/-!
# The lexer of the open-index check

Startup trusts an index only after reading its DDL.  The lexer cuts the text into lexemes;
comments and spaces leave no token, and a quoted text leaves exactly one.

* `nextLexeme` — one turn of the loop of `tokenizeOpenIndexSql`;
* `openIndexScanner` — the loop as a scanner: it ends on every text and loses nothing;
* `tokenizeOpenIndexSql` — the tokens;
* `tokenize_respelled` — comments may become spaces, and words may change their case.
-/

namespace RoundWatch

open JsText

inductive OpenIndexTokenKind where
  | word
  | identifier
  | string
  | integer
  | symbol
  deriving DecidableEq, Repr

structure OpenIndexToken where
  kind : OpenIndexTokenKind
  value : JsString
  deriving DecidableEq, Repr

/-- Why a DDL text is not understood. -/
inductive OpenIndexError where
  | unterminatedQuote
  | unsupportedPredicate
  | unsupportedLiteral
  | unsupportedColumn
  | unsupportedSuffix
  /-- The model ran out of steps, which never happens. -/
  | outOfFuel
  deriving DecidableEq, Repr

/-! ## Code units -/

def foldUnit (u : UInt16) : UInt16 := if 65 ≤ u && u ≤ 90 then u + 32 else u

/-- `sqliteIdentifier`: ASCII letters lose their case. -/
def sqliteIdentifier (value : JsString) : JsString := value.map foldUnit

/-- `[ \t\n\r\f\uFEFF]`. -/
def isTrivia (u : UInt16) : Bool := [32, 9, 10, 13, 12, 0xFEFF].contains u

def isLetter (u : UInt16) : Bool := (65 ≤ u && u ≤ 90) || (97 ≤ u && u ≤ 122)

def isDigit (u : UInt16) : Bool := 48 ≤ u && u ≤ 57

/-- `[A-Za-z_]`. -/
def isWordStart (u : UInt16) : Bool := isLetter u || u == 95

/-- `[A-Za-z_0-9$\uFEFF]`. -/
def isWordUnit (u : UInt16) : Bool := isWordStart u || isDigit u || u == 36 || u == 0xFEFF

/-- The marks that open a quoted text: `'`, `"`, a backquote and `[`. -/
def isQuote (u : UInt16) : Bool := [39, 34, 96, 91].contains u

def closingOf (opening : UInt16) : UInt16 := if opening = 91 then 93 else opening

/-! ## Lexemes -/

inductive Lexeme where
  | space (u : UInt16)
  | lineComment (body : JsString) (closed : Bool)
  | blockComment (body : JsString) (closed : Bool)
  | quoted (opening : UInt16) (value : JsString)
  | unterminated (opening : UInt16) (rest : JsString)
  | word (text : JsString)
  | integer (text : JsString)
  | symbol (u : UInt16)
  deriving DecidableEq, Repr

/-- The rest of a line comment, and what is behind its line feed. -/
def readLine : JsString → JsString × Bool × JsString
  | [] => ([], false, [])
  | u :: rest =>
      if u = 10 then ([], true, rest)
      else (u :: (readLine rest).1, (readLine rest).2)

/-- The rest of a block comment, and what is behind its end. -/
def readBlock : JsString → JsString × Bool × JsString
  | [] => ([], false, [])
  | u :: rest =>
      if u = 42 ∧ rest.head? = some 47 then ([], true, rest.tail)
      else (u :: (readBlock rest).1, (readBlock rest).2)

/-- The rest of a quoted text; a doubled mark stands for itself, except in brackets. -/
def readQuoted (opening : UInt16) : JsString → Option (JsString × JsString)
  | [] => none
  | [u] => if u = closingOf opening then some ([], []) else none
  | u :: v :: rest =>
      if u ≠ closingOf opening then
        (readQuoted opening (v :: rest)).map fun p => (u :: p.1, p.2)
      else if opening ≠ 91 ∧ v = closingOf opening then
        (readQuoted opening rest).map fun p => (u :: p.1, p.2)
      else some ([], v :: rest)

/-- One turn of the loop. -/
def nextLexeme (u : UInt16) (rest : JsString) : Lexeme × JsString :=
  if isTrivia u then (.space u, rest)
  else if u = 45 ∧ rest.head? = some 45 then
    let comment := readLine rest.tail
    (.lineComment comment.1 comment.2.1, comment.2.2)
  else if u = 47 ∧ rest.head? = some 42 then
    let comment := readBlock rest.tail
    (.blockComment comment.1 comment.2.1, comment.2.2)
  else if isQuote u then
    match readQuoted u rest with
    | some (value, rest) => (.quoted u value, rest)
    | none => (.unterminated u rest, [])
  else if isWordStart u then
    (.word (u :: rest.takeWhile isWordUnit), rest.dropWhile isWordUnit)
  else if isDigit u then (.integer (u :: rest.takeWhile isDigit), rest.dropWhile isDigit)
  else (.symbol u, rest)

namespace Lexeme

/-- A quoted value as it is written. -/
def quotedText (opening : UInt16) (value : JsString) : JsString :=
  value.flatMap fun u => if u = closingOf opening then [u, u] else [u]

def text : Lexeme → JsString
  | space u => [u]
  | lineComment body closed => 45 :: 45 :: body ++ if closed then [10] else []
  | blockComment body closed => 47 :: 42 :: body ++ if closed then [42, 47] else []
  | quoted opening value => opening :: quotedText opening value ++ [closingOf opening]
  | unterminated opening rest => opening :: rest
  | word text => text
  | integer text => text
  | symbol u => [u]

/-- What may follow a lexeme. -/
def Follows : Lexeme → Option UInt16 → Prop
  | space _, _ => True
  | lineComment _ closed, next => closed = false → next = none
  | blockComment _ closed, next => closed = false → next = none
  | quoted opening _, next => opening ≠ 91 → next ≠ some opening
  | unterminated _ _, next => next = none
  | word _, next => ∀ u, next = some u → isWordUnit u = false
  | integer _, next => ∀ u, next = some u → isDigit u = false
  | symbol u, next => ¬(u = 45 ∧ next = some 45) ∧ ¬(u = 47 ∧ next = some 42)

/-- The shape of a lexeme. -/
def Shaped : Lexeme → Prop
  | space u => isTrivia u = true
  | lineComment body _ => 10 ∉ body
  | blockComment body closed =>
      readBlock (body ++ if closed then [42, 47] else []) = (body, closed, [])
  | quoted opening value => isQuote opening = true ∧ (opening = 91 → 93 ∉ value)
  | unterminated opening rest => isQuote opening = true ∧ readQuoted opening rest = none
  | word text => ∃ u us, text = u :: us ∧ isWordStart u = true ∧ ∀ v ∈ us, isWordUnit v = true
  | integer text => ∃ u us, text = u :: us ∧ isDigit u = true ∧ ∀ v ∈ us, isDigit v = true
  | symbol u => isTrivia u = false ∧ isQuote u = false ∧ isWordStart u = false ∧ isDigit u = false

end Lexeme

/-! ### Comments -/

theorem readLine_split (s : JsString) :
    (readLine s).1 ++ (if (readLine s).2.1 then [10] else []) ++ (readLine s).2.2 = s ∧
      10 ∉ (readLine s).1 ∧ ((readLine s).2.1 = false → (readLine s).2.2 = []) := by
  induction s with
  | nil => exact ⟨rfl, by simp [readLine], fun _ => rfl⟩
  | cons u s ih =>
      obtain ⟨htext, hbody, hend⟩ := ih
      rw [readLine]
      split
      · rename_i h
        subst h
        exact ⟨rfl, by simp, fun hopen => by cases hopen⟩
      · rename_i h
        refine ⟨?_, ?_, hend⟩
        · simpa using htext
        · simp only [List.mem_cons, not_or]
          exact ⟨fun heq => h heq.symm, hbody⟩

theorem readLine_append {body : JsString} (h : 10 ∉ body) (rest : JsString) :
    readLine (body ++ 10 :: rest) = (body, true, rest) := by
  induction body with
  | nil => rfl
  | cons u body ih =>
      simp only [List.mem_cons, not_or] at h
      rw [List.cons_append, readLine, if_neg (fun heq => h.1 heq.symm), ih h.2]

theorem readLine_open {body : JsString} (h : 10 ∉ body) : readLine body = (body, false, []) := by
  induction body with
  | nil => rfl
  | cons u body ih =>
      simp only [List.mem_cons, not_or] at h
      rw [readLine, if_neg (fun heq => h.1 heq.symm), ih h.2]

theorem readBlock_split (s : JsString) :
    (readBlock s).1 ++ (if (readBlock s).2.1 then [42, 47] else []) ++ (readBlock s).2.2 = s ∧
      ((readBlock s).2.1 = false → (readBlock s).2.2 = []) := by
  induction s with
  | nil => exact ⟨rfl, fun _ => rfl⟩
  | cons u s ih =>
      obtain ⟨htext, hend⟩ := ih
      rw [readBlock]
      split
      · rename_i h
        obtain ⟨rfl, hhead⟩ := h
        cases s with
        | nil => cases hhead
        | cons v s =>
            cases hhead
            exact ⟨rfl, fun hopen => by cases hopen⟩
      · exact ⟨by simpa using htext, hend⟩

theorem readBlock_prefix (s : JsString) :
    readBlock ((readBlock s).1 ++ if (readBlock s).2.1 then [42, 47] else []) =
      ((readBlock s).1, (readBlock s).2.1, []) := by
  induction s with
  | nil => rfl
  | cons u s ih =>
      rw [readBlock]
      split
      · rfl
      · rename_i h
        obtain ⟨htext, hend⟩ := readBlock_split s
        have hhead : ((readBlock s).1 ++
            if (readBlock s).2.1 then [42, 47] else []).head? = s.head? := by
          cases hclosed : (readBlock s).2.1 with
          | true =>
              rw [hclosed, if_pos rfl] at htext
              rw [if_pos rfl, ← List.head?_append_of_ne_nil _ (by simp), htext]
          | false =>
              rw [hend hclosed, List.append_nil] at htext
              rw [hclosed] at htext
              rw [htext]
        simp only [List.cons_append]
        rw [readBlock, hhead, if_neg h, ih]

/-- What ends a block comment is the first end there is. -/
theorem readBlock_stable {body : JsString} {closed : Bool}
    (h : readBlock (body ++ if closed then [42, 47] else []) = (body, closed, []))
    {rest : JsString} (hrest : closed = false → rest = []) :
    readBlock (body ++ (if closed then [42, 47] else []) ++ rest) = (body, closed, rest) := by
  cases closed with
  | false =>
      obtain rfl := hrest rfl
      simpa using h
  | true =>
      simp only [if_true] at h ⊢
      induction body with
      | nil => rfl
      | cons u body ih =>
          rw [List.cons_append, readBlock] at h
          split at h
          · cases h
          · rename_i hne
            injection h with hbody hclosed
            injection hbody with _ hbody
            have hhead : (body ++ [42, 47] ++ rest).head? = (body ++ [42, 47]).head? :=
              List.head?_append_of_ne_nil _ (by simp)
            rw [List.cons_append, List.cons_append, readBlock, hhead, if_neg hne,
              ih (Prod.ext hbody hclosed)]

/-! ### Quoted texts -/

theorem readQuoted_split {opening : UInt16} {s value rest : JsString}
    (h : readQuoted opening s = some (value, rest)) :
    Lexeme.quotedText opening value ++ closingOf opening :: rest = s ∧
      (opening = 91 → 93 ∉ value) ∧ (opening ≠ 91 → rest.head? ≠ some opening) := by
  induction s using readQuoted.induct opening generalizing value with
  | case1 => cases h
  | case2 =>
      rw [readQuoted, if_pos rfl] at h
      cases h
      exact ⟨rfl, fun _ => by simp, fun _ => by simp⟩
  | case3 u hne =>
      rw [readQuoted, if_neg hne] at h
      cases h
  | case4 u v s hne ih =>
      rw [readQuoted, if_pos hne] at h
      obtain ⟨⟨value, rest⟩, hread, heq⟩ := Option.map_eq_some_iff.1 h
      cases heq
      obtain ⟨htext, hbracket, hnext⟩ := ih hread
      refine ⟨?_, fun hopening => ?_, hnext⟩
      · simpa [Lexeme.quotedText, hne] using htext
      · subst hopening
        simp only [List.mem_cons, not_or]
        exact ⟨fun heq => hne heq.symm, hbracket rfl⟩
  | case5 u v s hclosing hdouble ih =>
      rw [readQuoted, if_neg hclosing, if_pos hdouble] at h
      obtain ⟨⟨value, rest⟩, hread, heq⟩ := Option.map_eq_some_iff.1 h
      cases heq
      obtain ⟨htext, hbracket, hnext⟩ := ih hread
      rw [not_not] at hclosing
      obtain ⟨hopening, rfl⟩ := hdouble
      subst hclosing
      refine ⟨?_, fun heq => absurd heq hopening, hnext⟩
      simpa [Lexeme.quotedText] using htext
  | case6 u v s hclosing hsingle =>
      rw [readQuoted, if_neg hclosing, if_neg hsingle] at h
      cases h
      rw [not_not] at hclosing
      subst hclosing
      refine ⟨rfl, fun _ => by simp, fun hopening hnext => hsingle ⟨hopening, ?_⟩⟩
      rw [closingOf, if_neg hopening]
      simpa using hnext

theorem readQuoted_append {opening : UInt16} {value rest : JsString}
    (hbracket : opening = 91 → 93 ∉ value) (hnext : opening ≠ 91 → rest.head? ≠ some opening) :
    readQuoted opening (Lexeme.quotedText opening value ++ closingOf opening :: rest) =
      some (value, rest) := by
  induction value with
  | nil =>
      cases rest with
      | nil => simp [Lexeme.quotedText, readQuoted]
      | cons v rest =>
          have hsingle : ¬(opening ≠ 91 ∧ v = closingOf opening) := by
            rintro ⟨hopening, rfl⟩
            refine hnext hopening ?_
            rw [closingOf, if_neg hopening, List.head?_cons]
          show readQuoted opening (closingOf opening :: v :: rest) = _
          rw [readQuoted, if_neg (not_not.2 rfl), if_neg hsingle]
  | cons u value ih =>
      have hread := ih fun hopening hmem => hbracket hopening (List.mem_cons_of_mem _ hmem)
      by_cases hu : u = closingOf opening
      · have hopening : opening ≠ 91 := by
          intro hopening
          refine hbracket hopening (List.mem_cons.2 (Or.inl ?_))
          rw [hu, closingOf, if_pos hopening]
        have htext : Lexeme.quotedText opening (u :: value) =
            u :: u :: Lexeme.quotedText opening value := by
          simp [Lexeme.quotedText, hu]
        rw [htext, List.cons_append, List.cons_append, readQuoted, if_neg (not_not.2 hu),
          if_pos ⟨hopening, hu⟩, hread]
        rfl
      · have htext : Lexeme.quotedText opening (u :: value) =
            u :: Lexeme.quotedText opening value := by
          simp [Lexeme.quotedText, hu]
        rw [htext, List.cons_append]
        cases htail : Lexeme.quotedText opening value ++ closingOf opening :: rest with
        | nil => simp at htail
        | cons v more =>
            rw [htail] at hread
            rw [readQuoted, if_pos hu, hread]
            rfl

/-! ### The classes of code units -/

theorem isTrivia_cases {u : UInt16} (h : isTrivia u = true) :
    isQuote u = false ∧ isWordStart u = false ∧ isDigit u = false ∧ u ≠ 45 ∧ u ≠ 47 := by
  simp only [isTrivia, List.contains_iff_mem, List.mem_cons, List.not_mem_nil, or_false] at h
  rcases h with rfl | rfl | rfl | rfl | rfl | rfl <;> decide

theorem isQuote_cases {u : UInt16} (h : isQuote u = true) :
    isTrivia u = false ∧ isWordStart u = false ∧ isDigit u = false ∧ u ≠ 45 ∧ u ≠ 47 := by
  simp only [isQuote, List.contains_iff_mem, List.mem_cons, List.not_mem_nil, or_false] at h
  rcases h with rfl | rfl | rfl | rfl <;> decide

theorem isWordStart_toNat {u : UInt16} : isWordStart u = true ↔
    65 ≤ u.toNat ∧ u.toNat ≤ 90 ∨ 97 ≤ u.toNat ∧ u.toNat ≤ 122 ∨ u.toNat = 95 := by
  simp only [isWordStart, isLetter, Bool.or_eq_true, Bool.and_eq_true, decide_eq_true_eq,
    beq_iff_eq, UInt16.le_iff_toNat_le, ← UInt16.toNat_inj, or_assoc]
  rfl

theorem isDigit_toNat {u : UInt16} : isDigit u = true ↔ 48 ≤ u.toNat ∧ u.toNat ≤ 57 := by
  simp only [isDigit, Bool.and_eq_true, decide_eq_true_eq, UInt16.le_iff_toNat_le]
  rfl

theorem isDigit_cases {u : UInt16} (h : isDigit u = true) :
    isTrivia u = false ∧ isQuote u = false ∧ isWordStart u = false ∧ u ≠ 45 ∧ u ≠ 47 := by
  have hword : isWordStart u = false := by
    rw [← Bool.not_eq_true, isWordStart_toNat]
    rw [isDigit_toNat] at h
    omega
  refine ⟨?_, ?_, hword, ?_, ?_⟩
  · rw [← Bool.not_eq_true]
    intro htrivia
    rw [(isTrivia_cases htrivia).2.2.1] at h
    cases h
  · rw [← Bool.not_eq_true]
    intro hquote
    rw [(isQuote_cases hquote).2.2.1] at h
    cases h
  · rintro rfl
    cases h
  · rintro rfl
    cases h

theorem isWordStart_cases {u : UInt16} (h : isWordStart u = true) :
    isTrivia u = false ∧ isQuote u = false ∧ isDigit u = false ∧ u ≠ 45 ∧ u ≠ 47 := by
  refine ⟨?_, ?_, ?_, ?_, ?_⟩
  · rw [← Bool.not_eq_true]
    intro htrivia
    rw [(isTrivia_cases htrivia).2.1] at h
    cases h
  · rw [← Bool.not_eq_true]
    intro hquote
    rw [(isQuote_cases hquote).2.1] at h
    cases h
  · rw [← Bool.not_eq_true]
    intro hdigit
    rw [(isDigit_cases hdigit).2.2.1] at h
    cases h
  · rintro rfl
    cases h
  · rintro rfl
    cases h

/-! ### The scanner -/

theorem head?_dropWhile {p : UInt16 → Bool} {s : JsString} {u : UInt16}
    (h : (s.dropWhile p).head? = some u) : p u = false := by
  have hnot := List.head?_dropWhile_not p s
  rw [h] at hnot
  simpa using hnot

/-- A turn of the loop reads a lexeme, and nothing else. -/
theorem nextLexeme_split (u : UInt16) (rest : JsString) :
    (nextLexeme u rest).1.text ++ (nextLexeme u rest).2 = u :: rest ∧
      (nextLexeme u rest).1.Shaped ∧
      (nextLexeme u rest).1.Follows (nextLexeme u rest).2.head? := by
  unfold nextLexeme
  split
  · rename_i htrivia
    exact ⟨rfl, htrivia, trivial⟩
  rename_i htrivia
  split
  · rename_i h
    obtain ⟨rfl, hhead⟩ := h
    obtain ⟨rest, rfl⟩ : ∃ more : JsString, rest = 45 :: more := List.head?_eq_some_iff.1 hhead
    obtain ⟨htext, hbody, hend⟩ := readLine_split rest
    exact ⟨congrArg (45 :: 45 :: ·) htext, hbody, fun hopen => by simp [hend hopen]⟩
  rename_i hline
  split
  · rename_i h
    obtain ⟨rfl, hhead⟩ := h
    obtain ⟨rest, rfl⟩ : ∃ more : JsString, rest = 42 :: more := List.head?_eq_some_iff.1 hhead
    obtain ⟨htext, hend⟩ := readBlock_split rest
    exact ⟨congrArg (47 :: 42 :: ·) htext, readBlock_prefix rest, fun hopen => by
      simp [hend hopen]⟩
  rename_i hblock
  split
  · rename_i hquote
    cases hread : readQuoted u rest with
    | none => exact ⟨by simp [Lexeme.text], ⟨hquote, hread⟩, rfl⟩
    | some p =>
        obtain ⟨value, behind⟩ := p
        obtain ⟨htext, hbracket, hnext⟩ := readQuoted_split hread
        refine ⟨?_, ⟨hquote, hbracket⟩, hnext⟩
        simpa [Lexeme.text] using htext
  rename_i hquote
  split
  · rename_i hword
    refine ⟨?_, ⟨u, _, rfl, hword, fun v hv => List.mem_takeWhile_imp hv⟩,
      fun v hv => head?_dropWhile hv⟩
    simp [Lexeme.text]
  rename_i hword
  split
  · rename_i hdigit
    refine ⟨?_, ⟨u, _, rfl, hdigit, fun v hv => List.mem_takeWhile_imp hv⟩,
      fun v hv => head?_dropWhile hv⟩
    simp [Lexeme.text]
  rename_i hdigit
  simp only [Bool.not_eq_true] at htrivia hquote hword hdigit
  exact ⟨rfl, ⟨htrivia, hquote, hword, hdigit⟩, hline, hblock⟩

theorem takeWhile_of_forall {p : UInt16 → Bool} {s rest : JsString} (h : ∀ u ∈ s, p u = true)
    (hrest : ∀ u, rest.head? = some u → p u = false) :
    (s ++ rest).takeWhile p = s ∧ (s ++ rest).dropWhile p = rest := by
  rw [List.takeWhile_append_of_pos h, List.dropWhile_append_of_pos h]
  cases rest with
  | nil => simp
  | cons v rest =>
      have hv := hrest v rfl
      simp [hv]

/-- A shaped lexeme is read wherever it may stand. -/
theorem nextLexeme_of_shaped {l : Lexeme} {rest : JsString} (hshaped : l.Shaped)
    (hfollows : l.Follows rest.head?) {u : UInt16} {s : JsString}
    (htext : l.text ++ rest = u :: s) : nextLexeme u s = (l, rest) := by
  cases l with
  | space v =>
      cases htext
      exact if_pos hshaped
  | lineComment body closed =>
      simp only [Lexeme.text, List.cons_append] at htext
      cases htext
      have hread : readLine (body ++ (if closed then [10] else []) ++ rest) =
          (body, closed, rest) := by
        cases closed with
        | true => simpa using readLine_append hshaped rest
        | false =>
            obtain rfl : rest = [] := by simpa using hfollows rfl
            simpa using readLine_open hshaped
      rw [nextLexeme, if_neg (by decide), if_pos ⟨rfl, rfl⟩, List.tail_cons, hread]
  | blockComment body closed =>
      simp only [Lexeme.text, List.cons_append] at htext
      cases htext
      have hread : readBlock (body ++ (if closed then [42, 47] else []) ++ rest) =
          (body, closed, rest) :=
        readBlock_stable hshaped fun hopen => by simpa using hfollows hopen
      rw [nextLexeme, if_neg (by decide), if_neg (by simp), if_pos ⟨rfl, rfl⟩, List.tail_cons,
        hread]
  | quoted opening value =>
      obtain ⟨hquote, hbracket⟩ := hshaped
      obtain ⟨htrivia, -, -, hdash, hslash⟩ := isQuote_cases hquote
      simp only [Lexeme.text, List.cons_append, List.append_assoc, List.nil_append] at htext
      cases htext
      rw [nextLexeme, if_neg (by simp [htrivia]), if_neg (fun h => hdash h.1),
        if_neg (fun h => hslash h.1), if_pos hquote, readQuoted_append hbracket hfollows]
  | unterminated opening s' =>
      obtain ⟨hquote, hread⟩ := hshaped
      obtain ⟨htrivia, -, -, hdash, hslash⟩ := isQuote_cases hquote
      obtain rfl : rest = [] := by simpa [Lexeme.Follows] using hfollows
      rw [Lexeme.text, List.append_nil] at htext
      cases htext
      rw [nextLexeme, if_neg (by simp [htrivia]), if_neg (fun h => hdash h.1),
        if_neg (fun h => hslash h.1), if_pos hquote, hread]
  | word text =>
      obtain ⟨v, us, rfl, hstart, hunits⟩ := hshaped
      obtain ⟨htrivia, hquote, -, hdash, hslash⟩ := isWordStart_cases hstart
      obtain ⟨htake, hdrop⟩ := takeWhile_of_forall hunits hfollows
      simp only [Lexeme.text, List.cons_append] at htext
      cases htext
      rw [nextLexeme, if_neg (by simp [htrivia]), if_neg (fun h => hdash h.1),
        if_neg (fun h => hslash h.1), if_neg (by simp [hquote]), if_pos hstart, htake, hdrop]
  | integer text =>
      obtain ⟨v, us, rfl, hdigit, hunits⟩ := hshaped
      obtain ⟨htrivia, hquote, hstart, hdash, hslash⟩ := isDigit_cases hdigit
      obtain ⟨htake, hdrop⟩ := takeWhile_of_forall hunits hfollows
      simp only [Lexeme.text, List.cons_append] at htext
      cases htext
      rw [nextLexeme, if_neg (by simp [htrivia]), if_neg (fun h => hdash h.1),
        if_neg (fun h => hslash h.1), if_neg (by simp [hquote]), if_neg (by simp [hstart]),
        if_pos hdigit, htake, hdrop]
  | symbol v =>
      obtain ⟨htrivia, hquote, hstart, hdigit⟩ := hshaped
      rw [Lexeme.text, List.singleton_append] at htext
      cases htext
      rw [nextLexeme, if_neg (by simp [htrivia]), if_neg hfollows.1, if_neg hfollows.2,
        if_neg (by simp [hquote]), if_neg (by simp [hstart]), if_neg (by simp [hdigit])]

theorem Lexeme.Shaped.text_ne_nil {l : Lexeme} (h : l.Shaped) : l.text ≠ [] := by
  cases l with
  | word text =>
      obtain ⟨u, us, rfl, -⟩ := h
      simp [Lexeme.text]
  | integer text =>
      obtain ⟨u, us, rfl, -⟩ := h
      simp [Lexeme.text]
  | _ => simp [Lexeme.text]

/-- The loop of the lexer. -/
def openIndexScanner : Scanner UInt16 Lexeme where
  next := nextLexeme
  text := Lexeme.text
  Follows := Lexeme.Follows
  split u rest := (nextLexeme_split u rest).1
  nonempty u rest := (nextLexeme_split u rest).2.1.text_ne_nil
  follows u rest := (nextLexeme_split u rest).2.2
  stable u rest _ _ _ hfollows htext :=
    nextLexeme_of_shaped (nextLexeme_split u rest).2.1 hfollows htext

/-- The scanner reads the shaped lexemes. -/
theorem readable_iff {l : Lexeme} : openIndexScanner.Readable l ↔ l.Shaped := by
  constructor
  · rintro ⟨u, rest, rfl⟩
    exact (nextLexeme_split u rest).2.1
  · intro h
    have hend : l.Follows ([] : JsString).head? := by
      cases l <;> simp [Lexeme.Follows]
    cases htext : l.text with
    | nil => exact absurd htext h.text_ne_nil
    | cons u s =>
        refine ⟨u, s, ?_⟩
        have hread : nextLexeme u s = (l, []) :=
          nextLexeme_of_shaped h hend (by rw [List.append_nil, htext])
        exact congrArg Prod.fst hread

/-! ## Tokens -/

/-- `value.replace(/^0+(?=\d)/, '')`. -/
def stripZeros : JsString → JsString
  | [] => []
  | [u] => [u]
  | u :: v :: rest => if u = 48 then stripZeros (v :: rest) else u :: v :: rest

/-- The tokens that a lexeme pushes. -/
def Lexeme.tokens : Lexeme → Except OpenIndexError (List OpenIndexToken)
  | .space _ | .lineComment _ _ | .blockComment _ _ => .ok []
  | .quoted opening value =>
      if opening = 39 then .ok [⟨.string, value⟩]
      else .ok [⟨.identifier, sqliteIdentifier value⟩]
  | .unterminated _ _ => .error .unterminatedQuote
  | .word text => .ok [⟨.word, sqliteIdentifier text⟩]
  | .integer text => .ok [⟨.integer, stripZeros text⟩]
  | .symbol u => .ok [⟨.symbol, [u]⟩]

/-- `tokenizeOpenIndexSql`. -/
def tokenizeOpenIndexSql (sql : JsString) : Except OpenIndexError (List OpenIndexToken) :=
  ((openIndexScanner.lexemes sql).mapM Lexeme.tokens).map List.flatten

def Lexeme.isComment : Lexeme → Bool
  | .lineComment _ _ | .blockComment _ _ => true
  | _ => false

def Lexeme.isQuoted : Lexeme → Bool
  | .quoted _ _ => true
  | _ => false

/-- **Comments and quoted texts are no structure.**  A comment leaves no token, and a quoted
text leaves neither a word nor a symbol. -/
theorem Lexeme.tokens_of_hidden {l : Lexeme} (h : l.isComment = true ∨ l.isQuoted = true)
    {tokens : List OpenIndexToken} (htokens : l.tokens = .ok tokens) :
    ∀ t ∈ tokens, t.kind ≠ .word ∧ t.kind ≠ .symbol := by
  cases l with
  | lineComment body closed =>
      cases htokens
      simp
  | blockComment body closed =>
      cases htokens
      simp
  | quoted opening value =>
      simp only [Lexeme.tokens] at htokens
      split at htokens <;> cases htokens <;> simp
  | _ => simp [Lexeme.isComment, Lexeme.isQuoted] at h

/-! ## Other spellings -/

/-- Another spelling of a lexeme: a space for a comment, or a word in another case. -/
inductive Lexeme.Respells : Lexeme → Lexeme → Prop
  | same (l : Lexeme) : Respells l l
  | comment {l : Lexeme} (h : l.isComment = true) : Respells l (.space 32)
  | recase {text text' : JsString} (h : sqliteIdentifier text' = sqliteIdentifier text) :
      Respells (.word text) (.word text')

/-- The text is spelled another way: some comments are spaces, and some words have another
case. -/
def Respelled (sql sql' : JsString) : Prop :=
  ∃ lexemes, List.Forall₂ Lexeme.Respells (openIndexScanner.lexemes sql) lexemes ∧
    openIndexScanner.spell lexemes = sql'

theorem foldUnit_toNat (u : UInt16) :
    (foldUnit u).toNat = if 65 ≤ u.toNat ∧ u.toNat ≤ 90 then u.toNat + 32 else u.toNat := by
  have hlt := u.toNat_lt
  unfold foldUnit
  simp only [Bool.and_eq_true, decide_eq_true_eq, UInt16.le_iff_toNat_le]
  have h₁ : (65 : UInt16).toNat = 65 := rfl
  have h₂ : (90 : UInt16).toNat = 90 := rfl
  have h₃ : (32 : UInt16).toNat = 32 := rfl
  rw [h₁, h₂]
  split
  · rw [UInt16.toNat_add, h₃]
    omega
  · rfl

theorem isWordStart_congr {u v : UInt16} (h : foldUnit u = foldUnit v) :
    isWordStart u = isWordStart v := by
  have hfold := congrArg UInt16.toNat h
  rw [foldUnit_toNat, foldUnit_toNat] at hfold
  rw [Bool.eq_iff_iff, isWordStart_toNat, isWordStart_toNat]
  split at hfold <;> split at hfold <;> omega

theorem isDigit_congr {u v : UInt16} (h : foldUnit u = foldUnit v) : isDigit u = isDigit v := by
  have hfold := congrArg UInt16.toNat h
  rw [foldUnit_toNat, foldUnit_toNat] at hfold
  rw [Bool.eq_iff_iff, isDigit_toNat, isDigit_toNat]
  split at hfold <;> split at hfold <;> omega

theorem isWordUnit_congr {u v : UInt16} (h : foldUnit u = foldUnit v) :
    isWordUnit u = isWordUnit v := by
  have hfold := congrArg UInt16.toNat h
  rw [foldUnit_toNat, foldUnit_toNat] at hfold
  have hmark : ∀ w : UInt16, (w == 36) = decide (w.toNat = 36) ∧
      (w == 0xFEFF) = decide (w.toNat = 0xFEFF) := fun w => by
    simp only [beq_eq_decide, ← UInt16.toNat_inj]
    exact ⟨rfl, rfl⟩
  rw [isWordUnit, isWordUnit, isWordStart_congr h, isDigit_congr h, (hmark u).1, (hmark u).2,
    (hmark v).1, (hmark v).2]
  congr 1
  · congr 1
    rw [decide_eq_decide]
    split at hfold <;> split at hfold <;> omega
  · rw [decide_eq_decide]
    split at hfold <;> split at hfold <;> omega

/-- What stands behind a lexeme stays alike. -/
inductive Alike : Option UInt16 → Option UInt16 → Prop
  | same (next : Option UInt16) : Alike next next
  | comment {u : UInt16} (h : u = 45 ∨ u = 47) : Alike (some u) (some 32)
  | recase {u v : UInt16} (h : isWordStart u = true) (h' : isWordStart v = true) :
      Alike (some u) (some v)

theorem isWordUnit_of_isWordStart {u : UInt16} (h : isWordStart u = true) :
    isWordUnit u = true := by
  simp [isWordUnit, h]

/-- Something alike may follow. -/
theorem Alike.follows {next next' : Option UInt16} (h : Alike next next') {l : Lexeme}
    (hshaped : l.Shaped) (hfollows : l.Follows next) : l.Follows next' := by
  cases h with
  | same _ => exact hfollows
  | comment hu =>
      cases l with
      | space _ => trivial
      | lineComment _ _ => exact fun hopen => by cases hfollows hopen
      | blockComment _ _ => exact fun hopen => by cases hfollows hopen
      | quoted opening value =>
          rintro - heq
          cases heq
          cases hshaped.1
      | unterminated _ _ => cases hfollows
      | word _ =>
          intro v hv
          cases hv
          decide
      | integer _ =>
          intro v hv
          cases hv
          decide
      | symbol _ =>
          refine ⟨fun heq => ?_, fun heq => ?_⟩
          · cases heq.2
          · cases heq.2
  | @recase u v hu hv =>
      obtain ⟨-, hquote, hdigit, hdash, -⟩ := isWordStart_cases hv
      cases l with
      | space _ => trivial
      | lineComment _ _ => exact fun hopen => by cases hfollows hopen
      | blockComment _ _ => exact fun hopen => by cases hfollows hopen
      | quoted opening value =>
          rintro - heq
          cases heq
          rw [hshaped.1] at hquote
          cases hquote
      | unterminated _ _ => cases hfollows
      | word _ =>
          have hunit := hfollows u rfl
          rw [isWordUnit_of_isWordStart hu] at hunit
          cases hunit
      | integer _ =>
          intro w hw
          cases hw
          exact hdigit
      | symbol _ =>
          refine ⟨fun heq => hdash (Option.some.inj heq.2), fun heq => ?_⟩
          cases heq.2
          cases hv

/-- A word in another case has the shape of a word. -/
theorem shaped_recase {text text' : JsString} (h : sqliteIdentifier text' = sqliteIdentifier text)
    (hshaped : (Lexeme.word text).Shaped) :
    (Lexeme.word text').Shaped ∧ Alike text.head? text'.head? := by
  obtain ⟨u, us, rfl, hstart, hunits⟩ := hshaped
  cases text' with
  | nil => cases h
  | cons v vs =>
      simp only [sqliteIdentifier, List.map_cons, List.cons.injEq] at h
      have hv : isWordStart v = true := by rw [isWordStart_congr h.1, hstart]
      refine ⟨⟨v, vs, rfl, hv, fun w hw => ?_⟩, .recase hstart hv⟩
      have hmem : foldUnit w ∈ us.map foldUnit := h.2 ▸ List.mem_map_of_mem hw
      obtain ⟨w', hw', hfold⟩ := List.mem_map.1 hmem
      rw [isWordUnit_congr hfold.symm, hunits w' hw']

theorem Lexeme.Respells.shaped {l l' : Lexeme} (h : Respells l l') (hshaped : l.Shaped) :
    l'.Shaped ∧ Alike l.text.head? l'.text.head? := by
  cases h with
  | same => exact ⟨hshaped, .same _⟩
  | comment h =>
      have hspace : isTrivia 32 = true := by decide
      refine ⟨hspace, ?_⟩
      cases l with
      | lineComment _ _ => exact .comment (Or.inl rfl)
      | blockComment _ _ => exact .comment (Or.inr rfl)
      | _ => cases h
  | recase h => exact shaped_recase h hshaped

theorem Lexeme.Respells.follows {l l' : Lexeme} (h : Respells l l') {next : Option UInt16}
    (hfollows : l.Follows next) : l'.Follows next := by
  cases h with
  | same => exact hfollows
  | comment _ => trivial
  | recase _ => exact hfollows

theorem Lexeme.Respells.tokens {l l' : Lexeme} (h : Respells l l') : l'.tokens = l.tokens := by
  cases h with
  | same => rfl
  | comment h =>
      cases l with
      | lineComment _ _ => rfl
      | blockComment _ _ => rfl
      | _ => cases h
  | recase h => simp [Lexeme.tokens, h]

theorem mapM_tokens_congr {ls ls' : List Lexeme} (h : List.Forall₂ Lexeme.Respells ls ls') :
    ls'.mapM Lexeme.tokens = ls.mapM Lexeme.tokens := by
  induction h with
  | nil => rfl
  | cons hR _ ih => rw [List.mapM_cons, List.mapM_cons, hR.tokens, ih]

/-- **Another spelling has the same tokens.** -/
theorem tokenize_respelled {sql sql' : JsString} (h : Respelled sql sql') :
    tokenizeOpenIndexSql sql' = tokenizeOpenIndexSql sql := by
  obtain ⟨lexemes, hrespell, rfl⟩ := h
  have hchained := (Scanner.lexemes_eq_iff.1 (Eq.refl (openIndexScanner.lexemes sql))).1
  have hchained' := (Scanner.chained_of_forall₂ (H := Alike) (.same none)
    (fun hR hread => readable_iff.2 (hR.shaped (readable_iff.1 hread)).1)
    (fun hR hread hnext hfollows => hR.follows (hnext.follows (readable_iff.1 hread) hfollows))
    (fun hR hread => (hR.shaped (readable_iff.1 hread)).2) hrespell hchained).1
  have hlexemes := Scanner.lexemes_eq_iff.2 ⟨hchained', rfl⟩
  rw [tokenizeOpenIndexSql, tokenizeOpenIndexSql, hlexemes, mapM_tokens_congr hrespell]

end RoundWatch
