import RoundWatch.Foundation.JsonText

/-!
# JSON pointers

RFC 6901: a pointer is a text of reference tokens, each behind a `/`, with `~` and `/` in
a token written `~0` and `~1`.

* `escape`, `child` — the pointer of a member, from that of its holder;
* `readTokens`, `tokens?` — the tokens of a pointer;
* `arrayIndex?`, `member`, `resolve` — the value a pointer points at;
* `resolve_child` — whatever its key, a member is found where its pointer says.
-/

open JsText

namespace JsonPointer

variable {ν : Type}

/-! ## Texts -/

def escapeUnit (u : UInt16) : JsString :=
  if u = 126 then [126, 48] else if u = 47 then [126, 49] else [u]

/-- A key as a reference token. -/
def escape (key : JsString) : JsString := key.flatMap escapeUnit

/-- The pointer of a member. -/
def child (base key : JsString) : JsString := base ++ 47 :: escape key

/-- Puts a unit in front of the first token. -/
def push (u : UInt16) : List JsString → List JsString
  | [] => [[u]]
  | token :: rest => (u :: token) :: rest

/-- The tokens behind a `/`, or behind a `~` that has introduced an escape; an escape is
`~0` or `~1`. -/
def readTokens : (tilde : Bool) → JsString → Option (List JsString)
  | false, [] => some [[]]
  | true, [] => none
  | false, u :: rest =>
      if u = 126 then readTokens true rest
      else if u = 47 then (readTokens false rest).map ([] :: ·)
      else (readTokens false rest).map (push u)
  | true, u :: rest =>
      if u = 48 then (readTokens false rest).map (push 126)
      else if u = 49 then (readTokens false rest).map (push 47)
      else none

/-- The tokens of a pointer: none of the empty one, which points at the whole document. -/
def tokens? : JsString → Option (List JsString)
  | [] => some []
  | u :: rest => if u = 47 then readTokens false rest else none

theorem escape_cons (u : UInt16) (key : JsString) :
    escape (u :: key) = escapeUnit u ++ escape key :=
  List.flatMap_cons

/-- An escaped unit is read as the unit it stands for. -/
theorem readTokens_escapeUnit (u : UInt16) (rest : JsString) :
    readTokens false (escapeUnit u ++ rest) = (readTokens false rest).map (push u) := by
  unfold escapeUnit
  split
  · rename_i htilde
    rw [htilde]
    rfl
  · rename_i htilde
    split
    · rename_i hslash
      rw [hslash]
      rfl
    · rename_i hslash
      rw [List.singleton_append, readTokens, if_neg htilde, if_neg hslash]

/-- An escaped key is one token, and that token is the key. -/
theorem readTokens_escape (key : JsString) : readTokens false (escape key) = some [key] := by
  induction key with
  | nil => rfl
  | cons u key ih =>
      rw [escape_cons, readTokens_escapeUnit, ih]
      rfl

theorem push_append (u : UInt16) {tokens : List JsString} (h : tokens ≠ []) (key : JsString) :
    push u (tokens ++ [key]) = push u tokens ++ [key] := by
  cases tokens with
  | nil => exact absurd rfl h
  | cons token rest => rfl

theorem push_ne_nil (u : UInt16) (tokens : List JsString) : push u tokens ≠ [] := by
  cases tokens <;> simp [push]

/-- A unit that is read in front of the rest is read in front of the rest and the key. -/
theorem push_child {rest key : JsString} {tokens : List JsString} (u : UInt16)
    (ih : ∀ {inner}, readTokens false rest = some inner →
      inner ≠ [] ∧ readTokens false (child rest key) = some (inner ++ [key]))
    (h : (readTokens false rest).map (push u) = some tokens) :
    tokens ≠ [] ∧ (readTokens false (child rest key)).map (push u) = some (tokens ++ [key]) := by
  obtain ⟨inner, hinner, rfl⟩ := Option.map_eq_some_iff.1 h
  obtain ⟨hne, hchild⟩ := ih hinner
  exact ⟨push_ne_nil u inner, by rw [hchild, Option.map_some, push_append u hne]⟩

/-- **One more key.**  By induction on the text in front of it, which is read to its end
before the key begins. -/
theorem readTokens_child {text : JsString} {tilde : Bool} {tokens : List JsString}
    (h : readTokens tilde text = some tokens) (key : JsString) :
    tokens ≠ [] ∧ readTokens tilde (child text key) = some (tokens ++ [key]) := by
  induction text generalizing tilde tokens with
  | nil =>
      cases tilde with
      | true => cases h
      | false =>
          cases h
          refine ⟨by simp, ?_⟩
          show (readTokens false (escape key)).map ([] :: ·) = _
          rw [readTokens_escape]
          rfl
  | cons u rest ih =>
      have hcons : child (u :: rest) key = u :: child rest key := rfl
      rw [hcons]
      cases tilde with
      | false =>
          rw [readTokens] at h ⊢
          split at h
          · rename_i htilde
            rw [if_pos htilde]
            exact ih h
          · rename_i htilde
            rw [if_neg htilde]
            split at h
            · rename_i hslash
              rw [if_pos hslash]
              obtain ⟨inner, hinner, rfl⟩ := Option.map_eq_some_iff.1 h
              rw [(ih hinner).2]
              exact ⟨by simp, rfl⟩
            · rename_i hslash
              rw [if_neg hslash]
              exact push_child u ih h
      | true =>
          rw [readTokens] at h ⊢
          split at h
          · rename_i hzero
            rw [if_pos hzero]
            exact push_child 126 ih h
          · rename_i hzero
            rw [if_neg hzero]
            split at h
            · rename_i hone
              rw [if_pos hone]
              exact push_child 47 ih h
            · cases h

/-- The pointer of a member has the tokens of its holder's pointer, and the key. -/
theorem tokens?_child {base : JsString} {tokens : List JsString} (h : tokens? base = some tokens)
    (key : JsString) : tokens? (child base key) = some (tokens ++ [key]) := by
  cases base with
  | nil =>
      cases h
      exact readTokens_escape key
  | cons u rest =>
      by_cases hslash : u = 47
      · rw [tokens?, if_pos hslash] at h
        show (if u = 47 then readTokens false (child rest key) else none) = _
        rw [if_pos hslash]
        exact (readTokens_child h key).2
      · rw [tokens?, if_neg hslash] at h
        cases h

/-- Pointers of different members of one holder are different. -/
theorem child_injective (base : JsString) : Function.Injective (child base) := by
  intro key key' h
  have hescape : escape key = escape key' := by
    have htails : 47 :: escape key = 47 :: escape key' := List.append_cancel_left h
    exact (List.cons.inj htails).2
  have hread := readTokens_escape key
  rw [hescape, readTokens_escape key'] at hread
  cases hread
  rfl

/-! ## Values -/

/-- The value under a key. -/
def lookup (fields : List (JsString × JsonDoc ν)) (key : JsString) : Option (JsonDoc ν) :=
  (fields.find? fun field => field.1 == key).map Prod.snd

/-- An index of an array: digits without leading zeros. -/
def arrayIndex? (token : JsString) : Option ℕ :=
  if token.head? = some 48 ∧ token ≠ [48] then none else unsigned? 10 token

/-- The first digit of a number is no zero, unless it is the only one. -/
theorem head_digitsOf {fuel n : ℕ} (hfuel : n < fuel) (hn : n ≠ 0) (acc : JsString) :
    (digitsOf fuel n acc).head? ≠ some 48 := by
  induction fuel generalizing n acc with
  | zero => omega
  | succ fuel ih =>
      rw [digitsOf]
      split
      · rename_i hlt
        intro hzero
        have hdigit : digitUnit n = 48 := by simpa using hzero
        have hvalue := digitValue?_digitUnit hlt
        rw [hdigit] at hvalue
        exact hn (Option.some.inj hvalue).symm
      · exact ih (by omega) (by omega) _

/-- The text of a number is the index it stands for. -/
theorem arrayIndex?_decimal (n : ℕ) : arrayIndex? (decimal n) = some n := by
  have hvalue : digitsValue? 10 0 (decimal n) = some n := by
    rw [decimal, digitsValue?_digitsOf (Nat.lt_succ_self n), digitsValue?]
  have hne : decimal n ≠ [] := digitsOf_ne_nil (Or.inr (Nat.succ_pos n))
  have hzero : ¬ ((decimal n).head? = some 48 ∧ decimal n ≠ [48]) := by
    rintro ⟨hhead, hmore⟩
    by_cases hn : n = 0
    · subst hn
      exact hmore rfl
    · exact head_digitsOf (Nat.lt_succ_self n) hn [] hhead
  rw [arrayIndex?, if_neg hzero, unsigned?, if_neg hne, hvalue]

/-- The value a token picks from another one. -/
def member : JsonDoc ν → JsString → Option (JsonDoc ν)
  | .obj fields, key => lookup fields key
  | .arr items, token => (arrayIndex? token).bind fun n => items[n]?
  | _, _ => none

/-- The value a pointer points at. -/
def resolve (doc : JsonDoc ν) (pointer : JsString) : Option (JsonDoc ν) :=
  (tokens? pointer).bind fun tokens => tokens.foldlM member doc

@[simp] theorem resolve_nil (doc : JsonDoc ν) : resolve doc [] = some doc := rfl

/-- **A member is found where its pointer says.** -/
theorem resolve_child {doc holder : JsonDoc ν} {base : JsString}
    (h : resolve doc base = some holder) (key : JsString) :
    resolve doc (child base key) = member holder key := by
  obtain ⟨tokens, htokens, hholder⟩ := Option.bind_eq_some_iff.1 h
  rw [resolve, tokens?_child htokens, Option.bind_some, List.foldlM_append, hholder]
  simp

/-- An element is found where its index says. -/
theorem member_decimal (items : List (JsonDoc ν)) (n : ℕ) :
    member (.arr items) (decimal n) = items[n]? := by
  rw [member, arrayIndex?_decimal, Option.bind_some]

theorem lookup_eq_some_of_mem {fields : List (JsString × JsonDoc ν)} {key : JsString}
    (h : key ∈ fields.map Prod.fst) : ∃ value, lookup fields key = some value := by
  obtain ⟨field, hfield, rfl⟩ := List.mem_map.1 h
  have hfound : (fields.find? fun f => f.1 == field.1).isSome = true := by
    rw [List.find?_isSome]
    exact ⟨field, hfield, by simp⟩
  obtain ⟨found, hfound⟩ := Option.isSome_iff_exists.1 hfound
  exact ⟨found.2, by rw [lookup, hfound, Option.map_some]⟩

end JsonPointer
