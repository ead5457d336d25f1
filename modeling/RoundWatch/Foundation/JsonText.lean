import RoundWatch.Foundation.Text

/-!
# JSON texts

The text that `JSON.stringify` makes of a document, and the reading of it back.

* `JsonDoc` — documents over any type of numbers;
* `quote` — strings, with the escapes of well-formed `JSON.stringify`;
* `NumberFormat` — numbers that can be written and read back;
* `stringify`, `parse` and `parse_stringify` — a document survives its text, so
  `stringify_injective`;
* `JsonDoc.folded`, `parseValue` — the value of a text, where an object may repeat a name.
-/

open JsText

/-- A JSON document. -/
inductive JsonDoc (ν : Type) where
  | null
  | bool (b : Bool)
  | num (n : ν)
  | str (s : JsString)
  | arr (items : List (JsonDoc ν))
  | obj (fields : List (JsString × JsonDoc ν))

namespace JsonText

/-! ## Strings -/

/-- A hexadecimal digit, in lower case. -/
def hexDigit (d : ℕ) : UInt16 := if d < 10 then UInt16.ofNat (48 + d) else UInt16.ofNat (87 + d)

/-- `\uXXXX`. -/
def hexEscape (u : UInt16) : JsString :=
  [92, 117, hexDigit (u.toNat / 4096), hexDigit (u.toNat / 256 % 16),
    hexDigit (u.toNat / 16 % 16), hexDigit (u.toNat % 16)]

/-- The text of a code unit that is not part of a surrogate pair. -/
def escapeUnit (u : UInt16) : JsString :=
  if u = 34 ∨ u = 92 then [92, u]
  else if u = 8 then [92, 98]
  else if u = 9 then [92, 116]
  else if u = 10 then [92, 110]
  else if u = 12 then [92, 102]
  else if u = 13 then [92, 114]
  else if u < 32 ∨ isHigh u = true ∨ isLow u = true then hexEscape u
  else [u]

/-- The text between the quotation marks. -/
def escape : JsString → JsString
  | [] => []
  | [u] => escapeUnit u
  | u :: v :: rest =>
      if isHigh u && isLow v then u :: v :: escape rest
      else escapeUnit u ++ escape (v :: rest)

/-- `JSON.stringify` of a string. -/
def quote (s : JsString) : JsString := 34 :: escape s ++ [34]

/-- Four hexadecimal digits. -/
def readHex : JsString → Option (UInt16 × JsString)
  | a :: b :: c :: d :: rest => do
      let a ← digitValue? 16 a
      let b ← digitValue? 16 b
      let c ← digitValue? 16 c
      let d ← digitValue? 16 d
      some (UInt16.ofNat (a * 4096 + b * 256 + c * 16 + d), rest)
  | _ => none

/-- One code unit of a string. -/
def readUnit : JsString → Option (UInt16 × JsString)
  | 92 :: c :: rest =>
      if c = 34 ∨ c = 92 ∨ c = 47 then some (c, rest)
      else if c = 98 then some (8, rest)
      else if c = 116 then some (9, rest)
      else if c = 110 then some (10, rest)
      else if c = 102 then some (12, rest)
      else if c = 114 then some (13, rest)
      else if c = 117 then readHex rest
      else none
  | u :: rest => if u < 32 ∨ u = 34 ∨ u = 92 then none else some (u, rest)
  | [] => none

/-- A string behind its opening mark, up to the closing one. -/
def readString : ℕ → JsString → Option (JsString × JsString)
  | 0, _ => none
  | n + 1, text =>
      if text.head? = some 34 then some ([], text.tail)
      else do
        let (u, rest) ← readUnit text
        let (us, rest) ← readString n rest
        some (u :: us, rest)

theorem digitValue?_hexDigit {d : ℕ} (h : d < 16) : digitValue? 16 (hexDigit d) = some d := by
  revert h
  revert d
  decide

theorem readHex_hexEscape (u : UInt16) (rest : JsString) :
    readHex ([hexDigit (u.toNat / 4096), hexDigit (u.toNat / 256 % 16),
      hexDigit (u.toNat / 16 % 16), hexDigit (u.toNat % 16)] ++ rest) = some (u, rest) := by
  have hlt := u.toNat_lt
  have hvalue : u.toNat / 4096 * 4096 + u.toNat / 256 % 16 * 256 + u.toNat / 16 % 16 * 16 +
      u.toNat % 16 = u.toNat := by omega
  simp only [readHex, List.cons_append, List.nil_append,
    digitValue?_hexDigit (show u.toNat / 4096 < 16 by omega),
    digitValue?_hexDigit (show u.toNat / 256 % 16 < 16 by omega),
    digitValue?_hexDigit (show u.toNat / 16 % 16 < 16 by omega),
    digitValue?_hexDigit (show u.toNat % 16 < 16 by omega), Option.bind_eq_bind, Option.bind_some,
    hvalue, UInt16.ofNat_toNat]

/-- The text `p` reads as the code unit `u`, and does not end the string. -/
def Spells (p : JsString) (u : UInt16) : Prop :=
  p.head? ≠ some 34 ∧ p ≠ [] ∧ ∀ rest, readUnit (p ++ rest) = some (u, rest)

theorem readUnit_plain {u : UInt16} (h : ¬(u < 32 ∨ u = 34 ∨ u = 92)) (rest : JsString) :
    readUnit (u :: rest) = some (u, rest) := by
  have hne : u ≠ 92 := fun heq => h (Or.inr (Or.inr heq))
  unfold readUnit
  split
  · rename_i heq
    exact absurd (List.cons.inj heq).1 hne
  · rename_i heq
    cases heq
    rw [if_neg h]
  · rename_i heq
    cases heq

theorem spells_plain {u : UInt16} (h : ¬(u < 32 ∨ u = 34 ∨ u = 92)) : Spells [u] u := by
  refine ⟨?_, by simp, readUnit_plain h⟩
  have hne : u ≠ 34 := fun heq => h (Or.inr (Or.inl heq))
  simpa using hne

theorem not_special_of_surrogate {u : UInt16} (h : isHigh u = true ∨ isLow u = true) :
    ¬(u < 32 ∨ u = 34 ∨ u = 92) := by
  simp only [isHigh, isLow, Bool.and_eq_true, decide_eq_true_eq, UInt16.le_iff_toNat_le] at h
  rintro (hlt | rfl | rfl)
  · rw [UInt16.lt_iff_toNat_lt] at hlt
    have h₁ : (0xD800 : UInt16).toNat = 0xD800 := rfl
    have h₂ : (0xDC00 : UInt16).toNat = 0xDC00 := rfl
    have h₃ : (32 : UInt16).toNat = 32 := rfl
    omega
  · revert h
    decide
  · revert h
    decide

theorem spells_escapeUnit (u : UInt16) : Spells (escapeUnit u) u := by
  unfold escapeUnit
  split
  · rename_i h
    refine ⟨by simp, by simp, fun rest => ?_⟩
    rcases h with rfl | rfl <;> rfl
  split
  · rename_i h
    subst h
    exact ⟨by simp, by simp, fun _ => rfl⟩
  split
  · rename_i h
    subst h
    exact ⟨by simp, by simp, fun _ => rfl⟩
  split
  · rename_i h
    subst h
    exact ⟨by simp, by simp, fun _ => rfl⟩
  split
  · rename_i h
    subst h
    exact ⟨by simp, by simp, fun _ => rfl⟩
  split
  · rename_i h
    subst h
    exact ⟨by simp, by simp, fun _ => rfl⟩
  split
  · refine ⟨by simp [hexEscape], by simp [hexEscape], fun rest => ?_⟩
    exact readHex_hexEscape u rest
  · rename_i hmark _ _ _ _ _ hplain
    simp only [not_or] at hmark hplain
    exact spells_plain fun h => by
      rcases h with h | h | h
      · exact hplain.1 h
      · exact hmark.1 h
      · exact hmark.2 h

theorem readString_spelled {p : JsString} {u : UInt16} (h : Spells p u) {n : ℕ}
    {text : JsString} {result : JsString × JsString} (hrest : readString n text = some result) :
    readString (n + 1) (p ++ text) = some (u :: result.1, result.2) := by
  obtain ⟨hhead, hne, hread⟩ := h
  rw [readString, List.head?_append_of_ne_nil _ hne, if_neg hhead, hread]
  simp [hrest]

/-- A string is read back from its text. -/
theorem readString_escape (s rest : JsString) {n : ℕ} (h : s.length < n) :
    readString n (escape s ++ 34 :: rest) = some (s, rest) := by
  induction s using escape.induct generalizing n with
  | case1 =>
      obtain ⟨n, rfl⟩ : ∃ m, n = m + 1 := ⟨n - 1, by simp at h; omega⟩
      rfl
  | case2 u =>
      obtain ⟨n, rfl⟩ : ∃ m, n = m + 2 := ⟨n - 2, by simp at h; omega⟩
      have hend : readString (n + 1) (34 :: rest) = some ([], rest) := rfl
      exact readString_spelled (spells_escapeUnit u) hend
  | case3 u v s hpair ih =>
      simp only [List.length_cons] at h
      obtain ⟨n, rfl⟩ : ∃ m, n = m + 2 := ⟨n - 2, by omega⟩
      have hpair' := hpair
      rw [Bool.and_eq_true] at hpair'
      have hu := spells_plain (not_special_of_surrogate (Or.inl hpair'.1))
      have hv := spells_plain (not_special_of_surrogate (Or.inr hpair'.2))
      rw [escape, if_pos hpair]
      exact readString_spelled hu (readString_spelled hv (ih (by omega)))
  | case4 u v s hpair ih =>
      simp only [List.length_cons] at h ih
      obtain ⟨n, rfl⟩ : ∃ m, n = m + 1 := ⟨n - 1, by omega⟩
      rw [escape, if_neg hpair, List.append_assoc]
      exact readString_spelled (spells_escapeUnit u) (ih (by omega))

theorem length_escape (s : JsString) : s.length ≤ (escape s).length := by
  have hunit : ∀ u, 1 ≤ (escapeUnit u).length := fun u =>
    List.length_pos_of_ne_nil (spells_escapeUnit u).2.1
  induction s using escape.induct with
  | case1 => exact Nat.le_refl 0
  | case2 u => exact hunit u
  | case3 u v s hpair ih =>
      rw [escape, if_pos hpair]
      simp only [List.length_cons]
      omega
  | case4 u v s hpair ih =>
      have hu := hunit u
      rw [escape, if_neg hpair]
      simp only [List.length_cons, List.length_append] at ih ⊢
      omega

/-! ## Numbers -/

/-- What stands behind a number in a document. -/
def NumberEnd (next : Option UInt16) : Prop := ∀ u, next = some u → u = 44 ∨ u = 93 ∨ u = 125

theorem numberEnd_none : NumberEnd none := fun _ h => by cases h

theorem numberEnd_mark {u : UInt16} (h : u = 44 ∨ u = 93 ∨ u = 125) : NumberEnd (some u) :=
  fun _ hu => Option.some.inj hu ▸ h

/-- Numbers that survive their text. -/
structure NumberFormat (ν : Type) where
  write : ν → JsString
  read : JsString → Option (ν × JsString)
  starts : ∀ n, ∃ u rest, write n = u :: rest ∧ (u = 45 ∨ 48 ≤ u.toNat ∧ u.toNat ≤ 57)
  read_write : ∀ n rest, NumberEnd rest.head? → read (write n ++ rest) = some (n, rest)

/-- Documents without numbers. -/
def noNumbers : NumberFormat Empty where
  write n := nomatch n
  read _ := none
  starts n := nomatch n
  read_write n := nomatch n

/-! ## Documents -/

variable {ν : Type} (fmt : NumberFormat ν)

mutual

/-- `JSON.stringify`. -/
def stringify : JsonDoc ν → JsString
  | .null => js "null"
  | .bool true => js "true"
  | .bool false => js "false"
  | .num n => fmt.write n
  | .str s => quote s
  | .arr items => 91 :: stringifyItems items
  | .obj fields => 123 :: stringifyFields fields

/-- The items of an array, and its end. -/
def stringifyItems : List (JsonDoc ν) → JsString
  | [] => [93]
  | v :: rest => stringify v ++ stringifyMoreItems rest

def stringifyMoreItems : List (JsonDoc ν) → JsString
  | [] => [93]
  | v :: rest => 44 :: stringify v ++ stringifyMoreItems rest

/-- The fields of an object, and its end. -/
def stringifyFields : List (JsString × JsonDoc ν) → JsString
  | [] => [125]
  | (name, v) :: rest => quote name ++ 58 :: stringify v ++ stringifyMoreFields rest

def stringifyMoreFields : List (JsString × JsonDoc ν) → JsString
  | [] => [125]
  | (name, v) :: rest => 44 :: quote name ++ 58 :: stringify v ++ stringifyMoreFields rest

end

/-- White space of a document. -/
def isJsonSpace (u : UInt16) : Bool := u == 32 || u == 9 || u == 10 || u == 13

def skip (text : JsString) : JsString := text.dropWhile isJsonSpace

mutual

/-- A document at the beginning of a text. -/
def readValue : ℕ → JsString → Option (JsonDoc ν × JsString)
  | 0, _ => none
  | n + 1, text =>
      match skip text with
      | 110 :: 117 :: 108 :: 108 :: rest => some (.null, rest)
      | 116 :: 114 :: 117 :: 101 :: rest => some (.bool true, rest)
      | 102 :: 97 :: 108 :: 115 :: 101 :: rest => some (.bool false, rest)
      | 34 :: rest => (readString (rest.length + 1) rest).map fun p => (.str p.1, p.2)
      | 91 :: rest =>
          if (skip rest).head? = some 93 then some (.arr [], (skip rest).tail)
          else (readItems n (skip rest)).map fun p => (.arr p.1, p.2)
      | 123 :: rest =>
          if (skip rest).head? = some 125 then some (.obj [], (skip rest).tail)
          else (readFields n (skip rest)).map fun p => (.obj p.1, p.2)
      | other => (fmt.read other).map fun p => (.num p.1, p.2)

/-- The items of an array, up to its end. -/
def readItems : ℕ → JsString → Option (List (JsonDoc ν) × JsString)
  | 0, _ => none
  | n + 1, text =>
      (readValue n text).bind fun p =>
      match skip p.2 with
      | 44 :: rest => (readItems n rest).map fun q => (p.1 :: q.1, q.2)
      | 93 :: rest => some ([p.1], rest)
      | _ => none

/-- The fields of an object, up to its end. -/
def readFields : ℕ → JsString → Option (List (JsString × JsonDoc ν) × JsString)
  | 0, _ => none
  | n + 1, text =>
      match skip text with
      | 34 :: rest =>
          (readString (rest.length + 1) rest).bind fun name =>
          match skip name.2 with
          | 58 :: rest =>
              (readValue n rest).bind fun p =>
              match skip p.2 with
              | 44 :: rest => (readFields n rest).map fun q => ((name.1, p.1) :: q.1, q.2)
              | 125 :: rest => some ([(name.1, p.1)], rest)
              | _ => none
          | _ => none
      | _ => none

end

/-- `JSON.parse`, on a document that repeats no name. -/
def parse (text : JsString) : Option (JsonDoc ν) :=
  match readValue fmt text.length text with
  | some (v, rest) => if skip rest = [] then some v else none
  | none => none

/-! ## A document survives its text -/

variable {fmt}

theorem skip_cons {u : UInt16} (h : isJsonSpace u = false) (rest : JsString) :
    skip (u :: rest) = u :: rest := by
  rw [skip, List.dropWhile_cons_of_neg (by simp [h])]

/-- The first code unit of a document is no space and closes nothing. -/
theorem stringify_starts (v : JsonDoc ν) :
    ∃ u rest, stringify fmt v = u :: rest ∧ isJsonSpace u = false ∧ u ≠ 93 := by
  cases v with
  | null => exact ⟨110, _, rfl, by decide, by decide⟩
  | bool b => cases b <;> exact ⟨_, _, rfl, by decide, by decide⟩
  | num n =>
      obtain ⟨u, rest, heq, hu⟩ := fmt.starts n
      rw [stringify]
      refine ⟨u, rest, heq, ?_, ?_⟩
      · rw [← Bool.not_eq_true]
        intro hspace
        simp only [isJsonSpace, Bool.or_eq_true, beq_iff_eq] at hspace
        rcases hspace with ((rfl | rfl) | rfl) | rfl <;> revert hu <;> decide
      · rintro rfl
        revert hu
        decide
  | str s => exact ⟨34, _, rfl, by decide, by decide⟩
  | arr items => exact ⟨91, _, rfl, by decide, by decide⟩
  | obj fields => exact ⟨123, _, rfl, by decide, by decide⟩

/-- A document does not begin with a byte order mark. -/
theorem stringify_unmarked (v : JsonDoc ν) : (stringify fmt v).head? ≠ some 0xFEFF := by
  cases v with
  | null => exact of_decide_eq_true rfl
  | bool b => cases b <;> exact of_decide_eq_true rfl
  | num n =>
      obtain ⟨u, rest, heq, hu⟩ := fmt.starts n
      rw [stringify, heq, List.head?_cons]
      intro hmark
      obtain rfl := Option.some.inj hmark
      revert hu
      decide
  | str s => simp [stringify, quote]
  | arr items => simp [stringify]
  | obj fields => simp [stringify]

theorem skip_stringify (v : JsonDoc ν) (rest : JsString) :
    skip (stringify fmt v ++ rest) = stringify fmt v ++ rest := by
  obtain ⟨u, text, heq, hspace, -⟩ := @stringify_starts ν fmt v
  rw [heq]
  exact skip_cons hspace _

/-- The document is read back from its text, whatever ends it. -/
def Survives (fmt : NumberFormat ν) (v : JsonDoc ν) : Prop :=
  ∀ n rest, (stringify fmt v).length ≤ n → NumberEnd rest.head? →
    readValue fmt n (stringify fmt v ++ rest) = some (v, rest)

theorem readString_quote (s rest : JsString) :
    readString ((escape s ++ 34 :: rest).length + 1) (escape s ++ 34 :: rest) = some (s, rest) := by
  have hlength := length_escape s
  refine readString_escape s rest ?_
  rw [List.length_append]
  omega

theorem survives_num (m : ν) : Survives fmt (.num m) := by
  intro n rest hn hend
  obtain ⟨u, text, heq, hu⟩ := fmt.starts m
  obtain ⟨n, rfl⟩ : ∃ k, n = k + 1 := by
    rw [stringify, heq, List.length_cons] at hn
    exact ⟨n - 1, by omega⟩
  rw [readValue, skip_stringify, stringify]
  have hread := fmt.read_write m rest hend
  rw [heq, List.cons_append] at hread ⊢
  have hne : u ≠ 110 ∧ u ≠ 116 ∧ u ≠ 102 ∧ u ≠ 34 ∧ u ≠ 91 ∧ u ≠ 123 := by
    refine ⟨?_, ?_, ?_, ?_, ?_, ?_⟩ <;> rintro rfl <;> revert hu <;> decide
  split
  all_goals
    rename_i hcases
    first
    | exact absurd (List.cons.inj hcases).1 (by simp [hne])
    | rw [hread]
      rfl

theorem readItems_stringify {v : JsonDoc ν} {more : List (JsonDoc ν)} (hv : Survives fmt v)
    (hmore : ∀ w ∈ more, Survives fmt w) {n : ℕ} {rest : JsString}
    (hn : (stringify fmt v ++ stringifyMoreItems fmt more).length ≤ n) :
    readItems fmt n (stringify fmt v ++ (stringifyMoreItems fmt more ++ rest)) =
      some (v :: more, rest) := by
  induction more generalizing n v with
  | nil =>
      rw [List.length_append] at hn
      obtain ⟨n, rfl⟩ : ∃ k, n = k + 1 := ⟨n - 1, by simp [stringifyMoreItems] at hn; omega⟩
      simp only [stringifyMoreItems, List.length_singleton] at hn
      show readItems fmt (n + 1) (stringify fmt v ++ 93 :: rest) = _
      rw [readItems, hv n (93 :: rest) (by omega) (numberEnd_mark (Or.inr (Or.inl rfl)))]
      rfl
  | cons w more ih =>
      rw [stringifyMoreItems, List.length_append, List.cons_append, List.length_cons] at hn
      obtain ⟨n, rfl⟩ : ∃ k, n = k + 1 := ⟨n - 1, by omega⟩
      have hitems := @ih w (hmore w (List.mem_cons_self ..))
        (fun x hx => hmore x (List.mem_cons_of_mem _ hx)) n (by omega)
      rw [stringifyMoreItems, List.cons_append, List.cons_append, List.append_assoc, readItems,
        hv n (44 :: _) (by omega) (numberEnd_mark (Or.inl rfl))]
      simp only [Option.bind_some, skip_cons (show isJsonSpace 44 = false by decide), hitems,
        Option.map_some]

theorem survives_arr {items : List (JsonDoc ν)} (h : ∀ v ∈ items, Survives fmt v) :
    Survives fmt (.arr items) := by
  intro n rest hn _
  rw [stringify, List.length_cons] at hn
  obtain ⟨n, rfl⟩ : ∃ k, n = k + 1 := ⟨n - 1, by omega⟩
  rw [readValue, skip_stringify, stringify, List.cons_append]
  cases items with
  | nil => rfl
  | cons v more =>
      obtain ⟨u, text, heq, -, hne⟩ := @stringify_starts ν fmt v
      have hread : readItems fmt n (stringify fmt v ++ (stringifyMoreItems fmt more ++ rest)) =
          some (v :: more, rest) :=
        readItems_stringify (h v (List.mem_cons_self ..))
          (fun w hw => h w (List.mem_cons_of_mem _ hw)) (Nat.le_of_succ_le_succ hn)
      have hhead : (stringify fmt v ++ (stringifyMoreItems fmt more ++ rest)).head? ≠ some 93 := by
        rw [heq]
        simpa using hne
      simp only [stringifyItems, List.append_assoc, skip_stringify, if_neg hhead, hread,
        Option.map_some]

theorem readFields_stringify {name : JsString} {v : JsonDoc ν}
    {more : List (JsString × JsonDoc ν)} (hv : Survives fmt v)
    (hmore : ∀ p ∈ more, Survives fmt p.2) {n : ℕ} {rest : JsString}
    (hn : (quote name ++ 58 :: stringify fmt v ++ stringifyMoreFields fmt more).length ≤ n) :
    readFields fmt n
        (quote name ++ 58 :: stringify fmt v ++ (stringifyMoreFields fmt more ++ rest)) =
      some ((name, v) :: more, rest) := by
  induction more generalizing n name v with
  | nil =>
      rw [List.length_append, List.length_append, List.length_cons] at hn
      obtain ⟨n, rfl⟩ : ∃ k, n = k + 1 := ⟨n - 1, by omega⟩
      show readFields fmt (n + 1) (34 :: (escape name ++ [34]) ++ 58 :: stringify fmt v ++
        125 :: rest) = _
      have hname := readString_quote name (58 :: (stringify fmt v ++ 125 :: rest))
      rw [readFields, List.cons_append, List.cons_append, skip_cons (by decide)]
      simp only [List.append_assoc, List.cons_append, List.nil_append, hname, Option.bind_some,
        skip_cons (show isJsonSpace 58 = false by decide),
        hv n (125 :: rest) (by omega) (numberEnd_mark (Or.inr (Or.inr rfl)))]
      rfl
  | cons p more ih =>
      obtain ⟨next, w⟩ := p
      simp only [List.length_append, List.length_cons, stringifyMoreFields] at hn
      obtain ⟨n, rfl⟩ : ∃ k, n = k + 1 := ⟨n - 1, by omega⟩
      have hfields := @ih next w (hmore _ (List.mem_cons_self ..))
        (fun x hx => hmore x (List.mem_cons_of_mem _ hx)) n (by
          simp only [List.length_append, List.length_cons]
          omega)
      obtain ⟨tail, htail⟩ : ∃ tail, quote next ++ 58 :: stringify fmt w ++
        (stringifyMoreFields fmt more ++ rest) = tail := ⟨_, rfl⟩
      have hname := readString_quote name (58 :: (stringify fmt v ++ 44 :: tail))
      have htext : quote name ++ 58 :: stringify fmt v ++
          (stringifyMoreFields fmt ((next, w) :: more) ++ rest) =
          34 :: (escape name ++ 34 :: 58 :: (stringify fmt v ++ 44 :: tail)) := by
        simp [quote, stringifyMoreFields, ← htail]
      rw [htail] at hfields
      rw [htext, readFields, skip_cons (by decide)]
      simp only [hname, Option.bind_some, skip_cons (show isJsonSpace 58 = false by decide),
        hv n (44 :: tail) (by omega) (numberEnd_mark (Or.inl rfl)),
        skip_cons (show isJsonSpace 44 = false by decide), hfields, Option.map_some]

theorem survives_obj {fields : List (JsString × JsonDoc ν)} (h : ∀ p ∈ fields, Survives fmt p.2) :
    Survives fmt (.obj fields) := by
  intro n rest hn _
  rw [stringify, List.length_cons] at hn
  obtain ⟨n, rfl⟩ : ∃ k, n = k + 1 := ⟨n - 1, by omega⟩
  rw [readValue, skip_stringify, stringify, List.cons_append]
  cases fields with
  | nil => rfl
  | cons p more =>
      obtain ⟨name, v⟩ := p
      obtain ⟨text, htext⟩ : ∃ text, quote name ++ 58 :: stringify fmt v ++
          (stringifyMoreFields fmt more ++ rest) = 34 :: text := ⟨_, rfl⟩
      have hread : readFields fmt n (34 :: text) = some ((name, v) :: more, rest) := by
        rw [← htext]
        exact readFields_stringify (h (name, v) (List.mem_cons_self ..))
          (fun q hq => h q (List.mem_cons_of_mem _ hq)) (Nat.le_of_succ_le_succ hn)
      have hfields : stringifyFields fmt ((name, v) :: more) ++ rest = 34 :: text := by
        rw [stringifyFields, List.append_assoc, htext]
      simp only [hfields, skip_cons (show isJsonSpace 34 = false by decide), hread,
        Option.map_some]
      rfl

theorem length_stringify_pos (v : JsonDoc ν) : 1 ≤ (stringify fmt v).length := by
  obtain ⟨u, text, heq, -, -⟩ := @stringify_starts ν fmt v
  rw [heq, List.length_cons]
  omega

/-- **A document survives its text.** -/
theorem survives : ∀ v : JsonDoc ν, Survives fmt v
  | .null => fun n rest hn _ => by
      have hpos := @length_stringify_pos ν fmt .null
      obtain ⟨n, rfl⟩ : ∃ k, n = k + 1 := ⟨n - 1, by omega⟩
      rfl
  | .bool b => fun n rest hn _ => by
      have hpos := @length_stringify_pos ν fmt (.bool b)
      obtain ⟨n, rfl⟩ : ∃ k, n = k + 1 := ⟨n - 1, by omega⟩
      cases b <;> rfl
  | .num m => survives_num m
  | .str s => fun n rest hn _ => by
      have hpos := @length_stringify_pos ν fmt (.str s)
      obtain ⟨n, rfl⟩ : ∃ k, n = k + 1 := ⟨n - 1, by omega⟩
      have hread := readString_quote s rest
      rw [readValue, skip_stringify, stringify, quote]
      simp only [List.cons_append, List.append_assoc, List.nil_append, hread, Option.map_some]
  | .arr items => survives_arr fun v _ => survives v
  | .obj fields => survives_obj fun p _ => survives p.2
decreasing_by
  · have hlt := List.sizeOf_lt_of_mem ‹v ∈ items›
    simp only [JsonDoc.arr.sizeOf_spec]
    omega
  · have hlt := List.sizeOf_lt_of_mem ‹p ∈ fields›
    have hpair : sizeOf p = 1 + sizeOf p.1 + sizeOf p.2 := rfl
    simp only [JsonDoc.obj.sizeOf_spec]
    omega

/-- **`JSON.parse` undoes `JSON.stringify`.** -/
theorem parse_stringify (v : JsonDoc ν) : parse fmt (stringify fmt v) = some v := by
  have hread := survives v (stringify fmt v).length [] (Nat.le_refl _) numberEnd_none
  rw [List.append_nil] at hread
  simp [parse, hread, skip]

/-- Two documents with one text are one. -/
theorem stringify_injective : Function.Injective (stringify fmt) := by
  intro v w h
  have hparse := congrArg (parse fmt) h
  rw [parse_stringify, parse_stringify] at hparse
  exact Option.some.inj hparse

/-! ## Repeated names -/

end JsonText

namespace JsonDoc

/-- A field in front of the others: a later one of its name gives it its value. -/
def putField {α : Type} (name : JsString) (v : α) (fields : List (JsString × α)) :
    List (JsString × α) :=
  (name, ((fields.find? fun field => field.1 == name).map Prod.snd).getD v) ::
    fields.filter fun field => field.1 != name

theorem putField_of_notMem {α : Type} {name : JsString} {fields : List (JsString × α)}
    (h : name ∉ fields.map Prod.fst) (v : α) : putField name v fields = (name, v) :: fields := by
  have hother : ∀ field ∈ fields, (field.1 == name) = false := fun field hfield => by
    rw [beq_eq_false_iff_ne]
    rintro rfl
    exact h (List.mem_map_of_mem hfield)
  have hnone : fields.find? (fun field => field.1 == name) = none :=
    List.find?_eq_none.2 fun field hfield => by simp [hother field hfield]
  have hall : fields.filter (fun field => field.1 != name) = fields :=
    List.filter_eq_self.2 fun field hfield => by simp [bne, hother field hfield]
  rw [putField, hnone, hall]
  rfl

mutual

/-- The value of a document: of the fields of one name the last one counts, in the place of
the first.  (An engine lists names that are array indices first; a document keeps its
order.) -/
def folded {ν : Type} : JsonDoc ν → JsonDoc ν
  | .arr items => .arr (foldedItems items)
  | .obj fields => .obj (foldedFields fields)
  | v => v

def foldedItems {ν : Type} : List (JsonDoc ν) → List (JsonDoc ν)
  | [] => []
  | v :: more => v.folded :: foldedItems more

def foldedFields {ν : Type} : List (JsString × JsonDoc ν) → List (JsString × JsonDoc ν)
  | [] => []
  | (name, v) :: more => putField name v.folded (foldedFields more)

end

mutual

/-- No object of the document repeats a name. -/
def Unrepeated {ν : Type} : JsonDoc ν → Prop
  | .arr items => UnrepeatedItems items
  | .obj fields => (fields.map Prod.fst).Nodup ∧ UnrepeatedFields fields
  | _ => True

def UnrepeatedItems {ν : Type} : List (JsonDoc ν) → Prop
  | [] => True
  | v :: more => v.Unrepeated ∧ UnrepeatedItems more

def UnrepeatedFields {ν : Type} : List (JsString × JsonDoc ν) → Prop
  | [] => True
  | (_, v) :: more => v.Unrepeated ∧ UnrepeatedFields more

end

mutual

/-- A document that repeats no name is its value. -/
theorem folded_of_unrepeated {ν : Type} : ∀ {v : JsonDoc ν}, v.Unrepeated → v.folded = v
  | .null, _ => rfl
  | .bool _, _ => rfl
  | .num _, _ => rfl
  | .str _, _ => rfl
  | .arr _, h => congrArg JsonDoc.arr (foldedItems_of_unrepeated h)
  | .obj _, h => congrArg JsonDoc.obj (foldedFields_of_unrepeated h.1 h.2)

theorem foldedItems_of_unrepeated {ν : Type} : ∀ {items : List (JsonDoc ν)},
    UnrepeatedItems items → foldedItems items = items
  | [], _ => rfl
  | _ :: _, h => congrArg₂ List.cons (folded_of_unrepeated h.1) (foldedItems_of_unrepeated h.2)

theorem foldedFields_of_unrepeated {ν : Type} : ∀ {fields : List (JsString × JsonDoc ν)},
    (fields.map Prod.fst).Nodup → UnrepeatedFields fields → foldedFields fields = fields
  | [], _, _ => rfl
  | (name, v) :: more, hnodup, h => by
      rw [List.map_cons, List.nodup_cons] at hnodup
      rw [foldedFields, foldedFields_of_unrepeated hnodup.2 h.2, folded_of_unrepeated h.1,
        putField_of_notMem hnodup.1]

end

theorem unrepeatedFields_iff {ν : Type} {fields : List (JsString × JsonDoc ν)} :
    UnrepeatedFields fields ↔ ∀ field ∈ fields, field.2.Unrepeated := by
  induction fields with
  | nil => simp [UnrepeatedFields]
  | cons field fields ih => rw [UnrepeatedFields, ih, List.forall_mem_cons]

theorem unrepeatedFields_putField {ν : Type} {name : JsString} {v : JsonDoc ν}
    {fields : List (JsString × JsonDoc ν)} (hv : v.Unrepeated) (h : UnrepeatedFields fields) :
    UnrepeatedFields (putField name v fields) := by
  rw [unrepeatedFields_iff] at h
  rw [putField, UnrepeatedFields, unrepeatedFields_iff]
  refine ⟨?_, fun field hfield => h field (List.mem_of_mem_filter hfield)⟩
  cases hfind : fields.find? fun field => field.1 == name with
  | none => exact hv
  | some field => exact h field (List.mem_of_find?_eq_some hfind)

theorem nodup_putField {α : Type} (name : JsString) (v : α) {fields : List (JsString × α)}
    (h : (fields.map Prod.fst).Nodup) : ((putField name v fields).map Prod.fst).Nodup := by
  rw [putField, List.map_cons, List.nodup_cons]
  refine ⟨fun hmem => ?_, h.sublist (List.filter_sublist.map Prod.fst)⟩
  obtain ⟨field, hfield, hname⟩ := List.mem_map.1 hmem
  simp [hname] at hfield

mutual

/-- A value repeats no name. -/
theorem unrepeated_folded {ν : Type} : ∀ v : JsonDoc ν, v.folded.Unrepeated
  | .arr items => unrepeated_foldedItems items
  | .obj fields => ⟨nodup_foldedFields fields, unrepeated_foldedFields fields⟩
  | .null | .bool _ | .num _ | .str _ => trivial

theorem unrepeated_foldedItems {ν : Type} : ∀ items : List (JsonDoc ν),
    UnrepeatedItems (foldedItems items)
  | [] => trivial
  | v :: more => ⟨unrepeated_folded v, unrepeated_foldedItems more⟩

theorem unrepeated_foldedFields {ν : Type} : ∀ fields : List (JsString × JsonDoc ν),
    UnrepeatedFields (foldedFields fields)
  | [] => trivial
  | (_, v) :: more =>
      unrepeatedFields_putField (unrepeated_folded v) (unrepeated_foldedFields more)

theorem nodup_foldedFields {ν : Type} : ∀ fields : List (JsString × JsonDoc ν),
    ((foldedFields fields).map Prod.fst).Nodup
  | [] => List.nodup_nil
  | (name, v) :: more => nodup_putField name v.folded (nodup_foldedFields more)

end

example : (JsonDoc.obj [([97], .null), ([98], .bool true), ([97], .bool false)] :
    JsonDoc Empty).folded = .obj [([97], .bool false), ([98], .bool true)] := by
  simp [folded, foldedFields, putField]

end JsonDoc

namespace JsonText

variable {ν : Type} {fmt : NumberFormat ν}

/-- `JSON.parse`. -/
def parseValue (fmt : NumberFormat ν) (text : JsString) : Option (JsonDoc ν) :=
  (parse fmt text).map JsonDoc.folded

theorem parseValue_stringify (v : JsonDoc ν) : parseValue fmt (stringify fmt v) = some v.folded := by
  rw [parseValue, parse_stringify, Option.map_some]

/-! ## A text is well formed -/

/-- A text that keeps to itself: nothing that follows it pairs up with its end. -/
def Whole (t : JsString) : Prop := ∀ rest, toWellFormed (t ++ rest) = t ++ toWellFormed rest

theorem Whole.wellFormed {t : JsString} (h : Whole t) : WellFormed t := by
  have hnil := h []
  rw [List.append_nil] at hnil
  exact hnil.trans (List.append_nil t)

theorem whole_nil : Whole [] := fun _ => rfl

theorem Whole.append {t t' : JsString} (h : Whole t) (h' : Whole t') : Whole (t ++ t') := by
  intro rest
  rw [List.append_assoc, h, h', List.append_assoc]

theorem whole_unit {u : UInt16} (hhigh : isHigh u = false) (hlow : isLow u = false) :
    Whole [u] := by
  intro rest
  rw [List.singleton_append, toWellFormed_cons_plain hhigh, alone_of_plain hhigh hlow]
  rfl

/-- A code unit in front of a text that keeps to itself. -/
theorem Whole.cons {u : UInt16} {t : JsString} (h : Whole t) (hhigh : isHigh u = false)
    (hlow : isLow u = false) : Whole (u :: t) :=
  (whole_unit hhigh hlow).append h

theorem whole_plain {t : JsString} (h : ∀ u ∈ t, isHigh u = false ∧ isLow u = false) : Whole t := by
  induction t with
  | nil => exact whole_nil
  | cons u t ih =>
      obtain ⟨hhigh, hlow⟩ := h u (List.mem_cons_self ..)
      exact (ih fun v hv => h v (List.mem_cons_of_mem _ hv)).cons hhigh hlow

theorem whole_ascii {t : JsString} (h : (t.all fun u => !isHigh u && !isLow u) = true) : Whole t := by
  refine whole_plain fun u hu => ?_
  simpa using List.all_eq_true.1 h u hu

theorem hexDigit_plain (d : ℕ) (h : d < 16) :
    isHigh (hexDigit d) = false ∧ isLow (hexDigit d) = false := by
  revert d
  decide

theorem whole_hexEscape (u : UInt16) : Whole (hexEscape u) := by
  have hlt := u.toNat_lt
  refine whole_plain ?_
  intro v hv
  simp only [hexEscape, List.mem_cons, List.not_mem_nil, or_false] at hv
  rcases hv with rfl | rfl | rfl | rfl | rfl | rfl
  · decide
  · decide
  all_goals exact hexDigit_plain _ (by omega)

theorem whole_escapeUnit (u : UInt16) : Whole (escapeUnit u) := by
  unfold escapeUnit
  split_ifs with h1 h2 h3 h4 h5 h6 h7
  · refine whole_plain ?_
    intro v hv
    rcases h1 with rfl | rfl <;> simp only [List.mem_cons, List.not_mem_nil, or_false] at hv <;>
      rcases hv with rfl | rfl <;> decide
  all_goals try exact whole_ascii (by decide)
  · exact whole_hexEscape u
  · simp only [not_or, Bool.not_eq_true] at h7
    exact whole_unit h7.2.1 h7.2.2

theorem whole_escape (s : JsString) : Whole (escape s) := by
  induction s using escape.induct with
  | case1 => exact whole_nil
  | case2 u => exact whole_escapeUnit u
  | case3 u v rest h ih =>
      intro tail
      have hpair : (isHigh u && isLow v) = true := by simpa using h
      simp only [escape, hpair, if_true, List.cons_append, toWellFormed]
      rw [ih tail]
  | case4 u v rest h ih =>
      have hpair : ¬(isHigh u && isLow v) = true := by simpa using h
      rw [escape, if_neg hpair]
      exact (whole_escapeUnit u).append ih

theorem whole_quote (s : JsString) : Whole (quote s) :=
  ((whole_escape s).append (whole_ascii (by decide))).cons (by decide) (by decide)

variable (hnum : ∀ n, Whole (fmt.write n))

variable (fmt) in
theorem whole_moreItems {items : List (JsonDoc ν)} (h : ∀ v ∈ items, Whole (stringify fmt v)) :
    Whole (stringifyMoreItems fmt items) := by
  induction items with
  | nil => exact whole_unit (u := 93) (by decide) (by decide)
  | cons v items ih =>
      rw [stringifyMoreItems]
      exact ((h v (List.mem_cons_self ..)).append
        (ih fun w hw => h w (List.mem_cons_of_mem _ hw))).cons (by decide) (by decide)

variable (fmt) in
theorem whole_moreFields {fields : List (JsString × JsonDoc ν)}
    (h : ∀ p ∈ fields, Whole (stringify fmt p.2)) : Whole (stringifyMoreFields fmt fields) := by
  induction fields with
  | nil => exact whole_unit (u := 125) (by decide) (by decide)
  | cons p fields ih =>
      rw [stringifyMoreFields]
      have hrest := ih fun q hq => h q (List.mem_cons_of_mem _ hq)
      have hvalue := (h p (List.mem_cons_self ..)).cons (u := 58) (by decide) (by decide)
      exact (((whole_quote p.1).append hvalue).append hrest).cons (u := 44) (by decide) (by decide)

include hnum in
/-- A document's text has no unpaired surrogate: `JSON.stringify` escapes them. -/
theorem whole_stringify : ∀ v : JsonDoc ν, Whole (stringify fmt v)
  | .null => by
      rw [stringify]
      exact whole_ascii (by decide)
  | .bool b => by
      cases b <;> rw [stringify] <;> exact whole_ascii (by decide)
  | .num n => by
      rw [stringify]
      exact hnum n
  | .str s => by
      rw [stringify]
      exact whole_quote s
  | .arr [] => by
      rw [stringify, stringifyItems]
      exact whole_ascii (by decide)
  | .arr (v :: items) => by
      rw [stringify, stringifyItems]
      have hv := whole_stringify v
      have hitems := whole_moreItems fmt fun w (_ : w ∈ items) => whole_stringify w
      exact (hv.append hitems).cons (by decide) (by decide)
  | .obj [] => by
      rw [stringify, stringifyFields]
      exact whole_ascii (by decide)
  | .obj ((name, v) :: fields) => by
      rw [stringify, stringifyFields]
      have hv := whole_stringify v
      have hfields := whole_moreFields fmt fun p (_ : p ∈ fields) => whole_stringify p.2
      have hvalue := hv.cons (u := 58) (by decide) (by decide)
      exact (((whole_quote name).append hvalue).append hfields).cons (u := 123)
        (by decide) (by decide)
termination_by v => sizeOf v
decreasing_by
  · simp only [JsonDoc.arr.sizeOf_spec, List.cons.sizeOf_spec]
    omega
  · have hlt := List.sizeOf_lt_of_mem ‹w ∈ items›
    simp only [JsonDoc.arr.sizeOf_spec, List.cons.sizeOf_spec]
    omega
  · simp only [JsonDoc.obj.sizeOf_spec, List.cons.sizeOf_spec, Prod.mk.sizeOf_spec]
    omega
  · have hlt := List.sizeOf_lt_of_mem ‹p ∈ fields›
    have hpair : sizeOf p = 1 + sizeOf p.1 + sizeOf p.2 := rfl
    simp only [JsonDoc.obj.sizeOf_spec, List.cons.sizeOf_spec, Prod.mk.sizeOf_spec]
    omega

end JsonText
