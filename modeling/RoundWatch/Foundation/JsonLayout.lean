import RoundWatch.Foundation.Decimals
import RoundWatch.Foundation.JsonPointer

/-!
# Laid out JSON texts

`JSON.stringify` with an indentation writes the same document over more lines.

* `Layout` — the white space of a text, by depth;
* `layOut` — the text of a document in a layout, such as the `indented` ones;
* `parse_layOut` — **white space means nothing**: a document survives its text in every
  layout;
* `wholeNumbers` — numbers without a fraction.
-/

open JsText

namespace JsonText

/-! ## Layouts -/

/-- Nothing but white space. -/
def Blank (space : JsString) : Prop := ∀ u ∈ space, isJsonSpace u = true

/-- Where a text has white space. -/
structure Layout where
  /-- In front of an item or a field at a depth. -/
  lead : ℕ → JsString
  /-- In front of the mark that closes a value at a depth. -/
  close : ℕ → JsString
  /-- Behind the colon of a field. -/
  colon : JsString
  lead_blank : ∀ depth, Blank (lead depth)
  close_blank : ∀ depth, Blank (close depth)
  colon_blank : Blank colon

/-- A new line, and the indentation of a depth. -/
def newLine (width depth : ℕ) : JsString := 10 :: List.replicate (width * depth) 32

theorem newLine_blank (width depth : ℕ) : Blank (newLine width depth) := by
  intro u hu
  rcases List.mem_cons.1 hu with rfl | hu
  · rfl
  · rw [List.eq_of_mem_replicate hu]
    rfl

/-- The layout of `JSON.stringify(value, null, width)`. -/
def indented (width : ℕ) : Layout where
  lead := newLine width
  close := newLine width
  colon := [32]
  lead_blank := newLine_blank width
  close_blank := newLine_blank width
  colon_blank u hu := by
    rw [List.mem_singleton.1 hu]
    rfl

variable {ν : Type} (fmt : NumberFormat ν) (L : Layout)

mutual

/-- The text of a document at a depth; what is empty has no lines of its own. -/
def layOut : ℕ → JsonDoc ν → JsString
  | _, .null => js "null"
  | _, .bool true => js "true"
  | _, .bool false => js "false"
  | _, .num n => fmt.write n
  | _, .str s => quote s
  | _, .arr [] => [91, 93]
  | depth, .arr (v :: rest) =>
      91 :: L.lead (depth + 1) ++ layOut (depth + 1) v ++ layOutMoreItems depth rest
  | _, .obj [] => [123, 125]
  | depth, .obj ((name, v) :: rest) =>
      123 :: L.lead (depth + 1) ++ quote name ++ 58 :: L.colon ++ layOut (depth + 1) v ++
        layOutMoreFields depth rest

def layOutMoreItems : ℕ → List (JsonDoc ν) → JsString
  | depth, [] => L.close depth ++ [93]
  | depth, v :: rest =>
      44 :: L.lead (depth + 1) ++ layOut (depth + 1) v ++ layOutMoreItems depth rest

def layOutMoreFields : ℕ → List (JsString × JsonDoc ν) → JsString
  | depth, [] => L.close depth ++ [125]
  | depth, (name, v) :: rest =>
      44 :: L.lead (depth + 1) ++ quote name ++ 58 :: L.colon ++ layOut (depth + 1) v ++
        layOutMoreFields depth rest

end

/-! ## White space -/

theorem skip_blank {space : JsString} (h : Blank space) (text : JsString) :
    skip (space ++ text) = skip text :=
  List.dropWhile_append_of_pos h

theorem skip_blank_cons {space : JsString} (h : Blank space) {u : UInt16}
    (hu : isJsonSpace u = false) (text : JsString) : skip (space ++ u :: text) = u :: text := by
  rw [skip_blank h, skip_cons hu]

/-- A value is read behind white space. -/
theorem readValue_blank {space : JsString} (h : Blank space) (n : ℕ) (text : JsString) :
    readValue fmt n (space ++ text) = readValue fmt n text := by
  cases n with
  | zero => rfl
  | succ n => rw [readValue, readValue, skip_blank h]

theorem readItems_blank {space : JsString} (h : Blank space) (n : ℕ) (text : JsString) :
    readItems fmt n (space ++ text) = readItems fmt n text := by
  cases n with
  | zero => rfl
  | succ n => rw [readItems, readItems, readValue_blank fmt h]

theorem readFields_blank {space : JsString} (h : Blank space) (n : ℕ) (text : JsString) :
    readFields fmt n (space ++ text) = readFields fmt n text := by
  cases n with
  | zero => rfl
  | succ n => rw [readFields, readFields, skip_blank h]

/-- The end of a value in a laid out text. -/
def ValueEnd (next : Option UInt16) : Prop :=
  ∀ u, next = some u → u = 44 ∨ u = 93 ∨ u = 125 ∨ isJsonSpace u = true

/-- Behind white space comes a mark. -/
theorem valueEnd_blank {space : JsString} (h : Blank space) {u : UInt16}
    (hu : u = 44 ∨ u = 93 ∨ u = 125) (rest : JsString) :
    ValueEnd (space ++ u :: rest).head? := by
  intro v hv
  cases space with
  | nil =>
      obtain rfl : u = v := Option.some.inj hv
      rcases hu with hu | hu | hu
      · exact Or.inl hu
      · exact Or.inr (Or.inl hu)
      · exact Or.inr (Or.inr (Or.inl hu))
  | cons w space =>
      obtain rfl : w = v := Option.some.inj hv
      exact Or.inr (Or.inr (Or.inr (h w (List.mem_cons_self ..))))

/-- Numbers that are read back also in front of white space. -/
def Spaced : Prop :=
  ∀ n rest, ValueEnd rest.head? → fmt.read (fmt.write n ++ rest) = some (n, rest)

/-! ## A document survives its layout -/

variable {fmt L}

/-- The document is read back from its text, whatever ends it. -/
def SurvivesIn (fmt : NumberFormat ν) (L : Layout) (v : JsonDoc ν) : Prop :=
  ∀ depth n rest, (layOut fmt L depth v).length ≤ n → ValueEnd rest.head? →
    readValue fmt n (layOut fmt L depth v ++ rest) = some (v, rest)

/-- A document begins as it does without white space. -/
theorem layOut_starts (depth : ℕ) (v : JsonDoc ν) :
    ∃ u rest, layOut fmt L depth v = u :: rest ∧ isJsonSpace u = false ∧ u ≠ 93 := by
  cases v with
  | null => exact ⟨110, _, rfl, by decide, by decide⟩
  | bool b => cases b <;> exact ⟨_, _, rfl, by decide, by decide⟩
  | num n =>
      obtain ⟨u, rest, heq, hspace, hne⟩ := @stringify_starts ν fmt (.num n)
      rw [stringify] at heq
      rw [layOut]
      exact ⟨u, rest, heq, hspace, hne⟩
  | str s => exact ⟨34, _, rfl, by decide, by decide⟩
  | arr items => cases items <;> exact ⟨91, _, rfl, by decide, by decide⟩
  | obj fields => cases fields <;> exact ⟨123, _, rfl, by decide, by decide⟩

theorem skip_layOut (depth : ℕ) (v : JsonDoc ν) (rest : JsString) :
    skip (layOut fmt L depth v ++ rest) = layOut fmt L depth v ++ rest := by
  obtain ⟨u, text, heq, hspace, -⟩ := @layOut_starts ν fmt L depth v
  rw [heq]
  exact skip_cons hspace _

theorem length_layOut_pos (depth : ℕ) (v : JsonDoc ν) : 1 ≤ (layOut fmt L depth v).length := by
  obtain ⟨u, text, heq, -, -⟩ := @layOut_starts ν fmt L depth v
  rw [heq, List.length_cons]
  omega

theorem survivesIn_num (hspaced : Spaced fmt) (m : ν) : SurvivesIn fmt L (.num m) := by
  intro depth n rest hn hend
  obtain ⟨u, text, heq, hu⟩ := fmt.starts m
  obtain ⟨n, rfl⟩ : ∃ k, n = k + 1 := by
    rw [layOut, heq, List.length_cons] at hn
    exact ⟨n - 1, by omega⟩
  rw [readValue, skip_layOut, layOut]
  have hread := hspaced m rest hend
  rw [heq, List.cons_append] at hread ⊢
  have hne : u ≠ 110 ∧ u ≠ 116 ∧ u ≠ 102 ∧ u ≠ 34 ∧ u ≠ 91 ∧ u ≠ 123 := by
    refine ⟨?_, ?_, ?_, ?_, ?_, ?_⟩ <;> rintro rfl <;> revert hu <;> decide
  split
  all_goals
    rename_i hcases
    first
    | exact absurd (List.cons.inj hcases).1 (by simp [hne])
    | rw [hread]
      rfl

/-- What follows an item begins with a mark, behind white space. -/
theorem moreItems_end (depth : ℕ) (more : List (JsonDoc ν)) (rest : JsString) :
    ValueEnd (layOutMoreItems fmt L depth more ++ rest).head? := by
  cases more with
  | nil =>
      rw [layOutMoreItems, List.append_assoc]
      exact valueEnd_blank (L.close_blank depth) (Or.inr (Or.inl rfl)) rest
  | cons v more =>
      intro u hu
      exact Or.inl (Option.some.inj hu).symm

theorem moreFields_end (depth : ℕ) (more : List (JsString × JsonDoc ν)) (rest : JsString) :
    ValueEnd (layOutMoreFields fmt L depth more ++ rest).head? := by
  cases more with
  | nil =>
      rw [layOutMoreFields, List.append_assoc]
      exact valueEnd_blank (L.close_blank depth) (Or.inr (Or.inr rfl)) rest
  | cons p more =>
      intro u hu
      exact Or.inl (Option.some.inj hu).symm

/-- The items of an array are read one after the other. -/
theorem readItems_layOut {depth : ℕ} {v : JsonDoc ν} {more : List (JsonDoc ν)}
    (hv : SurvivesIn fmt L v) (hmore : ∀ w ∈ more, SurvivesIn fmt L w) {n : ℕ} {rest : JsString}
    (hn : (layOut fmt L (depth + 1) v ++ layOutMoreItems fmt L depth more).length ≤ n) :
    readItems fmt n
        (layOut fmt L (depth + 1) v ++ (layOutMoreItems fmt L depth more ++ rest)) =
      some (v :: more, rest) := by
  have hpos := @length_layOut_pos ν fmt L (depth + 1) v
  induction more generalizing n v with
  | nil =>
      rw [layOutMoreItems, List.length_append, List.length_append, List.length_singleton] at hn
      obtain ⟨n, rfl⟩ : ∃ k, n = k + 1 := ⟨n - 1, by omega⟩
      rw [readItems, hv (depth + 1) n _ (by omega) (moreItems_end depth [] rest), Option.bind_some,
        layOutMoreItems, List.append_assoc]
      simp only [List.cons_append, List.nil_append,
        skip_blank_cons (L.close_blank depth) (show isJsonSpace 93 = false by decide)]
  | cons w more ih =>
      rw [layOutMoreItems] at hn
      simp only [List.length_append, List.length_cons] at hn
      obtain ⟨n, rfl⟩ : ∃ k, n = k + 1 := ⟨n - 1, by omega⟩
      have hitems := @ih w (hmore w (List.mem_cons_self ..))
        (fun x hx => hmore x (List.mem_cons_of_mem _ hx)) n
        (by rw [List.length_append]; omega) (length_layOut_pos _ _)
      rw [readItems, hv (depth + 1) n _ (by omega) (moreItems_end depth (w :: more) rest),
        Option.bind_some, layOutMoreItems]
      simp only [List.cons_append, List.append_assoc,
        skip_cons (show isJsonSpace 44 = false by decide)]
      rw [readItems_blank fmt (L.lead_blank _), hitems, Option.map_some]

theorem survivesIn_arr {items : List (JsonDoc ν)} (h : ∀ v ∈ items, SurvivesIn fmt L v) :
    SurvivesIn fmt L (.arr items) := by
  intro depth n rest hn _
  have hpos := @length_layOut_pos ν fmt L depth (.arr items)
  obtain ⟨n, rfl⟩ : ∃ k, n = k + 1 := ⟨n - 1, by omega⟩
  rw [readValue, skip_layOut]
  cases items with
  | nil => rfl
  | cons v more =>
      obtain ⟨u, text, heq, -, hne⟩ := @layOut_starts ν fmt L (depth + 1) v
      rw [layOut] at hn ⊢
      simp only [List.length_append, List.length_cons] at hn
      have hread : readItems fmt n
          (layOut fmt L (depth + 1) v ++ (layOutMoreItems fmt L depth more ++ rest)) =
            some (v :: more, rest) :=
        readItems_layOut (h v (List.mem_cons_self ..))
          (fun w hw => h w (List.mem_cons_of_mem _ hw)) (by rw [List.length_append]; omega)
      have hhead : (layOut fmt L (depth + 1) v ++
          (layOutMoreItems fmt L depth more ++ rest)).head? ≠ some 93 := by
        rw [heq]
        simpa using hne
      simp only [List.cons_append, List.append_assoc, skip_blank (L.lead_blank _), skip_layOut,
        if_neg hhead, hread, Option.map_some]

/-- The fields of an object are read one after the other. -/
theorem readFields_layOut {depth : ℕ} {name : JsString} {v : JsonDoc ν}
    {more : List (JsString × JsonDoc ν)} (hv : SurvivesIn fmt L v)
    (hmore : ∀ p ∈ more, SurvivesIn fmt L p.2) {n : ℕ} {rest : JsString}
    (hn : (quote name ++ 58 :: L.colon ++ layOut fmt L (depth + 1) v ++
      layOutMoreFields fmt L depth more).length ≤ n) :
    readFields fmt n (quote name ++ 58 :: L.colon ++ layOut fmt L (depth + 1) v ++
        (layOutMoreFields fmt L depth more ++ rest)) =
      some ((name, v) :: more, rest) := by
  induction more generalizing n name v with
  | nil =>
      simp only [List.length_append, List.length_cons] at hn
      obtain ⟨n, rfl⟩ : ∃ k, n = k + 1 := ⟨n - 1, by omega⟩
      obtain ⟨tail, htail⟩ : ∃ tail, L.colon ++ (layOut fmt L (depth + 1) v ++
        (layOutMoreFields fmt L depth [] ++ rest)) = tail := ⟨_, rfl⟩
      have hname := readString_quote name (58 :: tail)
      have htext : quote name ++ 58 :: L.colon ++ layOut fmt L (depth + 1) v ++
          (layOutMoreFields fmt L depth [] ++ rest) = 34 :: (escape name ++ 34 :: 58 :: tail) := by
        simp [quote, ← htail]
      have hvalue := hv (depth + 1) n (layOutMoreFields fmt L depth [] ++ rest) (by omega)
        (moreFields_end depth [] rest)
      rw [htext, readFields, skip_cons (by decide)]
      simp only [hname, Option.bind_some, skip_cons (show isJsonSpace 58 = false by decide)]
      rw [← htail, readValue_blank fmt L.colon_blank, hvalue, Option.bind_some, layOutMoreFields,
        List.append_assoc]
      simp only [List.cons_append, List.nil_append,
        skip_blank_cons (L.close_blank depth) (show isJsonSpace 125 = false by decide)]
  | cons p more ih =>
      obtain ⟨next, w⟩ := p
      rw [layOutMoreFields] at hn
      simp only [List.length_append, List.length_cons] at hn
      obtain ⟨n, rfl⟩ : ∃ k, n = k + 1 := ⟨n - 1, by omega⟩
      have hfields := @ih next w (hmore _ (List.mem_cons_self ..))
        (fun x hx => hmore x (List.mem_cons_of_mem _ hx)) n (by
          simp only [List.length_append, List.length_cons]
          omega)
      obtain ⟨tail, htail⟩ : ∃ tail, L.colon ++ (layOut fmt L (depth + 1) v ++
        (layOutMoreFields fmt L depth ((next, w) :: more) ++ rest)) = tail := ⟨_, rfl⟩
      have hname := readString_quote name (58 :: tail)
      have htext : quote name ++ 58 :: L.colon ++ layOut fmt L (depth + 1) v ++
          (layOutMoreFields fmt L depth ((next, w) :: more) ++ rest) =
            34 :: (escape name ++ 34 :: 58 :: tail) := by
        simp [quote, ← htail]
      have hvalue := hv (depth + 1) n (layOutMoreFields fmt L depth ((next, w) :: more) ++ rest)
        (by omega) (moreFields_end depth ((next, w) :: more) rest)
      rw [htext, readFields, skip_cons (by decide)]
      simp only [hname, Option.bind_some, skip_cons (show isJsonSpace 58 = false by decide)]
      rw [← htail, readValue_blank fmt L.colon_blank, hvalue, Option.bind_some, layOutMoreFields]
      simp only [List.cons_append, List.append_assoc,
        skip_cons (show isJsonSpace 44 = false by decide)]
      simp only [List.cons_append, List.append_assoc] at hfields
      rw [readFields_blank fmt (L.lead_blank _), hfields, Option.map_some]

theorem survivesIn_obj {fields : List (JsString × JsonDoc ν)}
    (h : ∀ p ∈ fields, SurvivesIn fmt L p.2) : SurvivesIn fmt L (.obj fields) := by
  intro depth n rest hn _
  have hpos := @length_layOut_pos ν fmt L depth (.obj fields)
  obtain ⟨n, rfl⟩ : ∃ k, n = k + 1 := ⟨n - 1, by omega⟩
  rw [readValue, skip_layOut]
  cases fields with
  | nil => rfl
  | cons p more =>
      obtain ⟨name, v⟩ := p
      rw [layOut] at hn ⊢
      simp only [List.length_append, List.length_cons] at hn
      obtain ⟨text, htext⟩ : ∃ text, quote name ++ 58 :: L.colon ++
          layOut fmt L (depth + 1) v ++ (layOutMoreFields fmt L depth more ++ rest) =
            34 :: text := ⟨_, rfl⟩
      have hread : readFields fmt n (34 :: text) = some ((name, v) :: more, rest) := by
        rw [← htext]
        exact readFields_layOut (h (name, v) (List.mem_cons_self ..))
          (fun q hq => h q (List.mem_cons_of_mem _ hq)) (by
            simp only [List.length_append, List.length_cons]
            omega)
      have hfields : L.lead (depth + 1) ++ (quote name ++ 58 :: L.colon ++
          layOut fmt L (depth + 1) v ++ (layOutMoreFields fmt L depth more ++ rest)) =
            L.lead (depth + 1) ++ 34 :: text := by
        rw [htext]
      simp only [List.cons_append, List.append_assoc] at hfields ⊢
      simp only [hfields, skip_blank_cons (L.lead_blank _) (show isJsonSpace 34 = false by decide),
        hread, Option.map_some]
      rfl

/-- **A document survives its layout.** -/
theorem survivesIn (hspaced : Spaced fmt) : ∀ v : JsonDoc ν, SurvivesIn fmt L v
  | .null => fun depth n rest hn _ => by
      have hpos := @length_layOut_pos ν fmt L depth .null
      obtain ⟨n, rfl⟩ : ∃ k, n = k + 1 := ⟨n - 1, by omega⟩
      rfl
  | .bool b => fun depth n rest hn _ => by
      have hpos := @length_layOut_pos ν fmt L depth (.bool b)
      obtain ⟨n, rfl⟩ : ∃ k, n = k + 1 := ⟨n - 1, by omega⟩
      cases b <;> rfl
  | .num m => survivesIn_num hspaced m
  | .str s => fun depth n rest hn _ => by
      have hpos := @length_layOut_pos ν fmt L depth (.str s)
      obtain ⟨n, rfl⟩ : ∃ k, n = k + 1 := ⟨n - 1, by omega⟩
      have hread := readString_quote s rest
      rw [readValue, skip_layOut, layOut, quote]
      simp only [List.cons_append, List.append_assoc, List.nil_append, hread, Option.map_some]
  | .arr items => survivesIn_arr fun v _ => survivesIn hspaced v
  | .obj fields => survivesIn_obj fun p _ => survivesIn hspaced p.2
decreasing_by
  · have hlt := List.sizeOf_lt_of_mem ‹v ∈ items›
    simp only [JsonDoc.arr.sizeOf_spec]
    omega
  · have hlt := List.sizeOf_lt_of_mem ‹p ∈ fields›
    have hpair : sizeOf p = 1 + sizeOf p.1 + sizeOf p.2 := rfl
    simp only [JsonDoc.obj.sizeOf_spec]
    omega

/-- **`JSON.parse` undoes every layout.** -/
theorem parse_layOut (hspaced : Spaced fmt) (depth : ℕ) (v : JsonDoc ν) :
    parse fmt (layOut fmt L depth v) = some v := by
  have hread := survivesIn (L := L) hspaced v depth (layOut fmt L depth v).length []
    (Nat.le_refl _) (fun u hu => by cases hu)
  rw [List.append_nil] at hread
  simp [parse, hread, skip]

/-! ## Whole numbers -/

open Decimals Dates

/-- The digits of a whole number, with no point or exponent behind. -/
def readWhole (s : JsString) : Option (ℕ × JsString) :=
  (readInt s).bind fun p =>
    if p.2.head? = some 46 ∨ p.2.head? = some 101 ∨ p.2.head? = some 69 then none
    else (digitsValue? 10 0 p.1).map fun n => (n, p.2)

/-- `String(n)` for an integer below `10 ^ 21`. -/
def wholeText (n : ℤ) : JsString := if n < 0 then 45 :: decimal n.natAbs else decimal n.natAbs

def readInteger (s : JsString) : Option (ℤ × JsString) :=
  if s.head? = some 45 then (readWhole s.tail).map fun p => (-(p.1 : ℤ), p.2)
  else (readWhole s).map fun p => ((p.1 : ℤ), p.2)

/-- Behind a value stands nothing that goes on with a number. -/
theorem valueEnd_stops {next : Option UInt16} (h : ValueEnd next) :
    (∀ u, next = some u → isDecimalDigit u = false) ∧
      ¬(next = some 46 ∨ next = some 101 ∨ next = some 69) := by
  have hstop : ∀ u : UInt16, u = 44 ∨ u = 93 ∨ u = 125 ∨ isJsonSpace u = true →
      isDecimalDigit u = false ∧ u ≠ 46 ∧ u ≠ 101 ∧ u ≠ 69 := by
    intro u hu
    simp only [isJsonSpace, Bool.or_eq_true, beq_iff_eq] at hu
    rcases hu with rfl | rfl | rfl | ((rfl | rfl) | rfl) | rfl <;> decide
  refine ⟨fun u hu => (hstop u (h u hu)).1, ?_⟩
  rintro (hu | hu | hu)
  · exact (hstop 46 (h 46 hu)).2.1 rfl
  · exact (hstop 101 (h 101 hu)).2.2.1 rfl
  · exact (hstop 69 (h 69 hu)).2.2.2 rfl

theorem readWhole_decimal (n : ℕ) {rest : JsString} (hrest : ValueEnd rest.head?) :
    readWhole (decimal n ++ rest) = some (n, rest) := by
  obtain ⟨hdigit, hmore⟩ := valueEnd_stops hrest
  have hne : decimal n ≠ [] := digitsOf_ne_nil (Or.inr (Nat.succ_pos n))
  have hvalue : digitsValue? 10 0 (decimal n) = some n := by
    rw [decimal, digitsValue?_digitsOf (Nat.lt_succ_self n), digitsValue?]
  have hzero : ¬((decimal n).head? = some 48 ∧ decimal n ≠ [48]) := by
    rintro ⟨hhead, hother⟩
    by_cases hn : n = 0
    · subst hn
      exact hother rfl
    · exact JsonPointer.head_digitsOf (Nat.lt_succ_self n) hn [] hhead
  rw [readWhole, readInt, readRun_append (fun u => isDecimalDigit_decimal) hne hdigit,
    Option.bind_some, if_neg hzero, Option.bind_some]
  dsimp only
  rw [if_neg hmore, hvalue, Option.map_some]

theorem decimal_starts (n : ℕ) :
    ∃ u rest, decimal n = u :: rest ∧ 48 ≤ u.toNat ∧ u.toNat ≤ 57 := by
  have hne : decimal n ≠ [] := digitsOf_ne_nil (Or.inr (Nat.succ_pos n))
  obtain ⟨u, rest, heq⟩ := List.exists_cons_of_ne_nil hne
  have hmem : u ∈ decimal n := by
    rw [heq]
    exact List.mem_cons_self ..
  exact ⟨u, rest, heq, decimal_range hmem⟩

/-- An integer is read back from its text. -/
theorem readInteger_wholeText (n : ℤ) {rest : JsString} (hrest : ValueEnd rest.head?) :
    readInteger (wholeText n ++ rest) = some (n, rest) := by
  rw [wholeText]
  split
  · rename_i hneg
    have habs : -(n.natAbs : ℤ) = n := by omega
    rw [List.cons_append, readInteger, List.head?_cons, if_pos rfl, List.tail_cons,
      readWhole_decimal n.natAbs hrest, Option.map_some, habs]
  · rename_i hpos
    have habs : (n.natAbs : ℤ) = n := by omega
    obtain ⟨u, more, heq, hrange⟩ := decimal_starts n.natAbs
    have hhead : (decimal n.natAbs ++ rest).head? ≠ some 45 := by
      rw [heq]
      intro h
      obtain rfl : u = 45 := Option.some.inj h
      exact absurd hrange.1 (by decide)
    rw [readInteger, if_neg hhead, readWhole_decimal n.natAbs hrest, Option.map_some, habs]

/-- Documents with whole numbers. -/
def wholeNumbers : NumberFormat ℤ where
  write := wholeText
  read := readInteger
  starts n := by
    obtain ⟨u, rest, heq, hrange⟩ := decimal_starts n.natAbs
    unfold wholeText
    split
    · exact ⟨45, _, rfl, Or.inl rfl⟩
    · exact ⟨u, rest, heq, Or.inr hrange⟩
  read_write n rest hrest := readInteger_wholeText n fun u hu => by
    rcases hrest u hu with h | h | h
    · exact Or.inl h
    · exact Or.inr (Or.inl h)
    · exact Or.inr (Or.inr (Or.inl h))

theorem whole_wholeNumbers (n : ℤ) : Whole (wholeNumbers.write n) := by
  have hdigits : Whole (decimal n.natAbs) := whole_plain fun u hu => by
    have hrange := decimal_range hu
    exact ⟨by simp [isHigh, UInt16.le_iff_toNat_le]; omega,
      by simp [isLow, UInt16.le_iff_toNat_le]; omega⟩
  show Whole (wholeText n)
  unfold wholeText
  split
  · exact hdigits.cons rfl rfl
  · exact hdigits

theorem wholeNumbers_spaced : Spaced wholeNumbers := fun n _ hrest =>
  readInteger_wholeText n hrest

end JsonText
