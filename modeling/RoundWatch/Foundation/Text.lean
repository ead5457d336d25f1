import Mathlib.Data.Int.Notation
import Mathlib.Data.List.Basic
import Mathlib.Tactic.Common

/-!
# JavaScript strings

A JavaScript string is a sequence of UTF-16 code units, and nothing forces its
surrogates to come in pairs: `"\ud800"` is a value of the language and a JSON
document can carry it.  Encoding a string as UTF-8 replaces every unpaired
surrogate by U+FFFD, so a string that makes the trip through UTF-8 bytes comes
back as its well-formed part.

* `toWellFormed` — `String.prototype.toWellFormed`, which is also what a string
  looks like after it has been written as UTF-8 and decoded again.
* `utf8Bytes` — `Buffer.from(s, 'utf8')`.
* `decimal` and `bigInt?` — `String(n)` and `BigInt(s)`.
-/

namespace JsText

/-- A JavaScript string: its UTF-16 code units. -/
abbrev JsString := List UInt16

instance : LawfulBEq JsString := inferInstanceAs (LawfulBEq (List UInt16))

/-! ## Surrogates and well-formedness -/

/-- The first half of a surrogate pair. -/
def isHigh (u : UInt16) : Bool := 0xD800 ≤ u && u ≤ 0xDBFF

/-- The second half of a surrogate pair. -/
def isLow (u : UInt16) : Bool := 0xDC00 ≤ u && u ≤ 0xDFFF

/-- U+FFFD, which stands in for what cannot be encoded. -/
def replacement : UInt16 := 0xFFFD

/-- A code unit that stands alone: a surrogate half becomes U+FFFD. -/
def alone (u : UInt16) : UInt16 := if isHigh u || isLow u then replacement else u

/-- `String.prototype.toWellFormed`: every unpaired surrogate becomes U+FFFD. -/
def toWellFormed : JsString → JsString
  | [] => []
  | [u] => [alone u]
  | u :: v :: rest =>
      if isHigh u && isLow v then u :: v :: toWellFormed rest
      else alone u :: toWellFormed (v :: rest)

/-- No surrogate of the string is unpaired. -/
def WellFormed (s : JsString) : Prop := toWellFormed s = s

instance (s : JsString) : Decidable (WellFormed s) := inferInstanceAs (Decidable (_ = _))

theorem alone_of_plain {u : UInt16} (h : isHigh u = false) (h' : isLow u = false) :
    alone u = u := by
  simp [alone, h, h']

theorem isHigh_replacement : isHigh replacement = false := by decide

theorem isLow_replacement : isLow replacement = false := by decide

@[simp] theorem isHigh_alone (u : UInt16) : isHigh (alone u) = false := by
  unfold alone
  split
  · exact isHigh_replacement
  · rename_i h
    simp only [Bool.or_eq_true, not_or, Bool.not_eq_true] at h
    exact h.1

@[simp] theorem isLow_alone (u : UInt16) : isLow (alone u) = false := by
  unfold alone
  split
  · exact isLow_replacement
  · rename_i h
    simp only [Bool.or_eq_true, not_or, Bool.not_eq_true] at h
    exact h.2

@[simp] theorem alone_alone (u : UInt16) : alone (alone u) = alone u :=
  alone_of_plain (isHigh_alone u) (isLow_alone u)

theorem toWellFormed_cons_plain {u : UInt16} (h : isHigh u = false) (s : JsString) :
    toWellFormed (u :: s) = alone u :: toWellFormed s := by
  cases s with
  | nil => rfl
  | cons v rest => simp [toWellFormed, h]

theorem toWellFormed_cons_alone (u : UInt16) (s : JsString) :
    toWellFormed (alone u :: s) = alone u :: toWellFormed s := by
  rw [toWellFormed_cons_plain (isHigh_alone u), alone_alone]

/-- Repairing a repaired string changes nothing. -/
@[simp] theorem toWellFormed_idem (s : JsString) :
    toWellFormed (toWellFormed s) = toWellFormed s := by
  induction s using toWellFormed.induct with
  | case1 => rfl
  | case2 u => simp [toWellFormed]
  | case3 u v rest h ih => simp [toWellFormed, h, ih]
  | case4 u v rest h ih =>
      rw [show toWellFormed (u :: v :: rest) = alone u :: toWellFormed (v :: rest) from by
        simp [toWellFormed, h]]
      rw [toWellFormed_cons_alone, ih]

theorem wellFormed_toWellFormed (s : JsString) : WellFormed (toWellFormed s) :=
  toWellFormed_idem s

/-- The repair keeps the number of code units. -/
@[simp] theorem length_toWellFormed (s : JsString) : (toWellFormed s).length = s.length := by
  induction s using toWellFormed.induct with
  | case1 => rfl
  | case2 u => rfl
  | case3 u v rest h ih => simp [toWellFormed, h, ih]
  | case4 u v rest h ih => simp [toWellFormed, h, ih]

@[simp] theorem toWellFormed_eq_nil {s : JsString} : toWellFormed s = [] ↔ s = [] := by
  rw [← List.length_eq_zero_iff, length_toWellFormed, List.length_eq_zero_iff]

/-- The repair brings in U+FFFD only. -/
theorem mem_toWellFormed {s : JsString} {u : UInt16} (h : u ∈ toWellFormed s) :
    u ∈ s ∨ u = replacement := by
  have halone : ∀ v : UInt16, alone v = v ∨ alone v = replacement := fun v => by
    unfold alone
    split <;> simp
  induction s using toWellFormed.induct with
  | case1 => cases h
  | case2 v =>
      simp only [toWellFormed, List.mem_singleton] at h
      rcases halone v with hv | hv <;> simp [h, hv]
  | case3 v w rest hpair ih =>
      simp only [toWellFormed, hpair, if_true, List.mem_cons] at h
      rcases h with rfl | rfl | h
      · simp
      · simp
      · rcases ih h with h | h <;> simp [h]
  | case4 v w rest hpair ih =>
      simp only [toWellFormed, hpair, Bool.false_eq_true, if_false, List.mem_cons] at h
      rcases h with rfl | h
      · rcases halone v with hv | hv <;> simp [hv]
      · rcases ih h with h | h <;> simp_all

/-- The repair leaves a trace: where it changed something, U+FFFD now stands. -/
theorem wellFormed_of_replacement_notMem {s : JsString} (h : replacement ∉ toWellFormed s) :
    WellFormed s := by
  have halone : ∀ u : UInt16, replacement ≠ alone u → alone u = u := by
    intro u hu
    unfold alone at hu ⊢
    split
    · rename_i hs
      rw [if_pos hs] at hu
      exact absurd rfl hu
    · rfl
  unfold WellFormed
  induction s using toWellFormed.induct with
  | case1 => rfl
  | case2 u =>
      simp only [toWellFormed, List.mem_singleton] at h
      simp [toWellFormed, halone u h]
  | case3 u v rest hp ih =>
      simp only [toWellFormed, hp, if_true, List.mem_cons, not_or] at h
      simp [toWellFormed, hp, ih h.2.2]
  | case4 u v rest hp ih =>
      simp only [toWellFormed, hp, if_false, List.mem_cons, not_or, Bool.false_eq_true] at h
      simp [toWellFormed, hp, halone u h.1, ih h.2]

theorem wellFormed_of_plain {s : JsString} (h : ∀ u ∈ s, u < 0xD800) : WellFormed s := by
  have hplain : ∀ u : UInt16, u < 0xD800 → isHigh u = false ∧ isLow u = false := by
    intro u hu
    have hu : u.toNat < 0xD800 := hu
    simp only [isHigh, isLow, Bool.and_eq_false_iff, decide_eq_false_iff_not, UInt16.not_le]
    exact ⟨Or.inl hu, Or.inl (Nat.lt_trans hu (by decide))⟩
  induction s with
  | nil => rfl
  | cons u s ih =>
      obtain ⟨hhigh, hlow⟩ := hplain u (h u (List.mem_cons_self ..))
      have hrest := ih fun v hv => h v (List.mem_cons_of_mem _ hv)
      unfold WellFormed at hrest ⊢
      rw [toWellFormed_cons_plain hhigh, alone_of_plain hhigh hlow, hrest]

/-- Two well-formed strings with the same repair are the same string; the repair
of a string that shows no U+FFFD has only that string behind it. -/
theorem eq_of_toWellFormed_eq {s t : JsString} (hs : replacement ∉ toWellFormed s)
    (h : toWellFormed t = toWellFormed s) : t = s := by
  have hwt : WellFormed t := wellFormed_of_replacement_notMem (h ▸ hs)
  have hws : WellFormed s := wellFormed_of_replacement_notMem hs
  rw [← hwt, h, hws]

/-- A low surrogate half that differs from every code unit a repair leaves behind. -/
theorem toWellFormed_cons_low (s : JsString) :
    toWellFormed (0xDC00 :: s) = replacement :: toWellFormed s :=
  toWellFormed_cons_plain (by decide) s

/-- Where the repair shows U+FFFD, a second string of the same length has the same
repair: it carries U+FFFD for a surrogate half, or a surrogate half for U+FFFD. -/
theorem exists_ne_toWellFormed_eq {s : JsString} (h : replacement ∈ toWellFormed s) :
    ∃ t, t ≠ s ∧ t.length = s.length ∧ toWellFormed t = toWellFormed s ∧
      ∃ u ∈ t, 0xD800 ≤ u := by
  have hhead : ∀ (u : UInt16) (rest : JsString), replacement = alone u →
      toWellFormed (u :: rest) = alone u :: toWellFormed rest →
      ∃ t, t ≠ u :: rest ∧ t.length = (u :: rest).length ∧
        toWellFormed t = toWellFormed (u :: rest) ∧ ∃ u ∈ t, 0xD800 ≤ u := by
    intro u rest hu hstep
    by_cases hr : u = replacement
    · refine ⟨0xDC00 :: rest, ?_, rfl, ?_, 0xDC00, List.mem_cons_self .., by decide⟩
      · intro heq
        rw [hr] at heq
        exact absurd (List.cons.inj heq).1 (by decide)
      · rw [toWellFormed_cons_low, hstep, ← hu]
    · refine ⟨replacement :: rest, ?_, rfl, ?_, replacement, List.mem_cons_self .., by decide⟩
      · exact fun heq => hr (List.cons.inj heq).1.symm
      · rw [hu, toWellFormed_cons_alone, hstep]
  induction s using toWellFormed.induct with
  | case1 => simp [toWellFormed] at h
  | case2 u =>
      simp only [toWellFormed, List.mem_singleton] at h
      exact hhead u [] h rfl
  | case3 u v rest hp ih =>
      have hrest : replacement ∈ toWellFormed rest := by
        simp only [toWellFormed, hp, if_true, List.mem_cons] at h
        rcases h with h | h | h
        · rw [← h] at hp
          simp [isHigh_replacement] at hp
        · rw [← h] at hp
          simp [isLow_replacement] at hp
        · exact h
      obtain ⟨t, hne, hlen, heq, w, hw, hhi⟩ := ih hrest
      refine ⟨u :: v :: t, ?_, by simp [hlen], ?_, w, by simp [hw], hhi⟩
      · simpa using hne
      · simp [toWellFormed, hp, heq]
  | case4 u v rest hp ih =>
      have hstep : toWellFormed (u :: v :: rest) = alone u :: toWellFormed (v :: rest) := by
        simp [toWellFormed, hp]
      by_cases hu : replacement = alone u
      · exact hhead u (v :: rest) hu hstep
      · have hrest : replacement ∈ toWellFormed (v :: rest) := by
          rw [hstep, List.mem_cons] at h
          exact h.resolve_left hu
        have hplain : isHigh u = false := by
          cases hh : isHigh u with
          | false => rfl
          | true => exact absurd (by simp [alone, hh]) hu
        obtain ⟨t, hne, hlen, heq, w, hw, hhi⟩ := ih hrest
        refine ⟨u :: t, by simpa using hne, by simp [hlen], ?_, w, by simp [hw], hhi⟩
        rw [toWellFormed_cons_plain hplain, heq, hstep]

/-! ## UTF-8 -/

/-- The UTF-8 bytes of one code unit outside a pair. -/
def unitBytes (u : UInt16) : List UInt8 :=
  let n := (alone u).toNat
  if n < 0x80 then [UInt8.ofNat n]
  else if n < 0x800 then [UInt8.ofNat (0xC0 + n / 64), UInt8.ofNat (0x80 + n % 64)]
  else [UInt8.ofNat (0xE0 + n / 4096), UInt8.ofNat (0x80 + n / 64 % 64), UInt8.ofNat (0x80 + n % 64)]

/-- The UTF-8 bytes of a surrogate pair. -/
def pairBytes (u v : UInt16) : List UInt8 :=
  let n := 0x10000 + (u.toNat - 0xD800) * 1024 + (v.toNat - 0xDC00)
  [UInt8.ofNat (0xF0 + n / 262144), UInt8.ofNat (0x80 + n / 4096 % 64),
    UInt8.ofNat (0x80 + n / 64 % 64), UInt8.ofNat (0x80 + n % 64)]

/-- `Buffer.from(s, 'utf8')`. -/
def utf8Bytes : JsString → List UInt8
  | [] => []
  | [u] => unitBytes u
  | u :: v :: rest =>
      if isHigh u && isLow v then pairBytes u v ++ utf8Bytes rest
      else unitBytes u ++ utf8Bytes (v :: rest)

/-- `Buffer.byteLength(s, 'utf8')`. -/
def utf8ByteLength (s : JsString) : ℕ := (utf8Bytes s).length

theorem unitBytes_alone (u : UInt16) : unitBytes (alone u) = unitBytes u := by
  simp only [unitBytes, alone_alone]

theorem utf8Bytes_cons_plain {u : UInt16} (h : isHigh u = false) (s : JsString) :
    utf8Bytes (u :: s) = unitBytes u ++ utf8Bytes s := by
  cases s with
  | nil => simp [utf8Bytes]
  | cons v rest => simp [utf8Bytes, h]

/-- The bytes of a string are the bytes of its repair: whatever goes through UTF-8
comes back well formed. -/
theorem utf8Bytes_toWellFormed (s : JsString) : utf8Bytes (toWellFormed s) = utf8Bytes s := by
  induction s using toWellFormed.induct with
  | case1 => rfl
  | case2 u => simp [toWellFormed, utf8Bytes, unitBytes_alone]
  | case3 u v rest h ih => simp [toWellFormed, utf8Bytes, h, ih]
  | case4 u v rest h ih =>
      rw [show toWellFormed (u :: v :: rest) = alone u :: toWellFormed (v :: rest) from by
        simp [toWellFormed, h], utf8Bytes_cons_plain (isHigh_alone u), unitBytes_alone, ih]
      simp [utf8Bytes, h]

/-! ## Literals -/

/-- The code units of one Unicode scalar value. -/
def charUnits (c : Char) : JsString :=
  if c.toNat < 0x10000 then [UInt16.ofNat c.toNat]
  else [UInt16.ofNat (0xD800 + (c.toNat - 0x10000) / 1024),
    UInt16.ofNat (0xDC00 + (c.toNat - 0x10000) % 1024)]

/-- A string literal of the source. -/
def js (s : String) : JsString := s.toList.flatMap charUnits

/-- The Unicode scalar values of a string, unpaired surrogates read as U+FFFD. -/
def scalars : JsString → List Char
  | [] => []
  | [u] => [Char.ofNat (alone u).toNat]
  | u :: v :: rest =>
      if isHigh u && isLow v then
        Char.ofNat (0x10000 + (u.toNat - 0xD800) * 1024 + (v.toNat - 0xDC00)) :: scalars rest
      else Char.ofNat (alone u).toNat :: scalars (v :: rest)

/-- A string as it is printed inside a message. -/
def text (s : JsString) : String := String.ofList (scalars s)

/-! ## Numbers as text -/

/-- The code unit of a decimal digit. -/
def digitUnit (d : ℕ) : UInt16 := UInt16.ofNat (48 + d)

/-- The digits of a number, most significant first, with `fuel` digits to spare. -/
def digitsOf : ℕ → ℕ → JsString → JsString
  | 0, _, acc => acc
  | fuel + 1, n, acc =>
      if n < 10 then digitUnit n :: acc else digitsOf fuel (n / 10) (digitUnit (n % 10) :: acc)

/-- `String(n)` for a non-negative integer. -/
def decimal (n : ℕ) : JsString := digitsOf (n + 1) n []

/-- The value of a digit in a base up to sixteen. -/
def digitValue? (base : ℕ) (u : UInt16) : Option ℕ :=
  let d :=
    if 48 ≤ u.toNat && u.toNat ≤ 57 then u.toNat - 48
    else if 97 ≤ u.toNat && u.toNat ≤ 102 then u.toNat - 87
    else if 65 ≤ u.toNat && u.toNat ≤ 70 then u.toNat - 55
    else 16
  if d < base then some d else none

/-- Reads digits into an accumulator; `none` on anything else. -/
def digitsValue? (base : ℕ) (acc : ℕ) : JsString → Option ℕ
  | [] => some acc
  | u :: rest =>
      match digitValue? base u with
      | some d => digitsValue? base (acc * base + d) rest
      | none => none

/-- White space of the language, line terminators included. -/
def isSpace (u : UInt16) : Bool :=
  (9 ≤ u && u ≤ 13) || u == 32 || u == 0xA0 || u == 0x1680 || (0x2000 ≤ u && u ≤ 0x200A) ||
    u == 0x2028 || u == 0x2029 || u == 0x202F || u == 0x205F || u == 0x3000 || u == 0xFEFF

/-- `String.prototype.trim`. -/
def trim (s : JsString) : JsString :=
  ((s.dropWhile isSpace).reverse.dropWhile isSpace).reverse

/-- At least one digit, and nothing else. -/
def unsigned? (base : ℕ) (s : JsString) : Option ℕ :=
  if s = [] then none else digitsValue? base 0 s

/-- The base a letter after a leading zero announces. -/
def radix? (u : UInt16) : Option ℕ :=
  if u = 120 ∨ u = 88 then some 16
  else if u = 111 ∨ u = 79 then some 8
  else if u = 98 ∨ u = 66 then some 2
  else none

/-- `BigInt(s)`; `none` is the `SyntaxError`. -/
def bigInt? (s : JsString) : Option ℤ :=
  match trim s with
  | [] => some 0
  | 43 :: rest => (unsigned? 10 rest).map Int.ofNat
  | 45 :: rest => (unsigned? 10 rest).map fun n => -(n : ℤ)
  | u :: rest =>
      match (if u = 48 then rest.head?.bind radix? else none) with
      | some base => (unsigned? base rest.tail).map Int.ofNat
      | none => (unsigned? 10 (u :: rest)).map Int.ofNat

theorem digitUnit_range {d : ℕ} (h : d < 10) :
    48 ≤ (digitUnit d).toNat ∧ (digitUnit d).toNat ≤ 57 := by
  have : (digitUnit d).toNat = 48 + d := by
    simp only [digitUnit, UInt16.toNat_ofNat']
    omega
  omega

theorem digitValue?_digitUnit {d : ℕ} (h : d < 10) : digitValue? 10 (digitUnit d) = some d := by
  have hr := digitUnit_range h
  have hv : (digitUnit d).toNat = 48 + d := by
    simp only [digitUnit, UInt16.toNat_ofNat']
    omega
  simp only [digitValue?, hv]
  have h1 : (decide (48 ≤ 48 + d) && decide (48 + d ≤ 57)) = true := by simp; omega
  rw [h1, if_pos rfl, if_pos (by omega)]
  congr 1
  omega

theorem radix?_of_digit {u : UInt16} (h : 48 ≤ u.toNat ∧ u.toNat ≤ 57) : radix? u = none := by
  have hne : ∀ v : UInt16, 57 < v.toNat → u ≠ v := by
    rintro v hv rfl
    omega
  simp [radix?, hne]

/-- Writing a number and reading it back, with any digits to follow. -/
theorem digitsValue?_digitsOf {fuel n : ℕ} {acc : JsString} (h : n < fuel) :
    digitsValue? 10 0 (digitsOf fuel n acc) = digitsValue? 10 n acc := by
  induction fuel generalizing n acc with
  | zero => omega
  | succ fuel ih =>
      rw [digitsOf]
      split
      · rename_i hn
        simp [digitsValue?, digitValue?_digitUnit hn]
      · rw [ih (by omega), digitsValue?, digitValue?_digitUnit (by omega)]
        simp only
        congr 1
        omega

theorem mem_digitsOf {fuel n : ℕ} {acc : JsString} {u : UInt16} (h : u ∈ digitsOf fuel n acc) :
    (48 ≤ u.toNat ∧ u.toNat ≤ 57) ∨ u ∈ acc := by
  induction fuel generalizing n acc with
  | zero => exact Or.inr h
  | succ fuel ih =>
      rw [digitsOf] at h
      split at h
      · rename_i hn
        rcases List.mem_cons.1 h with rfl | h
        · exact Or.inl (digitUnit_range hn)
        · exact Or.inr h
      · rcases ih h with h | h
        · exact Or.inl h
        · rcases List.mem_cons.1 h with rfl | h
          · exact Or.inl (digitUnit_range (by omega))
          · exact Or.inr h

theorem digitsOf_ne_nil {fuel n : ℕ} {acc : JsString} (h : acc ≠ [] ∨ 0 < fuel) :
    digitsOf fuel n acc ≠ [] := by
  induction fuel generalizing n acc with
  | zero => simpa [digitsOf] using h
  | succ fuel ih =>
      rw [digitsOf]
      split
      · simp
      · exact ih (Or.inl (by simp))

theorem decimal_range {n : ℕ} {u : UInt16} (h : u ∈ decimal n) :
    48 ≤ u.toNat ∧ u.toNat ≤ 57 :=
  (mem_digitsOf h).resolve_right (by simp)

theorem isSpace_of_digit {u : UInt16} (h : 48 ≤ u.toNat ∧ u.toNat ≤ 57) : isSpace u = false := by
  have hne : ∀ v : UInt16, v.toNat < 48 ∨ 57 < v.toNat → (u == v) = false := by
    intro v hv
    simp only [beq_eq_false_iff_ne, ne_eq]
    rintro rfl
    omega
  have h1 : (9 ≤ u && u ≤ 13) = false := by
    simp only [Bool.and_eq_false_iff, decide_eq_false_iff_not, UInt16.le_iff_toNat_le]
    exact Or.inr (by simp; omega)
  have h2 : (0x2000 ≤ u && u ≤ 0x200A) = false := by
    simp only [Bool.and_eq_false_iff, decide_eq_false_iff_not, UInt16.le_iff_toNat_le]
    exact Or.inl (by simp; omega)
  simp [isSpace, h1, h2, hne]

theorem trim_eq_self {s : JsString} (h : ∀ u ∈ s, isSpace u = false) : trim s = s := by
  have hdrop : ∀ t : JsString, (∀ u ∈ t, isSpace u = false) → t.dropWhile isSpace = t := by
    intro t ht
    cases t with
    | nil => rfl
    | cons u rest => rw [List.dropWhile_cons_of_neg (by simp [ht u (List.mem_cons_self ..)])]
  rw [trim, hdrop s h, hdrop _ (by simpa using h), List.reverse_reverse]

/-- `BigInt(String(n))` is `n`. -/
theorem bigInt?_decimal (n : ℕ) : bigInt? (decimal n) = some (n : ℤ) := by
  have hrange : ∀ u ∈ decimal n, 48 ≤ u.toNat ∧ u.toNat ≤ 57 := fun u hu => decimal_range hu
  have hval : digitsValue? 10 0 (decimal n) = some n := by
    rw [decimal, digitsValue?_digitsOf (by omega), digitsValue?]
  have hne : decimal n ≠ [] := digitsOf_ne_nil (Or.inr (by omega))
  have htrim : trim (decimal n) = decimal n :=
    trim_eq_self fun u hu => isSpace_of_digit (hrange u hu)
  rw [bigInt?, htrim]
  have hdigit : ∀ v : UInt16, v.toNat < 48 ∨ 57 < v.toNat → v ∉ decimal n := by
    intro v hv hmem
    have := hrange v hmem
    omega
  cases hd : decimal n with
  | nil => exact absurd hd hne
  | cons u rest =>
      rw [hd] at hdigit hval hrange
      have hu : ∀ v : UInt16, v.toNat < 48 → u ≠ v := by
        rintro v hv rfl
        exact hdigit u (Or.inl hv) (List.mem_cons_self ..)
      have hradix : (if u = 48 then rest.head?.bind radix? else none) = none := by
        split
        · cases rest with
          | nil => rfl
          | cons v rest' => exact radix?_of_digit (hrange v (by simp))
        · rfl
      split
      · rename_i heq
        simp at heq
      · rename_i heq
        exact absurd (List.cons.inj heq).1 (hu 43 (by decide))
      · rename_i heq
        exact absurd (List.cons.inj heq).1 (hu 45 (by decide))
      · rename_i heq
        obtain ⟨rfl, rfl⟩ := List.cons.inj heq
        rw [hradix]
        simp only
        rw [unsigned?, if_neg (by simp), hval]
        rfl

end JsText
