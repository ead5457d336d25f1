import RoundWatch.Foundation.JsonText
import RoundWatch.Foundation.Dates
import Mathlib.Data.List.DropRight

/-!
# Decimals

A finite number is given by the digits that `Number::toString` writes for it: the shortest
decimal that is nearest to it.  Integers below `2 ^ 53` are their own decimals, and a
decimal is zero, an integer or below another one just when its number is.

* `Decimal` — digits without zeros at either end, and the place of the point;
* `Decimal.text` — `Number::toString`;
* `readDecimal` — the numerals of JSON;
* `readDecimal_text` — a number is read back from its text.
-/

namespace Decimals

open JsText JsonText Dates

/-- The number `0.d₁d₂…dₖ × 10 ^ point`. -/
structure Decimal where
  digits : JsString
  point : ℤ
  isDigit : ∀ u ∈ digits, isDecimalDigit u = true
  first : digits.head? ≠ some 48
  last : digits.getLast? ≠ some 48
  zero : digits = [] → point = 0
  deriving DecidableEq

theorem Decimal.ext_digits {d d' : Decimal} (hdigits : d.digits = d'.digits)
    (hpoint : d.point = d'.point) : d = d' := by
  obtain ⟨digits, point, _, _, _, _⟩ := d
  obtain ⟨digits', point', _, _, _, _⟩ := d'
  obtain rfl : digits = digits' := hdigits
  obtain rfl : point = point' := hpoint
  rfl

instance : Zero Decimal := ⟨⟨[], 0, by simp, by simp, by simp, fun _ => rfl⟩⟩

theorem Decimal.eq_zero_iff {d : Decimal} : d = 0 ↔ d.digits = [] := by
  constructor
  · rintro rfl
    rfl
  · intro h
    exact Decimal.ext_digits h (d.zero h)

/-- No digit stands behind the point. -/
def Decimal.isInteger (d : Decimal) : Bool := decide ((d.digits.length : ℤ) ≤ d.point)

/-- The number without its fraction. -/
def Decimal.floor (d : Decimal) : ℕ :=
  (digitsValue? 10 0 (d.digits.take d.point.toNat)).getD 0 *
    10 ^ (d.point.toNat - d.digits.length)

/-! ## The digits of a numeral -/

def zeros (n : ℕ) : JsString := List.replicate n 48

def isZero (u : UInt16) : Bool := u == 48

/-- The digits between the zeros at both ends. -/
def trimZeros (s : JsString) : JsString := (s.dropWhile isZero).rdropWhile isZero

theorem mem_of_mem_trimZeros {s : JsString} {u : UInt16} (h : u ∈ trimZeros s) : u ∈ s :=
  (List.dropWhile_sublist isZero).subset ((List.rdropWhile_prefix isZero _).subset h)

theorem head_trimZeros (s : JsString) : (trimZeros s).head? ≠ some 48 := by
  intro h
  obtain ⟨rest, hrest⟩ := List.rdropWhile_prefix isZero (l := s.dropWhile isZero)
  have hhead : (s.dropWhile isZero).head? = some 48 := by
    rw [← hrest]
    exact (List.head?_append_of_ne_nil _ (by rintro hnil; rw [trimZeros, hnil] at h; cases h)).trans h
  have hdrop := List.head?_dropWhile_not isZero s
  rw [hhead] at hdrop
  cases hdrop

theorem getLast_trimZeros (s : JsString) : (trimZeros s).getLast? ≠ some 48 := by
  intro h
  have hne : trimZeros s ≠ [] := by
    intro hnil
    rw [hnil] at h
    cases h
  have hlast := List.rdropWhile_last_not isZero (s.dropWhile isZero) hne
  rw [List.getLast?_eq_getLast_of_ne_nil hne, Option.some.injEq] at h
  exact hlast (beq_iff_eq.2 h)

/-- The decimal `0.s × 10 ^ point`, when all of `s` are digits. -/
def Decimal.ofDigits? (s : JsString) (point : ℤ) : Option Decimal :=
  if h : s.all isDecimalDigit = true then
    some
      { digits := trimZeros s
        point := if trimZeros s = [] then 0 else point - (s.takeWhile isZero).length
        isDigit := fun u hu => List.all_eq_true.1 h u (mem_of_mem_trimZeros hu)
        first := head_trimZeros s
        last := getLast_trimZeros s
        zero := fun hnil => if_pos hnil }
  else none

theorem takeWhile_zeros {s : JsString} (h : s.head? ≠ some 48) (n : ℕ) :
    (zeros n ++ s).takeWhile isZero = zeros n ∧ (zeros n ++ s).dropWhile isZero = s := by
  have hzeros : ∀ u ∈ zeros n, isZero u = true := fun u hu => by
    rw [List.eq_of_mem_replicate hu]
    rfl
  have hhead : s.takeWhile isZero = [] ∧ s.dropWhile isZero = s := by
    cases s with
    | nil => exact ⟨rfl, rfl⟩
    | cons u s =>
      have hu : ¬isZero u = true := by simpa [isZero] using h
      exact ⟨List.takeWhile_cons_of_neg hu, List.dropWhile_cons_of_neg hu⟩
  rw [List.takeWhile_append_of_pos hzeros, List.dropWhile_append_of_pos hzeros, hhead.1, hhead.2]
  exact ⟨List.append_nil _, rfl⟩

theorem rdropWhile_zeros {s : JsString} (h : s.getLast? ≠ some 48) (n : ℕ) :
    (s ++ zeros n).rdropWhile isZero = s := by
  induction n with
  | zero =>
    rw [zeros, List.replicate_zero, List.append_nil, List.rdropWhile_eq_self_iff]
    intro hne hlast
    rw [List.getLast?_eq_getLast_of_ne_nil hne] at h
    exact h (congrArg some (beq_iff_eq.1 hlast))
  | succ n ih =>
    rw [zeros, List.replicate_succ', ← List.append_assoc, List.rdropWhile_concat_pos _ _ _ rfl]
    exact ih

/-- Zeros at the ends are no digits of the number. -/
theorem ofDigits?_zeros {d : Decimal} (hd : d.digits ≠ []) (a b : ℕ) :
    Decimal.ofDigits? (zeros a ++ d.digits ++ zeros b) (d.point + a) = some d := by
  have hall : ∀ u ∈ zeros a ++ d.digits ++ zeros b, isDecimalDigit u = true := by
    have hzero : ∀ n, ∀ u ∈ zeros n, isDecimalDigit u = true := fun n u hu => by
      rw [List.eq_of_mem_replicate hu]
      decide
    intro u hu
    simp only [List.mem_append] at hu
    obtain (hu | hu) | hu := hu
    · exact hzero a u hu
    · exact d.isDigit u hu
    · exact hzero b u hu
  have hhead : (d.digits ++ zeros b).head? ≠ some 48 := by
    rw [List.head?_append_of_ne_nil _ hd]
    exact d.first
  obtain ⟨htake, hdrop⟩ := takeWhile_zeros hhead a
  have htrim : trimZeros (zeros a ++ d.digits ++ zeros b) = d.digits := by
    rw [trimZeros, List.append_assoc, hdrop, rdropWhile_zeros d.last]
  rw [Decimal.ofDigits?, dif_pos (List.all_eq_true.2 hall), Option.some.injEq]
  refine Decimal.ext_digits htrim ?_
  show (if trimZeros (zeros a ++ d.digits ++ zeros b) = [] then 0 else _) = d.point
  rw [if_neg (by rw [htrim]; exact hd), List.append_assoc, htake, zeros, List.length_replicate]
  omega

theorem ofDigits?_zero (point : ℤ) : Decimal.ofDigits? [48] point = some 0 := by
  rfl

/-! ## Numerals -/

/-- `e` with a sign and digits. -/
def exponentText (e : ℤ) : JsString := 101 :: (if e < 0 then 45 else 43) :: decimal e.natAbs

/-- Digits before and behind the point, and the exponent. -/
def numeral (int frac : JsString) (e : Option ℤ) : JsString :=
  int ++ (if frac = [] then [] else 46 :: frac) ++ (e.map exponentText).getD []

/-- `Number::toString`, with `k` digits and the point behind the `n`-th. -/
def Decimal.text (d : Decimal) : JsString :=
  let k := d.digits.length
  let n := d.point
  if d.digits = [] then numeral [48] [] none
  else if k ≤ n ∧ n ≤ 21 then numeral (d.digits ++ zeros (n - k).toNat) [] none
  else if 0 < n ∧ n ≤ 21 then numeral (d.digits.take n.toNat) (d.digits.drop n.toNat) none
  else if -6 < n ∧ n ≤ 0 then numeral [48] (zeros (-n).toNat ++ d.digits) none
  else numeral (d.digits.take 1) (d.digits.drop 1) (some (n - 1))

/-- A run of digits. -/
def readRun (s : JsString) : Option (JsString × JsString) :=
  let digits := s.takeWhile isDecimalDigit
  if digits = [] then none else some (digits, s.dropWhile isDecimalDigit)

/-- The digits before the point: a zero, or digits that do not begin with one. -/
def readInt (s : JsString) : Option (JsString × JsString) :=
  (readRun s).bind fun p => if p.1.head? = some 48 ∧ p.1 ≠ [48] then none else some p

def readFrac (s : JsString) : Option (JsString × JsString) :=
  if s.head? = some 46 then readRun s.tail else some ([], s)

/-- The exponent, with a sign or without. -/
def readExponent (s : JsString) : Option (ℤ × JsString) :=
  if s.head? = some 101 ∨ s.head? = some 69 then
    let sign := s.tail.head?
    (readRun (if sign = some 45 ∨ sign = some 43 then s.tail.tail else s.tail)).bind fun p =>
      (digitsValue? 10 0 p.1).map fun e => (if sign = some 45 then -(e : ℤ) else e, p.2)
  else some (0, s)

/-- A numeral of JSON without a minus. -/
def readDecimal (s : JsString) : Option (Decimal × JsString) :=
  (readInt s).bind fun int =>
  (readFrac int.2).bind fun frac =>
  (readExponent frac.2).bind fun e =>
  (Decimal.ofDigits? (int.1 ++ frac.1) (int.1.length + e.1)).map fun d => (d, e.2)

/-! ## Reading back -/

/-- Neither a digit nor a point. -/
def Ends (next : Option UInt16) : Prop :=
  ∀ u, next = some u → isDecimalDigit u = false ∧ u ≠ 46

theorem ends_of_numberEnd {next : Option UInt16} (h : NumberEnd next) :
    Ends next ∧ next ≠ some 101 ∧ next ≠ some 69 := by
  refine ⟨fun u hu => ?_, ?_, ?_⟩
  · obtain rfl | rfl | rfl := h u hu <;> decide
  · intro heq
    exact absurd (h 101 heq) (by decide)
  · intro heq
    exact absurd (h 69 heq) (by decide)

theorem readRun_append {run rest : JsString} (hrun : ∀ u ∈ run, isDecimalDigit u = true)
    (hne : run ≠ []) (hrest : ∀ u, rest.head? = some u → isDecimalDigit u = false) :
    readRun (run ++ rest) = some (run, rest) := by
  have hstop : rest.takeWhile isDecimalDigit = [] ∧ rest.dropWhile isDecimalDigit = rest := by
    cases rest with
    | nil => exact ⟨rfl, rfl⟩
    | cons u rest =>
      have hu : ¬isDecimalDigit u = true := by simp [hrest u rfl]
      exact ⟨List.takeWhile_cons_of_neg hu, List.dropWhile_cons_of_neg hu⟩
  have htake : (run ++ rest).takeWhile isDecimalDigit = run := by
    rw [List.takeWhile_append_of_pos hrun, hstop.1, List.append_nil]
  have hdrop : (run ++ rest).dropWhile isDecimalDigit = rest := by
    rw [List.dropWhile_append_of_pos hrun, hstop.2]
  simp only [readRun, htake, hdrop, if_neg hne]

theorem isDecimalDigit_decimal {n : ℕ} {u : UInt16} (h : u ∈ decimal n) :
    isDecimalDigit u = true := by
  have hrange := decimal_range h
  simp only [isDecimalDigit, digitValue?, hrange, decide_true, Bool.and_self, if_true]
  rw [if_pos (by omega)]
  rfl

/-- An exponent is read back, up to the end of the number. -/
theorem readExponent_append (e : Option ℤ) {rest : JsString} (hrest : NumberEnd rest.head?) :
    readExponent ((e.map exponentText).getD [] ++ rest) = some (e.getD 0, rest) := by
  obtain ⟨hends, hlower, hupper⟩ := ends_of_numberEnd hrest
  cases e with
  | none =>
    have hno : ¬(rest.head? = some 101 ∨ rest.head? = some 69) := by simp [hlower, hupper]
    simp [readExponent, hno]
  | some e =>
    have hrun : readRun (decimal e.natAbs ++ rest) = some (decimal e.natAbs, rest) :=
      readRun_append (fun u => isDecimalDigit_decimal) (digitsOf_ne_nil (Or.inr (by omega)))
        fun u hu => (hends u hu).1
    have hvalue : digitsValue? 10 0 (decimal e.natAbs) = some e.natAbs := by
      rw [decimal, digitsValue?_digitsOf (by omega), digitsValue?]
    by_cases hneg : e < 0
    · have habs : -|e| = e := by rw [abs_of_neg hneg, neg_neg]
      simp [readExponent, exponentText, hneg, hrun, hvalue, habs]
    · have habs : |e| = e := abs_of_nonneg (not_lt.1 hneg)
      simp [readExponent, exponentText, hneg, hrun, hvalue, habs]

theorem ends_exponent (e : Option ℤ) {rest : JsString} (hrest : NumberEnd rest.head?) :
    Ends ((e.map exponentText).getD [] ++ rest).head? := by
  cases e with
  | none => exact (ends_of_numberEnd hrest).1
  | some e =>
    intro u hu
    obtain rfl : 101 = u := Option.some.inj hu
    decide

theorem readFrac_append {frac rest : JsString} (hfrac : ∀ u ∈ frac, isDecimalDigit u = true)
    (hrest : Ends rest.head?) :
    readFrac ((if frac = [] then [] else 46 :: frac) ++ rest) = some (frac, rest) := by
  by_cases hnil : frac = []
  · have hpoint : rest.head? ≠ some 46 := fun h => (hrest 46 h).2 rfl
    simp [readFrac, hnil, hpoint]
  · have hrun := readRun_append hfrac hnil fun u hu => (hrest u hu).1
    simp [readFrac, hnil, hrun]

/-- The parts of a numeral are read back. -/
theorem readDecimal_numeral {int frac : JsString} (e : Option ℤ) {rest : JsString}
    (hint : ∀ u ∈ int, isDecimalDigit u = true) (hne : int ≠ [])
    (hlead : int.head? = some 48 → int = [48]) (hfrac : ∀ u ∈ frac, isDecimalDigit u = true)
    (hrest : NumberEnd rest.head?) :
    readDecimal (numeral int frac e ++ rest) =
      (Decimal.ofDigits? (int ++ frac) (int.length + e.getD 0)).map fun d => (d, rest) := by
  have hbehind := ends_exponent e hrest
  have hends : ∀ u, ((if frac = [] then [] else 46 :: frac) ++
      ((e.map exponentText).getD [] ++ rest)).head? = some u → isDecimalDigit u = false := by
    intro u hu
    by_cases hnil : frac = []
    · rw [if_pos hnil] at hu
      exact (hbehind u hu).1
    · rw [if_neg hnil] at hu
      obtain rfl : 46 = u := Option.some.inj hu
      decide
  have hnumber : ¬(int.head? = some 48 ∧ int ≠ [48]) := fun h => h.2 (hlead h.1)
  have hread : readInt (int ++ ((if frac = [] then [] else 46 :: frac) ++
      ((e.map exponentText).getD [] ++ rest))) =
        some (int, (if frac = [] then [] else 46 :: frac) ++
          ((e.map exponentText).getD [] ++ rest)) := by
    rw [readInt, readRun_append hint hne hends, Option.bind_some, if_neg hnumber]
  rw [numeral, List.append_assoc, List.append_assoc, readDecimal, hread, Option.bind_some,
    readFrac_append hfrac hbehind, Option.bind_some, readExponent_append e hrest, Option.bind_some]

theorem isDecimalDigit_zeros {n : ℕ} {u : UInt16} (h : u ∈ zeros n) : isDecimalDigit u = true := by
  rw [List.eq_of_mem_replicate h]
  decide

/-- The numeral of a number: its digits, with zeros around them, and the place of the point. -/
structure Spells (d : Decimal) (int frac : JsString) (e : Option ℤ) : Prop where
  digits : ∃ a b, int ++ frac = zeros a ++ d.digits ++ zeros b ∧
    int.length + e.getD 0 = d.point + a
  nonempty : int ≠ []
  lead : int.head? = some 48 → int = [48]

theorem exists_spells {d : Decimal} (hd : d.digits ≠ []) :
    ∃ int frac e, d.text = numeral int frac e ∧ Spells d int frac e := by
  have hlead : ∀ int : JsString, int.head? = d.digits.head? → int.head? = some 48 → int = [48] :=
    fun int hint h => absurd (hint ▸ h) d.first
  have hlength : 0 < d.digits.length := List.length_pos_of_ne_nil hd
  have htake : ∀ n, 0 < n → (d.digits.take n).head? = d.digits.head? := by
    intro n hn
    rw [List.head?_take, if_neg (by omega)]
  have hnonempty : ∀ n, 0 < n → d.digits.take n ≠ [] := by
    intro n hn hnil
    rw [List.take_eq_nil_iff] at hnil
    obtain rfl | hnil := hnil
    · omega
    · exact hd hnil
  rw [Decimal.text, if_neg hd]
  split_ifs with hinteger hinside hfraction
  · -- all digits stand before the point
    refine ⟨_, _, _, rfl, ⟨0, (d.point - d.digits.length).toNat, by simp [zeros], ?_⟩, by simp [hd],
      hlead _ (List.head?_append_of_ne_nil _ hd)⟩
    rw [List.length_append, zeros, List.length_replicate, Option.getD_none]
    omega
  · -- the point stands between the digits
    refine ⟨_, _, _, rfl, ⟨0, 0, by simp [zeros], ?_⟩, hnonempty _ (by omega),
      hlead _ (htake _ (by omega))⟩
    rw [List.length_take, Option.getD_none]
    omega
  · -- zeros stand between the point and the digits
    refine ⟨_, _, _, rfl, ⟨1 + (-d.point).toNat, 0,
      by simp [zeros, List.replicate_succ, Nat.add_comm], ?_⟩, by simp, fun _ => rfl⟩
    rw [List.length_singleton, Option.getD_none]
    omega
  · -- one digit stands before the point, and an exponent behind
    refine ⟨_, _, _, rfl, ⟨0, 0, by rw [List.take_append_drop]; simp [zeros], ?_⟩,
      hnonempty 1 (by omega), hlead _ (htake 1 (by omega))⟩
    rw [List.length_take, Option.getD_some]
    omega

theorem Spells.isDigit {d : Decimal} {int frac : JsString} {e : Option ℤ}
    (h : Spells d int frac e) :
    ∀ u ∈ int ++ frac, isDecimalDigit u = true := by
  obtain ⟨a, b, hdigits, -⟩ := h.digits
  intro u hu
  rw [hdigits] at hu
  simp only [List.mem_append] at hu
  obtain (hu | hu) | hu := hu
  · exact isDecimalDigit_zeros hu
  · exact d.isDigit u hu
  · exact isDecimalDigit_zeros hu

/-- **A number is read back from its text.** -/
theorem readDecimal_text (d : Decimal) {rest : JsString} (hrest : NumberEnd rest.head?) :
    readDecimal (d.text ++ rest) = some (d, rest) := by
  by_cases hd : d.digits = []
  · have hzero : ∀ u ∈ ([48] : JsString), isDecimalDigit u = true := by
      intro u hu
      rw [List.mem_singleton.1 hu]
      rfl
    rw [Decimal.text, if_pos hd, readDecimal_numeral none hzero (by simp) (fun _ => rfl) (by simp)
      hrest, List.append_nil, ofDigits?_zero, Option.map_some, Decimal.eq_zero_iff.2 hd]
  · obtain ⟨int, frac, e, htext, hspells⟩ := exists_spells hd
    obtain ⟨a, b, hdigits, hpoint⟩ := hspells.digits
    rw [htext, readDecimal_numeral e
      (fun u hu => hspells.isDigit u (List.mem_append_left _ hu)) hspells.nonempty hspells.lead
      (fun u hu => hspells.isDigit u (List.mem_append_right _ hu)) hrest, hdigits, hpoint,
      ofDigits?_zeros hd, Option.map_some]

theorem isDecimalDigit_range {u : UInt16} (h : isDecimalDigit u = true) :
    48 ≤ u.toNat ∧ u.toNat ≤ 57 := by
  unfold isDecimalDigit digitValue? at h
  simp only [Bool.and_eq_true, decide_eq_true_eq] at h
  split_ifs at h with hdigit hlower hupper hvalue
  all_goals first | exact hdigit | (exfalso; omega) | cases h

/-- The text of a number begins with a digit. -/
theorem exists_text_eq_cons (d : Decimal) :
    ∃ u rest, d.text = u :: rest ∧ 48 ≤ u.toNat ∧ u.toNat ≤ 57 := by
  by_cases hd : d.digits = []
  · exact ⟨48, [], by rw [Decimal.text, if_pos hd]; rfl, by decide⟩
  · obtain ⟨int, frac, e, htext, hspells⟩ := exists_spells hd
    cases int with
    | nil => exact absurd rfl hspells.nonempty
    | cons u int =>
      exact ⟨u, _, htext, isDecimalDigit_range (hspells.isDigit u (by simp))⟩

/-! ## Numbers of a document -/

/-- The numbers that JSON can tell apart: there is one zero. -/
structure JsonNumber where
  negative : Bool
  magnitude : Decimal
  oneZero : magnitude = 0 → negative = false
  deriving DecidableEq

/-- A number with a sign, which a zero loses. -/
def JsonNumber.signed (negative : Bool) (d : Decimal) : JsonNumber :=
  if h : d = 0 then ⟨false, 0, fun _ => rfl⟩ else ⟨negative, d, fun h' => absurd h' h⟩

theorem JsonNumber.signed_eq (n : JsonNumber) : signed n.negative n.magnitude = n := by
  obtain ⟨negative, magnitude, hzero⟩ := n
  unfold signed
  split
  · next h =>
    obtain rfl : magnitude = 0 := h
    obtain rfl : negative = false := hzero rfl
    rfl
  · rfl

def JsonNumber.text (n : JsonNumber) : JsString :=
  if n.negative then 45 :: n.magnitude.text else n.magnitude.text

def readNumber (s : JsString) : Option (JsonNumber × JsString) :=
  if s.head? = some 45 then (readDecimal s.tail).map fun p => (.signed true p.1, p.2)
  else (readDecimal s).map fun p => (.signed false p.1, p.2)

/-- The numbers of a document and their texts. -/
def jsonNumbers : NumberFormat JsonNumber where
  write := JsonNumber.text
  read := readNumber
  starts n := by
    obtain ⟨u, rest, htext, hrange⟩ := exists_text_eq_cons n.magnitude
    unfold JsonNumber.text
    split
    · exact ⟨45, _, rfl, Or.inl rfl⟩
    · exact ⟨u, rest, htext, Or.inr hrange⟩
  read_write n rest hrest := by
    obtain ⟨u, more, htext, hrange⟩ := exists_text_eq_cons n.magnitude
    have hread := readDecimal_text n.magnitude hrest
    have hsigned := n.signed_eq
    unfold JsonNumber.text readNumber
    cases hneg : n.negative with
    | true =>
      rw [hneg] at hsigned
      simp [hread, hsigned]
    | false =>
      rw [hneg] at hsigned
      have hhead : (n.magnitude.text ++ rest).head? ≠ some 45 := by
        rw [htext]
        intro h
        obtain rfl : u = 45 := Option.some.inj h
        exact absurd hrange.1 (by decide)
      simp only [Bool.false_eq_true, if_false, hhead, hread, Option.map_some, hsigned]

end Decimals
