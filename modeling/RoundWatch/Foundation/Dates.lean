import RoundWatch.Foundation.Text
import Mathlib.Tactic.IntervalCases
import Mathlib.Tactic.Ring

/-!
# Dates

Times count the milliseconds since 1970.  The calendar is the proleptic Gregorian one, and
texts have the format `YYYY-MM-DDTHH:mm:ss.sssZ`, with six digits and a sign for the years
outside of 0 to 9999.

* `civil`, `Civil.time` — a time by its calendar fields, and back: `time_civil`;
* `toIsoText` — `Date.prototype.toISOString`;
* `readIso`, `dateParse` — the texts that are understood, and their times;
* `isIsoUtc_toIsoText` — a time is read back from its own text.
-/

namespace Dates

open JsText

/-! ## The calendar -/

/-- `DayFromYear`: the first day of a year. -/
def dayFromYear (y : ℤ) : ℤ :=
  365 * (y - 1970) + (y - 1969) / 4 - (y - 1901) / 100 + (y - 1601) / 400

def isLeap (y : ℤ) : Bool := y % 4 = 0 && (y % 100 ≠ 0 || y % 400 = 0)

/-- `InLeapYear`. -/
def leapDay (y : ℤ) : ℤ := if isLeap y then 1 else 0

/-- `YearFromTime`, on days: a year that is one off at most, and then put right. -/
def yearFromDay (d : ℤ) : ℤ :=
  let y := 1970 + 400 * d / 146097
  if d < dayFromYear y then y - 1
  else if dayFromYear (y + 1) ≤ d then y + 1
  else y

theorem dayFromYear_succ (y : ℤ) : dayFromYear (y + 1) = dayFromYear y + 365 + leapDay y := by
  unfold leapDay dayFromYear isLeap
  simp only [Bool.and_eq_true, Bool.or_eq_true, decide_eq_true_eq]
  split <;> omega

theorem leapDay_cases (y : ℤ) : leapDay y = 0 ∨ leapDay y = 1 := by
  unfold leapDay
  split
  · exact Or.inr rfl
  · exact Or.inl rfl

theorem yearFromDay_spec (d : ℤ) :
    dayFromYear (yearFromDay d) ≤ d ∧ d < dayFromYear (yearFromDay d + 1) := by
  have hestimate : dayFromYear (1970 + 400 * d / 146097 - 1) ≤ d ∧
      d < dayFromYear (1970 + 400 * d / 146097 + 1 + 1) := by
    unfold dayFromYear
    omega
  unfold yearFromDay
  simp only
  split_ifs with hbelow habove
  · rw [Int.sub_add_cancel]
    exact ⟨hestimate.1, hbelow⟩
  · exact ⟨habove, hestimate.2⟩
  · exact ⟨not_lt.1 hbelow, not_le.1 habove⟩

/-- The days of a year before a month, when `l` is the leap day. -/
def monthStart (l : ℤ) : ℕ → ℤ
  | 0 | 1 => 0
  | 2 => 31
  | 3 => 59 + l
  | 4 => 90 + l
  | 5 => 120 + l
  | 6 => 151 + l
  | 7 => 181 + l
  | 8 => 212 + l
  | 9 => 243 + l
  | 10 => 273 + l
  | 11 => 304 + l
  | 12 => 334 + l
  | _ => 365 + l

/-- The last month up to `k` that has begun on a day of the year. -/
def monthUpTo (l n : ℤ) : ℕ → ℕ
  | 0 => 0
  | k + 1 => if monthStart l (k + 1) ≤ n then k + 1 else monthUpTo l n k

/-- `MonthFromTime`, counted from one, by the day within the year. -/
def monthFromDay (l n : ℤ) : ℕ := monthUpTo l n 12

theorem monthUpTo_spec {l n : ℤ} (hn : 0 ≤ n) :
    ∀ k, 1 ≤ k → n < monthStart l (k + 1) →
      (1 ≤ monthUpTo l n k ∧ monthUpTo l n k ≤ k) ∧ monthStart l (monthUpTo l n k) ≤ n ∧
        n < monthStart l (monthUpTo l n k + 1) := by
  intro k
  induction k with
  | zero => intro h; omega
  | succ k ih =>
    intro _ hlt
    rw [monthUpTo]
    by_cases hbegun : monthStart l (k + 1) ≤ n
    · rw [if_pos hbegun]
      exact ⟨⟨by omega, le_rfl⟩, hbegun, hlt⟩
    · rw [if_neg hbegun]
      have hk : 1 ≤ k := by
        by_contra hzero
        obtain rfl : k = 0 := by omega
        exact hbegun hn
      obtain ⟨hrange, hday⟩ := ih hk (by omega)
      exact ⟨⟨hrange.1, by omega⟩, hday⟩

theorem monthStart_succ_le {l : ℤ} (hl : l = 0 ∨ l = 1) {m : ℕ} (hm : 1 ≤ m ∧ m ≤ 12) :
    monthStart l (m + 1) ≤ monthStart l m + 31 := by
  obtain ⟨hpos, hle⟩ := hm
  interval_cases m <;> simp only [monthStart] <;> omega

theorem monthFromDay_spec {l n : ℤ} (hl : l = 0 ∨ l = 1) (hn : 0 ≤ n ∧ n < 365 + l) :
    (1 ≤ monthFromDay l n ∧ monthFromDay l n ≤ 12) ∧
      monthStart l (monthFromDay l n) ≤ n ∧ n < monthStart l (monthFromDay l n) + 31 := by
  obtain ⟨hrange, hstart, hend⟩ := monthUpTo_spec hn.1 12 (by omega) hn.2
  have hlength := monthStart_succ_le hl hrange
  unfold monthFromDay
  exact ⟨hrange, hstart, by omega⟩

/-- The fields of a date. -/
structure Civil where
  year : ℤ
  month : ℕ
  day : ℕ
  hour : ℕ
  minute : ℕ
  second : ℕ
  millisecond : ℕ
  deriving DecidableEq, Repr

/-- `MakeTime` and `MakeDate`. -/
def Civil.time (c : Civil) : ℤ :=
  (dayFromYear c.year + monthStart (leapDay c.year) c.month + (c.day - 1)) * 86400000 +
    c.hour * 3600000 + c.minute * 60000 + c.second * 1000 + c.millisecond

/-- The fields of a time. -/
def civil (t : ℤ) : Civil :=
  let d := t / 86400000
  let y := yearFromDay d
  let n := d - dayFromYear y
  let m := monthFromDay (leapDay y) n
  { year := y
    month := m
    day := (n - monthStart (leapDay y) m + 1).toNat
    hour := (t % 86400000 / 3600000).toNat
    minute := (t % 3600000 / 60000).toNat
    second := (t % 60000 / 1000).toNat
    millisecond := (t % 1000).toNat }

/-- The day within its year. -/
theorem dayInYear_spec (d : ℤ) :
    0 ≤ d - dayFromYear (yearFromDay d) ∧
      d - dayFromYear (yearFromDay d) < 365 + leapDay (yearFromDay d) := by
  obtain ⟨hle, hlt⟩ := yearFromDay_spec d
  rw [dayFromYear_succ] at hlt
  omega

theorem time_civil (t : ℤ) : (civil t).time = t := by
  obtain ⟨-, hstart, -⟩ := monthFromDay_spec (leapDay_cases (yearFromDay (t / 86400000)))
    (dayInYear_spec (t / 86400000))
  unfold civil Civil.time
  simp only
  rw [Int.toNat_of_nonneg (by omega), Int.toNat_of_nonneg (by omega),
    Int.toNat_of_nonneg (by omega), Int.toNat_of_nonneg (by omega),
    Int.toNat_of_nonneg (by omega)]
  omega

/-- The fields of a time are in their ranges. -/
structure Civil.InRange (c : Civil) : Prop where
  month : 1 ≤ c.month ∧ c.month ≤ 12
  day : 1 ≤ c.day ∧ c.day ≤ 31
  hour : c.hour < 24
  minute : c.minute < 60
  second : c.second < 60
  millisecond : c.millisecond < 1000

theorem civil_inRange (t : ℤ) : (civil t).InRange := by
  obtain ⟨hmonth, hstart, hend⟩ := monthFromDay_spec
    (leapDay_cases (yearFromDay (t / 86400000))) (dayInYear_spec (t / 86400000))
  constructor
  · exact hmonth
  · simp only [civil]
    omega
  · simp only [civil]
    omega
  · simp only [civil]
    omega
  · simp only [civil]
    omega
  · simp only [civil]
    omega

/-- The greatest time there is, and with its sign the least. -/
def maxTime : ℤ := 8640000000000000

theorem civil_year_range {t : ℤ} (h : t.natAbs ≤ maxTime.natAbs) :
    -1000000 < (civil t).year ∧ (civil t).year < 1000000 := by
  have hmax : maxTime.natAbs = 8640000000000000 := rfl
  obtain ⟨hle, hlt⟩ := yearFromDay_spec (t / 86400000)
  simp only [civil]
  unfold dayFromYear at hle hlt
  omega

/-! ## Digits -/

/-- The last digits of a number, so many of them. -/
def padded : ℕ → ℕ → JsString
  | 0, _ => []
  | w + 1, n => digitUnit (n / 10 ^ w % 10) :: padded w n

/-- Reads so many digits, behind those of `acc`. -/
def readDigits : ℕ → ℕ → JsString → Option (ℕ × JsString)
  | 0, acc, s => some (acc, s)
  | _ + 1, _, [] => none
  | w + 1, acc, u :: rest => (digitValue? 10 u).bind fun d => readDigits w (acc * 10 + d) rest

theorem readDigits_padded (w n acc : ℕ) (rest : JsString) :
    readDigits w acc (padded w n ++ rest) = some (acc * 10 ^ w + n % 10 ^ w, rest) := by
  induction w generalizing acc with
  | zero => simp [padded, readDigits, Nat.mod_one]
  | succ w ih =>
    have hdigit : n / 10 ^ w % 10 < 10 := Nat.mod_lt _ (by omega)
    rw [padded, List.cons_append, readDigits, digitValue?_digitUnit hdigit, Option.bind_some, ih,
      Nat.mod_pow_succ, pow_succ]
    congr 2
    ring

theorem readDigits_padded_of_lt {w n : ℕ} (h : n < 10 ^ w) (rest : JsString) :
    readDigits w 0 (padded w n ++ rest) = some (n, rest) := by
  rw [readDigits_padded, Nat.mod_eq_of_lt h, Nat.zero_mul, Nat.zero_add]

theorem readDigits_length {w acc n : ℕ} {s rest : JsString}
    (h : readDigits w acc s = some (n, rest)) : s.length = w + rest.length := by
  induction w generalizing acc s with
  | zero =>
    cases h
    simp
  | succ w ih =>
    cases s with
    | nil => cases h
    | cons u s =>
      obtain ⟨d, -, hrest⟩ := Option.bind_eq_some_iff.1 h
      rw [List.length_cons, ih hrest]
      omega

@[simp] theorem length_padded (w n : ℕ) : (padded w n).length = w := by
  induction w with
  | zero => rfl
  | succ w ih => rw [padded, List.length_cons, ih]

/-- `\d`. -/
def isDecimalDigit (u : UInt16) : Bool := (digitValue? 10 u).isSome

theorem isDecimalDigit_padded {w n : ℕ} {u : UInt16} (h : u ∈ padded w n) :
    isDecimalDigit u = true := by
  induction w with
  | zero => cases h
  | succ w ih =>
    rw [padded, List.mem_cons] at h
    obtain rfl | h := h
    · rw [isDecimalDigit, digitValue?_digitUnit (Nat.mod_lt _ (by omega))]
      rfl
    · exact ih h

/-! ## Texts -/

/-- `YYYY`, or a sign and six digits. -/
def yearText (y : ℤ) : JsString :=
  if 0 ≤ y ∧ y ≤ 9999 then padded 4 y.natAbs
  else (if y < 0 then 45 else 43) :: padded 6 y.natAbs

/-- The text up to the seconds. -/
def secondsText (c : Civil) : JsString :=
  yearText c.year ++ 45 :: padded 2 c.month ++ 45 :: padded 2 c.day ++ 84 :: padded 2 c.hour ++
    58 :: padded 2 c.minute ++ 58 :: padded 2 c.second

/-- `Date.prototype.toISOString`, on a time in its range. -/
def toIsoText (t : ℤ) : JsString :=
  secondsText (civil t) ++ 46 :: padded 3 (civil t).millisecond ++ [90]

/-- A character of the format. -/
def readUnit (u : UInt16) : JsString → Option JsString
  | [] => none
  | v :: rest => if v = u then some rest else none

/-- `\d{4}|[+-]\d{6}`: whether there is a minus, and the digits. -/
def readYear (s : JsString) : Option ((Bool × ℕ) × JsString) :=
  if s.head? = some 43 ∨ s.head? = some 45 then
    (readDigits 6 0 s.tail).map fun p => ((s.head? = some 45, p.1), p.2)
  else (readDigits 4 0 s).map fun p => ((false, p.1), p.2)

/-- What the first group of the format says. -/
structure IsoParts where
  negative : Bool
  year : ℕ
  month : ℕ
  day : ℕ
  hour : ℕ
  minute : ℕ
  second : ℕ

/-- The first group of the format, and what stands behind it. -/
def readSeconds (s : JsString) : Option (IsoParts × JsString) :=
  (readYear s).bind fun year =>
  (readUnit 45 year.2).bind fun s =>
  (readDigits 2 0 s).bind fun month =>
  (readUnit 45 month.2).bind fun s =>
  (readDigits 2 0 s).bind fun day =>
  (readUnit 84 day.2).bind fun s =>
  (readDigits 2 0 s).bind fun hour =>
  (readUnit 58 hour.2).bind fun s =>
  (readDigits 2 0 s).bind fun minute =>
  (readUnit 58 minute.2).bind fun s =>
  (readDigits 2 0 s).map fun second =>
    (⟨year.1.1, year.1.2, month.1, day.1, hour.1, minute.1, second.1⟩, second.2)

/-- `(?:\.(\d{1,9}))?Z$`: the digits behind the point. -/
def readFraction (s : JsString) : Option JsString :=
  if s = [90] then some []
  else
    (readUnit 46 s).bind fun rest =>
    let digits := rest.takeWhile isDecimalDigit
    if 1 ≤ digits.length ∧ digits.length ≤ 9 ∧ rest.dropWhile isDecimalDigit = [90] then
      some digits
    else none

/-- `padEnd(3, '0').slice(0, 3)`. -/
def thousandths (fraction : JsString) : JsString := (fraction ++ [48, 48, 48]).take 3

/-- The fields of the date that is meant. -/
def IsoParts.civil (p : IsoParts) (millisecond : ℕ) : Civil :=
  ⟨if p.negative then -(p.year : ℤ) else p.year, p.month, p.day, p.hour, p.minute, p.second,
    millisecond⟩

/-- `Date.parse`, on a text of the format: fields outside of their ranges have no time, and
the days of a month may run over into the next. -/
def dateParse (p : IsoParts) (fraction : JsString) : Option ℤ :=
  let millisecond := ((readDigits 3 0 (thousandths fraction)).map Prod.fst).getD 0
  let t := (p.civil millisecond).time
  if (p.negative = true ∧ p.year = 0) ∨ p.month < 1 ∨ 12 < p.month ∨ p.day < 1 ∨ 31 < p.day ∨
      24 < p.hour ∨ (p.hour = 24 ∧ (p.minute ≠ 0 ∨ p.second ≠ 0 ∨ millisecond ≠ 0)) ∨
      59 < p.minute ∨ 59 < p.second ∨ maxTime.natAbs < t.natAbs then none
  else some t

/-- A text of the format whose time has this text again, up to the digits behind the
milliseconds. -/
def isIsoUtc (s : JsString) : Bool :=
  match readSeconds s with
  | none => false
  | some (p, rest) =>
      match readFraction rest with
      | none => false
      | some fraction =>
          match dateParse p fraction with
          | none => false
          | some t =>
              toIsoText t ==
                s.take (s.length - rest.length) ++ 46 :: thousandths fraction ++ [90]

/-! ## Reading back -/

@[simp] theorem readUnit_cons (u : UInt16) (rest : JsString) : readUnit u (u :: rest) = some rest :=
  if_pos rfl

theorem digitUnit_not_sign {d : ℕ} (h : d < 10) :
    ¬(some (digitUnit d) = some (43 : UInt16) ∨ some (digitUnit d) = some 45) := by
  have hrange := digitUnit_range h
  rintro (heq | heq)
  · rw [Option.some.inj heq] at hrange
    exact absurd hrange.1 (by decide)
  · rw [Option.some.inj heq] at hrange
    exact absurd hrange.1 (by decide)

theorem readYear_yearText {y : ℤ} (h : -1000000 < y ∧ y < 1000000) (rest : JsString) :
    readYear (yearText y ++ rest) = some ((decide (y < 0), y.natAbs), rest) := by
  unfold yearText
  by_cases hfour : 0 ≤ y ∧ y ≤ 9999
  · have hread := readDigits_padded_of_lt (w := 4) (n := y.natAbs) (by omega) rest
    have hhead : (padded 4 y.natAbs ++ rest).head? = some (digitUnit (y.natAbs / 10 ^ 3 % 10)) :=
      rfl
    rw [if_pos hfour, readYear, hhead, if_neg (digitUnit_not_sign (Nat.mod_lt _ (by omega))),
      hread]
    have hpos : ¬y < 0 := by omega
    simp [hpos]
  · have hread := readDigits_padded_of_lt (w := 6) (n := y.natAbs) (by omega) rest
    rw [if_neg hfour]
    by_cases hneg : y < 0
    · simp [readYear, hneg, hread]
    · simp [readYear, hneg, hread]

/-- The fields that the text says, up to the seconds. -/
def Civil.parts (c : Civil) : IsoParts :=
  ⟨decide (c.year < 0), c.year.natAbs, c.month, c.day, c.hour, c.minute, c.second⟩

theorem Civil.civil_parts (c : Civil) : c.parts.civil c.millisecond = c := by
  obtain ⟨year, month, day, hour, minute, second, millisecond⟩ := c
  have hyear : (if year < 0 then -(year.natAbs : ℤ) else year.natAbs) = year := by
    split <;> omega
  simp only [parts, IsoParts.civil, decide_eq_true_eq, hyear]

theorem readSeconds_secondsText {c : Civil} (h : c.InRange)
    (hyear : -1000000 < c.year ∧ c.year < 1000000) (rest : JsString) :
    readSeconds (secondsText c ++ rest) = some (c.parts, rest) := by
  obtain ⟨hmonth, hday, hhour, hminute, hsecond, -⟩ := h
  have hread := fun n (hn : n < 100) rest => readDigits_padded_of_lt (w := 2) (n := n) hn rest
  simp only [readSeconds, secondsText, List.append_assoc, List.cons_append,
    readYear_yearText hyear, Option.bind_some, readUnit_cons, hread c.month (by omega),
    hread c.day (by omega), hread c.hour (by omega), hread c.minute (by omega),
    hread c.second (by omega), Option.map_some, Civil.parts]

theorem readFraction_padded (n : ℕ) :
    readFraction (46 :: padded 3 n ++ [90]) = some (padded 3 n) := by
  have hdigits : ∀ u ∈ padded 3 n, isDecimalDigit u = true := fun u => isDecimalDigit_padded
  have htake : (padded 3 n ++ [90]).takeWhile isDecimalDigit = padded 3 n := by
    rw [List.takeWhile_append_of_pos hdigits]
    simp only [List.takeWhile_cons]
    simp [show isDecimalDigit 90 = false by decide]
  have hdrop : (padded 3 n ++ [90]).dropWhile isDecimalDigit = [90] := by
    rw [List.dropWhile_append_of_pos hdigits]
    simp [show isDecimalDigit 90 = false by decide]
  have hne : 46 :: padded 3 n ++ [90] ≠ [90] := by simp
  rw [readFraction, if_neg hne, List.cons_append, readUnit_cons, Option.bind_some]
  simp only [htake, hdrop, length_padded]
  simp

theorem thousandths_padded (n : ℕ) : thousandths (padded 3 n) = padded 3 n := by
  rw [thousandths, List.take_append_of_le_length (by simp), List.take_of_length_le (by simp)]

theorem dateParse_civil {t : ℤ} (h : t.natAbs ≤ maxTime.natAbs) :
    dateParse (civil t).parts (padded 3 (civil t).millisecond) = some t := by
  obtain ⟨hmonth, hday, hhour, hminute, hsecond, hmillisecond⟩ := civil_inRange t
  have hread := readDigits_padded_of_lt (w := 3) (n := (civil t).millisecond) (by omega) []
  rw [List.append_nil] at hread
  simp only [dateParse, thousandths_padded, hread, Option.map_some, Option.getD_some,
    Civil.civil_parts, time_civil]
  have hyear : ¬((civil t).parts.negative = true ∧ (civil t).parts.year = 0) := by
    simp only [Civil.parts, decide_eq_true_eq]
    omega
  rw [if_neg]
  simp only [hyear, false_or]
  simp only [Civil.parts]
  omega

/-- **A time is read back from its own text.** -/
theorem isIsoUtc_toIsoText {t : ℤ} (h : t.natAbs ≤ maxTime.natAbs) :
    isIsoUtc (toIsoText t) = true := by
  have hseconds := readSeconds_secondsText (civil_inRange t) (civil_year_range h)
    (46 :: padded 3 (civil t).millisecond ++ [90])
  have htext : toIsoText t =
      secondsText (civil t) ++ (46 :: padded 3 (civil t).millisecond ++ [90]) := by
    rw [toIsoText, List.append_assoc]
  unfold isIsoUtc
  simp only [htext, hseconds, readFraction_padded, dateParse_civil h, thousandths_padded]
  simp

/-! ## Lengths -/

theorem readUnit_length {u : UInt16} {s rest : JsString} (h : readUnit u s = some rest) :
    s.length = 1 + rest.length := by
  cases s with
  | nil => cases h
  | cons v s =>
    rw [readUnit] at h
    split at h
    · cases h
      rw [List.length_cons]
      omega
    · cases h

theorem readYear_length {s rest : JsString} {year : Bool × ℕ} (h : readYear s = some (year, rest)) :
    s.length ≤ 7 + rest.length := by
  unfold readYear at h
  split at h
  · obtain ⟨⟨n, rest'⟩, hread, heq⟩ := Option.map_eq_some_iff.1 h
    cases heq
    have hlength := readDigits_length hread
    rw [List.length_tail] at hlength
    simp only
    omega
  · obtain ⟨⟨n, rest'⟩, hread, heq⟩ := Option.map_eq_some_iff.1 h
    cases heq
    have hlength := readDigits_length hread
    simp only
    omega

theorem readSeconds_length {s rest : JsString} {p : IsoParts} (h : readSeconds s = some (p, rest)) :
    s.length ≤ 22 + rest.length := by
  obtain ⟨⟨year, s₁⟩, hyear, h⟩ := Option.bind_eq_some_iff.1 h
  obtain ⟨s₂, hs₂, h⟩ := Option.bind_eq_some_iff.1 h
  obtain ⟨⟨month, s₃⟩, hmonth, h⟩ := Option.bind_eq_some_iff.1 h
  obtain ⟨s₄, hs₄, h⟩ := Option.bind_eq_some_iff.1 h
  obtain ⟨⟨day, s₅⟩, hday, h⟩ := Option.bind_eq_some_iff.1 h
  obtain ⟨s₆, hs₆, h⟩ := Option.bind_eq_some_iff.1 h
  obtain ⟨⟨hour, s₇⟩, hhour, h⟩ := Option.bind_eq_some_iff.1 h
  obtain ⟨s₈, hs₈, h⟩ := Option.bind_eq_some_iff.1 h
  obtain ⟨⟨minute, s₉⟩, hminute, h⟩ := Option.bind_eq_some_iff.1 h
  obtain ⟨s₁₀, hs₁₀, h⟩ := Option.bind_eq_some_iff.1 h
  obtain ⟨⟨second, s₁₁⟩, hsecond, heq⟩ := Option.map_eq_some_iff.1 h
  cases heq
  have hlengths := readYear_length hyear
  have h₂ := readUnit_length hs₂
  have h₃ := readDigits_length hmonth
  have h₄ := readUnit_length hs₄
  have h₅ := readDigits_length hday
  have h₆ := readUnit_length hs₆
  have h₇ := readDigits_length hhour
  have h₈ := readUnit_length hs₈
  have h₉ := readDigits_length hminute
  have h₁₀ := readUnit_length hs₁₀
  have h₁₁ := readDigits_length hsecond
  simp only at h₂ h₄ h₆ h₈ h₁₀ ⊢
  omega

theorem readFraction_length {s fraction : JsString} (h : readFraction s = some fraction) :
    s.length ≤ 11 := by
  unfold readFraction at h
  split at h
  · next hend => simp [hend]
  · obtain ⟨rest, hunit, h⟩ := Option.bind_eq_some_iff.1 h
    simp only at h
    split at h
    · next hdigits =>
      have hsplit := congrArg List.length (List.takeWhile_append_dropWhile (p := isDecimalDigit)
        (l := rest))
      rw [List.length_append, hdigits.2.2] at hsplit
      have hlength := readUnit_length hunit
      simp only [List.length_singleton] at hsplit
      omega
    · cases h

/-- The texts that are understood are short. -/
theorem length_le_of_isIsoUtc {s : JsString} (h : isIsoUtc s = true) : s.length ≤ 33 := by
  unfold isIsoUtc at h
  split at h
  · cases h
  next p rest hseconds =>
  split at h
  · cases h
  next fraction hfraction =>
  have hhead := readSeconds_length hseconds
  have htail := readFraction_length hfraction
  omega

end Dates
