import RoundWatch.Foundation.Dates

/-!
# Times as texts

A store that keeps times as ISO 8601 texts reads them back and compares them as texts.

* `timeOfIso` — the time of a text; `timeOfIso_toIsoText` reads back what was written;
* `toIsoText_lt_iff` — **the order of the texts is the order of the times**, from year 0 to
  year 9999.
-/

namespace Dates

open JsText

/-- `Date.parse` on a text of the format. -/
def timeOfIso (s : JsString) : Option ℤ :=
  (readSeconds s).bind fun seconds =>
  (readFraction seconds.2).bind fun fraction =>
  dateParse seconds.1 fraction

theorem timeOfIso_toIsoText {t : ℤ} (h : t.natAbs ≤ maxTime.natAbs) :
    timeOfIso (toIsoText t) = some t := by
  have hseconds := readSeconds_secondsText (civil_inRange t) (civil_year_range h)
    (46 :: padded 3 (civil t).millisecond ++ [90])
  rw [timeOfIso, toIsoText, List.append_assoc, hseconds]
  simp only [Option.bind_some, readFraction_padded]
  exact dateParse_civil h

theorem padded_range {w n : ℕ} {u : UInt16} (h : u ∈ padded w n) : 43 ≤ u ∧ u ≤ 90 := by
  induction w with
  | zero => simp [padded] at h
  | succ w ih =>
    rcases List.mem_cons.1 h with rfl | h
    · have hrange := digitUnit_range (Nat.mod_lt (n / 10 ^ w) (show 0 < 10 by decide))
      rw [UInt16.le_iff_toNat_le, UInt16.le_iff_toNat_le]
      exact ⟨le_trans (by decide) hrange.1, hrange.2.trans (by decide)⟩
    · exact ih h

/-- The characters of the format: digits, `+`, `-`, `.`, `:`, `T` and `Z`. -/
theorem toIsoText_range {t : ℤ} {u : UInt16} (hu : u ∈ toIsoText t) : 43 ≤ u ∧ u ≤ 90 := by
  simp only [toIsoText, secondsText, yearText, List.mem_append, List.mem_cons, List.not_mem_nil,
    or_false] at hu
  split at hu
  · rcases hu with ((((((hu | rfl | hu) | rfl | hu) | rfl | hu) | rfl | hu) | rfl | hu) | rfl | hu) |
      rfl
    all_goals first | exact padded_range hu | decide
  · simp only [List.mem_cons] at hu
    rcases hu with (((((((rfl | hu) | rfl | hu) | rfl | hu) | rfl | hu) | rfl | hu) | rfl | hu) |
      rfl | hu) | rfl
    all_goals first | exact padded_range hu | (split <;> decide) | decide

theorem wellFormed_toIsoText (t : ℤ) : WellFormed (toIsoText t) :=
  wellFormed_of_plain fun _ hu => Nat.lt_of_le_of_lt (toIsoText_range hu).2 (by decide)

theorem zero_notMem_toIsoText (t : ℤ) : 0 ∉ toIsoText t :=
  fun hzero => absurd (toIsoText_range hzero).1 (by decide)

/-! ## The order of the fields -/

/-- One date is before another, field by field. -/
def Civil.Before (c c' : Civil) : Prop :=
  c.year < c'.year ∨ c.year = c'.year ∧ (c.month < c'.month ∨ c.month = c'.month ∧
    (c.day < c'.day ∨ c.day = c'.day ∧ (c.hour < c'.hour ∨ c.hour = c'.hour ∧
      (c.minute < c'.minute ∨ c.minute = c'.minute ∧ (c.second < c'.second ∨
        c.second = c'.second ∧ c.millisecond < c'.millisecond)))))

theorem dayFromYear_mono {y y' : ℤ} (h : y ≤ y') : dayFromYear y ≤ dayFromYear y' := by
  unfold dayFromYear
  omega

theorem yearFromDay_mono {d d' : ℤ} (h : d ≤ d') : yearFromDay d ≤ yearFromDay d' := by
  obtain ⟨hstart, -⟩ := yearFromDay_spec d
  obtain ⟨-, hend⟩ := yearFromDay_spec d'
  by_contra hless
  have hmono := dayFromYear_mono (show yearFromDay d' + 1 ≤ yearFromDay d by omega)
  omega

theorem monthStart_mono {l : ℤ} (hl : l = 0 ∨ l = 1) {m m' : ℕ} (h : m ≤ m') (h' : m' ≤ 12) :
    monthStart l m ≤ monthStart l m' := by
  interval_cases m' <;> interval_cases m <;> simp only [monthStart] <;> omega

theorem monthFromDay_mono {l n n' : ℤ} (hl : l = 0 ∨ l = 1) (hn : 0 ≤ n) (h : n ≤ n')
    (hn' : n' < 365 + l) : monthFromDay l n ≤ monthFromDay l n' := by
  obtain ⟨hrange, hstart, -⟩ := monthUpTo_spec hn 12 (by omega) (h.trans_lt hn')
  obtain ⟨-, -, hend⟩ := monthUpTo_spec (hn.trans h) 12 (by omega) hn'
  by_contra hless
  have hmono := monthStart_mono hl (show monthUpTo l n' 12 + 1 ≤ monthUpTo l n 12 from not_le.1 hless)
    hrange.2
  omega

/-- An earlier day. -/
theorem before_of_day_lt {t t' : ℤ} (h : t / 86400000 < t' / 86400000) :
    (civil t).Before (civil t') := by
  have hin := dayInYear_spec (t / 86400000)
  have hin' := dayInYear_spec (t' / 86400000)
  rcases (yearFromDay_mono h.le).lt_or_eq with hyear | hyear
  · exact Or.inl hyear
  · refine Or.inr ⟨hyear, ?_⟩
    rw [← hyear] at hin'
    have hleap := leapDay_cases (yearFromDay (t / 86400000))
    have hmonth := monthFromDay_mono hleap hin.1
      (show t / 86400000 - dayFromYear (yearFromDay (t / 86400000)) ≤
        t' / 86400000 - dayFromYear (yearFromDay (t / 86400000)) by omega) hin'.2
    obtain ⟨-, hstart, -⟩ := monthFromDay_spec hleap hin
    simp only [civil, ← hyear]
    rcases hmonth.lt_or_eq with hmonth | hmonth
    · exact Or.inl hmonth
    · refine Or.inr ⟨hmonth, Or.inl ?_⟩
      rw [← hmonth]
      omega

/-- An earlier time of the same day. -/
theorem before_of_day_eq {t t' : ℤ} (hday : t / 86400000 = t' / 86400000) (h : t < t') :
    (civil t).Before (civil t') := by
  refine Or.inr ⟨by simp only [civil, hday], Or.inr ⟨by simp only [civil, hday],
    Or.inr ⟨by simp only [civil, hday], ?_⟩⟩⟩
  simp only [civil]
  have hrest : t % 86400000 < t' % 86400000 := by omega
  rcases lt_or_ge (t % 86400000 / 3600000) (t' % 86400000 / 3600000) with hhour | hhour
  · exact Or.inl (by omega)
  have hminutes : t % 3600000 < t' % 3600000 := by omega
  refine Or.inr ⟨by omega, ?_⟩
  rcases lt_or_ge (t % 3600000 / 60000) (t' % 3600000 / 60000) with hminute | hminute
  · exact Or.inl (by omega)
  have hseconds : t % 60000 < t' % 60000 := by omega
  refine Or.inr ⟨by omega, ?_⟩
  rcases lt_or_ge (t % 60000 / 1000) (t' % 60000 / 1000) with hsecond | hsecond
  · exact Or.inl (by omega)
  · exact Or.inr ⟨by omega, by omega⟩

theorem civil_before {t t' : ℤ} (h : t < t') : (civil t).Before (civil t') := by
  rcases (Int.ediv_le_ediv (show (0 : ℤ) < 86400000 by decide) h.le).lt_or_eq with hday | hday
  · exact before_of_day_lt hday
  · exact before_of_day_eq hday h

/-! ## The order of the texts -/

theorem digitUnit_lt {d d' : ℕ} (h : d < d') (h' : d' < 10) : digitUnit d < digitUnit d' := by
  rw [UInt16.lt_iff_toNat_lt]
  simp only [digitUnit, UInt16.toNat_ofNat']
  omega

/-- The last digits of two numbers compare as these do. -/
theorem padded_lt {w m n : ℕ} (h : m % 10 ^ w < n % 10 ^ w) (s s' : JsString) :
    padded w m ++ s < padded w n ++ s' := by
  induction w with
  | zero => simp [Nat.mod_one] at h
  | succ w ih =>
    rw [Nat.mod_pow_succ, Nat.mod_pow_succ] at h
    have hm := Nat.mod_lt m (show 0 < 10 ^ w by positivity)
    have hdigit : n / 10 ^ w % 10 < 10 := Nat.mod_lt _ (by omega)
    show digitUnit (m / 10 ^ w % 10) :: (padded w m ++ s) <
      digitUnit (n / 10 ^ w % 10) :: (padded w n ++ s')
    rw [List.cons_lt_cons_iff]
    rcases Nat.lt_trichotomy (m / 10 ^ w % 10) (n / 10 ^ w % 10) with hlt | heq | hgt
    · exact Or.inl (digitUnit_lt hlt hdigit)
    · rw [heq] at h
      exact Or.inr ⟨by rw [heq], ih (by omega)⟩
    · -- the greater digit is worth more than all digits behind it
      have hmore := Nat.mul_le_mul_left (10 ^ w) (show n / 10 ^ w % 10 + 1 ≤ m / 10 ^ w % 10 from hgt)
      rw [Nat.mul_add, Nat.mul_one] at hmore
      have hn := Nat.mod_lt n (show 0 < 10 ^ w by positivity)
      omega

/-- Fields of one width compare as their numbers, and the rest decides between equals. -/
theorem padded_append_lt {w m n : ℕ} {s s' : JsString} (hm : m < 10 ^ w) (hn : n < 10 ^ w)
    (h : m < n ∨ m = n ∧ s < s') : padded w m ++ s < padded w n ++ s' := by
  rcases h with h | ⟨rfl, h⟩
  · exact padded_lt (by rwa [Nat.mod_eq_of_lt hm, Nat.mod_eq_of_lt hn]) s s'
  · exact List.append_left_lt h

/-- A time of the years that are written with four digits. -/
def FourDigits (t : ℤ) : Prop := 0 ≤ (civil t).year ∧ (civil t).year ≤ 9999

instance (t : ℤ) : Decidable (FourDigits t) := inferInstanceAs (Decidable (_ ∧ _))

theorem toIsoText_of_fourDigits {t : ℤ} (h : FourDigits t) :
    toIsoText t = padded 4 (civil t).year.toNat ++ 45 :: (padded 2 (civil t).month ++
      45 :: (padded 2 (civil t).day ++ 84 :: (padded 2 (civil t).hour ++
        58 :: (padded 2 (civil t).minute ++ 58 :: (padded 2 (civil t).second ++
          46 :: (padded 3 (civil t).millisecond ++ [90])))))) := by
  have hyear : yearText (civil t).year = padded 4 (civil t).year.toNat := by
    obtain ⟨hpos, hle⟩ := h
    rw [yearText, if_pos ⟨hpos, hle⟩, show (civil t).year.natAbs = (civil t).year.toNat by omega]
  simp [toIsoText, secondsText, hyear]

theorem toIsoText_lt {t t' : ℤ} (h : FourDigits t) (h' : FourDigits t') (hlt : t < t') :
    toIsoText t < toIsoText t' := by
  obtain ⟨hmonth, hday, hhour, hminute, hsecond, hmillisecond⟩ := civil_inRange t
  obtain ⟨hmonth', hday', hhour', hminute', hsecond', hmillisecond'⟩ := civil_inRange t'
  rw [toIsoText_of_fourDigits h, toIsoText_of_fourDigits h']
  obtain ⟨hpos, hle⟩ := h
  obtain ⟨hpos', hle'⟩ := h'
  -- one field after the other: a smaller one decides, an equal one hands on to the next
  refine padded_append_lt (by omega) (by omega) ?_
  rcases civil_before hlt with hyear | ⟨hyear, hrest⟩
  · exact Or.inl (by omega)
  refine Or.inr ⟨by rw [hyear], List.cons_lt_cons_self.2 (padded_append_lt (by omega) (by omega) ?_)⟩
  refine hrest.imp_right fun ⟨heq, hrest⟩ =>
    ⟨heq, List.cons_lt_cons_self.2 (padded_append_lt (by omega) (by omega) ?_)⟩
  refine hrest.imp_right fun ⟨heq, hrest⟩ =>
    ⟨heq, List.cons_lt_cons_self.2 (padded_append_lt (by omega) (by omega) ?_)⟩
  refine hrest.imp_right fun ⟨heq, hrest⟩ =>
    ⟨heq, List.cons_lt_cons_self.2 (padded_append_lt (by omega) (by omega) ?_)⟩
  refine hrest.imp_right fun ⟨heq, hrest⟩ =>
    ⟨heq, List.cons_lt_cons_self.2 (padded_append_lt (by omega) (by omega) ?_)⟩
  refine hrest.imp_right fun ⟨heq, hrest⟩ =>
    ⟨heq, List.cons_lt_cons_self.2 (padded_append_lt (by omega) (by omega) (Or.inl hrest))⟩

/-- **The order of the texts is the order of the times.** -/
theorem toIsoText_lt_iff {t t' : ℤ} (h : FourDigits t) (h' : FourDigits t') :
    toIsoText t < toIsoText t' ↔ t < t' := by
  constructor
  · intro hlt
    rcases lt_trichotomy t t' with hless | rfl | hgreater
    · exact hless
    · exact absurd hlt (List.lt_irrefl _)
    · exact absurd (List.lt_trans hlt (toIsoText_lt h' h hgreater)) (List.lt_irrefl _)
  · exact toIsoText_lt h h'

end Dates
