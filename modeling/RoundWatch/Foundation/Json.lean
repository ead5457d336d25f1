import RoundWatch.Foundation.Text

/-!
# JSON values

What `JSON.parse` leaves behind.  Numbers keep their value when it is an
integer; every other number (a fraction, an infinity) is `frac`, since all a
reader of integers does with it is to refuse it.  No object carries a key twice:
`JSON.parse` keeps the last one.
-/

open JsText

/-- A parsed JSON document. -/
inductive Json where
  | null
  | bool (b : Bool)
  /-- A number whose value is an integer. -/
  | num (n : ℤ)
  /-- A number whose value is not an integer. -/
  | frac
  | str (s : JsString)
  | arr (items : List Json)
  | obj (fields : List (JsString × Json))
  deriving Inhabited

namespace Json

/-- The value under a key; `none` is `undefined`. -/
def lookup (fields : List (JsString × Json)) (name : JsString) : Option Json :=
  (fields.find? fun p => p.1 == name).map Prod.snd

/-- The property of a value; only objects have one. -/
def get? : Json → String → Option Json
  | .obj fields, name => lookup fields (js name)
  | _, _ => none

/-- The object with another value under a key it has. -/
def replace (fields : List (JsString × Json)) (name : JsString) (value : Json) :
    List (JsString × Json) :=
  fields.map fun p => if p.1 == name then (p.1, value) else p

theorem lookup_cons (p : JsString × Json) (fields : List (JsString × Json)) (name : JsString) :
    lookup (p :: fields) name = if p.1 = name then some p.2 else lookup fields name := by
  by_cases hp : p.1 = name
  · simp [lookup, hp]
  · have hne : (p.1 == name) = false := by simpa using hp
    simp [lookup, hne, hp]

theorem lookup_replace_self {fields : List (JsString × Json)} {name : JsString} {old : Json}
    (h : lookup fields name = some old) (value : Json) :
    lookup (replace fields name value) name = some value := by
  induction fields with
  | nil => simp [lookup] at h
  | cons p fields ih =>
      rw [replace, List.map_cons, lookup_cons]
      by_cases hp : p.1 = name
      · simp [hp]
      · rw [lookup_cons, if_neg hp] at h
        have hne : (p.1 == name) = false := by simpa using hp
        rw [hne, if_neg Bool.false_ne_true, if_neg hp]
        exact ih h

theorem lookup_replace_other {name other : JsString} (h : other ≠ name)
    (fields : List (JsString × Json)) (value : Json) :
    lookup (replace fields name value) other = lookup fields other := by
  induction fields with
  | nil => rfl
  | cons p fields ih =>
      rw [replace, List.map_cons, lookup_cons, lookup_cons]
      by_cases hp : p.1 = name
      · have hother : name ≠ other := fun heq => h heq.symm
        simpa [replace, hp, hother] using ih
      · have hne : (p.1 == name) = false := by simpa using hp
        rw [hne, if_neg Bool.false_ne_true]
        exact congrArg _ ih

/-- The object with one more field, or another value in it. -/
def insert (fields : List (JsString × Json)) (name : JsString) (value : Json) :
    List (JsString × Json) :=
  (name, value) :: fields.filter fun p => p.1 != name

theorem lookup_insert_self (fields : List (JsString × Json)) (name : JsString) (value : Json) :
    lookup (insert fields name value) name = some value := by
  simp [insert, lookup_cons]

/-- The other fields of an object without one. -/
theorem lookup_filter_other {name other : JsString} (h : other ≠ name)
    (fields : List (JsString × Json)) :
    lookup (fields.filter fun p => p.1 != name) other = lookup fields other := by
  induction fields with
  | nil => rfl
  | cons p fields ih =>
      by_cases hp : p.1 = name
      · have hother : name ≠ other := Ne.symm h
        simpa [lookup_cons, hp, hother] using ih
      · simp [lookup_cons, hp, ih]

theorem lookup_insert_other {name other : JsString} (h : other ≠ name)
    (fields : List (JsString × Json)) (value : Json) :
    lookup (insert fields name value) other = lookup fields other := by
  rw [insert, lookup_cons, if_neg (Ne.symm h)]
  exact lookup_filter_other h fields

/-- The fields of an object literal, without the ones that are `undefined`. -/
def present (fields : List (JsString × Option Json)) : List (JsString × Json) :=
  fields.filterMap fun p => p.2.map fun value => (p.1, value)

theorem lookup_present_of_notMem {fields : List (JsString × Option Json)} {name : JsString}
    (h : name ∉ fields.map Prod.fst) : lookup (present fields) name = none := by
  rw [lookup, Option.map_eq_none_iff, List.find?_eq_none]
  intro q hq
  obtain ⟨p, hp, hvalue⟩ := List.mem_filterMap.1 hq
  obtain ⟨value, -, rfl⟩ := Option.map_eq_some_iff.1 hvalue
  have hne : p.1 ≠ name := fun heq => h (heq ▸ List.mem_map_of_mem hp)
  simpa using hne

/-- A literal without repeated names has the values it was given. -/
theorem lookup_present {fields : List (JsString × Option Json)}
    (hdistinct : (fields.map Prod.fst).Nodup) {name : JsString} {value : Option Json}
    (h : (name, value) ∈ fields) : lookup (present fields) name = value := by
  induction fields with
  | nil => cases h
  | cons p fields ih =>
      obtain ⟨hnew, hdistinct⟩ := List.nodup_cons.1 hdistinct
      rcases List.mem_cons.1 h with rfl | htail
      · cases value with
        | none =>
            show lookup (present fields) name = none
            exact lookup_present_of_notMem hnew
        | some v => simp [present, lookup_cons]
      · have hne : p.1 ≠ name := fun heq => hnew (heq ▸ List.mem_map_of_mem htail)
        rw [← ih hdistinct htail]
        cases hvalue : p.2 with
        | none => simp [present, hvalue]
        | some v => simp [present, hvalue, lookup_cons, hne]

/-- `Number.MAX_SAFE_INTEGER`. -/
def maxSafeInteger : ℤ := 9007199254740991

/-- `Number.isSafeInteger`. -/
def isSafeInteger (n : ℤ) : Bool := -maxSafeInteger ≤ n && n ≤ maxSafeInteger

end Json
