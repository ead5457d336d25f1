import RoundWatch.Foundation.Text
import Mathlib.Data.List.Basic

/-!
# Header lists

`Headers` by name, whatever the case.  Reading a list of entries again brings no name
back (`carries_ofEntries`), and what was deleted is gone (`carries_deleteAll`).
-/

namespace Http

open JsText

/-- `A` to `Z` in lower case, all else as it is. -/
def lowerUnit (u : UInt16) : UInt16 := if 65 ≤ u && u ≤ 90 then u + 32 else u

/-- A name in lower case. -/
def lower (s : JsString) : JsString := s.map lowerUnit

theorem lowerUnit_lowerUnit (u : UInt16) : lowerUnit (lowerUnit u) = lowerUnit u := by
  by_cases h : 65 ≤ u ∧ u ≤ 90
  · have hlow : lowerUnit u = u + 32 := by simp [lowerUnit, h]
    have hnot : ¬ (65 ≤ u + 32 ∧ u + 32 ≤ 90) := by
      have h₁ := UInt16.le_iff_toNat_le.1 h.1
      have h₂ := UInt16.le_iff_toNat_le.1 h.2
      rintro ⟨-, hle⟩
      have h₃ := UInt16.le_iff_toNat_le.1 hle
      rw [UInt16.toNat_add] at h₃
      simp only [UInt16.reduceToNat] at h₁ h₂ h₃
      omega
    rw [hlow]
    simp [lowerUnit, hnot]
  · have hsame : lowerUnit u = u := by simp [lowerUnit, h]
    rw [hsame, hsame]

theorem lower_lower (s : JsString) : lower (lower s) = lower s := by
  simp [lower, lowerUnit_lowerUnit]

/-- Names with their values, as a record or a `Headers` object lists them. -/
abbrev Entries := List (JsString × JsString)

/-- An entry has the name, given in lower case. -/
def carries (entries : Entries) (name : JsString) : Bool :=
  entries.any fun e => lower e.1 == name

/-! ## Writing -/

/-- A code unit of a token. -/
def isTokenUnit (u : UInt16) : Bool :=
  (48 ≤ u && u ≤ 57) || (65 ≤ u && u ≤ 90) || (97 ≤ u && u ≤ 122) ||
    [33, 35, 36, 37, 38, 39, 42, 43, 45, 46, 94, 95, 96, 124, 126].contains u

def isName (name : JsString) : Bool := !name.isEmpty && name.all isTokenUnit

def isBlank (u : UInt16) : Bool := u == 9 || u == 10 || u == 13 || u == 32

/-- A value without the blanks around it. -/
def normalize (value : JsString) : JsString :=
  ((value.dropWhile isBlank).reverse.dropWhile isBlank).reverse

/-- A value is of bytes, without NUL and line ends. -/
def isValue (value : JsString) : Bool :=
  value.all fun u => u ≤ 255 && u != 0 && u != 10 && u != 13

/-- `headers.append(name, value)`, which throws on an invalid entry.  Values of one name
are joined, those of `set-cookie` apart. -/
def append (headers : Entries) (entry : JsString × JsString) : Option Entries :=
  let name := lower entry.1
  let value := normalize entry.2
  if isName entry.1 && isValue value then
    if headers.any (·.1 == name) && name != js "set-cookie" then
      some (headers.map fun e => if e.1 == name then (name, e.2 ++ js ", " ++ value) else e)
    else some (headers ++ [(name, value)])
  else none

/-- `new Headers(entries)`. -/
def ofEntries (entries : Entries) : Option Entries := entries.foldlM append []

/-- `headers.delete(name)`, the name in lower case. -/
def delete (headers : Entries) (name : JsString) : Entries :=
  headers.filter fun e => lower e.1 != name

/-- One `headers.delete` after the other. -/
def deleteAll (headers : Entries) (names : List JsString) : Entries := names.foldl delete headers

/-! ## Names -/

theorem carries_append {headers headers' : Entries} {entry : JsString × JsString}
    (h : append headers entry = some headers') (name : JsString) :
    carries headers' name = (carries headers name || lower entry.1 == name) := by
  simp only [append] at h
  split at h
  · split at h
    · rename_i hhas
      obtain rfl := Option.some.inj h
      obtain ⟨⟨e, he, hname⟩, -⟩ : (∃ e ∈ headers, (e.1 == lower entry.1) = true) ∧ _ := by
        simpa only [Bool.and_eq_true, List.any_eq_true] using hhas
      have hkeep : (headers.map fun e =>
          if e.1 == lower entry.1 then (lower entry.1, e.2 ++ js ", " ++ normalize entry.2)
          else e).any (fun e => lower e.1 == name) = carries headers name := by
        rw [carries, List.any_map]
        congr 1
        funext e
        by_cases hsame : e.1 = lower entry.1 <;> simp [hsame]
      have hthere : (lower entry.1 == name) = true → carries headers name = true := fun heq => by
        rw [carries, List.any_eq_true]
        refine ⟨e, he, ?_⟩
        rw [beq_iff_eq] at hname heq ⊢
        rw [hname, lower_lower, heq]
      rw [carries, hkeep]
      cases hname' : lower entry.1 == name with
      | false => rw [Bool.or_false]
      | true => rw [hthere hname', Bool.or_true]
    · obtain rfl := Option.some.inj h
      simp [carries, lower_lower]
  · cases h

theorem carries_foldlM_append {entries : Entries} (name : JsString) :
    ∀ {headers headers' : Entries}, entries.foldlM append headers = some headers' →
      carries headers' name = (carries headers name || carries entries name) := by
  induction entries with
  | nil =>
      intro headers headers' h
      obtain rfl : headers = headers' := by simpa using h
      simp [carries]
  | cons entry entries ih =>
      intro headers headers' h
      rw [List.foldlM_cons] at h
      obtain ⟨middle, hmiddle, hrest⟩ := Option.bind_eq_some_iff.1 h
      rw [ih hrest, carries_append hmiddle, Bool.or_assoc]
      rfl

theorem carries_ofEntries {entries headers : Entries} (h : ofEntries entries = some headers)
    (name : JsString) : carries headers name = carries entries name := by
  rw [carries_foldlM_append name h]
  rfl

theorem carries_delete (headers : Entries) (name other : JsString) :
    carries (delete headers name) other = (carries headers other && other != name) := by
  rw [Bool.eq_iff_iff]
  simp only [carries, delete, List.any_filter, List.any_eq_true, Bool.and_eq_true, bne_iff_ne,
    beq_iff_eq]
  constructor
  · rintro ⟨e, he, hne, rfl⟩
    exact ⟨⟨e, he, rfl⟩, hne⟩
  · rintro ⟨⟨e, he, rfl⟩, hne⟩
    exact ⟨e, he, hne, rfl⟩

theorem carries_deleteAll (names : List JsString) (headers : Entries) (name : JsString) :
    carries (deleteAll headers names) name = (carries headers name && !names.contains name) := by
  induction names generalizing headers with
  | nil => simp [deleteAll]
  | cons other names ih =>
      rw [deleteAll, List.foldl_cons, ← deleteAll, ih, carries_delete, List.contains_cons,
        Bool.and_assoc, Bool.not_or]
      rfl

end Http
