import Mathlib.Data.List.Basic
import Mathlib.Tactic.Common

/-!
# Leases and their holders

A dispenser numbers its leases in the order of the grants and keeps, for each, whether
it was given back.  The leases are held by the entries of a list, one each at most.

`Accounted` says that the two agree: every lease that is held is open, no two entries
hold the same one, and none is open that nobody holds.  An entry that changes hands
with its dispenser in one of three ways keeps the account.
-/

namespace Leases

variable {ρ : Type*} {held : ρ → Option ℕ}

/-- The leases that are not given back are the ones that are held. -/
structure Accounted {ρ : Type*} (held : ρ → Option ℕ) (released : List Bool) (holders : List ρ) :
    Prop where
  /-- A lease that is held was granted and is not given back. -/
  backed : ∀ (i : ℕ) r l, holders[i]? = some r → held r = some l → released[l]? = some false
  /-- A lease has one holder. -/
  once : ∀ (i j : ℕ) r r' l, holders[i]? = some r → holders[j]? = some r' → held r = some l →
    held r' = some l → i = j
  /-- No lease is lost. -/
  count : released.count false = holders.countP fun r => (held r).isSome

/-- A new dispenser, when nobody holds anything. -/
theorem accounted_of_idle {holders : List ρ} (h : ∀ r ∈ holders, held r = none) :
    Accounted held [] holders where
  backed i r l hr hheld := by
    rw [h r (List.mem_of_getElem? hr)] at hheld
    cases hheld
  once i j r r' l hr _ hheld _ := by
    rw [h r (List.mem_of_getElem? hr)] at hheld
    cases hheld
  count := by
    symm
    rw [List.count_nil, List.countP_eq_zero]
    intro r hr
    simp [h r hr]

variable {released : List Bool} {holders : List ρ}

/-- The entries of a list after one was replaced. -/
theorem getElem?_set_cases {i j : ℕ} {r r' : ρ} (h : (holders.set i r')[j]? = some r) :
    (j = i ∧ r = r') ∨ (j ≠ i ∧ holders[j]? = some r) := by
  rw [List.getElem?_set] at h
  split at h
  · rename_i hij
    split at h
    · exact .inl ⟨hij.symm, (Option.some.inj h).symm⟩
    · cases h
  · rename_i hij
    exact .inr ⟨fun heq => hij heq.symm, h⟩

theorem Accounted.append (h : Accounted held released holders) {r : ρ} (hr : held r = none) :
    Accounted held released (holders ++ [r]) := by
  have hold : ∀ (j : ℕ) r' l, (holders ++ [r])[j]? = some r' → held r' = some l →
      holders[j]? = some r' := by
    intro j r' l hj hheld
    rw [List.getElem?_append] at hj
    split at hj
    · exact hj
    · rw [List.getElem?_singleton] at hj
      split at hj
      · rw [← Option.some.inj hj, hr] at hheld
        cases hheld
      · cases hj
  refine ⟨?_, ?_, ?_⟩
  · intro i r' l hi hheld
    exact h.backed i r' l (hold i r' l hi hheld) hheld
  · intro i j r' r'' l hi hj hheld hheld'
    exact h.once i j r' r'' l (hold i r' l hi hheld) (hold j r'' l hj hheld') hheld hheld'
  · rw [h.count, List.countP_append, List.countP_singleton, hr]
    rfl

/-- How replacing an entry changes the number of holders. -/
theorem countP_set_add (p : ρ → Bool) {i : ℕ} {r : ρ} (hr : holders[i]? = some r) (r' : ρ) :
    (holders.set i r').countP p + (if p r then 1 else 0) =
      holders.countP p + (if p r' then 1 else 0) := by
  induction holders generalizing i with
  | nil => simp at hr
  | cons x xs ih =>
      cases i with
      | zero =>
          obtain rfl : x = r := Option.some.inj hr
          simp only [List.set_cons_zero, List.countP_cons]
          omega
      | succ i =>
          have hxs : xs[i]? = some r := hr
          have hstep := ih hxs
          simp only [List.set_cons_succ, List.countP_cons]
          omega

/-- An entry that keeps what it holds. -/
theorem Accounted.keep (h : Accounted held released holders) {i : ℕ} {r r' : ρ}
    (hr : holders[i]? = some r) (hsame : held r' = held r) :
    Accounted held released (holders.set i r') := by
  have hback : ∀ (j : ℕ) q l, (holders.set i r')[j]? = some q → held q = some l →
      ∃ q', holders[j]? = some q' ∧ held q' = some l := by
    intro j q l hj hheld
    rcases getElem?_set_cases hj with ⟨rfl, rfl⟩ | ⟨-, hj⟩
    · exact ⟨r, hr, hsame ▸ hheld⟩
    · exact ⟨q, hj, hheld⟩
  refine ⟨?_, ?_, ?_⟩
  · intro j q l hj hheld
    obtain ⟨q', hq', hheld'⟩ := hback j q l hj hheld
    exact h.backed j q' l hq' hheld'
  · intro j k q s l hj hk hheld hheld'
    obtain ⟨q', hq', hl⟩ := hback j q l hj hheld
    obtain ⟨s', hs', hl'⟩ := hback k s l hk hheld'
    exact h.once j k q' s' l hq' hs' hl hl'
  · have hcount := countP_set_add (fun r => (held r).isSome) hr r'
    simp only [hsame] at hcount
    rw [h.count]
    omega

/-- An entry that is granted the next lease. -/
theorem Accounted.grant (h : Accounted held released holders) {i : ℕ} {r r' : ρ}
    (hr : holders[i]? = some r) (hfree : held r = none) (hnew : held r' = some released.length) :
    Accounted held (released ++ [false]) (holders.set i r') := by
  have hlt : ∀ (j : ℕ) q l, holders[j]? = some q → held q = some l → l < released.length := by
    intro j q l hj hheld
    exact (List.getElem?_eq_some_iff.1 (h.backed j q l hj hheld)).1
  refine ⟨?_, ?_, ?_⟩
  · intro j q l hj hheld
    rcases getElem?_set_cases hj with ⟨rfl, rfl⟩ | ⟨-, hj⟩
    · obtain rfl : released.length = l := Option.some.inj (hnew ▸ hheld)
      simp
    · rw [List.getElem?_append_left (hlt j q l hj hheld)]
      exact h.backed j q l hj hheld
  · intro j k q s l hj hk hheld hheld'
    rcases getElem?_set_cases hj with ⟨hji, rfl⟩ | ⟨-, hj'⟩ <;>
      rcases getElem?_set_cases hk with ⟨hki, rfl⟩ | ⟨-, hk'⟩
    · exact hji.trans hki.symm
    · have hl : released.length = l := Option.some.inj (hnew ▸ hheld)
      have hless := hlt k s l hk' hheld'
      omega
    · have hl : released.length = l := Option.some.inj (hnew ▸ hheld')
      have hless := hlt j q l hj' hheld
      omega
    · exact h.once j k q s l hj' hk' hheld hheld'
  · have hcount := countP_set_add (fun r => (held r).isSome) hr r'
    simp only [hfree, hnew, Option.isSome_none, Option.isSome_some, Bool.false_eq_true, if_false,
      if_true] at hcount
    rw [List.count_append, h.count]
    simp only [List.count_singleton_self]
    omega

/-- An entry that gives its lease back. -/
theorem Accounted.release (h : Accounted held released holders) {i l : ℕ} {r r' : ρ}
    (hr : holders[i]? = some r) (hheld : held r = some l) (hnone : held r' = none) :
    Accounted held (released.set l true) (holders.set i r') := by
  have hopen := h.backed i r l hr hheld
  obtain ⟨hlt, hget⟩ := List.getElem?_eq_some_iff.1 hopen
  have hother : ∀ (j : ℕ) q k, (holders.set i r')[j]? = some q → held q = some k →
      j ≠ i ∧ holders[j]? = some q ∧ k ≠ l := by
    intro j q k hj hk
    rcases getElem?_set_cases hj with ⟨rfl, rfl⟩ | ⟨hne, hj⟩
    · rw [hnone] at hk
      cases hk
    · refine ⟨hne, hj, ?_⟩
      rintro rfl
      exact hne (h.once j i q r k hj hr hk hheld)
  refine ⟨?_, ?_, ?_⟩
  · intro j q k hj hk
    obtain ⟨-, hj', hne⟩ := hother j q k hj hk
    rw [List.getElem?_set_ne (Ne.symm hne)]
    exact h.backed j q k hj' hk
  · intro j k q s m hj hk hm hm'
    exact h.once j k q s m (hother j q m hj hm).2.1 (hother k s m hk hm').2.1 hm hm'
  · have hcount := countP_set_add (fun r => (held r).isSome) hr r'
    simp only [hheld, hnone, Option.isSome_none, Option.isSome_some, Bool.false_eq_true, if_false,
      if_true] at hcount
    have hpos : 0 < released.count false := List.count_pos_iff.2 (hget ▸ List.getElem_mem hlt)
    have hset : (released.set l true).count false = released.count false - 1 := by
      rw [List.count_set hlt, hget]
      simp
    rw [hset]
    rw [h.count] at hpos ⊢
    omega

end Leases
