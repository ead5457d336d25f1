import Mathlib.Tactic.Common

/-!
# Checked computations

A parser is a sequence of checks that each may refuse.  What a success says about
every check is read off by `bind_eq_ok` and `require_eq_ok`.
-/

namespace Checks

variable {ε α β : Type*}

/-- A check: the error when the condition fails. -/
def require (c : Bool) (e : ε) : Except ε Unit := if c then .ok () else .error e

theorem bind_eq_ok {x : Except ε α} {f : α → Except ε β} {b : β} :
    x.bind f = .ok b ↔ ∃ a, x = .ok a ∧ f a = .ok b := by
  cases x with
  | error e => simp [Except.bind]
  | ok a => simp [Except.bind]

theorem map_eq_ok {x : Except ε α} {f : α → β} {b : β} :
    x.map f = .ok b ↔ ∃ a, x = .ok a ∧ f a = b := by
  cases x with
  | error e => simp [Except.map]
  | ok a => simp [Except.map]

theorem bind_eq_error {x : Except ε α} {f : α → Except ε β} {e : ε} :
    x.bind f = .error e ↔ x = .error e ∨ ∃ a, x = .ok a ∧ f a = .error e := by
  cases x with
  | error e' => simp [Except.bind]
  | ok a => simp [Except.bind]

theorem map_eq_error {x : Except ε α} {f : α → β} {e : ε} :
    x.map f = .error e ↔ x = .error e := by
  cases x with
  | error e' => simp [Except.map]
  | ok a => simp [Except.map]

/-- A computation that does not succeed fails. -/
theorem exists_error_iff {x : Except ε α} : (∃ e, x = .error e) ↔ ∀ a, x ≠ .ok a := by
  cases x with
  | error e => simp
  | ok a => simp

theorem require_eq_ok {c : Bool} {e : ε} {u : Unit} : require c e = .ok u ↔ c = true := by
  unfold require
  split <;> simp_all

/-- A check, and the rest of the sequence behind it. -/
theorem require_bind_eq_ok {c : Bool} {e : ε} {f : Unit → Except ε β} {b : β} :
    (require c e).bind f = .ok b ↔ c = true ∧ f () = .ok b := by
  rw [bind_eq_ok]
  constructor
  · rintro ⟨u, hu, hf⟩
    exact ⟨require_eq_ok.1 hu, hf⟩
  · rintro ⟨hc, hf⟩
    exact ⟨(), require_eq_ok.2 hc, hf⟩

/-- A traversal that succeeds ran on every item. -/
theorem mapM_eq_ok {f : α → Except ε β} {xs : List α} {ys : List β} (h : xs.mapM f = .ok ys) :
    List.Forall₂ (fun x y => f x = .ok y) xs ys := by
  induction xs generalizing ys with
  | nil =>
      have hys : [] = ys := by simpa [pure, Except.pure] using h
      exact hys ▸ List.Forall₂.nil
  | cons x xs ih =>
      rw [List.mapM_cons] at h
      obtain ⟨y, hy, hrest⟩ := bind_eq_ok.1 h
      obtain ⟨ys', hys', hpure⟩ := bind_eq_ok.1 hrest
      have heq : y :: ys' = ys := by simpa [pure, Except.pure] using hpure
      exact heq ▸ List.Forall₂.cons hy (ih hys')

/-- A traversal fails as it failed on some item. -/
theorem exists_of_mapM_eq_error {f : α → Except ε β} {xs : List α} {e : ε}
    (h : xs.mapM f = .error e) : ∃ x ∈ xs, f x = .error e := by
  induction xs with
  | nil => cases h
  | cons x xs ih =>
      rw [List.mapM_cons] at h
      obtain hx | ⟨y, -, hrest⟩ := bind_eq_error.1 h
      · exact ⟨x, List.mem_cons_self, hx⟩
      obtain hxs | ⟨ys, -, hpure⟩ := bind_eq_error.1 hrest
      · obtain ⟨x', hmem, hx'⟩ := ih hxs
        exact ⟨x', List.mem_cons_of_mem x hmem, hx'⟩
      · cases hpure

end Checks
