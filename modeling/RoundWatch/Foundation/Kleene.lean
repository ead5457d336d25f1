import Mathlib.Data.List.Basic
import Mathlib.Order.BoundedOrder.Lattice

/-!
# Three-valued logic

The truth values of SQL form a chain, with `AND` as the lesser and `OR` as the greater of
two.  Hence a long conjunction or disjunction depends on nothing but which values it has.

* `Kleene.all`, `Kleene.any` — conjunctions and disjunctions of lists, in any bounded lattice;
* `Kleene.all_congr`, `Kleene.any_congr` — order and repetition do not matter;
* `Truth` — the chain of the three values.
-/

namespace Kleene

variable {α : Type*}

section Conjunctions

variable [SemilatticeInf α] [OrderTop α]

/-- The conjunction of a list. -/
def all (l : List α) : α := l.foldr (· ⊓ ·) ⊤

@[simp] theorem all_nil : all ([] : List α) = ⊤ := rfl

@[simp] theorem all_cons (a : α) (l : List α) : all (a :: l) = a ⊓ all l := rfl

theorem all_singleton (a : α) : all [a] = a := by simp

theorem le_all {a : α} {l : List α} : a ≤ all l ↔ ∀ x ∈ l, a ≤ x := by
  induction l with
  | nil => simp
  | cons x l ih => simp [ih]

theorem all_append (l l' : List α) : all (l ++ l') = all l ⊓ all l' := by
  induction l with
  | nil => simp
  | cons x l ih => simp [ih, inf_assoc]

/-- A conjunction depends on the members only. -/
theorem all_congr {l l' : List α} (h : ∀ x, x ∈ l ↔ x ∈ l') : all l = all l' := by
  refine eq_of_forall_le_iff fun a => ?_
  simp only [le_all, h]

end Conjunctions

section Disjunctions

variable [SemilatticeSup α] [OrderBot α]

/-- The disjunction of a list. -/
def any (l : List α) : α := l.foldr (· ⊔ ·) ⊥

@[simp] theorem any_nil : any ([] : List α) = ⊥ := rfl

@[simp] theorem any_cons (a : α) (l : List α) : any (a :: l) = a ⊔ any l := rfl

theorem any_singleton (a : α) : any [a] = a := by simp

theorem any_le {a : α} {l : List α} : any l ≤ a ↔ ∀ x ∈ l, x ≤ a := by
  induction l with
  | nil => simp
  | cons x l ih => simp [ih]

theorem any_append (l l' : List α) : any (l ++ l') = any l ⊔ any l' := by
  induction l with
  | nil => simp
  | cons x l ih => simp [ih, sup_assoc]

/-- A disjunction depends on the members only. -/
theorem any_congr {l l' : List α} (h : ∀ x, x ∈ l ↔ x ∈ l') : any l = any l' := by
  refine eq_of_forall_ge_iff fun a => ?_
  simp only [any_le, h]

end Disjunctions

end Kleene

/-- The truth values of SQL; `NULL` is `unknown`. -/
inductive Truth where
  | no
  | unknown
  | yes
  deriving DecidableEq, Repr

namespace Truth

/-- The place in the chain. -/
def rank : Truth → ℕ
  | no => 0
  | unknown => 1
  | yes => 2

theorem rank_injective : Function.Injective rank := by
  intro a b h
  cases a <;> cases b <;> first | rfl | cases h

instance : LinearOrder Truth := LinearOrder.lift' rank rank_injective

instance : BoundedOrder Truth where
  top := yes
  bot := no
  le_top a := by cases a <;> decide
  bot_le a := by cases a <;> decide

/-- The value of a comparison that has no `NULL` in it. -/
def ofBool (b : Bool) : Truth := if b then yes else no

@[simp] theorem ofBool_eq_yes {b : Bool} : ofBool b = yes ↔ b = true := by
  cases b <;> decide

theorem inf_eq_yes {a b : Truth} : a ⊓ b = yes ↔ a = yes ∧ b = yes := by
  cases a <;> cases b <;> decide

theorem sup_eq_yes {a b : Truth} : a ⊔ b = yes ↔ a = yes ∨ b = yes := by
  cases a <;> cases b <;> decide

end Truth
