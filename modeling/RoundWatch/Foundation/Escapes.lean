import RoundWatch.Foundation.Text
import Mathlib.Logic.Function.Iterate

/-!
# Escapes that are decoded again and again

A percent escape may hide another one.  A classifier decodes a few times, and must answer for
every number of times that somebody behind it may decode.

* `decode` — one pass over the escapes of a text;
* `classify` — a classifier with a budget of passes, over any pass and any test;
* `not_bad_of_normal` — what it lets through never becomes bad.
-/

namespace Escapes

open JsText

/-! ## One pass -/

/-- The unit that an escape stands for. -/
def escaped? (u high low : UInt16) : Option UInt16 :=
  if u = 37 then
    (digitValue? 16 high).bind fun a => (digitValue? 16 low).map fun b => UInt16.ofNat (16 * a + b)
  else none

/-- Every escape is replaced by its unit, and what is no escape stays. -/
def decode : JsString → JsString
  | [] => []
  | [u] => [u]
  | [u, v] => [u, v]
  | u :: high :: low :: rest =>
      match escaped? u high low with
      | some w => w :: decode rest
      | none => u :: decode (high :: low :: rest)

/-- A text without the mark has no escapes. -/
theorem decode_eq_self {s : JsString} (h : 37 ∉ s) : decode s = s := by
  induction s using decode.induct with
  | case1 => rfl
  | case2 => rfl
  | case3 => rfl
  | case4 u high low rest w hw =>
    have hmark : u ≠ 37 := fun heq => h (by simp [heq])
    rw [escaped?, if_neg hmark] at hw
    cases hw
  | case5 u high low rest hnone ih =>
    have hrest : 37 ∉ high :: low :: rest := fun hmem => h (List.mem_cons_of_mem _ hmem)
    rw [decode, hnone]
    simp only [ih hrest]

/-! ## A budget of passes -/

inductive Classification where
  | normal
  | reserved
  | rejected
  deriving DecidableEq, Repr

section Classify

variable {α : Type*} [DecidableEq α] (pass : α → α) (bad settled : α → Bool)

/-- Tests, and decodes as long as there is something to decode and the budget lasts. -/
def classify : ℕ → α → Classification
  | budget, x =>
      if bad x then .reserved
      else if settled x then .normal
      else
        match budget with
        | 0 => .rejected
        | budget + 1 => if pass x = x then .rejected else classify budget (pass x)

variable {pass bad settled}

theorem classify_of_bad {budget : ℕ} {x : α} (h : bad x = true) :
    classify pass bad settled budget x = .reserved := by
  cases budget with
  | zero => simp [classify, h]
  | succ budget => simp [classify, h]

/-- **What is let through never becomes bad**, however often it is decoded. -/
theorem not_bad_of_normal (hsettled : ∀ x, settled x = true → pass x = x) {budget : ℕ} {x : α}
    (h : classify pass bad settled budget x = .normal) (n : ℕ) : bad (pass^[n] x) = false := by
  induction budget generalizing x n with
  | zero =>
    unfold classify at h
    split at h
    · cases h
    next hbad =>
    split at h
    · next hdone =>
      rw [Function.iterate_fixed (hsettled x hdone)]
      simpa using hbad
    · cases h
  | succ budget ih =>
    unfold classify at h
    split at h
    · cases h
    next hbad =>
    split at h
    · next hdone =>
      rw [Function.iterate_fixed (hsettled x hdone)]
      simpa using hbad
    · simp only at h
      split at h
      · cases h
      cases n with
      | zero => simpa using hbad
      | succ n =>
        rw [Function.iterate_succ_apply]
        exact ih h n

end Classify

end Escapes
