import Mathlib.Data.List.Nodup
import Mathlib.Data.List.Infix
import Mathlib.Tactic.Common

/-!
# Recency

What is used goes to the end of a list, and what has to make room goes from its front.

* `touch` — a use;
* `suffix_touch` — who keeps a part of the most recent uses still does after one more;
* `shed` — the loop that makes room: it stops, and takes no more than it must (`exists_shed`).
-/

namespace Recency

/-! ## Uses -/

section Touch

variable {κ : Type*} [DecidableEq κ]

/-- The list after a use, the latest use last. -/
def touch (k : κ) (l : List κ) : List κ := l.erase k ++ [k]

theorem nodup_touch {k : κ} {l : List κ} (h : l.Nodup) : (touch k l).Nodup := by
  have herase : k ∉ l.erase k := h.not_mem_erase
  rw [touch, List.nodup_append]
  refine ⟨h.erase k, List.nodup_singleton k, ?_⟩
  intro a ha b hb heq
  rw [List.mem_singleton.1 hb] at heq
  exact herase (heq ▸ ha)

/-- **The most recent ones stay the most recent ones.** -/
theorem suffix_touch {k : κ} {kept all : List κ} (h : kept <:+ all) (hnodup : all.Nodup) :
    touch k kept <:+ touch k all := by
  obtain ⟨before, rfl⟩ := h
  rw [List.nodup_append] at hnodup
  obtain ⟨-, -, hdisjoint⟩ := hnodup
  rw [touch, touch]
  by_cases hk : k ∈ before
  · have hkept : k ∉ kept := fun hmem => hdisjoint k hk k hmem rfl
    rw [List.erase_append_left _ hk, List.erase_of_not_mem hkept, List.append_assoc]
    exact List.suffix_append _ _
  · rw [List.erase_append_right _ hk, List.append_assoc]
    exact List.suffix_append _ _

end Touch

/-! ## Making room -/

section Shed

variable {α : Type*} (fits : List α → Bool)

/-- Drops from the front until the rest fits. -/
def shed : List α → List α
  | [] => []
  | a :: rest => if fits (a :: rest) then a :: rest else shed rest

variable {fits}

/-- **The loop stops at the first rest that fits.** -/
theorem exists_shed (hnil : fits [] = true) (l : List α) :
    ∃ n ≤ l.length, shed fits l = l.drop n ∧ fits (l.drop n) = true ∧
      ∀ m < n, fits (l.drop m) = false := by
  induction l with
  | nil => exact ⟨0, le_refl 0, rfl, hnil, by simp⟩
  | cons a rest ih =>
    cases hfits : fits (a :: rest) with
    | true =>
      refine ⟨0, Nat.zero_le _, ?_, hfits, by simp⟩
      rw [shed, if_pos hfits, List.drop_zero]
    | false =>
      obtain ⟨n, hn, hshed, hrest, hbefore⟩ := ih
      refine ⟨n + 1, Nat.succ_le_succ hn, ?_, hrest, ?_⟩
      · rw [shed, if_neg (by simp [hfits]), hshed, List.drop_succ_cons]
      · intro m hm
        cases m with
        | zero => exact hfits
        | succ m => exact hbefore m (by omega)

end Shed

end Recency
