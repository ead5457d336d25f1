import Mathlib.Order.Lattice
import Mathlib.Tactic.Common

/-!
# Reading a listing page by page

A provider lists a set in some order of positions and hands it out in pages; a
continuation token denotes the position the next page starts from.  Two ways of
concluding that the listing shows no item of some kind:

* `clear_next` — one page at a time, when the provider promises that a page holds
  everything between the position of the request's token and the position of the
  token it returns.  A reader that has cleared everything before the first
  position has then cleared everything before the second, whatever other readers
  did in between.
* `Reads`, `CompleteRead` — the whole chain at once, when the promise is about complete
  chains of pages from the start of the listing to its end.
-/

namespace Paging

variable {α τ π : Type*}

section Positions

variable {P : Type*} [LinearOrder P] (pos : α → P) (start : τ → P)

/-- `x` lies before the position a token denotes; nothing lies before the start of
the listing. -/
def Before (token : Option τ) (x : α) : Prop := ∃ t, token = some t ∧ pos x < start t

/-- `x` lies on the page between two tokens; a missing second token is the end of
the listing. -/
def Within (token next : Option τ) (x : α) : Prop :=
  ¬ Before pos start token x ∧ ∀ t, next = some t → pos x < start t

variable {pos start}

theorem not_before_none (x : α) : ¬ Before pos start none x := by
  rintro ⟨t, ht, _⟩
  exact absurd ht (by simp)

theorem before_or_within (token : Option τ) {next : τ} {x : α}
    (h : Before pos start (some next) x) :
    Before pos start token x ∨ Within pos start token (some next) x := by
  obtain ⟨t, ht, hlt⟩ := h
  cases ht
  by_cases hb : Before pos start token x
  · exact Or.inl hb
  · refine Or.inr ⟨hb, ?_⟩
    rintro t ht
    cases ht
    exact hlt

theorem before_or_within_end (token : Option τ) (x : α) :
    Before pos start token x ∨ Within pos start token none x := by
  by_cases hb : Before pos start token x
  · exact Or.inl hb
  · exact Or.inr ⟨hb, fun t ht => absurd ht (by simp)⟩

/-- One page further: what was clear before the request's token, and on the page,
is clear before the returned token. -/
theorem clear_next {clear : α → Prop} {token : Option τ} {next : τ}
    (hbefore : ∀ x, Before pos start token x → clear x)
    (hpage : ∀ x, Within pos start token (some next) x → clear x) {x : α}
    (h : Before pos start (some next) x) : clear x := by
  rcases before_or_within token h with hb | hw
  · exact hbefore x hb
  · exact hpage x hw

/-- The last page: everything is clear. -/
theorem clear_end {clear : α → Prop} {token : Option τ}
    (hbefore : ∀ x, Before pos start token x → clear x)
    (hpage : ∀ x, Within pos start token none x → clear x) (x : α) : clear x := by
  have hsplit : Before pos start token x ∨ Within pos start token none x :=
    before_or_within_end token x
  rcases hsplit with hb | hw
  · exact hbefore x hb
  · exact hpage x hw

end Positions

section Chains

variable (next : π → Option τ) (served : Option τ → π → Prop)

/-- The pages read so far, each asked for with the token the page before it returned,
and the token to go on with. -/
inductive Reads : Option τ → List π → Prop
  | start : Reads none []
  | page {token : Option τ} {ps : List π} {p : π} {t : τ} : Reads token ps → served token p →
      next p = some t → Reads (some t) (ps ++ [p])

/-- A chain that has come to the end of the listing. -/
def CompleteRead (ps : List π) : Prop :=
  ∃ token qs p, ps = qs ++ [p] ∧ Reads next served token qs ∧ served token p ∧ next p = none

variable {next served}

theorem CompleteRead.ne_nil {ps : List π} (h : CompleteRead next served ps) : ps ≠ [] := by
  obtain ⟨_, qs, p, rfl, -⟩ := h
  simp

end Chains

end Paging
