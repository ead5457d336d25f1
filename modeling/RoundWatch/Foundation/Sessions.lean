import RoundWatch.Foundation.Runs
import Mathlib.Data.List.Basic
import Mathlib.Logic.Function.Basic

/-!
# Sessions under one schedule

Sessions of one kind run side by side, and every event of a schedule names the
session it is for.  `run_stepAt` says that an interleaved run looks, from inside
one session, like a run of that session's own events (`own`): whatever holds of
every run of one session therefore holds of it under every schedule.
-/

namespace Sessions

variable {ι σ ε : Type*} [DecidableEq ι]

/-- One event of a schedule: the named session takes a step, the others rest. -/
def stepAt (step : σ → ε → σ) (s : ι → σ) (e : ι × ε) : ι → σ :=
  Function.update s e.1 (step (s e.1) e.2)

/-- The events of one session, in their order. -/
def own (i : ι) (es : List (ι × ε)) : List ε :=
  es.filterMap fun e => if e.1 = i then some e.2 else none

@[simp] theorem own_nil (i : ι) : own i ([] : List (ι × ε)) = [] := rfl

theorem own_cons_self {i j : ι} (h : j = i) (e : ε) (es : List (ι × ε)) :
    own i ((j, e) :: es) = e :: own i es := by
  simp [own, h]

theorem own_cons_other {i j : ι} (h : j ≠ i) (e : ε) (es : List (ι × ε)) :
    own i ((j, e) :: es) = own i es := by
  simp [own, h]

@[simp] theorem own_append (i : ι) (es fs : List (ι × ε)) :
    own i (es ++ fs) = own i es ++ own i fs := by
  simp [own]

theorem stepAt_self (step : σ → ε → σ) (s : ι → σ) (i : ι) (e : ε) :
    stepAt step s (i, e) i = step (s i) e := by
  simp [stepAt]

theorem stepAt_other (step : σ → ε → σ) (s : ι → σ) {i j : ι} (h : i ≠ j) (e : ε) :
    stepAt step s (j, e) i = s i := by
  simp [stepAt, h]

/-- **A session under a schedule is a run of its own events.** -/
theorem run_stepAt (step : σ → ε → σ) (s : ι → σ) (es : List (ι × ε)) (i : ι) :
    Runs.run (stepAt step) s es i = Runs.run step (s i) (own i es) := by
  induction es generalizing s with
  | nil => rfl
  | cons e es ih =>
      obtain ⟨j, e⟩ := e
      rw [Runs.run_cons, ih]
      by_cases h : j = i
      · subst h
        rw [own_cons_self rfl, stepAt_self, Runs.run_cons]
      · rw [own_cons_other h, stepAt_other step s (Ne.symm h)]

end Sessions
