import Mathlib.Data.List.Basic
import Mathlib.Tactic.Common

/-!
# Runs of a transition system

A system is a state type, an event type and a total step function.  A run folds
the step over a list of events.  `Admissible` says that every event of a run was
permitted in the state it met; `run_invariant` is the one induction over runs
that every invariant of this development goes through.
-/

namespace Runs

variable {σ ε : Type*} (step : σ → ε → σ)

/-- The state after a list of events. -/
def run (s : σ) (es : List ε) : σ := es.foldl step s

@[simp] theorem run_nil (s : σ) : run step s [] = s := rfl

@[simp] theorem run_cons (s : σ) (e : ε) (es : List ε) :
    run step s (e :: es) = run step (step s e) es := rfl

theorem run_append (s : σ) (es fs : List ε) :
    run step s (es ++ fs) = run step (run step s es) fs := by
  simp [run, List.foldl_append]

/-- Every event is permitted in the state it meets. -/
def Admissible (ok : σ → ε → Prop) : σ → List ε → Prop
  | _, [] => True
  | s, e :: es => ok s e ∧ Admissible ok (step s e) es

variable {step}

instance Admissible.decidable {ok : σ → ε → Prop} [hok : ∀ s e, Decidable (ok s e)] :
    ∀ s es, Decidable (Admissible step ok s es)
  | _, [] => isTrue trivial
  | s, e :: es => @instDecidableAnd _ _ (hok s e) (Admissible.decidable (step s e) es)

theorem admissible_append {ok : σ → ε → Prop} {s : σ} {es fs : List ε} :
    Admissible step ok s (es ++ fs) ↔
      Admissible step ok s es ∧ Admissible step ok (run step s es) fs := by
  induction es generalizing s with
  | nil => simp [Admissible]
  | cons e es ih => simp [Admissible, ih, and_assoc]

/-- A condition on the events alone. -/
theorem admissible_of_forall {p : ε → Prop} {s : σ} {es : List ε} (h : ∀ e ∈ es, p e) :
    Admissible step (fun _ e => p e) s es := by
  induction es generalizing s with
  | nil => trivial
  | cons e es ih =>
      exact ⟨h e (List.mem_cons_self ..), ih fun f hf => h f (List.mem_cons_of_mem _ hf)⟩

theorem Admissible.and {ok ok' : σ → ε → Prop} {s : σ} {es : List ε}
    (h : Admissible step ok s es) (h' : Admissible step ok' s es) :
    Admissible step (fun s e => ok s e ∧ ok' s e) s es := by
  induction es generalizing s with
  | nil => trivial
  | cons e es ih => exact ⟨⟨h.1, h'.1⟩, ih h.2 h'.2⟩

/-- **The invariant rule.**  What every permitted step keeps, every admissible
run keeps. -/
theorem run_invariant {ok : σ → ε → Prop} {I : σ → Prop}
    (hstep : ∀ s e, ok s e → I s → I (step s e)) {s : σ} {es : List ε}
    (hes : Admissible step ok s es) (hs : I s) : I (run step s es) := by
  induction es generalizing s with
  | nil => exact hs
  | cons e es ih => exact ih hes.2 (hstep s e hes.1 hs)

/-- The invariant rule for steps that need no permission. -/
theorem run_invariant' {I : σ → Prop} (hstep : ∀ s e, I s → I (step s e)) {s : σ}
    (es : List ε) (hs : I s) : I (run step s es) := by
  induction es generalizing s with
  | nil => exact hs
  | cons e es ih => exact ih (hstep s e hs)

/-- A relation between a state and a later one that every step respects and that
composes holds between the ends of a run. -/
theorem run_relation {R : σ → σ → Prop} (hrefl : ∀ s, R s s)
    (htrans : ∀ {s t u}, R s t → R t u → R s u) (hstep : ∀ s e, R s (step s e)) (s : σ)
    (es : List ε) : R s (run step s es) := by
  induction es generalizing s with
  | nil => exact hrefl s
  | cons e es ih => exact htrans (hstep s e) (ih (step s e))

end Runs
