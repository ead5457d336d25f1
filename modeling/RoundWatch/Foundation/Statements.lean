import Mathlib.Data.List.Basic
import Mathlib.Tactic.Common

/-!
# Scripts of statements

A script runs statements one after the other and ends at the first that fails; a
statement that fails changes nothing.  A script is repeated after it was cut off or has
failed, and the question is what the work already done adds to the next attempt.

* `run` — the state a script leaves, and how it ended;
* `Settled` — a statement that was done has nothing left to do, and no later statement of
  the script undoes that;
* `run_resume` — a settled script that was cut off anywhere and is run again ends as one
  that ran through.
-/

namespace Statements

variable {σ ε : Type*}

/-- The state after a script, and the error that ended it. -/
def run : List (σ → Except ε σ) → σ → σ × Except ε Unit
  | [], s => (s, .ok ())
  | f :: fs, s =>
      match f s with
      | .error e => (s, .error e)
      | .ok s' => run fs s'

/-- A statement that has nothing to do. -/
def Done (s : σ) (f : σ → Except ε σ) : Prop := f s = .ok s

/-- What a statement did, another one leaves done. -/
def Keeps (f g : σ → Except ε σ) : Prop := ∀ s s', Done s f → g s = .ok s' → Done s' f

/-- Each statement is done once and for all. -/
structure Settled (fs : List (σ → Except ε σ)) : Prop where
  once : ∀ f ∈ fs, ∀ s s', f s = .ok s' → Done s' f
  kept : fs.Pairwise Keeps

variable {f : σ → Except ε σ} {fs gs : List (σ → Except ε σ)} {s s' : σ}

@[simp] theorem run_nil (s : σ) : run ([] : List (σ → Except ε σ)) s = (s, .ok ()) := rfl

theorem run_cons_ok (h : f s = .ok s') : run (f :: fs) s = run fs s' := by
  rw [run, h]

theorem run_cons_error {e : ε} (h : f s = .error e) : run (f :: fs) s = (s, .error e) := by
  rw [run, h]

theorem run_append (fs gs : List (σ → Except ε σ)) (s : σ) :
    run (fs ++ gs) s =
      match (run fs s).2 with
      | .error e => ((run fs s).1, .error e)
      | .ok () => run gs (run fs s).1 := by
  induction fs generalizing s with
  | nil => rfl
  | cons f fs ih =>
      cases h : f s with
      | error e => rw [List.cons_append, run_cons_error h, run_cons_error h]
      | ok s' => rw [List.cons_append, run_cons_ok h, run_cons_ok h, ih]

/-- A script whose first part runs through. -/
theorem run_append_of_ok (h : (run fs s).2 = .ok ()) (gs : List (σ → Except ε σ)) :
    run (fs ++ gs) s = run gs (run fs s).1 := by
  rw [run_append, h]

theorem run_ok_of_append (h : (run (fs ++ gs) s).2 = .ok ()) : (run fs s).2 = .ok () := by
  rw [run_append] at h
  cases hfirst : (run fs s).2 with
  | error e =>
      rw [hfirst] at h
      cases h
  | ok u => rfl

theorem run_singleton_ok (h : (run [f] s).2 = .ok ()) : f s = .ok (run [f] s).1 := by
  cases hf : f s with
  | error e =>
      rw [run_cons_error hf] at h
      cases h
  | ok s' => rw [run_cons_ok hf, run_nil]

/-- A script with nothing to do. -/
theorem run_of_done (h : ∀ f ∈ fs, Done s f) : run fs s = (s, .ok ()) := by
  induction fs with
  | nil => rfl
  | cons f fs ih =>
      rw [run_cons_ok (h f (List.mem_cons_self ..))]
      exact ih fun g hg => h g (List.mem_cons_of_mem _ hg)

/-- The rule for what every statement keeps: every script keeps it, however it ends. -/
theorem run_invariant {I : σ → Prop} (hstep : ∀ f ∈ fs, ∀ s s', I s → f s = .ok s' → I s')
    (hs : I s) : I (run fs s).1 := by
  induction fs generalizing s with
  | nil => exact hs
  | cons f fs ih =>
      cases h : f s with
      | error e =>
          rw [run_cons_error h]
          exact hs
      | ok s' =>
          rw [run_cons_ok h]
          exact ih (fun g hg => hstep g (List.mem_cons_of_mem _ hg))
            (hstep f (List.mem_cons_self ..) s s' hs h)

theorem Settled.tail (h : Settled (f :: fs)) : Settled fs :=
  ⟨fun g hg => h.once g (List.mem_cons_of_mem _ hg), (List.pairwise_cons.1 h.kept).2⟩

/-- A statement stays done while the rest of its script runs. -/
theorem Settled.done_run (h : Settled (f :: fs)) (hf : f s = .ok s') : Done (run fs s').1 f :=
  run_invariant (fun g hg s s' hs hstep => (List.pairwise_cons.1 h.kept).1 g hg s s' hs hstep)
    (h.once f (List.mem_cons_self ..) s s' hf)

/-- Nothing of a script is left to do when it ran through. -/
theorem done_of_run (h : Settled fs) (hrun : (run fs s).2 = .ok ()) :
    ∀ f ∈ fs, Done (run fs s).1 f := by
  induction fs generalizing s with
  | nil => simp
  | cons f fs ih =>
      cases hf : f s with
      | error e =>
          rw [run_cons_error hf] at hrun
          cases hrun
      | ok s' =>
          rw [run_cons_ok hf] at hrun ⊢
          intro g hg
          rcases List.mem_cons.1 hg with rfl | hg
          · exact h.done_run hf
          · exact ih h.tail hrun g hg

theorem Settled.take (h : Settled fs) (k : ℕ) : Settled (fs.take k) :=
  ⟨fun f hf => h.once f (List.mem_of_mem_take hf), h.kept.sublist (List.take_sublist k fs)⟩

/-- A script that failed fails again, where it was. -/
theorem run_again_error (h : Settled fs) {e : ε} (hrun : (run fs s).2 = .error e) :
    run fs (run fs s).1 = ((run fs s).1, .error e) := by
  induction fs generalizing s with
  | nil => cases hrun
  | cons f fs ih =>
      cases hf : f s with
      | error e' =>
          rw [run_cons_error hf] at hrun ⊢
          cases hrun
          exact run_cons_error hf
      | ok s' =>
          rw [run_cons_ok hf] at hrun ⊢
          have hagain : Done (run fs s').1 f := h.done_run hf
          rw [run_cons_ok hagain]
          exact ih h.tail hrun

/-- **Resumption.**  A script that was cut off behind any of its statements, or failed
there, and is run again from the start ends as one that ran through. -/
theorem run_resume (h : Settled fs) (gs : List (σ → Except ε σ)) (s : σ) :
    run (fs ++ gs) (run fs s).1 = run (fs ++ gs) s := by
  cases hrun : (run fs s).2 with
  | error e =>
      rw [run_append, run_append, run_again_error h hrun, hrun]
  | ok u =>
      have hdone := run_of_done (done_of_run h hrun)
      rw [run_append, run_append, hdone, hrun]

end Statements
