import RoundWatch.Foundation.Runs
import Mathlib.Data.Int.Notation

/-!
# Joining owned work

What the owners of background work have in common: an admission fence, the work they
have admitted and not yet let go, and a promise that `drain` hands out.

* `DrainPromise` — the fields `drainPromise` and `resolveDrain`;
* `Joins` — the promise tells the truth about the fence and the work that is left;
* `Joins.acquire`, `Joins.release`, `Joins.close`, `Joins.ask` — the four things an owner
  does, and why each keeps `Joins`;
* `Owner`, `Owner.DrainsSoundly` — an owner as a transition system, and what its drain
  promises about every run;
* `Owner.Heeds`, `Owner.Fenced` — what a step owes to a call for the fence, and what it
  owes to the fence.
-/

namespace RoundWatch

/-- `drainPromise` and `resolveDrain`: the resolver is there from the creation of the
promise on, and calling it again does nothing. -/
inductive DrainPromise where
  | absent
  | pending
  | resolved
  deriving DecidableEq, Repr

namespace DrainPromise

/-- `drainPromise ??= new Promise(resolve => { resolveDrain = resolve; })`. -/
def create : DrainPromise → DrainPromise
  | absent => pending
  | promise => promise

/-- `resolveDrain?.()`. -/
def resolve : DrainPromise → DrainPromise
  | pending => resolved
  | promise => promise

/-- `if (idle) resolveDrain?.()`. -/
def resolveIf (promise : DrainPromise) (idle : Prop) [Decidable idle] : DrainPromise :=
  if idle then promise.resolve else promise

@[simp] theorem create_ne_absent (promise : DrainPromise) : promise.create ≠ absent := by
  cases promise <;> simp [create]

@[simp] theorem resolve_eq_absent {promise : DrainPromise} :
    promise.resolve = absent ↔ promise = absent := by
  cases promise <;> simp [resolve]

@[simp] theorem resolveIf_eq_absent {promise : DrainPromise} {idle : Prop} [Decidable idle] :
    promise.resolveIf idle = absent ↔ promise = absent := by
  unfold resolveIf
  split
  · exact resolve_eq_absent
  · exact Iff.rfl

theorem create_eq_resolved {promise : DrainPromise} :
    promise.create = resolved ↔ promise = resolved := by
  cases promise <;> simp [create]

theorem resolve_eq_resolved {promise : DrainPromise} :
    promise.resolve = resolved ↔ promise ≠ absent := by
  cases promise <;> simp [resolve]

end DrainPromise

/-- The promise tells the truth: it is asked for behind the fence only, and it has
resolved exactly when nothing is left. -/
structure Joins {α : Type*} (closed : Bool) (promise : DrainPromise) (held : List α) : Prop where
  closed_of_asked : promise ≠ .absent → closed = true
  idle_of_resolved : promise = .resolved → held = []
  resolved_of_idle : promise ≠ .absent → held = [] → promise = .resolved

namespace Joins

variable {α : Type*} {closed : Bool} {promise : DrainPromise} {held held' : List α}

/-- Nobody has asked an owner that is still open. -/
theorem absent_of_open (h : Joins closed promise held) (hopen : closed = false) :
    promise = .absent := by
  by_contra hasked
  rw [h.closed_of_asked hasked] at hopen
  cases hopen

theorem initial : Joins false .absent ([] : List α) where
  closed_of_asked h := absurd rfl h
  idle_of_resolved h := by cases h
  resolved_of_idle h := absurd rfl h

/-- New work is admitted in front of the fence only. -/
theorem acquire (h : Joins closed promise held) (hopen : closed = false) :
    Joins closed promise held' := by
  have habsent := h.absent_of_open hopen
  refine ⟨fun hasked => absurd habsent hasked, fun hresolved => ?_,
    fun hasked => absurd habsent hasked⟩
  rw [habsent] at hresolved
  cases hresolved

/-- Letting work go, with a look at whether it was the last. -/
theorem release (h : Joins closed promise held) {idle : Prop} [Decidable idle]
    (hidle : idle ↔ held' = []) (hsub : held = [] → held' = []) :
    Joins closed (promise.resolveIf idle) held' where
  closed_of_asked hasked :=
    h.closed_of_asked fun habsent => hasked (DrainPromise.resolveIf_eq_absent.mpr habsent)
  idle_of_resolved hresolved := by
    by_cases hnow : idle
    · exact hidle.mp hnow
    · rw [DrainPromise.resolveIf, if_neg hnow] at hresolved
      exact hsub (h.idle_of_resolved hresolved)
  resolved_of_idle hasked hempty := by
    rw [DrainPromise.resolveIf, if_pos (hidle.mpr hempty)] at hasked ⊢
    exact DrainPromise.resolve_eq_resolved.mpr
      fun habsent => hasked (DrainPromise.resolve_eq_absent.mpr habsent)

/-- The last work goes, and the promise resolves with it. -/
theorem release_last (h : Joins closed promise held) :
    Joins closed promise.resolve ([] : List α) where
  closed_of_asked hasked :=
    h.closed_of_asked fun habsent => hasked (DrainPromise.resolve_eq_absent.mpr habsent)
  idle_of_resolved _ := rfl
  resolved_of_idle hasked _ :=
    DrainPromise.resolve_eq_resolved.mpr
      fun habsent => hasked (DrainPromise.resolve_eq_absent.mpr habsent)

/-- The fence. -/
theorem close (h : Joins closed promise held) : Joins true promise held :=
  ⟨fun _ => rfl, h.idle_of_resolved, h.resolved_of_idle⟩

/-- `drain`, behind the fence. -/
theorem ask (h : Joins true promise held) {idle : Prop} [Decidable idle]
    (hidle : idle ↔ held = []) : Joins true (promise.create.resolveIf idle) held where
  closed_of_asked _ := rfl
  idle_of_resolved hresolved := by
    by_cases hnow : idle
    · exact hidle.mp hnow
    · rw [DrainPromise.resolveIf, if_neg hnow] at hresolved
      exact h.idle_of_resolved (DrainPromise.create_eq_resolved.mp hresolved)
  resolved_of_idle _ hempty := by
    rw [DrainPromise.resolveIf, if_pos (hidle.mpr hempty)]
    exact DrainPromise.resolve_eq_resolved.mpr promise.create_ne_absent

end Joins

/-! ## Owners -/

/-- A call that ends the admission of an owner for good. -/
inductive FenceCall where
  /-- `stopAdmission` or `stopScheduling`. -/
  | stop
  | drain
  deriving DecidableEq, Repr

/-- An owner of work of type `ω`, as a transition system. -/
structure Owner (σ ε ω : Type) where
  initial : σ
  step : σ → ε → σ
  /-- The admission fence is up for good. -/
  closed : σ → Bool
  promise : σ → DrainPromise
  /-- The counter the owner keeps, if it keeps one. -/
  counter : σ → Option ℤ
  /-- What was admitted and has not completed. -/
  work : σ → List ω
  /-- All that has begun, latest first. -/
  begun : σ → List ω
  /-- What the code calls of the fence and of `drain` in a step, itself or from inside a
  callback. -/
  calls : σ → ε → List FenceCall

namespace Owner

variable {σ ε ω : Type} (owner : Owner σ ε ω)

def run (events : List ε) : σ := Runs.run owner.step owner.initial events

variable {owner}

/-- What a step behind the fence leaves as it is. -/
structure Fenced (owner : Owner σ ε ω) (s : σ) (e : ε) : Prop where
  closed : owner.closed (owner.step s e) = true
  begun : owner.begun (owner.step s e) = owner.begun s
  asked : owner.promise s ≠ .absent → owner.promise (owner.step s e) ≠ .absent

end Owner

end RoundWatch
