import RoundWatch.Workers.Run
import Mathlib.Algebra.BigOperators.Group.Finset.Basic
import Mathlib.Algebra.Order.BigOperators.Group.Finset

/-!
# Metering work in the log

What a log says about claims and requests, with no worker in sight.

* `claimedTurns`, `requestTurns`, `requestsIn` — the counts;
* `Metered` — the grammar of a log in which every turn is numbered, claimed before it
  requests, and keeps its limit;
* `Metered.requestTurns_le` — in a metered log the requests for a watch are bounded by
  its claims.
-/

namespace RoundWatch

open JsText

/-- The requests a turn may make. -/
def WorkerKind.limit : WorkerKind → ℕ
  | .polling => maxActiveRequests
  | .reconciliation => maxReconciliationRequests

/-- `MAX_BACKGROUND_INDEXER_REQUESTS_PER_WORK_TURN`. -/
def maxBackgroundRequests : ℕ := maxActiveRequests

/-- `maxBackgroundIndexerRequestsForWorkBudget`. -/
def maxBackgroundIndexerRequestsForWorkBudget (workUnitBudget : ℕ) : Except String ℕ :=
  if ¬ positiveInteger workUnitBudget then .error "workUnitBudget must be a positive safe integer"
  else if Json.maxSafeInteger < workUnitBudget * maxBackgroundRequests then
    .error "workUnitBudget exceeds the safe request-ceiling range"
  else .ok (workUnitBudget * maxBackgroundRequests)

theorem WorkerKind.limit_le (kind : WorkerKind) : kind.limit ≤ maxBackgroundRequests := by
  cases kind <;> decide

/-! ## Counts -/

namespace Observation

/-- The turn an observation claims for a watch. -/
def claimedFor (id : SqlText) : Observation → Option ℕ
  | .claimed turn _ id' => if id' = id then some turn else none
  | _ => none

/-- The turn an observation is a request for a watch of. -/
def requestedFor (id : SqlText) : Observation → Option ℕ
  | .requested turn id' => if id' = id then some turn else none
  | _ => none

def isClaim : Observation → Bool
  | .claimed .. => true
  | _ => false

def isRequestIn (turn : ℕ) : Observation → Bool
  | .requested turn' _ => turn' == turn
  | _ => false

def exhausts (id : SqlText) : Observation → Bool
  | .exhausted id' => id' == id
  | _ => false

/-- An observation that is about work. -/
def metered : Observation → Bool
  | .claimed .. => true
  | .exhausted _ => true
  | .requested .. => true
  | .overspent _ => true
  | _ => false

theorem isRequestIn_of_unmetered {o : Observation} (h : o.metered = false) (turn : ℕ) :
    o.isRequestIn turn = false := by
  cases o <;> first | rfl | cases h

end Observation

section Counts

variable (id : SqlText) (log : List Observation)

/-- The turns that were claimed for a watch, by number. -/
def claimedTurns : List ℕ := log.filterMap (Observation.claimedFor id)

/-- The turns of the requests that were sent for a watch. -/
def requestTurns : List ℕ := log.filterMap (Observation.requestedFor id)

/-- How often `claimWorkUnit` returned `exhausted` for a watch. -/
def exhaustions : ℕ := log.countP (Observation.exhausts id)

/-- The requests of a turn. -/
def requestsIn (turn : ℕ) : ℕ := log.countP (Observation.isRequestIn turn)

/-- The turns claimed so far. -/
def turnCount : ℕ := log.countP Observation.isClaim

@[simp] theorem claimedTurns_cons (o : Observation) :
    claimedTurns id (o :: log) = (o.claimedFor id).toList ++ claimedTurns id log := by
  cases h : o.claimedFor id <;> simp [claimedTurns, h]

@[simp] theorem requestTurns_cons (o : Observation) :
    requestTurns id (o :: log) = (o.requestedFor id).toList ++ requestTurns id log := by
  cases h : o.requestedFor id <;> simp [requestTurns, h]

@[simp] theorem exhaustions_cons (o : Observation) :
    exhaustions id (o :: log) = exhaustions id log + if o.exhausts id then 1 else 0 :=
  List.countP_cons

@[simp] theorem requestsIn_cons (o : Observation) (turn : ℕ) :
    requestsIn (o :: log) turn = requestsIn log turn + if o.isRequestIn turn then 1 else 0 :=
  List.countP_cons

@[simp] theorem turnCount_cons (o : Observation) :
    turnCount (o :: log) = turnCount log + if o.isClaim then 1 else 0 :=
  List.countP_cons

end Counts

/-! ## Metered logs -/

/-- The logs, latest first, that keep the rules of the work budget. -/
inductive Metered : List Observation → Prop
  | nil : Metered []
  /-- A turn gets the next number. -/
  | claimed {log : List Observation} (kind : WorkerKind) (id : SqlText) : Metered log →
      Metered (.claimed (turnCount log) kind id :: log)
  /-- A request belongs to a claimed turn that has one left. -/
  | requested {log : List Observation} {turn : ℕ} {kind : WorkerKind} {id : SqlText} :
      Metered log → .claimed turn kind id ∈ log → requestsIn log turn < kind.limit →
      Metered (.requested turn id :: log)
  | exhausted {log : List Observation} (id : SqlText) : Metered log →
      Metered (.exhausted id :: log)
  /-- No turn overspends. -/
  | other {log : List Observation} {o : Observation} : o.metered = false → Metered log →
      Metered (o :: log)

variable {log : List Observation}

theorem Metered.claimed_lt (h : Metered log) {turn : ℕ} {kind : WorkerKind} {id : SqlText}
    (hmem : .claimed turn kind id ∈ log) : turn < turnCount log := by
  induction h with
  | nil => cases hmem
  | claimed kind' id' _ ih =>
      rw [turnCount_cons]
      rcases List.mem_cons.1 hmem with heq | hmem
      · cases heq
        exact Nat.lt_succ_self _
      · exact Nat.lt_succ_of_lt (ih hmem)
  | requested _ _ _ ih => exact ih (by simpa using hmem)
  | exhausted _ _ ih => exact ih (by simpa using hmem)
  | other ho _ ih =>
      rw [turnCount_cons]
      rcases List.mem_cons.1 hmem with heq | hmem
      · subst heq
        cases ho
      · exact Nat.lt_of_lt_of_le (ih hmem) (Nat.le_add_right _ _)

/-- A turn is claimed once. -/
theorem Metered.claimed_unique (h : Metered log) {turn : ℕ} {kind kind' : WorkerKind}
    {id id' : SqlText} (hmem : .claimed turn kind id ∈ log)
    (hmem' : .claimed turn kind' id' ∈ log) : kind = kind' ∧ id = id' := by
  induction h with
  | nil => cases hmem
  | claimed _ _ hlog ih =>
      rcases List.mem_cons.1 hmem with heq | hold
      · rcases List.mem_cons.1 hmem' with heq' | hold'
        · cases heq
          cases heq'
          exact ⟨rfl, rfl⟩
        · cases heq
          exact absurd (hlog.claimed_lt hold') (Nat.lt_irrefl _)
      · rcases List.mem_cons.1 hmem' with heq' | hold'
        · cases heq'
          exact absurd (hlog.claimed_lt hold) (Nat.lt_irrefl _)
        · exact ih hold hold'
  | requested _ _ _ ih =>
      exact ih (by simpa using hmem) (by simpa using hmem')
  | exhausted _ _ ih => exact ih (by simpa using hmem) (by simpa using hmem')
  | other ho _ ih =>
      refine ih ?_ ?_
      · rcases List.mem_cons.1 hmem with heq | hmem
        · subst heq
          cases ho
        · exact hmem
      · rcases List.mem_cons.1 hmem' with heq' | hmem'
        · subst heq'
          cases ho
        · exact hmem'

/-- **A request has its claim before it.** -/
theorem Metered.claimed_of_requested (h : Metered log) {later earlier : List Observation}
    {turn : ℕ} {id : SqlText} (hlog : log = later ++ .requested turn id :: earlier) :
    ∃ kind, .claimed turn kind id ∈ earlier := by
  induction h generalizing later with
  | nil => simp at hlog
  | claimed _ _ _ ih =>
      cases later with
      | nil => simp at hlog
      | cons o later => exact ih (List.cons.inj hlog).2
  | @requested _ _ kind _ _ hclaimed _ ih =>
      cases later with
      | nil =>
          obtain ⟨heq, rfl⟩ := List.cons.inj hlog
          cases heq
          exact ⟨kind, hclaimed⟩
      | cons o later => exact ih (List.cons.inj hlog).2
  | exhausted _ _ ih =>
      cases later with
      | nil => simp at hlog
      | cons o later => exact ih (List.cons.inj hlog).2
  | other ho _ ih =>
      cases later with
      | nil =>
          obtain ⟨heq, -⟩ := List.cons.inj hlog
          subst heq
          cases ho
      | cons o later => exact ih (List.cons.inj hlog).2

/-- Nothing is requested in a turn that has not been claimed. -/
theorem Metered.requestsIn_eq_zero (h : Metered log) {turn : ℕ} (hturn : turnCount log ≤ turn) :
    requestsIn log turn = 0 := by
  refine List.countP_eq_zero.2 fun o ho => ?_
  cases o with
  | requested turn' id =>
      obtain ⟨later, earlier, heq⟩ := List.append_of_mem ho
      obtain ⟨kind, hclaimed⟩ := h.claimed_of_requested heq
      have hlt := h.claimed_lt (heq ▸ List.mem_append_right _ (List.mem_cons_of_mem _ hclaimed))
      simp only [Observation.isRequestIn, beq_iff_eq]
      omega
  | _ => simp [Observation.isRequestIn]

/-- **A turn keeps its limit.** -/
theorem Metered.requestsIn_le (h : Metered log) {turn : ℕ} {kind : WorkerKind} {id : SqlText}
    (hmem : .claimed turn kind id ∈ log) : requestsIn log turn ≤ kind.limit := by
  induction h with
  | nil => cases hmem
  | @claimed log kind' id' hlog ih =>
      simp only [requestsIn_cons, Observation.isRequestIn, Bool.false_eq_true, if_false,
        Nat.add_zero]
      rcases List.mem_cons.1 hmem with heq | hmem
      · cases heq
        rw [hlog.requestsIn_eq_zero (Nat.le_refl _)]
        exact Nat.zero_le _
      · exact ih hmem
  | @requested log turn' kind' id' hlog hclaimed hlt ih =>
      have hmem : .claimed turn kind id ∈ log := by simpa using hmem
      by_cases hturn : turn' = turn
      · subst hturn
        obtain ⟨rfl, -⟩ := hlog.claimed_unique hmem hclaimed
        simp only [requestsIn_cons, Observation.isRequestIn, beq_self_eq_true, if_true]
        exact hlt
      · simpa [Observation.isRequestIn, hturn] using ih hmem
  | exhausted id' _ ih => simpa [Observation.isRequestIn] using ih (by simpa using hmem)
  | @other log o ho _ ih =>
      rw [requestsIn_cons, Observation.isRequestIn_of_unmetered ho, if_neg Bool.false_ne_true]
      refine ih ?_
      rcases List.mem_cons.1 hmem with heq | hmem
      · subst heq
        cases ho
      · exact hmem

/-- No turn of a metered log overspends. -/
theorem Metered.not_overspent (h : Metered log) (turn : ℕ) : .overspent turn ∉ log := by
  intro hmem
  induction h with
  | nil => cases hmem
  | claimed _ _ _ ih => exact ih (by simpa using hmem)
  | requested _ _ _ ih => exact ih (by simpa using hmem)
  | exhausted _ _ ih => exact ih (by simpa using hmem)
  | other ho _ ih =>
      rcases List.mem_cons.1 hmem with heq | hmem
      · subst heq
        cases ho
      · exact ih hmem

/-! ## The requests for a watch -/

/-- A list whose elements all occur in another one, each at most `k` times. -/
theorem length_le_of_count_le {l m : List ℕ} {k : ℕ} (hsub : ∀ a ∈ l, a ∈ m)
    (hcount : ∀ a ∈ l, l.count a ≤ k) : l.length ≤ m.length * k := by
  have hcard : l.toFinset.card ≤ m.length := by
    refine Nat.le_trans (Finset.card_le_card fun a ha => ?_) m.toFinset_card_le
    exact List.mem_toFinset.2 (hsub a (List.mem_toFinset.1 ha))
  calc l.length = ∑ a ∈ l.toFinset, l.count a := (List.sum_toFinset_count_eq_length l).symm
    _ ≤ l.toFinset.card * k := by
        simpa using Finset.sum_le_card_nsmul l.toFinset (fun a => l.count a) k
          fun a ha => hcount a (List.mem_toFinset.1 ha)
    _ ≤ m.length * k := Nat.mul_le_mul_right k hcard

theorem count_requestTurns_le (id : SqlText) (log : List Observation) (turn : ℕ) :
    (requestTurns id log).count turn ≤ requestsIn log turn := by
  induction log with
  | nil => simp [requestTurns]
  | cons o log ih =>
      rw [requestTurns_cons, requestsIn_cons, List.count_append, Nat.add_comm]
      refine Nat.add_le_add ih ?_
      cases o with
      | requested turn' id' =>
          by_cases hid : id' = id <;> by_cases hturn : turn' = turn <;>
            simp [Observation.requestedFor, Observation.isRequestIn, hid, hturn]
      | _ => simp [Observation.requestedFor]

/-- **The requests for a watch are bounded by its claims.** -/
theorem Metered.requestTurns_le (h : Metered log) (id : SqlText) :
    (requestTurns id log).length ≤ (claimedTurns id log).length * maxBackgroundRequests := by
  have hclaimed : ∀ turn ∈ requestTurns id log, ∃ kind, .claimed turn kind id ∈ log := by
    intro turn hturn
    obtain ⟨o, ho, hfor⟩ := List.mem_filterMap.1 hturn
    cases o with
    | requested turn' id' =>
        simp only [Observation.requestedFor] at hfor
        split at hfor
        · rename_i hid
          cases hfor
          subst hid
          obtain ⟨later, earlier, heq⟩ := List.append_of_mem ho
          obtain ⟨kind, hmem⟩ := h.claimed_of_requested heq
          exact ⟨kind, heq ▸ List.mem_append_right _ (List.mem_cons_of_mem _ hmem)⟩
        · cases hfor
    | _ => cases hfor
  refine length_le_of_count_le (fun turn hturn => ?_) fun turn hturn => ?_
  · obtain ⟨kind, hmem⟩ := hclaimed turn hturn
    exact List.mem_filterMap.2 ⟨_, hmem, by simp [Observation.claimedFor]⟩
  · obtain ⟨kind, hmem⟩ := hclaimed turn hturn
    exact Nat.le_trans (count_requestTurns_le id log turn)
      (Nat.le_trans (h.requestsIn_le hmem) kind.limit_le)

end RoundWatch
