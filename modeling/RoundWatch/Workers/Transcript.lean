import RoundWatch.Workers.SearchContinuations

/-!
# Runs with their requests

The transcript of a run keeps, next to the process, every page a polling turn asked for and
every search of the reconciler.  Sweeps do not overlap; anything else may happen, in any
order.

* `Transcript`, `Event.orderly` — a run with its requests, and the runs that are meant;
* `Transcript.Ordered` — the invariant, and `ordered_run`, which carries it through them.
-/

namespace RoundWatch

open JsText

/-! ## Transcripts -/

/-- The process, with what its workers asked for so far, latest first. -/
structure Transcript where
  system : System
  pages : List PageRequest
  searches : List SearchRequest

namespace Transcript

def boot (config : StoreConfig) : Transcript := ⟨.boot (.empty config), [], []⟩

/-- One stretch of code, with the request it ends in. -/
def step (cfg : WorkerConfig) (t : Transcript) (e : Event) : Transcript where
  system := t.system.step cfg e
  pages := (e.pageRequest? t.system (t.system.step cfg e)).toList ++ t.pages
  searches := (e.searchRequest? t.system (t.system.step cfg e) t.searches).toList ++ t.searches

abbrev run (cfg : WorkerConfig) (t : Transcript) (es : List Event) : Transcript :=
  Runs.run (step cfg) t es

theorem system_run (cfg : WorkerConfig) (t : Transcript) (es : List Event) :
    (run cfg t es).system = System.run cfg t.system es := by
  induction es generalizing t with
  | nil => rfl
  | cons e es ih => exact ih (t.step cfg e)

end Transcript

/-- The operations only the poller performs. -/
def StoreOp.polls : StoreOp → Bool
  | .recordPollingFailure .. => true
  | .clearPollingFailure .. => true
  | _ => false

/-- What happens in runs whose sweeps do not overlap: nobody else does the poller's work,
and a request is interrupted only once its worker has stopped. -/
def Event.orderly (σ : System) : Event → Bool
  | .call op => !op.1.polls
  | .poll _ => (List.range σ.poller.nextSweep).all fun i => (σ.poller.sweeps i).isNone
  | .resumePoll _ .shutdown _ => σ.poller.schedulingStopped
  | .resumeReconcile .shutdown _ => σ.reconciler.shutdownStarted
  | _ => true

/-- A run of orderly events. -/
abbrev OrderlyRun (cfg : WorkerConfig) (t : Transcript) (es : List Event) : Prop :=
  Runs.Admissible (Transcript.step cfg) (fun t e => e.orderly t.system = true) t es

/-! ## Stretches outside the poller -/

variable {cfg : WorkerConfig} {asked : List PageRequest} {searches : List SearchRequest}
  {σ σ' : System} {t : Transcript} {e : Event}

/-- A step that leaves the memory of the poller alone, and the rows its turns work on. -/
theorem Ordered.frame (h : Ordered cfg asked σ) (hlog : σ.log ⊆ σ'.log)
    (hstore : KeepsOpened σ.store σ'.store)
    (hcurrent : ∀ watch, Current σ.store watch → Current σ'.store watch)
    (hobjects : σ'.poller.objects = σ.poller.objects)
    (hnext : σ'.poller.nextObject = σ.poller.nextObject)
    (hsessions : σ'.poller.sessions = σ.poller.sessions)
    (hsweeps : σ'.poller.sweeps = σ.poller.sweeps)
    (hnumber : σ'.poller.nextSweep = σ.poller.nextSweep)
    (hstopped : σ.poller.schedulingStopped = true → σ'.poller.schedulingStopped = true) :
    Ordered cfg asked σ' where
  toMemory := h.toMemory.keep hlog hstore hobjects hnext fun _ _ href => hsessions ▸ href
  alone := hsweeps ▸ h.alone
  numbered := by
    rw [hsweeps, hnumber]
    exact h.numbered
  sweeps i sweep hsweep := by
    have hs := h.sweeps i sweep (hsweeps ▸ hsweep)
    refine ⟨⟨fun htip => hstopped (hs.tip htip), fun query hmem => hstopped (hs.pages query hmem)⟩,
      fun turn hphase => ?_, fun w hphase => hstopped (hs.served w hphase)⟩
    obtain ⟨hsame, hrow, htip, hpage⟩ := hs.serving turn hphase
    refine ⟨hsame, hcurrent _ hrow, fun hpoint => hstopped (htip hpoint), fun ref query held hpoint => ?_⟩
    obtain ⟨href, hasked, hheld⟩ := hpage ref query held hpoint
    exact ⟨hsessions ▸ href, hasked, fun fresh heq => hstopped (hheld fresh heq)⟩
  ready id ref href hbusy := by
    unfold Unasked
    rw [hobjects]
    refine h.ready id ref (hsessions ▸ href) fun hb => hbusy ?_
    unfold Busy
    rw [hsweeps]
    exact hb.imp_right fun ⟨hs, hphase⟩ => ⟨hstopped hs, hphase⟩

/-- The stretches outside the poller leave the row of a turn as it is. -/
theorem Current.elsewhere (hstretch : Elsewhere σ σ') {watch : ScanWatch}
    (h : Current σ.store watch) : Current σ'.store watch := by
  obtain ⟨row, hrow, hid, hactive, hrest⟩ := h
  obtain ⟨ops, hops, hsettles⟩ := hstretch.store
  refine ⟨row, ?_, hid, hactive, hrest⟩
  rw [hops]
  exact Store.mem_run_of_active hrow hactive hsettles

theorem Ordered.elsewhere (h : Ordered cfg asked σ) (hstretch : Elsewhere σ σ') :
    Ordered cfg asked σ' := by
  have hpoller := hstretch.poller
  obtain ⟨new, hnew, -⟩ := hstretch.log
  obtain ⟨ops, hops, -⟩ := hstretch.store
  refine h.frame ?_ ?_ (fun _ => Current.elsewhere hstretch) (by rw [hpoller]) (by rw [hpoller])
    (by rw [hpoller]) (by rw [hpoller]) (by rw [hpoller]) (by rw [hpoller]; exact id)
  · rw [hnew]
    exact List.subset_append_right _ _
  · rw [hops]
    exact keepsOpened_run _ _

/-- Nobody but the poller moves the row of a turn. -/
theorem Current.call {op : {op : StoreOp // op.external}} (hop : op.1.polls = false)
    {watch : ScanWatch} (h : Current σ.store watch) : Current (σ.perform op.1).store watch := by
  obtain ⟨row, hrow, hid, hactive, hrest⟩ := h
  refine ⟨row, ?_, hid, hactive, hrest⟩
  obtain ⟨op, hexternal⟩ := op
  obtain ⟨row', hrow', rfl | hchange⟩ := Store.exists_apply_of_mem hrow op
  · exact hrow'
  · exfalso
    have hsettling : op.settles = true → False := fun hsettles => by
      have hrowSettles := hchange.settling hsettles
      simp [WatchRow.not_settling_of_active hactive] at hrowSettles
    cases hchange with
    | recordCandidate _ _ _ => exact hsettling rfl
    | activate _ _ _ => exact hsettling rfl
    | settleUnknown _ _ => exact hsettling rfl
    | deferUntil _ _ => exact hsettling rfl
    | recordFailure _ _ => simp [StoreOp.polls] at hop
    | clearFailure _ _ => simp [StoreOp.polls] at hop
    | _ => simp [StoreOp.external] at hexternal

theorem Ordered.call (h : Ordered cfg asked σ) {op : {op : StoreOp // op.external}}
    (hop : op.1.polls = false) : Ordered cfg asked (σ.perform op.1) :=
  h.frame (List.Subset.refl _) (keepsOpened_apply _ _) (fun _ => Current.call hop) rfl rfl rfl rfl
    rfl fun hs => hs

/-- A new process knows the session objects of the one before by their numbers only. -/
theorem Ordered.restart (h : Ordered cfg asked σ) (config : StoreConfig) :
    Ordered cfg asked (σ.restart config) where
  toMemory := h.toMemory.keep (List.Subset.refl _) (keepsOpened_apply _ (.reopen config)) rfl rfl
    fun _ _ href => by cases href
  alone i j hi := by cases hi
  numbered i hi := by cases hi
  sweeps i sweep hsweep := by cases hsweep
  ready id ref href := by cases href

/-! ## Stretches outside the reconciler -/

theorem SearchOrdered.outside (h : SearchOrdered searches σ) (hlog : σ.log ⊆ σ'.log)
    (hreconciler : σ'.reconciler = σ.reconciler) : SearchOrdered searches σ' :=
  h.of_same hlog (by rw [hreconciler]) (by rw [hreconciler]) (by rw [hreconciler]; exact id)

theorem Elsewhere.log_subset (h : Elsewhere σ σ') : σ.log ⊆ σ'.log := by
  obtain ⟨new, hnew, -⟩ := h.log
  rw [hnew]
  exact List.subset_append_right _ _

theorem SearchOrdered.restart (h : SearchOrdered searches σ) (config : StoreConfig) :
    SearchOrdered searches (σ.restart config) where
  history := h.history
  counted := h.counted
  ready id session hsession := by cases hsession
  search sweep turn session hsweep := by cases hsweep
  served sweep w hsweep := by cases hsweep

/-! ## The invariant -/

/-- **The invariant** of a transcript. -/
structure Transcript.Ordered (cfg : WorkerConfig) (t : Transcript) : Prop where
  sound : Sound cfg t.system
  pages : RoundWatch.Ordered cfg t.pages t.system
  searches : SearchOrdered t.searches t.system
  /-- A page is asked for with the terms of its watch. -/
  terms : ∀ q ∈ t.pages, ∃ row, q.row = some row ∧ row.terms = q.terms

theorem Transcript.Ordered.boot (cfg : WorkerConfig) (config : StoreConfig) :
    Transcript.Ordered cfg (.boot config) where
  sound := .boot cfg config
  pages :=
    { history := .nil
      sessions := by
        intro id ref href
        cases href
      tokens := by
        intro ref href
        exact absurd href (Nat.not_lt_zero _)
      requests := by
        intro q hq
        cases hq
      opened := by
        intro ref href
        exact absurd href (Nat.not_lt_zero _)
      alone := by
        intro i j hi
        cases hi
      numbered := by
        intro i hi
        cases hi
      sweeps := by
        intro i sweep hsweep
        cases hsweep
      ready := by
        intro id ref href
        cases href }
  searches :=
    { history := by
        intro later q earlier heq
        simp [Transcript.boot] at heq
      counted := by
        intro p hp
        cases hp
      ready := by
        intro id session hsession
        cases hsession
      search := by
        intro sweep turn session hsweep
        cases hsweep
      served := by
        intro sweep w hsweep
        cases hsweep }
  terms q hq := by cases hq

/-- With no sweep in flight. -/
theorem Ordered.idle_of_none (h : Ordered cfg asked σ)
    (hnone : ((List.range σ.poller.nextSweep).all fun i => (σ.poller.sweeps i).isNone) = true) :
    σ.idle := by
  intro i
  by_contra hsome
  have hi := h.numbered i (Option.isSome_iff_ne_none.2 hsome)
  have hi' := List.all_eq_true.1 hnone i (List.mem_range.2 hi)
  exact hsome (Option.isNone_iff_eq_none.1 hi')

theorem Ordered.step (h : Ordered cfg asked σ) (hsound : Sound cfg σ) (he : e.orderly σ = true) :
    Ordered cfg ((e.pageRequest? σ (σ.step cfg e)).toList ++ asked) (σ.step cfg e) := by
  cases e with
  | call op => exact h.call (by simpa [Event.orderly] using he)
  | poll clock => exact h.runOnce (h.idle_of_none he) clock
  | resumePoll i answer clock =>
      refine h.resumePoll hsound i (fun hshutdown => ?_) clock
      subst hshutdown
      exact he
  | turnPoller =>
      exact h.frame (List.Subset.refl _) (.refl _) (fun _ hc => hc) rfl rfl rfl rfl rfl fun hs => hs
  | stopPolling =>
      simp only [System.step]
      split
      · exact h
      · exact h.frame (List.Subset.refl _) (.refl _) (fun _ hc => hc) rfl rfl rfl rfl rfl
          fun _ => rfl
  | restart config => exact h.restart config
  | reconcile clock => exact h.elsewhere (elsewhere_step σ rfl)
  | resumeReconcile answer clock => exact h.elsewhere (elsewhere_step σ rfl)
  | turnReconciler => exact h.elsewhere (elsewhere_step σ rfl)
  | stopReconciling => exact h.elsewhere (elsewhere_step σ rfl)
  | settle watchId evidence => exact h.elsewhere (elsewhere_step σ rfl)
  | resumeHook k answer clock => exact h.elsewhere (elsewhere_step σ rfl)

theorem SearchOrdered.step (h : SearchOrdered searches σ) (hsound : Sound cfg σ)
    (he : e.orderly σ = true) :
    SearchOrdered ((e.searchRequest? σ (σ.step cfg e) searches).toList ++ searches)
      (σ.step cfg e) := by
  cases e with
  | call op => exact h.outside (List.Subset.refl _) rfl
  | poll clock =>
      have hpoll : Apart σ (σ.runOnce cfg clock) := apart_runOnce σ clock
      exact h.outside hpoll.log.subset hpoll.reconciler
  | resumePoll i answer clock =>
      have hpoll : Apart σ (σ.resumePoll cfg i answer clock) := apart_resumePoll σ i answer clock
      exact h.outside hpoll.log.subset hpoll.reconciler
  | turnPoller => exact h.outside (List.Subset.refl _) rfl
  | stopPolling =>
      simp only [System.step]
      split
      · exact h
      · exact h.outside (List.Subset.refl _) rfl
  | restart config => exact h.restart config
  | reconcile clock => exact h.reconcileOnce clock
  | resumeReconcile answer clock =>
      refine h.resumeReconcile hsound (fun hshutdown => ?_) clock
      subst hshutdown
      exact he
  | turnReconciler => exact h.of_same (List.Subset.refl _) rfl rfl fun hs => hs
  | stopReconciling =>
      simp only [System.step]
      split
      · exact h
      · exact h.of_same (List.Subset.refl _) rfl rfl fun _ => rfl
  | settle watchId evidence =>
      exact h.outside (elsewhere_afterSettle σ watchId evidence).log_subset
        (reconciler_afterSettle σ watchId evidence)
  | resumeHook k answer clock =>
      exact h.outside (elsewhere_resumeHook σ k answer clock).log_subset
        (reconciler_resumeHook σ k answer clock)

theorem System.pageRequest?_eq_some {i : ℕ} {q : PageRequest} (h : σ.pageRequest? i = some q) :
    ∃ sweep turn query held, σ.poller.sweeps i = some sweep ∧ sweep.phase = .serving turn ∧
      turn.point = .page q.session query held ∧ q.object = σ.poller.objects q.session ∧
      q.terms = turn.watch.row.terms ∧ q.row = σ.store.getWatch q.object.watchId.val := by
  obtain ⟨sweep, hsweep, hrequest⟩ := Option.bind_eq_some_iff.1 h
  split at hrequest
  · rename_i turn hphase
    unfold PollTurn.pageRequest? at hrequest
    split at hrequest
    · rename_i ref query held hpoint
      cases hrequest
      exact ⟨sweep, turn, query, held, hsweep, hphase, hpoint, rfl, rfl, rfl⟩
    · cases hrequest
  · cases hrequest

theorem Event.pageRequest?_eq_some {q : PageRequest} (h : e.pageRequest? σ σ' = some q) :
    ∃ i, σ'.pageRequest? i = some q := by
  cases e with
  | poll clock => exact ⟨_, h⟩
  | resumePoll i answer clock => exact ⟨i, h⟩
  | _ => cases h

/-- A page is asked for with the terms its watch has in the store. -/
theorem Sound.terms_of_pageRequest (h : Sound cfg σ) {i : ℕ} {q : PageRequest}
    (hq : σ.pageRequest? i = some q) {row : WatchRow} (hrow : q.row = some row) :
    row.terms = q.terms := by
  obtain ⟨sweep, turn, query, held, hsweep, hphase, hpoint, hobject, hterms, hget⟩ :=
    System.pageRequest?_eq_some hq
  have hturn := (h.poller.sweeps i sweep hsweep).turn turn hphase
  have hwatch := (hturn.page _ _ _ hpoint).watchId
  rw [hrow] at hget
  rw [hterms]
  refine hturn.tracked.eq_of_mem (Store.getWatch_mem hget.symm) ?_
  rw [Store.getWatch_id hget.symm, bindText_val, hobject, hwatch]

theorem Transcript.Ordered.step (h : t.Ordered cfg) (he : e.orderly t.system = true) :
    (t.step cfg e).Ordered cfg := by
  have hpages := h.pages.step h.sound he
  refine ⟨h.sound.step e, hpages, h.searches.step h.sound he, fun q hq => ?_⟩
  rcases List.mem_append.1 hq with hq | hq
  · have hrequest : e.pageRequest? t.system (t.system.step cfg e) = some q := by
      simpa using hq
    obtain ⟨i, hi⟩ := Event.pageRequest?_eq_some hrequest
    have hhistory := hpages.history [] q t.pages (by rw [hrequest]; rfl)
    obtain ⟨row, hrow, -⟩ := hhistory.fits
    exact ⟨row, hrow, (h.sound.step e).terms_of_pageRequest hi hrow⟩
  · exact h.terms q hq

/-- **Every orderly run keeps the invariant.** -/
theorem ordered_run (cfg : WorkerConfig) (config : StoreConfig) {es : List Event}
    (hes : OrderlyRun cfg (.boot config) es) :
    (Transcript.run cfg (.boot config) es).Ordered cfg :=
  Runs.run_invariant (I := Transcript.Ordered cfg) (fun _ _ he h => h.step he) hes
    (.boot cfg config)

end RoundWatch
