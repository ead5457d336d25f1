import RoundWatch.Metrics.Economics

/-!
# The lifecycles of a watch id

What the accumulator is for: an id is watched, observed, and done with, perhaps more than
once, and what was captured during one lifecycle says nothing about the next.

* `Book` — the lifecycles with their observations, and who holds a closure of which.
* `keeps_record`, `keeps_recordBy`, `keeps_finishBy`, `keeps_releaseBy` — the methods of the
  class, one by one, against the book.
* `keeps_captureTurn`, `keeps_finishTurn` — and the turns of the workers.
-/

namespace RoundWatch.Metrics

open JsText Registry Journal

variable {ν : Type} [JsArithmetic ν]

/-! ## The book -/

/-- A page that does not pass the checks is no observation of any entry. -/
def Observation.refused : Observation ν → Bool
  | .scanPage observation => (checkScanPage observation).toOption.isNone
  | _ => false

/-- The observations of every lifecycle, the oldest lifecycle first. -/
abbrev Lifecycles (ν : Type) := Journal JsString (Observation ν)

namespace Lifecycles

/-- An observation during a lifecycle. -/
def observe (n : ℕ) (o : Observation ν) (lifecycles : Lifecycles ν) : Lifecycles ν :=
  if o.refused then lifecycles else lifecycles.note n o

/-- The end of a lifecycle that lasts, with what it came to. -/
def finish (n : ℕ) (lifecycles : Lifecycles ν) : Lifecycles ν × Option (WatchWork ν) :=
  ((Journal.finish n lifecycles).1, (Journal.finish n lifecycles).2.map WatchWork.total)

def handle (watchId : JsString) (lifecycles : Lifecycles ν) : Option (Handle JsString) :=
  (lifecycles.current watchId).map fun n => ⟨watchId, n⟩

/-- The end of a turn: its last observation, if the clock can be read, and then the end of the
lifecycle.  There is nothing to report of an observation that was not accepted. -/
def finishTurn (n : ℕ) (watch : PersistedWatch ν) (now : Option ν) (lifecycles : Lifecycles ν) :
    Lifecycles ν × Option (WatchWork ν) :=
  match now with
  | none => (lifecycles.close n, none)
  | some timestamp =>
      let observed := lifecycles.observe n (.lifecycle (watch.lifecycle timestamp))
      if (watch.lifecycle timestamp).accepted then Lifecycles.finish n observed
      else (observed.close n, none)

end Lifecycles

structure Book (ν : Type) where
  lifecycles : Lifecycles ν
  handles : Handles

namespace Book

def start : Book ν := ⟨[], .none⟩

/-- One call, with what a finish reports.  A closure stands for the lifecycle it was handed
out in, and for no other. -/
def step (b : Book ν) : Event ν → Book ν × Option (WatchWork ν)
  | .captureWatch watchId =>
      if watchId = [] then (b, none)
      else
        let lifecycles := (b.lifecycles.enter watchId).1
        (⟨lifecycles, b.handles.addRecorder (Lifecycles.handle watchId lifecycles)⟩, none)
  | .captureExistingWatch watchId =>
      (⟨b.lifecycles, b.handles.addRecorder (b.lifecycles.handle watchId)⟩, none)
  | .bindWatchRelease watchId =>
      (⟨b.lifecycles, b.handles.addRelease (b.lifecycles.handle watchId)⟩, none)
  | .record watchId observation =>
      if watchId = [] ∨ observation.refused then (b, none)
      else
        (⟨Lifecycles.observe (b.lifecycles.enter watchId).2 observation
          (b.lifecycles.enter watchId).1, b.handles⟩, none)
  | .recordBy recorder observation =>
      match b.handles.recorders[recorder]? with
      | none => (b, none)
      | some recorder => (⟨b.lifecycles.observe recorder.object observation, b.handles⟩, none)
  | .finishBy recorder =>
      match b.handles.recorders[recorder]? with
      | none => (b, none)
      | some recorder =>
          (⟨(b.lifecycles.finish recorder.object).1, b.handles⟩,
            (b.lifecycles.finish recorder.object).2)
  | .finishWatch watchId =>
      match b.lifecycles.current watchId with
      | none => (b, none)
      | some n => (⟨(b.lifecycles.finish n).1, b.handles⟩, (b.lifecycles.finish n).2)
  | .release release =>
      match b.handles.releases[release]? with
      | none => (b, none)
      | some release => (⟨b.lifecycles.close release.object, b.handles⟩, none)
  | .captureTurn watchId existingOnly =>
      let lifecycles := if existingOnly ∨ watchId = [] then b.lifecycles
        else (b.lifecycles.enter watchId).1
      let handle := Lifecycles.handle watchId lifecycles
      (⟨lifecycles, b.handles.addTurn ⟨handle, handle⟩⟩, none)
  | .finishTurn turn watch now =>
      match b.handles.turns[turn]?.bind WatchEconomicsTurn.recorder with
      | none => (b, none)
      | some recorder =>
          match watch.filter PersistedWatch.terminal with
          | none => (b, none)
          | some watch =>
              (⟨(b.lifecycles.finishTurn recorder.object watch now).1, b.handles⟩,
                (b.lifecycles.finishTurn recorder.object watch now).2)

def after (events : List (Event ν)) : Book ν :=
  Runs.run (fun b event => (step b event).1) start events

end Book

/-! ## The methods of the class -/

section Methods

variable {lifecycles : Lifecycles ν} {metrics : RoundWatchEconomicsMetrics ν}
  {watchId : JsString} {o : Observation ν} {n : ℕ}

theorem moves_observe {ks : Set JsString} :
    Moves {n} ks lifecycles (lifecycles.observe n o) := by
  rw [Lifecycles.observe]
  split
  · exact moves_refl _ _ _
  · exact moves_note

theorem moves_finishTurn {ks : Set JsString} {watch : PersistedWatch ν} {now : Option ν} :
    Moves {n} ks lifecycles (lifecycles.finishTurn n watch now).1 := by
  cases now with
  | none => exact moves_close
  | some timestamp =>
      rw [Lifecycles.finishTurn]
      split
      · exact moves_observe.trans moves_finish fun _ _ => id
      · exact moves_observe.trans moves_close fun _ _ => id

theorem record_of_refused (h : o.refused = true) : (metrics.record watchId o).1 = metrics := by
  cases o with
  | scanPage observation =>
      rw [RoundWatchEconomicsMetrics.record, RoundWatchEconomicsMetrics.recordScanPage]
      cases hpage : checkScanPage observation with
      | error error => rfl
      | ok page => simp [Observation.refused, hpage, Except.toOption] at h
  | _ => cases h

/-- Any other call comes to an entry, and leaves there what `Observation.apply` says. -/
theorem record_of_not_refused (h : o.refused = false) :
    (metrics.record watchId o).1 =
      match metrics.watch watchId with
      | .error _ => metrics
      | .ok found =>
          ⟨found.1.watches.write found.2 (o.apply (found.1.watches.objects found.2))⟩ := by
  have honWatch : ∀ operation : WatchWork ν → WatchWork ν × Except String Unit,
      (∀ work, (operation work).1 = o.apply work) →
      (metrics.onWatch watchId operation).1 =
        match metrics.watch watchId with
        | .error _ => metrics
        | .ok found =>
            ⟨found.1.watches.write found.2 (o.apply (found.1.watches.objects found.2))⟩ := by
    intro operation hoperation
    rw [RoundWatchEconomicsMetrics.onWatch]
    cases metrics.watch watchId with
    | error error => rfl
    | ok found => simp only [hoperation]
  cases o with
  | scanPage observation =>
      rw [RoundWatchEconomicsMetrics.record, RoundWatchEconomicsMetrics.recordScanPage]
      cases hpage : checkScanPage observation with
      | error error => simp [Observation.refused, hpage, Except.toOption] at h
      | ok page => exact honWatch _ fun work => by rw [Observation.apply, hpage]
  | indexerRequest purpose observation => exact honWatch _ fun _ => rfl
  | coverage roundsCovered => exact honWatch _ fun _ => rfl
  | reconciliationAttempt => exact honWatch _ fun _ => rfl
  | closingRequest => exact honWatch _ fun _ => rfl
  | workUnit => exact honWatch _ fun _ => rfl
  | lifecycle observation => exact honWatch _ fun _ => rfl

/-- One more observation on an entry that is held. -/
theorem keeps_write (h : Keeps WatchWork.total lifecycles metrics.watches)
    (hlive : lifecycles.Live watchId n) :
    Keeps WatchWork.total (lifecycles.note n o)
      (metrics.watches.write n (o.apply (metrics.watches.objects n))) :=
  h.write hlive fun notes hnotes => by rw [hnotes, WatchWork.total_concat]

theorem keeps_watch (h : Keeps WatchWork.total lifecycles metrics.watches)
    (hid : watchId ≠ []) :
    ∃ found : RoundWatchEconomicsMetrics ν, metrics.watch watchId =
        .ok (found, (lifecycles.enter watchId).2) ∧
      Keeps WatchWork.total (lifecycles.enter watchId).1 found.watches := by
  obtain ⟨hkeeps, hnumber⟩ := h.enter watchId
  refine ⟨⟨(metrics.watches.enter emptyWatchWork watchId).1⟩, ?_, hkeeps⟩
  rw [RoundWatchEconomicsMetrics.watch, if_neg hid, hnumber]
  rfl

/-- **A record method of the class** observes the entry of the id, a new one if need be. -/
theorem keeps_record (h : Keeps WatchWork.total lifecycles metrics.watches)
    (watchId : JsString) (o : Observation ν) :
    Keeps WatchWork.total
      (if watchId = [] ∨ o.refused then lifecycles
        else Lifecycles.observe (lifecycles.enter watchId).2 o (lifecycles.enter watchId).1)
      (metrics.record watchId o).1.watches := by
  cases hrefused : o.refused with
  | true =>
      rw [if_pos (Or.inr rfl), record_of_refused hrefused]
      exact h
  | false =>
      rw [record_of_not_refused hrefused]
      by_cases hid : watchId = []
      · rw [if_pos (Or.inl hid), RoundWatchEconomicsMetrics.watch, if_pos hid]
        exact h
      · obtain ⟨found, hfound, hkeeps⟩ := keeps_watch h hid
        rw [if_neg (by simp [hid]), hfound, Lifecycles.observe, hrefused]
        exact keeps_write hkeeps (h.live_enter watchId)

/-- **A record method of a recorder** observes the recorder's own entry, while it lasts. -/
theorem keeps_recordBy (h : Keeps WatchWork.total lifecycles metrics.watches)
    (hnamed : ∀ n, ¬ lifecycles.Live [] n) {recorder : WatchEconomicsRecorder}
    (hbound : Bound lifecycles recorder) (o : Observation ν) :
    Keeps WatchWork.total (lifecycles.observe recorder.object o)
      (metrics.recordBy recorder o).1.watches := by
  rw [RoundWatchEconomicsMetrics.recordBy]
  cases hcurrent : recorder.current metrics.watches with
  | true =>
      have hkey : recorder.key ≠ [] := by
        intro hnil
        rw [Handle.current_iff, hnil, h.held] at hcurrent
        exact hnamed _ hcurrent
      have hrecord := keeps_record h recorder.key o
      rw [h.enter_of_current hcurrent] at hrecord
      rw [if_pos rfl]
      cases hrefused : o.refused with
      | true => simpa [Lifecycles.observe, hrefused] using hrecord
      | false => simpa [hkey, hrefused] using hrecord
  | false =>
      have hsame : lifecycles.observe recorder.object o = lifecycles := by
        rw [Lifecycles.observe]
        split
        · rfl
        · exact note_eq_self (h.ended_of_not_current hbound hcurrent)
      rw [hsame, if_neg (by simp)]
      exact h

/-- **`finishWatch`** returns the total of the lifecycle that lasts, and ends it. -/
theorem keeps_finishWatch (h : Keeps WatchWork.total lifecycles metrics.watches)
    (hget : metrics.watches.get watchId = some n) :
    Keeps WatchWork.total (lifecycles.finish n).1 (metrics.finishWatch watchId).1.watches ∧
      (metrics.finishWatch watchId).2 = (lifecycles.finish n).2 := by
  obtain ⟨t, ht, -, hended⟩ := h.held.1 hget
  rw [Lifecycles.finish, Journal.finish_of_live ht hended]
  refine ⟨h.remove hget, ?_⟩
  rw [RoundWatchEconomicsMetrics.finishWatch, RoundWatchEconomicsMetrics.snapshotWatch, hget,
    Option.map_some, snapshotWatch_eq, h.objects ht]
  rfl

/-- **`finishWatch` of a recorder** is about the recorder's own entry. -/
theorem keeps_finishBy (h : Keeps WatchWork.total lifecycles metrics.watches)
    {recorder : WatchEconomicsRecorder} (hbound : Bound lifecycles recorder) :
    Keeps WatchWork.total (lifecycles.finish recorder.object).1
        (metrics.finishBy recorder).1.watches ∧
      (metrics.finishBy recorder).2 = (lifecycles.finish recorder.object).2 := by
  rw [RoundWatchEconomicsMetrics.finishBy]
  cases hcurrent : recorder.current metrics.watches with
  | true =>
      rw [if_pos rfl]
      exact keeps_finishWatch h (Handle.current_iff.1 hcurrent)
  | false =>
      rw [Lifecycles.finish, Journal.finish_of_ended (h.ended_of_not_current hbound hcurrent),
        if_neg (by simp)]
      exact ⟨h, rfl⟩

/-- **A release** ends the lifecycle it was bound in. -/
theorem keeps_releaseBy (h : Keeps WatchWork.total lifecycles metrics.watches)
    {release : WatchRelease} (hbound : Bound lifecycles release) :
    Keeps WatchWork.total (lifecycles.close release.object)
      (metrics.releaseBy release).watches := by
  rw [RoundWatchEconomicsMetrics.releaseBy]
  cases hcurrent : release.current metrics.watches with
  | true =>
      rw [if_pos rfl]
      exact h.remove (Handle.current_iff.1 hcurrent)
  | false =>
      rw [close_eq_self (h.ended_of_not_current hbound hcurrent), if_neg (by simp)]
      exact h

/-- The last observation of a turn throws when it is refused, and only then. -/
theorem recordBy_lifecycle_ok_iff (h : Keeps WatchWork.total lifecycles metrics.watches)
    (hnamed : ∀ n, ¬ lifecycles.Live [] n) {recorder : WatchEconomicsRecorder}
    (hcurrent : recorder.current metrics.watches = true) (o : WatchLifecycleObservation ν) :
    (metrics.recordBy recorder (.lifecycle o)).2 = .ok () ↔ o.accepted = true := by
  have hkey : recorder.key ≠ [] := by
    intro hnil
    rw [Handle.current_iff, hnil, h.held] at hcurrent
    exact hnamed _ hcurrent
  obtain ⟨found, hfound, -⟩ := keeps_watch h hkey
  rw [RoundWatchEconomicsMetrics.recordBy, if_pos hcurrent, RoundWatchEconomicsMetrics.record,
    RoundWatchEconomicsMetrics.recordLifecycle, RoundWatchEconomicsMetrics.onWatch, hfound]
  exact WatchWork.recordLifecycle_ok_iff o _

/-- **The end of a turn** ends the lifecycle the turn was captured in. -/
theorem keeps_finishTurn (h : Keeps WatchWork.total lifecycles metrics.watches)
    (hnamed : ∀ n, ¬ lifecycles.Live [] n) {handle : Handle JsString}
    (hbound : Bound lifecycles handle) (watch : PersistedWatch ν) (now : Option ν) :
    Keeps WatchWork.total (lifecycles.finishTurn handle.object watch now).1
        ((finishRecorded handle watch now metrics).1.releaseBy handle).watches ∧
      (finishRecorded handle watch now metrics).2 =
        (lifecycles.finishTurn handle.object watch now).2 := by
  cases now with
  | none => exact ⟨keeps_releaseBy h hbound, rfl⟩
  | some timestamp =>
      have hobserved := keeps_recordBy h hnamed hbound (.lifecycle (watch.lifecycle timestamp))
      have hmoves : Moves {handle.object} ∅ lifecycles (lifecycles.observe handle.object
          (.lifecycle (watch.lifecycle timestamp))) := moves_observe
      have hbound' := hbound.of_moves hmoves
      rw [finishRecorded, Lifecycles.finishTurn]
      cases hcurrent : handle.current metrics.watches with
      | true =>
          have hok := recordBy_lifecycle_ok_iff h hnamed hcurrent (watch.lifecycle timestamp)
          rcases hrecord : metrics.recordBy handle (.lifecycle (watch.lifecycle timestamp)) with
            ⟨observed, result⟩
          rw [hrecord] at hobserved hok
          cases result with
          | ok =>
              -- the release comes after the finish and finds nothing
              obtain ⟨hfinish, hsnapshot⟩ := keeps_finishBy hobserved hbound'
              have hmoves' : Moves {handle.object} ∅ _
                  (Lifecycles.finish handle.object (lifecycles.observe handle.object
                    (.lifecycle (watch.lifecycle timestamp)))).1 := moves_finish
              have hrelease := keeps_releaseBy hfinish (hbound'.of_moves hmoves')
              rw [Lifecycles.finish, close_finish] at hrelease
              simp only [hok.1 rfl, if_true]
              exact ⟨hrelease, hsnapshot⟩
          | error error =>
              have haccepted : (watch.lifecycle timestamp).accepted = false := by
                rw [← Bool.not_eq_true, ← hok]
                simp
              simp only [haccepted, Bool.false_eq_true, if_false]
              exact ⟨keeps_releaseBy hobserved hbound', trivial⟩
      | false =>
          have hended := h.ended_of_not_current hbound hcurrent
          have hsame : lifecycles.observe handle.object
              (.lifecycle (watch.lifecycle timestamp)) = lifecycles := note_eq_self hended
          have hfinish : Lifecycles.finish handle.object lifecycles = (lifecycles, none) := by
            rw [Lifecycles.finish, finish_of_ended hended]
            rfl
          simp only [RoundWatchEconomicsMetrics.recordBy, RoundWatchEconomicsMetrics.finishBy,
            RoundWatchEconomicsMetrics.releaseBy, hcurrent, Bool.false_eq_true, if_false, hsame,
            hfinish, close_eq_self hended, ite_self]
          exact ⟨h, trivial⟩

end Methods

/-! ## Captures -/

section Captures

variable {lifecycles : Lifecycles ν} {metrics : RoundWatchEconomicsMetrics ν}
  {watchId : JsString}

theorem captureExistingWatch_eq (h : Keeps WatchWork.total lifecycles metrics.watches) :
    metrics.captureExistingWatch watchId = lifecycles.handle watchId := by
  rw [RoundWatchEconomicsMetrics.captureExistingWatch, Lifecycles.handle, h.current_eq]

theorem bindWatchRelease_eq (h : Keeps WatchWork.total lifecycles metrics.watches) :
    metrics.bindWatchRelease watchId = lifecycles.handle watchId := by
  rw [RoundWatchEconomicsMetrics.bindWatchRelease, Lifecycles.handle, h.current_eq]

/-- **A capture** hands out the lifecycle of the id, a new one if need be. -/
theorem keeps_captureWatch (h : Keeps WatchWork.total lifecycles metrics.watches)
    (hid : watchId ≠ []) :
    ∃ found : RoundWatchEconomicsMetrics ν,
      metrics.captureWatch watchId = .ok (found, ⟨watchId, (lifecycles.enter watchId).2⟩) ∧
      Keeps WatchWork.total (lifecycles.enter watchId).1 found.watches ∧
      Lifecycles.handle watchId (lifecycles.enter watchId).1 =
        some ⟨watchId, (lifecycles.enter watchId).2⟩ := by
  obtain ⟨found, hfound, hkeeps⟩ := keeps_watch h hid
  refine ⟨found, ?_, hkeeps, ?_⟩
  · rw [RoundWatchEconomicsMetrics.captureWatch, hfound]
    rfl
  · rw [Lifecycles.handle, hkeeps.current_eq, hkeeps.held.2 (h.live_enter watchId)]
    rfl

theorem handle_nil (h : Keeps WatchWork.total lifecycles metrics.watches)
    (hnamed : ∀ n, ¬ lifecycles.Live [] n) : lifecycles.handle [] = none := by
  rw [Lifecycles.handle, h.current_eq, h.get_eq_none_iff.2 hnamed]
  rfl

/-- A handle on a lifecycle that lasts is the one a capture hands out. -/
theorem handle_getD_enter {ν : Type} (watchId : JsString) (lifecycles : Lifecycles ν) :
    (lifecycles.handle watchId).getD ⟨watchId, (lifecycles.enter watchId).2⟩ =
      ⟨watchId, (lifecycles.enter watchId).2⟩ := by
  rw [Lifecycles.handle, Journal.enter]
  cases lifecycles.current watchId with
  | none => rfl
  | some n => rfl

/-- **A turn** has the recorder and the release of one lifecycle. -/
theorem keeps_captureTurn (h : Keeps WatchWork.total lifecycles metrics.watches)
    (hnamed : ∀ n, ¬ lifecycles.Live [] n) (watchId : JsString) (existingOnly : Bool) :
    ∃ found : RoundWatchEconomicsMetrics ν,
      captureWatchEconomicsTurn (some metrics) watchId existingOnly =
        some (found, ⟨Lifecycles.handle watchId
            (if existingOnly ∨ watchId = [] then lifecycles else (lifecycles.enter watchId).1),
          Lifecycles.handle watchId
            (if existingOnly ∨ watchId = [] then lifecycles
              else (lifecycles.enter watchId).1)⟩) ∧
      Keeps WatchWork.total
        (if existingOnly ∨ watchId = [] then lifecycles else (lifecycles.enter watchId).1)
        found.watches := by
  cases existingOnly with
  | true =>
      refine ⟨metrics, ?_, by simpa using h⟩
      simp [captureWatchEconomicsTurn, captureExistingWatch_eq h, bindWatchRelease_eq h]
  | false =>
      by_cases hid : watchId = []
      · subst hid
        have herror : metrics.captureWatch [] = .error "watchId must not be empty" := rfl
        refine ⟨metrics, ?_, by simpa using h⟩
        simp [captureWatchEconomicsTurn, herror, bindWatchRelease_eq h, handle_nil h hnamed]
      · obtain ⟨found, hcapture, hkeeps, hhandle⟩ := keeps_captureWatch h hid
        refine ⟨found, ?_, by simpa [hid] using hkeeps⟩
        simp [captureWatchEconomicsTurn, hcapture, bindWatchRelease_eq h,
          bindWatchRelease_eq hkeeps, hhandle, hid, handle_getD_enter]

end Captures

end RoundWatch.Metrics
