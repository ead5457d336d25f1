import RoundWatch.Metrics.Lifecycles

/-!
# The fences of the economics accumulator

Whoever calls, and in whatever order: the process does what the book says, so a closure
speaks for the lifecycle it was captured in and for no other.

* `Event.Reaches`, `Event.Opens`, `Event.ends` — what a call is about.
* `Mirrors`, `mirrors_step` — one call in the process is one call in the book.
* `moves_step` — what one call can do to the lifecycles.
* `Fenced`, `economics_fenced` — over all calls in any order.
-/

namespace RoundWatch.Metrics

open JsText Registry Journal

variable {ν : Type} [JsArithmetic ν]

/-! ## The process and its book -/

namespace Event

/-- The entry the id or the closure of a call stands for, before the call. -/
def Reaches (p : Process ν) (n : ℕ) : Event ν → Prop
  | .record watchId _ => p.metrics.watches.get watchId = some n
  | .finishWatch watchId => p.metrics.watches.get watchId = some n
  | .recordBy number _ => (p.handles.recorders[number]?).map Handle.object = some n
  | .finishBy number => (p.handles.recorders[number]?).map Handle.object = some n
  | .release number => (p.handles.releases[number]?).map Handle.object = some n
  | .finishTurn number _ _ => ∃ turn, p.handles.turns[number]? = some turn ∧
      (turn.recorder.map Handle.object = some n ∨ turn.release.map Handle.object = some n)
  | _ => False

/-- The id a call makes an entry for, if it has none. -/
def Opens (id : JsString) : Event ν → Prop
  | .captureWatch watchId => watchId = id
  | .record watchId _ => watchId = id
  | .captureTurn watchId existingOnly => watchId = id ∧ existingOnly = false
  | _ => False

/-- A finish, a release, or the end of a turn over a watch that came to its end. -/
def ends : Event ν → Bool
  | .finishBy _ | .finishWatch _ | .release _ => true
  | .finishTurn _ watch _ => watch.any PersistedWatch.terminal
  | _ => false

end Event

/-- Every closure stands for a lifecycle of its id, and a turn for one. -/
structure Handles.Bound (lifecycles : Lifecycles ν) (handles : Handles) : Prop where
  recorders : ∀ recorder ∈ handles.recorders, Journal.Bound lifecycles recorder
  releases : ∀ release ∈ handles.releases, Journal.Bound lifecycles release
  turns : ∀ turn ∈ handles.turns, turn.recorder = turn.release ∧
    ∀ recorder, turn.recorder = some recorder → Journal.Bound lifecycles recorder

/-- The process does what the book says. -/
structure Mirrors (b : Book ν) (p : Process ν) : Prop where
  keeps : Keeps WatchWork.total b.lifecycles p.metrics.watches
  handles : p.handles = b.handles
  bound : b.handles.Bound b.lifecycles
  named : ∀ n, ¬ b.lifecycles.Live [] n

section Mirrors

variable {b : Book ν} {p : Process ν}

theorem mirrors_start : Mirrors (ν := ν) Book.start Process.start where
  keeps := Keeps.empty
  handles := rfl
  bound := ⟨by simp [Book.start, Handles.none], by simp [Book.start, Handles.none],
    by simp [Book.start, Handles.none]⟩
  named n := by simp [Book.start, Live]

/-- A record method returns nothing, whether it throws or not. -/
theorem join_of_record {ν : Type} (result : Except String Unit) :
    (result.map fun _ => (none : Option (WatchWork ν))).toOption.join = none := by
  cases result with
  | error error => rfl
  | ok => rfl

theorem keeps_finishTurn_step (h : Mirrors b p) (number : ℕ) (watch : Option (PersistedWatch ν))
    (now : Option ν) :
    Keeps WatchWork.total (b.step (.finishTurn number watch now)).1.lifecycles
        (p.step (.finishTurn number watch now)).1.metrics.watches ∧
      (p.step (.finishTurn number watch now)).2.toOption.join =
        (b.step (.finishTurn number watch now)).2 ∧
      (p.step (.finishTurn number watch now)).1.handles =
        (b.step (.finishTurn number watch now)).1.handles := by
  rw [Process.step, Book.step, ← h.handles]
  cases hnumber : p.handles.turns[number]? with
  | none => exact ⟨h.keeps, rfl, h.handles⟩
  | some turn =>
      have hmem := List.mem_of_getElem? hnumber
      rw [h.handles] at hmem
      obtain ⟨hpaired, hrecorder⟩ := h.bound.turns _ hmem
      rw [Option.bind_some]
      cases watch with
      | none =>
          cases turn.recorder with
          | none => exact ⟨h.keeps, rfl, h.handles⟩
          | some recorder => exact ⟨h.keeps, rfl, h.handles⟩
      | some watch =>
          rw [finishWatchEconomicsTurn, ← hpaired, Option.filter_some]
          cases hturn : turn.recorder with
          | none =>
              cases watch.terminal with
              | false => exact ⟨h.keeps, rfl, h.handles⟩
              | true => exact ⟨h.keeps, rfl, h.handles⟩
          | some recorder =>
              cases watch.terminal with
              | false => exact ⟨h.keeps, rfl, h.handles⟩
              | true =>
                  obtain ⟨hkeeps, hsnapshot⟩ := keeps_finishTurn h.keeps h.named
                    (hrecorder recorder hturn) watch now
                  exact ⟨hkeeps, hsnapshot, rfl⟩

/-- **A call of the process** is a call in the book, with the same report. -/
theorem keeps_step (h : Mirrors b p) (event : Event ν) :
    Keeps WatchWork.total (b.step event).1.lifecycles (p.step event).1.metrics.watches ∧
      (p.step event).2.toOption.join = (b.step event).2 ∧
      (p.step event).1.handles = (b.step event).1.handles := by
  cases event with
  | captureWatch watchId =>
      by_cases hid : watchId = []
      · subst hid
        have herror : p.metrics.captureWatch [] = .error "watchId must not be empty" := rfl
        rw [Process.step, Book.step, herror, if_pos rfl]
        exact ⟨h.keeps, rfl, h.handles⟩
      · obtain ⟨found, hcapture, hkeeps, hhandle⟩ := keeps_captureWatch h.keeps hid
        simp only [Process.step, Book.step, hcapture, if_neg hid, hhandle, h.handles]
        exact ⟨hkeeps, rfl, trivial⟩
  | captureExistingWatch watchId =>
      rw [Process.step, Book.step, captureExistingWatch_eq h.keeps, h.handles]
      exact ⟨h.keeps, rfl, rfl⟩
  | bindWatchRelease watchId =>
      rw [Process.step, Book.step, bindWatchRelease_eq h.keeps, h.handles]
      exact ⟨h.keeps, rfl, rfl⟩
  | record watchId observation =>
      have hrecord := keeps_record h.keeps watchId observation
      rw [Process.step, Book.step]
      split at hrecord
      · rename_i hno
        rw [if_pos hno]
        exact ⟨hrecord, join_of_record _, h.handles⟩
      · rename_i hno
        rw [if_neg hno]
        exact ⟨hrecord, join_of_record _, h.handles⟩
  | recordBy number observation =>
      rw [Process.step, Book.step, ← h.handles]
      cases hnumber : p.handles.recorders[number]? with
      | none => exact ⟨h.keeps, rfl, h.handles⟩
      | some recorder =>
          have hmem := List.mem_of_getElem? hnumber
          rw [h.handles] at hmem
          exact ⟨keeps_recordBy h.keeps h.named (h.bound.recorders _ hmem) observation,
            join_of_record _, rfl⟩
  | finishBy number =>
      rw [Process.step, Book.step, ← h.handles]
      cases hnumber : p.handles.recorders[number]? with
      | none => exact ⟨h.keeps, rfl, h.handles⟩
      | some recorder =>
          have hmem := List.mem_of_getElem? hnumber
          rw [h.handles] at hmem
          obtain ⟨hkeeps, hsnapshot⟩ := keeps_finishBy h.keeps (h.bound.recorders _ hmem)
          exact ⟨hkeeps, hsnapshot, rfl⟩
  | finishWatch watchId =>
      rw [Process.step, Book.step, h.keeps.current_eq]
      cases hget : p.metrics.watches.get watchId with
      | none =>
          refine ⟨?_, ?_, h.handles⟩
          · exact h.keeps.remove_of_none hget
          · rw [RoundWatchEconomicsMetrics.finishWatch, RoundWatchEconomicsMetrics.snapshotWatch,
              hget]
            rfl
      | some n =>
          obtain ⟨hkeeps, hsnapshot⟩ := keeps_finishWatch h.keeps hget
          exact ⟨hkeeps, hsnapshot, h.handles⟩
  | release number =>
      rw [Process.step, Book.step, ← h.handles]
      cases hnumber : p.handles.releases[number]? with
      | none => exact ⟨h.keeps, rfl, h.handles⟩
      | some release =>
          have hmem := List.mem_of_getElem? hnumber
          rw [h.handles] at hmem
          exact ⟨keeps_releaseBy h.keeps (h.bound.releases _ hmem), rfl, rfl⟩
  | captureTurn watchId existingOnly =>
      obtain ⟨found, hcapture, hkeeps⟩ :=
        keeps_captureTurn h.keeps h.named watchId existingOnly
      rw [Process.step, Book.step, hcapture, h.handles]
      exact ⟨hkeeps, rfl, rfl⟩
  | finishTurn number watch now => exact keeps_finishTurn_step h number watch now

/-- What the number of a closure stands for. -/
theorem object_of_recorder (h : Mirrors b p) {number : ℕ} {recorder : WatchEconomicsRecorder}
    (hnumber : b.handles.recorders[number]? = some recorder) :
    (p.handles.recorders[number]?).map Handle.object = some recorder.object := by
  rw [h.handles, hnumber]
  rfl

theorem object_of_release (h : Mirrors b p) {number : ℕ} {release : WatchRelease}
    (hnumber : b.handles.releases[number]? = some release) :
    (p.handles.releases[number]?).map Handle.object = some release.object := by
  rw [h.handles, hnumber]
  rfl

theorem reaches_of_turn (h : Mirrors b p) {number : ℕ} {turn : WatchEconomicsTurn}
    {recorder : WatchEconomicsRecorder} (hnumber : b.handles.turns[number]? = some turn)
    (hturn : turn.recorder = some recorder) (watch : Option (PersistedWatch ν))
    (now : Option ν) : (Event.finishTurn number watch now).Reaches p recorder.object := by
  refine ⟨turn, by rw [h.handles, hnumber], Or.inl ?_⟩
  rw [hturn]
  rfl

/-- **What a call can do to the lifecycles**: it touches the ones it reaches, and begins one
only for an id it opens. -/
theorem moves_step (h : Mirrors b p) (event : Event ν) :
    Moves {n | event.Reaches p n} {id | event.Opens id ∧ id ≠ []} b.lifecycles
      (b.step event).1.lifecycles := by
  have henter : ∀ watchId : JsString, watchId ≠ [] → (∀ id, watchId = id → event.Opens id) →
      Moves {n | event.Reaches p n} {id | event.Opens id ∧ id ≠ []} b.lifecycles
        (b.lifecycles.enter watchId).1 := by
    intro watchId hid hopens
    refine moves_enter.mono (Set.empty_subset _) ?_
    rintro id rfl
    exact ⟨hopens id rfl, hid⟩
  cases event with
  | captureWatch watchId =>
      rw [Book.step]
      split
      · exact moves_refl _ _ _
      · rename_i hid
        exact henter watchId hid fun _ => id
  | captureExistingWatch watchId => exact moves_refl _ _ _
  | bindWatchRelease watchId => exact moves_refl _ _ _
  | record watchId observation =>
      rw [Book.step]
      split
      · exact moves_refl _ _ _
      · rename_i hno
        have hid : watchId ≠ [] := fun hnil => hno (Or.inl hnil)
        refine (henter watchId hid fun _ => id).trans moves_observe ?_
        rintro m hm rfl
        show p.metrics.watches.get watchId = some _
        rw [← h.keeps.current_eq]
        exact current_of_enter_lt hm
  | recordBy number observation =>
      rw [Book.step]
      cases hnumber : b.handles.recorders[number]? with
      | none => exact moves_refl _ _ _
      | some recorder =>
          refine moves_observe.mono ?_ (subset_refl _)
          rintro m rfl
          exact object_of_recorder h hnumber
  | finishBy number =>
      rw [Book.step]
      cases hnumber : b.handles.recorders[number]? with
      | none => exact moves_refl _ _ _
      | some recorder =>
          refine moves_finish.mono ?_ (subset_refl _)
          rintro m rfl
          exact object_of_recorder h hnumber
  | finishWatch watchId =>
      rw [Book.step]
      cases hcurrent : b.lifecycles.current watchId with
      | none => exact moves_refl _ _ _
      | some n =>
          refine moves_finish.mono ?_ (subset_refl _)
          rintro m rfl
          show p.metrics.watches.get watchId = some m
          rw [← h.keeps.current_eq, hcurrent]
  | release number =>
      rw [Book.step]
      cases hnumber : b.handles.releases[number]? with
      | none => exact moves_refl _ _ _
      | some release =>
          refine moves_close.mono ?_ (subset_refl _)
          rintro m rfl
          exact object_of_release h hnumber
  | captureTurn watchId existingOnly =>
      rw [Book.step]
      dsimp only
      split
      · exact moves_refl _ _ _
      · rename_i hno
        rw [not_or, Bool.not_eq_true] at hno
        exact henter watchId hno.2 fun _ heq => ⟨heq, hno.1⟩
  | finishTurn number watch now =>
      rw [Book.step]
      cases hnumber : b.handles.turns[number]? with
      | none => exact moves_refl _ _ _
      | some turn =>
          rw [Option.bind_some]
          cases hturn : turn.recorder with
          | none => exact moves_refl _ _ _
          | some recorder =>
              cases watch.filter PersistedWatch.terminal with
              | none => exact moves_refl _ _ _
              | some ended =>
                  refine moves_finishTurn.mono ?_ (subset_refl _)
                  rintro m rfl
                  exact reaches_of_turn h hnumber hturn watch now

end Mirrors

/-! ## Every run -/

section Runs

variable {b : Book ν} {p : Process ν} {lifecycles lifecycles' : Lifecycles ν}
  {handles : Handles} {n : ℕ}

omit [JsArithmetic ν] in
theorem Handles.Bound.of_moves {ns : Set ℕ} {ks : Set JsString}
    (h : handles.Bound lifecycles) (hmoves : Moves ns ks lifecycles lifecycles') :
    handles.Bound lifecycles' where
  recorders recorder hr := (h.recorders recorder hr).of_moves hmoves
  releases release hr := (h.releases release hr).of_moves hmoves
  turns turn ht :=
    ⟨(h.turns turn ht).1, fun recorder hr => ((h.turns turn ht).2 recorder hr).of_moves hmoves⟩

omit [JsArithmetic ν] in
theorem bound_of_handle {watchId : JsString} {handle : Handle JsString}
    (h : lifecycles.handle watchId = some handle) : Journal.Bound lifecycles handle := by
  rw [Lifecycles.handle, Option.map_eq_some_iff] at h
  obtain ⟨n, hcurrent, rfl⟩ := h
  exact bound_of_current hcurrent

omit [JsArithmetic ν] in
theorem Handles.Bound.addRecorder (h : handles.Bound lifecycles) (watchId : JsString) :
    (handles.addRecorder (lifecycles.handle watchId)).Bound lifecycles where
  recorders recorder hr := by
    rcases List.mem_append.1 hr with hr | hr
    · exact h.recorders recorder hr
    · exact bound_of_handle (Option.mem_toList.1 hr)
  releases := h.releases
  turns := h.turns

omit [JsArithmetic ν] in
theorem Handles.Bound.addRelease (h : handles.Bound lifecycles) (watchId : JsString) :
    (handles.addRelease (lifecycles.handle watchId)).Bound lifecycles where
  recorders := h.recorders
  releases release hr := by
    rcases List.mem_append.1 hr with hr | hr
    · exact h.releases release hr
    · exact bound_of_handle (Option.mem_toList.1 hr)
  turns := h.turns

omit [JsArithmetic ν] in
theorem Handles.Bound.addTurn (h : handles.Bound lifecycles) (watchId : JsString) :
    (handles.addTurn ⟨lifecycles.handle watchId, lifecycles.handle watchId⟩).Bound
      lifecycles where
  recorders := (h.addRecorder watchId).recorders
  releases := (h.addRelease watchId).releases
  turns turn ht := by
    rcases List.mem_append.1 ht with ht | ht
    · exact h.turns turn ht
    · rw [List.mem_singleton.1 ht]
      exact ⟨rfl, fun recorder hr => bound_of_handle hr⟩

/-- What was handed out stays bound, and so is what is handed out next. -/
theorem bound_step (h : Mirrors b p) (event : Event ν) :
    (b.step event).1.handles.Bound (b.step event).1.lifecycles := by
  have hold := h.bound.of_moves (moves_step h event)
  cases event with
  | captureWatch watchId =>
      rw [Book.step] at hold ⊢
      split at hold
      · rename_i hid
        rw [if_pos hid]
        exact hold
      · rename_i hid
        rw [if_neg hid]
        exact hold.addRecorder watchId
  | captureExistingWatch watchId => exact h.bound.addRecorder watchId
  | bindWatchRelease watchId => exact h.bound.addRelease watchId
  | record watchId observation =>
      rw [Book.step] at hold ⊢
      split at hold
      · rename_i hno
        rw [if_pos hno]
        exact hold
      · rename_i hno
        rw [if_neg hno]
        exact hold
  | recordBy number observation =>
      rw [Book.step] at hold ⊢
      cases hnumber : b.handles.recorders[number]? with
      | none => exact h.bound
      | some recorder => simpa only [hnumber] using hold
  | finishBy number =>
      rw [Book.step] at hold ⊢
      cases hnumber : b.handles.recorders[number]? with
      | none => exact h.bound
      | some recorder => simpa only [hnumber] using hold
  | finishWatch watchId =>
      rw [Book.step] at hold ⊢
      cases hcurrent : b.lifecycles.current watchId with
      | none => exact h.bound
      | some n => simpa only [hcurrent] using hold
  | release number =>
      rw [Book.step] at hold ⊢
      cases hnumber : b.handles.releases[number]? with
      | none => exact h.bound
      | some release => simpa only [hnumber] using hold
  | captureTurn watchId existingOnly =>
      exact Handles.Bound.addTurn hold watchId
  | finishTurn number watch now =>
      rw [Book.step] at hold ⊢
      cases hturn : b.handles.turns[number]?.bind WatchEconomicsTurn.recorder with
      | none => exact h.bound
      | some recorder =>
          cases hwatch : watch.filter PersistedWatch.terminal with
          | none => exact h.bound
          | some watch => simpa only [hturn, hwatch] using hold

theorem mirrors_step (h : Mirrors b p) (event : Event ν) :
    Mirrors (b.step event).1 (p.step event).1 where
  keeps := (keeps_step h event).1
  handles := (keeps_step h event).2.2
  bound := bound_step h event
  named := (moves_step h event).not_live (by simp) h.named

theorem mirrors_run (h : Mirrors b p) (events : List (Event ν)) :
    Mirrors (Runs.run (fun b event => (Book.step b event).1) b events)
      (Runs.run (fun p event => (Process.step p event).1) p events) := by
  induction events generalizing b p with
  | nil => exact h
  | cons event events ih => exact ih (mirrors_step h event)

theorem mirrors_after (events : List (Event ν)) :
    Mirrors (Book.after events) (Process.after events) :=
  mirrors_run mirrors_start events

theorem Process.after_concat (events : List (Event ν)) (event : Event ν) :
    Process.after (events ++ [event]) = ((Process.after events).step event).1 := by
  rw [Process.after, Runs.run_append]
  rfl

theorem Book.after_concat (events : List (Event ν)) (event : Event ν) :
    Book.after (events ++ [event]) = ((Book.after events).step event).1 := by
  rw [Book.after, Runs.run_append]
  rfl

/-! ### Ends -/

theorem ended_finishTurn {watch : PersistedWatch ν} {now : Option ν}
    {t : Tenure JsString (Observation ν)}
    (ht : (lifecycles.finishTurn n watch now).1[n]? = some t) : t.ended = true := by
  cases now with
  | none => exact ended_close ht
  | some timestamp =>
      rw [Lifecycles.finishTurn] at ht
      split at ht
      · exact ended_finish ht
      · exact ended_close ht

/-- **After a call that ends an entry** no id names it. -/
theorem not_live_step (h : Mirrors b p) {event : Event ν} (hreach : event.Reaches p n)
    (hends : event.ends = true) (id : JsString) : ¬ (b.step event).1.lifecycles.Live id n := by
  suffices hended : ∀ t, (b.step event).1.lifecycles[n]? = some t → t.ended = true by
    rintro ⟨t, ht, -, hlive⟩
    rw [hended t ht] at hlive
    cases hlive
  intro t ht
  cases event with
  | finishBy number =>
      replace hreach : (p.handles.recorders[number]?).map Handle.object = some n := hreach
      rw [h.handles, Option.map_eq_some_iff] at hreach
      obtain ⟨recorder, hnumber, rfl⟩ := hreach
      rw [Book.step, hnumber] at ht
      exact ended_finish ht
  | finishWatch watchId =>
      replace hreach : p.metrics.watches.get watchId = some n := hreach
      rw [← h.keeps.current_eq] at hreach
      rw [Book.step, hreach] at ht
      exact ended_finish ht
  | release number =>
      replace hreach : (p.handles.releases[number]?).map Handle.object = some n := hreach
      rw [h.handles, Option.map_eq_some_iff] at hreach
      obtain ⟨release, hnumber, rfl⟩ := hreach
      rw [Book.step, hnumber] at ht
      exact ended_close ht
  | finishTurn number watch now =>
      obtain ⟨turn, hnumber, hobject⟩ := hreach
      rw [h.handles] at hnumber
      obtain ⟨hpaired, -⟩ := h.bound.turns turn (List.mem_of_getElem? hnumber)
      rw [← hpaired, or_self, Option.map_eq_some_iff] at hobject
      obtain ⟨recorder, hrecorder, rfl⟩ := hobject
      cases watch with
      | none => cases hends
      | some watch =>
          have hterminal : watch.terminal = true := hends
          rw [Book.step, hnumber, Option.bind_some, hrecorder, Option.filter_some,
            if_pos hterminal] at ht
          exact ended_finishTurn ht
  | _ => cases hends

/-- A finish reports the lifecycle that it ends, as it stands then. -/
theorem finish_eq_some {snapshot : WatchWork ν} (h : (lifecycles.finish n).2 = some snapshot) :
    ∃ t, (lifecycles.finish n).1[n]? = some t ∧ lifecycles.Live t.key n ∧ t.ended = true ∧
      snapshot = WatchWork.total t.notes := by
  rw [Lifecycles.finish] at h ⊢
  cases ht : lifecycles[n]? with
  | none =>
      rw [finish_of_ended (by simp [ht])] at h
      cases h
  | some t =>
      cases hended : t.ended with
      | true =>
          rw [finish_of_ended (by simp [ht, hended])] at h
          cases h
      | false =>
          rw [finish_of_live ht hended] at h ⊢
          cases h
          exact ⟨t.close, by rw [getElem?_close_self, ht]; rfl, ⟨t, ht, rfl, hended⟩, rfl, rfl⟩

theorem finishTurn_eq_some {watch : PersistedWatch ν} {now : Option ν} {snapshot : WatchWork ν}
    (h : (lifecycles.finishTurn n watch now).2 = some snapshot) :
    ∃ t, (lifecycles.finishTurn n watch now).1[n]? = some t ∧ lifecycles.Live t.key n ∧
      t.ended = true ∧ snapshot = WatchWork.total t.notes := by
  cases now with
  | none => cases h
  | some timestamp =>
      rw [Lifecycles.finishTurn] at h ⊢
      split at h
      · rename_i haccepted
        rw [if_pos haccepted]
        obtain ⟨t, ht, hlive, hended, hsnapshot⟩ := finish_eq_some h
        have hobserve : lifecycles.observe n (.lifecycle (watch.lifecycle timestamp)) =
          lifecycles.note n (.lifecycle (watch.lifecycle timestamp)) := rfl
        rw [hobserve, live_note] at hlive
        exact ⟨t, ht, hlive, hended, hsnapshot⟩
      · cases h

/-- **What a call returns** is the total of the one entry it reaches, and that entry ends. -/
theorem snapshot_step (h : Mirrors b p) {event : Event ν} {snapshot : WatchWork ν}
    (hsnapshot : (b.step event).2 = some snapshot) :
    ∃ n t, event.Reaches p n ∧ (b.step event).1.lifecycles[n]? = some t ∧
      b.lifecycles.Live t.key n ∧ t.ended = true ∧ snapshot = WatchWork.total t.notes := by
  cases event with
  | finishBy number =>
      rw [Book.step] at hsnapshot ⊢
      cases hnumber : b.handles.recorders[number]? with
      | none => simp [hnumber] at hsnapshot
      | some recorder =>
          simp only [hnumber] at hsnapshot
          obtain ⟨t, ht⟩ := finish_eq_some hsnapshot
          exact ⟨recorder.object, t, object_of_recorder h hnumber, ht⟩
  | finishWatch watchId =>
      rw [Book.step] at hsnapshot ⊢
      cases hcurrent : b.lifecycles.current watchId with
      | none => simp [hcurrent] at hsnapshot
      | some n =>
          simp only [hcurrent] at hsnapshot
          obtain ⟨t, ht⟩ := finish_eq_some hsnapshot
          refine ⟨n, t, ?_, ht⟩
          show p.metrics.watches.get watchId = some n
          rw [← h.keeps.current_eq, hcurrent]
  | finishTurn number watch now =>
      rw [Book.step] at hsnapshot ⊢
      cases hnumber : b.handles.turns[number]? with
      | none => simp [hnumber] at hsnapshot
      | some turn =>
          rw [hnumber, Option.bind_some] at hsnapshot
          rw [Option.bind_some]
          cases hturn : turn.recorder with
          | none => simp [hturn] at hsnapshot
          | some recorder =>
              cases hwatch : watch.filter PersistedWatch.terminal with
              | none => simp [hturn, hwatch] at hsnapshot
              | some watch =>
                  simp only [hturn, hwatch] at hsnapshot
                  obtain ⟨t, ht⟩ := finishTurn_eq_some hsnapshot
                  exact ⟨recorder.object, t, reaches_of_turn h hnumber hturn _ now, ht⟩
  | captureWatch watchId =>
      rw [Book.step] at hsnapshot
      split at hsnapshot <;> cases hsnapshot
  | record watchId observation =>
      rw [Book.step] at hsnapshot
      split at hsnapshot <;> cases hsnapshot
  | recordBy number observation =>
      rw [Book.step] at hsnapshot
      split at hsnapshot <;> cases hsnapshot
  | release number =>
      rw [Book.step] at hsnapshot
      split at hsnapshot <;> cases hsnapshot
  | captureExistingWatch watchId => cases hsnapshot
  | bindWatchRelease watchId => cases hsnapshot
  | captureTurn watchId existingOnly => cases hsnapshot

end Runs

/-! ## The fences -/

/-- What holds after any calls in any order. -/
structure Fenced (events : List (Event ν)) : Prop where
  /-- An id names the entry of its lifecycle that lasts, and nothing when none does. -/
  held : ∀ id n, (Process.after events).metrics.watches.get id = some n ↔
    (Book.after events).lifecycles.Live id n
  count : (Process.after events).metrics.activeWatchMetricCount =
    (Book.after events).lifecycles.countP fun lifecycle => !lifecycle.ended
  /-- An entry is the sum of the observations of its lifecycle. -/
  entries : ∀ n lifecycle, (Book.after events).lifecycles[n]? = some lifecycle →
    (Process.after events).metrics.watches.objects n = WatchWork.total lifecycle.notes
  balanced : ∀ n < (Process.after events).metrics.watches.created, ∀ purpose,
    let metric := ((Process.after events).metrics.watches.objects n).indexer purpose
    metric.attempts = metric.successes + metric.failures ∧ metric.timeouts ≤ metric.failures
  /-- A recorder finishes its own lifecycle, and returns nothing once that is over. -/
  finishes : ∀ number recorder lifecycle,
    (Process.after events).handles.recorders[number]? = some recorder →
    (Book.after events).lifecycles[recorder.object]? = some lifecycle →
    ((Process.after events).step (.finishBy number)).2 =
      .ok (if lifecycle.ended then none else some (WatchWork.total lifecycle.notes))
  /-- Whatever returns a snapshot, it is the sum of a lifecycle that the call reached and
  ended. -/
  returned : ∀ event snapshot, ((Process.after events).step event).2 = .ok (some snapshot) →
    ∃ n lifecycle, event.Reaches (Process.after events) n ∧
      (Book.after (events ++ [event])).lifecycles[n]? = some lifecycle ∧
      (Book.after events).lifecycles.Live lifecycle.key n ∧ lifecycle.ended = true ∧
      snapshot = WatchWork.total lifecycle.notes
  /-- A recorder whose lifecycle is over records nothing anywhere. -/
  inert : ∀ number recorder lifecycle observation,
    (Process.after events).handles.recorders[number]? = some recorder →
    (Book.after events).lifecycles[recorder.object]? = some lifecycle → lifecycle.ended = true →
    ((Process.after events).step (.recordBy number observation)).1 = Process.after events
  /-- An entry that a call does not reach keeps what it has and who names it. -/
  others : ∀ event, ∀ n < (Process.after events).metrics.watches.created,
    ¬ event.Reaches (Process.after events) n →
    (Process.after (events ++ [event])).metrics.watches.objects n =
        (Process.after events).metrics.watches.objects n ∧
      ∀ id, (Process.after (events ++ [event])).metrics.watches.get id = some n ↔
        (Process.after events).metrics.watches.get id = some n
  /-- After its end an id names nothing, whoever calls, until a call opens it again. -/
  gone : ∀ event n id later, event.Reaches (Process.after events) n → event.ends = true →
    (Process.after events).metrics.watches.get id = some n →
    (∀ call ∈ later, ¬ Event.Opens id call) →
    (Process.after (events ++ event :: later)).metrics.watches.get id = none

section Fenced

variable {b : Book ν} {p : Process ν}

theorem balanced_of_mirrors (h : Mirrors b p) {n : ℕ} (hn : n < p.metrics.watches.created)
    (purpose : IndexerRequestPurpose) :
    let metric := (p.metrics.watches.objects n).indexer purpose
    metric.attempts = metric.successes + metric.failures ∧ metric.timeouts ≤ metric.failures := by
  rw [h.keeps.created] at hn
  rw [h.keeps.objects (List.getElem?_eq_getElem hn)]
  exact IndexerPurposeMetric.balanced_total _

theorem finishes_of_mirrors (h : Mirrors b p) {number : ℕ} {recorder : WatchEconomicsRecorder}
    {lifecycle : Tenure JsString (Observation ν)}
    (hnumber : p.handles.recorders[number]? = some recorder)
    (hlifecycle : b.lifecycles[recorder.object]? = some lifecycle) :
    (p.step (.finishBy number)).2 =
      .ok (if lifecycle.ended then none else some (WatchWork.total lifecycle.notes)) := by
  have hmem := List.mem_of_getElem? hnumber
  rw [h.handles] at hmem
  rw [Process.step, hnumber]
  dsimp only
  rw [(keeps_finishBy h.keeps (h.bound.recorders _ hmem)).2, Lifecycles.finish]
  cases hended : lifecycle.ended with
  | true =>
      rw [finish_of_ended (by simp [hlifecycle, hended])]
      rfl
  | false =>
      rw [finish_of_live hlifecycle hended]
      rfl

theorem inert_of_mirrors (h : Mirrors b p) {number : ℕ} {recorder : WatchEconomicsRecorder}
    {lifecycle : Tenure JsString (Observation ν)} (observation : Observation ν)
    (hnumber : p.handles.recorders[number]? = some recorder)
    (hlifecycle : b.lifecycles[recorder.object]? = some lifecycle)
    (hended : lifecycle.ended = true) : (p.step (.recordBy number observation)).1 = p := by
  have hcurrent : recorder.current p.metrics.watches = false := by
    rw [← Bool.not_eq_true, Handle.current_iff, h.keeps.held]
    rintro ⟨t, ht, -, hlive⟩
    rw [hlifecycle] at ht
    cases ht
    rw [hended] at hlive
    cases hlive
  rw [Process.step, hnumber]
  dsimp only
  rw [RoundWatchEconomicsMetrics.recordBy, if_neg (by simp [hcurrent])]

/-- **An entry out of reach** is left alone. -/
theorem others_of_mirrors (h : Mirrors b p) {event : Event ν} {n : ℕ}
    (hn : n < p.metrics.watches.created) (hreach : ¬ event.Reaches p n) :
    (p.step event).1.metrics.watches.objects n = p.metrics.watches.objects n ∧
      ∀ id, (p.step event).1.metrics.watches.get id = some n ↔
        p.metrics.watches.get id = some n := by
  have hnext := mirrors_step h event
  rw [h.keeps.created] at hn
  have hsame : (b.step event).1.lifecycles[n]? = b.lifecycles[n]? :=
    (moves_step h event).others hn hreach
  constructor
  · have hbefore := List.getElem?_eq_getElem hn
    rw [h.keeps.objects hbefore, hnext.keeps.objects (hsame.trans hbefore)]
  · intro id
    rw [h.keeps.held, hnext.keeps.held, Live, Live, hsame]

/-- **An id that names nothing** goes on naming nothing until it is opened. -/
theorem get_eq_none_of_run (h : Mirrors b p) {id : JsString}
    (hnone : p.metrics.watches.get id = none) {later : List (Event ν)}
    (hlater : ∀ call ∈ later, ¬ Event.Opens id call) :
    (Runs.run (fun p event => (Process.step p event).1) p later).metrics.watches.get id =
      none := by
  induction later generalizing b p with
  | nil => exact hnone
  | cons event later ih =>
      have hopens : id ∉ {id | event.Opens id ∧ id ≠ []} := fun hopens =>
        hlater event (List.mem_cons_self ..) hopens.1
      refine ih (mirrors_step h event) ?_ fun call hcall =>
        hlater call (List.mem_cons_of_mem _ hcall)
      rw [(mirrors_step h event).keeps.get_eq_none_iff]
      exact (moves_step h event).not_live hopens (h.keeps.get_eq_none_iff.1 hnone)

omit [JsArithmetic ν] in
theorem Event.not_opens_of_ends {event : Event ν} (h : event.ends = true) (id : JsString) :
    ¬ event.Opens id := by
  intro hopens
  cases event <;> first | exact hopens | cases h

/-- **After its end** an id names nothing. -/
theorem get_eq_none_of_ends (h : Mirrors b p) {event : Event ν} {n : ℕ} {id : JsString}
    (hreach : event.Reaches p n) (hends : event.ends = true)
    (hget : p.metrics.watches.get id = some n) :
    (p.step event).1.metrics.watches.get id = none := by
  rw [(mirrors_step h event).keeps.get_eq_none_iff]
  rintro m ⟨t', ht', hkey, hended⟩
  have hmoves := moves_step h event
  have hlive := h.keeps.held.1 hget
  by_cases hm : m < b.lifecycles.length
  · -- an old lifecycle of the id that lasts can only be the one that ended
    obtain ⟨t'', ht'', hkey', hdone⟩ := hmoves.kept (List.getElem?_eq_getElem hm)
    rw [ht'] at ht''
    cases ht''
    have hlasts : b.lifecycles[m].ended = false := by
      by_contra hclosed
      rw [Bool.not_eq_false] at hclosed
      rw [hdone hclosed, hclosed] at hended
      cases hended
    have hsame := h.keeps.held.2 ⟨_, List.getElem?_eq_getElem hm, hkey'.symm.trans hkey, hlasts⟩
    rw [hget] at hsame
    cases hsame
    exact not_live_step h hreach hends id ⟨t', ht', hkey, hended⟩
  · exact Event.not_opens_of_ends hends _ (hmoves.fresh (Nat.le_of_not_lt hm) ht').1

end Fenced

/-- **Economics recorders are fenced by lifecycle.** -/
theorem economics_fenced (events : List (Event ν)) : Fenced events := by
  have h := mirrors_after events
  exact {
    held := fun _ _ => h.keeps.held
    count := h.keeps.card_keys
    entries := fun _ _ => h.keeps.objects
    balanced := fun _ hn => balanced_of_mirrors h hn
    finishes := fun _ _ _ => finishes_of_mirrors h
    returned := by
      intro event snapshot hreply
      rw [Book.after_concat]
      have hreport := (keeps_step h event).2.1
      rw [hreply] at hreport
      exact snapshot_step h hreport.symm
    inert := fun _ _ _ observation => inert_of_mirrors h observation
    others := by
      intro event n hn hreach
      rw [Process.after_concat]
      exact others_of_mirrors h hn hreach
    gone := by
      intro event n id later hreach hends hget hlater
      rw [Process.after, Runs.run_append]
      exact get_eq_none_of_run (mirrors_step h event)
        (get_eq_none_of_ends h hreach hends hget) hlater }

/-- Integers add up as doubles do, below 2^53. -/
instance : JsArithmetic ℤ where
  max := Max.max
  lt a b := decide (a < b)
  isSafeInteger := Json.isSafeInteger
  isFinite _ := true

/-- A recorder and a release of the first lifecycle, called during the second. -/
example :
    let watchId := js "watch"
    let events : List (Event ℤ) := [.captureWatch watchId, .bindWatchRelease watchId,
      .recordBy 0 .workUnit, .finishWatch watchId, .record watchId .workUnit,
      .recordBy 0 .workUnit, .finishBy 0, .release 0]
    (Process.after events).metrics.watches.get watchId = some 1 ∧
      ((Process.after events).metrics.watches.objects 1).workUnitsClaimed = 1 := by
  decide

end RoundWatch.Metrics
