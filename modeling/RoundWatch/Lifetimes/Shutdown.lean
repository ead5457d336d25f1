import RoundWatch.Lifetimes.Coordinator
import Mathlib.Tactic.Common

/-!
# The store is closed last

What the coordinator has shown when it closes the store, and that a shutdown has one end.

* `MayClose` — nothing can still use the store;
* `Sound` — the flags say what happened, and the history is fair so far;
* `Ends` — what of the two ends has happened, by where control is;
* `placed_step`, `placed_after` — every stretch, every run.
-/

namespace RoundWatch

variable {ε : Type}

namespace Happening

/-- What leaves it unproven that an owner is at rest. -/
def unproven : Happening ε → Bool
  | .fenceFailed _ => true
  | .withheld _ => true
  | .settled _ (.rejected error) => error.isIncompleteServerClose
  | _ => false

/-- A part of an end of the shutdown. -/
def isEnd : Happening ε → Bool
  | .storeClosed => true
  | .terminated => true
  | .resolved _ => true
  | _ => false

def isResolved : Happening ε → Bool
  | .resolved _ => true
  | _ => false

def isStoreClosed : Happening ε → Bool
  | .storeClosed => true
  | _ => false

def isTerminated : Happening ε → Bool
  | .terminated => true
  | _ => false

end Happening

/-- Nothing can still use the store. -/
structure MayClose (earlier : List (Happening ε)) : Prop where
  fenced : ∀ fence, .fenced fence ∈ earlier
  settled : ∀ owner, ∃ how, .settled owner how ∈ earlier
  proven : ∀ h ∈ earlier, h.unproven = false
  inTime : .deadlineFired ∉ earlier

/-- What must have happened before. -/
def Fair : Happening ε → List (Happening ε) → Prop
  | .storeClosed, earlier => MayClose earlier
  | .resolved result, earlier => result.exitCode = 0 → ∀ error, .recorded error ∉ earlier
  | _, _ => True

/-- Everything happened in its time. -/
def Historic (log : List (Happening ε)) : Prop :=
  ∀ later h earlier, log = later ++ h :: earlier → Fair h earlier

theorem historic_cons {h : Happening ε} {log : List (Happening ε)} :
    Historic (h :: log) ↔ Fair h log ∧ Historic log := by
  constructor
  · intro hlog
    refine ⟨hlog [] h log rfl, fun later h' earlier heq => hlog (h :: later) h' earlier ?_⟩
    rw [heq, List.cons_append]
  · rintro ⟨hfair, hlog⟩ later h' earlier heq
    cases later with
    | nil =>
        cases heq
        exact hfair
    | cons h'' later =>
        cases heq
        exact hlog later h' earlier rfl

namespace Point

/-- The fences that have not returned. -/
def fencesLeft : Point → List AdmissionFence
  | .idle => .application :: Coordinator.fences
  | .fencing fence rest => fence :: rest
  | _ => []

/-- In front of the end of the first `shutdown`. -/
def early : Point → Bool
  | .idle => true
  | .fencing .. => true
  | .closing => true
  | .installing => true
  | .draining .. => true
  | _ => false

end Point

namespace Coordinator

variable {c : Coordinator ε}

/-- The ends that have been reached. -/
def ends (c : Coordinator ε) : List (Happening ε) := c.log.filter Happening.isEnd

/-- The flags say what happened. -/
structure Sound (c : Coordinator ε) : Prop where
  unproven : c.ownershipUnproven = false → ∀ h ∈ c.log, h.unproven = false
  fenced : ∀ fence, fence ∈ c.point.fencesLeft ∨ .fenced fence ∈ c.log ∨ .fenceFailed fence ∈ c.log
  settled : ∀ owner, c.lifetimes owner = .settled → ∃ how, .settled owner how ∈ c.log
  joined : c.joined = true → c.point.early = false ∧ ∀ owner, c.lifetimes owner = .settled
  recorded : c.errors = [] → ∀ error, .recorded error ∉ c.log
  deadline : .deadlineFired ∈ c.log → c.completed = true
  history : Historic c.log

/-- The store was closed, and the promise has resolved. -/
def Drained (ends : List (Happening ε)) : Prop :=
  ∃ result, ends = [.resolved result, .storeClosed] ∧ result.status = .drained

/-- The promise has resolved, and the process was told to end. -/
def Terminated (ends : List (Happening ε)) : Prop :=
  ∃ result, ends = [.terminated, .resolved result] ∧ result.status ≠ .drained

/-- What has been reached of the ends, by where control is. -/
def Ends : Point → Bool → List (Happening ε) → Prop
  | .waiting, true, ends => Drained ends ∨ Terminated ends
  | .closingStore, false, ends => ends = [.storeClosed]
  | .reportingErrors, true, ends => ends = [.storeClosed]
  | .reportingTermination status, true, ends => ends = [] ∧ status ≠ .drained
  | .terminating, true, ends => Terminated ends
  | .reportingFailure, true, ends => Terminated ends
  | .closingStore, true, _ => False
  | .reportingErrors, false, _ => False
  | .reportingTermination _, false, _ => False
  | .terminating, false, _ => False
  | .reportingFailure, false, _ => False
  | _, false, ends => ends = []
  | _, true, _ => False

/-- The flags, the ends, and that the store is closed behind the join. -/
structure Placed (c : Coordinator ε) : Prop extends Sound c where
  ends : Ends c.point c.completed c.ends
  clearing : c.point = .clearing → c.joined = true

theorem mem_fences (fence : AdmissionFence) : fence ∈ .application :: fences := by
  cases fence <;> decide

theorem mem_drains (owner : ShutdownOwner) : owner ∈ .server :: .application :: drains := by
  cases owner <;> decide

theorem placed_create : Placed (create : Coordinator ε) where
  unproven _ h hmem := by cases hmem
  fenced fence := Or.inl (mem_fences fence)
  settled owner h := by cases h
  joined h := by cases h
  recorded _ error hmem := by cases hmem
  deadline h := by cases h
  history later h earlier heq := by
    cases later <;> cases heq
  ends := rfl
  clearing h := by cases h

/-! ## One more happening -/

theorem sound_note (h : Sound c) {x : Happening ε}
    (hproven : x.unproven = true → c.ownershipUnproven = true)
    (hrecorded : ∀ error, x = .recorded error → c.errors ≠ [])
    (hdeadline : x = .deadlineFired → c.completed = true) (hfair : Fair x c.log) :
    Sound (c.note x) :=
  { h with
    unproven := fun hflag y hy => by
      rcases List.mem_cons.mp hy with rfl | hy
      · by_contra hun
        have hset := hproven (by simpa using hun)
        simp only [note] at hflag
        rw [hset] at hflag
        cases hflag
      · exact h.unproven hflag y hy
    fenced := fun fence => by
      rcases h.fenced fence with hleft | hmem | hmem
      · exact Or.inl hleft
      · exact Or.inr (Or.inl (List.mem_cons_of_mem _ hmem))
      · exact Or.inr (Or.inr (List.mem_cons_of_mem _ hmem))
    settled := fun owner hsettled => by
      obtain ⟨how, hmem⟩ := h.settled owner hsettled
      exact ⟨how, List.mem_cons_of_mem _ hmem⟩
    recorded := fun hnil error hmem => by
      rcases List.mem_cons.mp hmem with heq | hmem
      · exact hrecorded error heq.symm hnil
      · exact h.recorded hnil error hmem
    deadline := fun hmem => by
      rcases List.mem_cons.mp hmem with heq | hmem
      · exact hdeadline heq.symm
      · exact h.deadline hmem
    history := historic_cons.mpr ⟨hfair, h.history⟩ }

@[simp] theorem ends_note (c : Coordinator ε) {x : Happening ε} (hend : x.isEnd = false) :
    (c.note x).ends = c.ends := by
  simp [ends, note, hend]

theorem sound_record (h : Sound c) (error : ShutdownError ε) : Sound (c.record error) := by
  have herrors : Sound { c with errors := c.errors ++ [error] } :=
    { h with recorded := fun hnil => by simp at hnil }
  exact sound_note herrors (fun hun => by cases hun) (fun _ _ => by simp) (fun heq => by cases heq)
    trivial

theorem sound_recordThrown (h : Sound c) (thrown : Option (ShutdownError ε)) :
    Sound (c.recordThrown thrown) := by
  cases thrown with
  | none => exact h
  | some error => exact sound_record h error

/-- Recording an error moves nothing. -/
theorem recordThrown_frame (c : Coordinator ε) (thrown : Option (ShutdownError ε)) :
    (c.recordThrown thrown).point = c.point ∧ (c.recordThrown thrown).completed = c.completed ∧
      (c.recordThrown thrown).ends = c.ends ∧ (c.recordThrown thrown).joined = c.joined := by
  cases thrown with
  | none => exact ⟨rfl, rfl, rfl, rfl⟩
  | some error => exact ⟨rfl, rfl, rfl, rfl⟩

theorem sound_goTo (h : Sound c) {point : Point}
    (hfences : ∀ fence ∈ c.point.fencesLeft, fence ∈ point.fencesLeft ∨
      .fenced fence ∈ c.log ∨ .fenceFailed fence ∈ c.log)
    (hearly : c.joined = true → point.early = false) : Sound (c.goTo point) :=
  { h with
    fenced := fun fence => by
      rcases h.fenced fence with hleft | hdone
      · exact hfences fence hleft
      · exact Or.inr hdone
    joined := fun hjoined => ⟨hearly hjoined, (h.joined hjoined).2⟩ }

/-! ## The first call -/

/-- In front of the end of the first `shutdown` nothing has ended. -/
theorem Ends.of_early {point : Point} {completed : Bool} {ends : List (Happening ε)}
    (h : Ends point completed ends) (hearly : point.early = true) :
    completed = false ∧ ends = [] := by
  cases point <;> cases completed <;> first | exact ⟨rfl, h⟩ | exact h.elim | cases hearly

theorem Placed.joined_eq (h : Placed c) (hearly : c.point.early = true) : c.joined = false := by
  by_contra hjoined
  rw [(h.joined (by simpa using hjoined)).1] at hearly
  cases hearly

/-- The first call goes on to its next callback. -/
theorem placed_early (h : Sound c) {point : Point} (hopen : c.completed = false)
    (hends : c.ends = []) (hjoined : c.joined = false) (hearly : point.early = true)
    (hfences : ∀ fence ∈ c.point.fencesLeft, fence ∈ point.fencesLeft ∨
      .fenced fence ∈ c.log ∨ .fenceFailed fence ∈ c.log) : Placed (c.goTo point) where
  toSound := sound_goTo h hfences fun hset => by
    rw [hjoined] at hset
    cases hset
  ends := by
    change Ends point c.completed c.ends
    rw [hopen, hends]
    cases point <;> first | rfl | cases hearly
  clearing hpoint := by
    change point = .clearing at hpoint
    rw [hpoint] at hearly
    cases hearly

theorem sound_endFence (h : Sound c) (fence : AdmissionFence)
    (thrown : Option (ShutdownError ε)) : Sound (c.endFence fence thrown) := by
  cases thrown with
  | none =>
      exact sound_note h (fun hun => by cases hun) (fun _ heq => by cases heq)
        (fun heq => by cases heq) trivial
  | some error =>
      have hflag : Sound { c with ownershipUnproven := true } :=
        { h with unproven := fun hproven => by cases hproven }
      exact sound_note (sound_record hflag error) (fun _ => rfl) (fun _ heq => by cases heq)
        (fun heq => by cases heq) trivial

theorem endFence_frame (c : Coordinator ε) (fence : AdmissionFence)
    (thrown : Option (ShutdownError ε)) :
    (c.endFence fence thrown).point = c.point ∧
      (c.endFence fence thrown).completed = c.completed ∧
      (c.endFence fence thrown).ends = c.ends ∧ (c.endFence fence thrown).joined = c.joined := by
  cases thrown with
  | none => exact ⟨rfl, rfl, rfl, rfl⟩
  | some error => exact ⟨rfl, rfl, rfl, rfl⟩

/-- The fence has come to its end, one way or the other. -/
theorem fence_ended (c : Coordinator ε) (fence : AdmissionFence)
    (thrown : Option (ShutdownError ε)) :
    .fenced fence ∈ (c.endFence fence thrown).log ∨
      .fenceFailed fence ∈ (c.endFence fence thrown).log := by
  cases thrown with
  | none => exact Or.inl (List.mem_cons_self ..)
  | some error => exact Or.inr (List.mem_cons_self ..)

/-- From one fence to the next. -/
theorem placed_endFence (h : Placed c) {fence : AdmissionFence} {rest : List AdmissionFence}
    (hpoint : c.point = .fencing fence rest) {point : Point} (hearly : point.early = true)
    (hleft : point.fencesLeft = rest) (thrown : Option (ShutdownError ε)) :
    Placed ((c.endFence fence thrown).goTo point) := by
  obtain ⟨hsame, hcompleted, hends, hjoined⟩ := c.endFence_frame fence thrown
  have hbefore : c.point.early = true := by
    rw [hpoint]
    rfl
  obtain ⟨hopen, hnone⟩ := h.ends.of_early hbefore
  refine placed_early (sound_endFence h.toSound fence thrown) (hcompleted.trans hopen)
    (hends.trans hnone) (hjoined.trans (h.joined_eq hbefore)) hearly fun other hother => ?_
  rw [hsame, hpoint] at hother
  rcases List.mem_cons.mp hother with rfl | hother
  · exact Or.inr (c.fence_ended other thrown)
  · rw [hleft]
    exact Or.inl hother

theorem sound_own (h : Sound c) (hopen : c.joined = false) (owner : ShutdownOwner)
    (thrown : Option (ShutdownError ε)) : Sound (c.own owner thrown) := by
  have hasked : ∀ (flag : Bool) (lifetime : Lifetime ε), lifetime ≠ .settled →
      (flag = false → c.ownershipUnproven = false) →
      Sound { c with
        ownershipUnproven := flag
        lifetimes := fun o => if o = owner then lifetime else c.lifetimes o } :=
    fun flag lifetime hlifetime hflag =>
      { h with
        unproven := fun hproven => h.unproven (hflag hproven)
        settled := fun other hsettled => by
          by_cases heq : other = owner
          · exact absurd (by simpa [heq] using hsettled) hlifetime
          · exact h.settled other (by simpa [heq] using hsettled)
        joined := fun hset => by
          rw [hopen] at hset
          cases hset }
  cases thrown with
  | none =>
      exact sound_note (hasked c.ownershipUnproven .running nofun id) (fun hun => by cases hun)
        (fun _ heq => by cases heq) (fun heq => by cases heq) trivial
  | some error =>
      exact sound_note (hasked true (.withheld error) nofun nofun) (fun _ => rfl)
        (fun _ heq => by cases heq) (fun heq => by cases heq) trivial

theorem own_frame (c : Coordinator ε) (owner : ShutdownOwner)
    (thrown : Option (ShutdownError ε)) :
    (c.own owner thrown).point = c.point ∧ (c.own owner thrown).completed = c.completed ∧
      (c.own owner thrown).ends = c.ends ∧ (c.own owner thrown).joined = c.joined := by
  cases thrown with
  | none => exact ⟨rfl, rfl, rfl, rfl⟩
  | some error => exact ⟨rfl, rfl, rfl, rfl⟩

/-- From one owner to the next. -/
theorem placed_own (h : Placed c) (hearly : c.point.early = true)
    (hfenced : c.point.fencesLeft = []) {point : Point} (hpoint : point.early = true)
    (owner : ShutdownOwner) (thrown : Option (ShutdownError ε)) :
    Placed ((c.own owner thrown).goTo point) := by
  obtain ⟨hsame, hcompleted, hends, hjoined⟩ := c.own_frame owner thrown
  obtain ⟨hopen, hnone⟩ := h.ends.of_early hearly
  have hleft := h.joined_eq hearly
  refine placed_early (sound_own h.toSound hleft owner thrown) (hcompleted.trans hopen)
    (hends.trans hnone) (hjoined.trans hleft) hpoint fun fence hfence => ?_
  rw [hsame, hfenced] at hfence
  cases hfence

theorem placed_install (h : Placed c) (hearly : c.point.early = true)
    (hfenced : c.point.fencesLeft = []) {point : Point} (hpoint : point.early = true)
    (thrown : Option (ShutdownError ε)) : Placed ((c.install thrown).goTo point) := by
  obtain ⟨hopen, hnone⟩ := h.ends.of_early hearly
  have hleft := h.joined_eq hearly
  have hnext : ∀ c' : Coordinator ε, Sound c' → c'.point = c.point →
      c'.completed = c.completed → c'.ends = c.ends → c'.joined = c.joined →
      Placed (c'.goTo point) := fun c' h' hsame hcompleted hends hjoined => by
    refine placed_early h' (hcompleted.trans hopen) (hends.trans hnone) (hjoined.trans hleft)
      hpoint fun fence hfence => ?_
    rw [hsame, hfenced] at hfence
    cases hfence
  cases thrown with
  | none => exact hnext _ { h.toSound with } rfl rfl rfl rfl
  | some error => exact hnext _ { sound_record h.toSound error with } rfl rfl rfl rfl

/-! ## The ends -/

/-- `terminate` goes to its `report`, or back when an end has been reached. -/
theorem placed_terminate (h : Sound c) (hfenced : c.point.fencesLeft = [])
    {status : ShutdownStatus} (hstatus : status ≠ .drained)
    (hends : Ends .waiting c.completed c.ends) : Placed (c.terminate status) := by
  have hnone : ∀ fence ∈ c.point.fencesLeft, fence ∈ ([] : List AdmissionFence) ∨
      .fenced fence ∈ c.log ∨ .fenceFailed fence ∈ c.log := fun fence hfence => by
    rw [hfenced] at hfence
    cases hfence
  rw [terminate]
  split
  · exact
      { toSound := sound_goTo h hnone fun _ => rfl
        ends := hends
        clearing := fun hpoint => by cases hpoint }
  · rename_i hopen
    have hopen' : c.completed = false := by simpa using hopen
    have hgone : Sound (c.goTo (.reportingTermination status)) := sound_goTo h hnone fun _ => rfl
    rw [hopen'] at hends
    exact
      { hgone with
        deadline := fun _ => rfl
        ends := ⟨hends, hstatus⟩
        clearing := fun hpoint => by cases hpoint }

theorem sound_resolveShutdown (h : Sound c) (status : ShutdownStatus) {exitCode : ℕ}
    (hexit : exitCode = 0 → c.errors = []) : Sound (c.resolveShutdown status exitCode) :=
  sound_note h (fun hun => by cases hun) (fun _ heq => by cases heq) (fun heq => by cases heq)
    fun hzero => h.recorded (hexit hzero)

theorem sound_goTo_late (h : Sound c) (point : Point) (hfenced : c.point.fencesLeft = [])
    (hlate : point.early = false) : Sound (c.goTo point) :=
  sound_goTo h (fun fence hfence => by
    rw [hfenced] at hfence
    cases hfence) fun _ => hlate

theorem placed_callTerminate (h : Sound c) (hcompleted : c.completed = true)
    (hends : c.ends = []) (hfenced : c.point.fencesLeft = []) {status : ShutdownStatus}
    (hstatus : status ≠ .drained) : Placed (c.callTerminate status) := by
  have hresolved : Sound (c.resolveShutdown status 1) := sound_resolveShutdown h status nofun
  have hterminated : Sound ((c.resolveShutdown status 1).note .terminated) :=
    sound_note hresolved nofun nofun nofun trivial
  have hlog : (c.callTerminate status).ends =
      .terminated :: .resolved ⟨status, 1, c.errors⟩ :: c.ends := rfl
  have hflag : (c.callTerminate status).completed = true := hcompleted
  exact
    { sound_goTo_late hterminated .terminating hfenced rfl with
      ends := by
        rw [hlog, hflag, hends]
        exact ⟨_, rfl, hstatus⟩
      clearing := nofun }

theorem placed_finishDrained (h : Sound c) (hcompleted : c.completed = true)
    (hends : c.ends = [.storeClosed]) (hfenced : c.point.fencesLeft = []) :
    Placed c.finishDrained := by
  have hresolved :
      Sound (c.resolveShutdown .drained (if 0 < c.errors.length then 1 else 0)) := by
    refine sound_resolveShutdown h .drained fun hzero => ?_
    by_contra herrors
    rw [if_pos (List.length_pos_iff.mpr herrors)] at hzero
    cases hzero
  have hlog : c.finishDrained.ends =
      .resolved ⟨.drained, if 0 < c.errors.length then 1 else 0, c.errors⟩ :: c.ends := rfl
  have hflag : c.finishDrained.completed = true := hcompleted
  exact
    { sound_goTo_late hresolved .waiting hfenced rfl with
      ends := by
        rw [hlog, hflag, hends]
        exact Or.inl ⟨_, rfl, rfl⟩
      clearing := nofun }

/-- Behind the join of all owners, with nothing left unproven, the store may be closed. -/
theorem Sound.mayClose (h : Sound c) (hfenced : c.point.fencesLeft = [])
    (hjoined : c.joined = true) (hopen : c.completed = false)
    (hproven : c.ownershipUnproven = false) : MayClose c.log where
  fenced fence := by
    rcases h.fenced fence with hleft | hdone | hfailed
    · rw [hfenced] at hleft
      cases hleft
    · exact hdone
    · cases h.unproven hproven _ hfailed
  settled owner := h.settled owner ((h.joined hjoined).2 owner)
  proven := h.unproven hproven
  inTime hfired := by
    rw [h.deadline hfired] at hopen
    cases hopen

theorem placed_closeOrTerminate (h : Sound c) (hfenced : c.point.fencesLeft = [])
    (hjoined : c.joined = true) (hopen : c.completed = false) (hends : c.ends = []) :
    Placed c.closeOrTerminate := by
  rw [closeOrTerminate]
  split
  · refine placed_terminate h hfenced nofun ?_
    rw [hopen, hends]
    rfl
  · rename_i hproven
    have hclosed : Sound (c.note .storeClosed) :=
      sound_note h nofun nofun nofun
        (h.mayClose hfenced hjoined hopen (by simpa using hproven))
    have hlog : ((c.note .storeClosed).goTo .closingStore).ends = .storeClosed :: c.ends := rfl
    have hflag : ((c.note .storeClosed).goTo .closingStore).completed = false := hopen
    exact
      { sound_goTo_late hclosed .closingStore hfenced rfl with
        ends := by
          rw [hlog, hflag, hends]
          rfl
        clearing := nofun }

/-! ## The callbacks -/

/-- Where control is with nothing of the coordinator on the call stack. -/
theorem Placed.waiting_open (h : Placed c) (hpoint : c.point = .waiting)
    (hopen : c.completed = false) : c.ends = [] := by
  have hends := h.ends
  rw [hpoint, hopen] at hends
  exact hends

theorem Placed.clearing_open (h : Placed c) (hpoint : c.point = .clearing) :
    c.completed = false ∧ c.ends = [] := by
  have hends := h.ends
  rw [hpoint] at hends
  cases hflag : c.completed with
  | false =>
      rw [hflag] at hends
      exact ⟨rfl, hends⟩
  | true =>
      rw [hflag] at hends
      exact hends.elim

theorem allSettled_iff : c.allSettled = true ↔ ∀ owner, c.lifetimes owner = .settled := by
  rw [allSettled, List.all_eq_true]
  constructor
  · intro h owner
    have hsettled := h owner (mem_drains owner)
    revert hsettled
    cases c.lifetimes owner <;> simp [Lifetime.isSettled]
  · intro h owner _
    rw [h owner]
    rfl

theorem placed_join (h : Placed c) (hpoint : c.point = .waiting) (hall : c.allSettled = true) :
    Placed c.join := by
  have hjoined : Sound { c with joined := true } :=
    { h.toSound with
      joined := fun _ => ⟨by simp [hpoint, Point.early], allSettled_iff.mp hall⟩ }
  have hfenced : c.point.fencesLeft = [] := by rw [hpoint]; rfl
  have hends := h.ends
  rw [join]
  split
  · exact { hjoined with ends := hends, clearing := fun _ => rfl }
  · rename_i hopen
    have hopen' : c.completed = false := by simpa using hopen
    have hnone := h.waiting_open hpoint hopen'
    have hflag : ({ c with joined := true } : Coordinator ε).completed = false := hopen'
    have hlog : ({ c with joined := true } : Coordinator ε).ends = [] := hnone
    split
    · exact
        { sound_goTo_late hjoined .clearing hfenced rfl with
          ends := by
            change Ends .clearing c.completed c.ends
            rw [hopen', hnone]
            rfl
          clearing := fun _ => rfl }
    · exact placed_closeOrTerminate hjoined hfenced rfl hflag hlog

theorem placed_endCloseStore (h : Placed c) (hpoint : c.point = .closingStore)
    (thrown : Option (ShutdownError ε)) : Placed (c.endCloseStore thrown) := by
  obtain ⟨hsame, -, hlog, -⟩ := c.recordThrown_frame thrown
  have hends : c.ends = [.storeClosed] := by
    have hends := h.ends
    rw [hpoint] at hends
    cases hflag : c.completed with
    | false =>
        rw [hflag] at hends
        exact hends
    | true =>
        rw [hflag] at hends
        exact hends.elim
  have hrecorded := sound_recordThrown h.toSound thrown
  have hclosed : Sound { c.recordThrown thrown with completed := true } :=
    { hrecorded with deadline := fun _ => rfl }
  have hfenced : (c.recordThrown thrown).point.fencesLeft = [] := by
    rw [hsame, hpoint]
    rfl
  rw [endCloseStore]
  split
  · exact
      { sound_goTo_late hclosed .reportingErrors hfenced rfl with
        ends := hlog.trans hends
        clearing := nofun }
  · exact placed_finishDrained hclosed rfl (hlog.trans hends) hfenced

/-- The coordinator goes back to its caller with the ends it has reached. -/
theorem placed_back (h : Sound c) (hfenced : c.point.fencesLeft = [])
    (hcompleted : c.completed = true) (hends : Terminated c.ends) : Placed (c.goTo .waiting) :=
  { sound_goTo_late h .waiting hfenced rfl with
    ends := by
      change Ends .waiting c.completed c.ends
      rw [hcompleted]
      exact Or.inr hends
    clearing := nofun }

/-- The end of the first call. -/
theorem placed_finishShutdown (h : Sound c) (hfenced : c.point.fencesLeft = [])
    (hopen : c.completed = false) (hends : c.ends = []) : Placed c.finishShutdown := by
  have hwaiting : Ends .waiting c.completed c.ends := by
    rw [hopen, hends]
    rfl
  rw [finishShutdown]
  split
  · exact placed_terminate h hfenced nofun hwaiting
  · exact
      { sound_goTo_late h .waiting hfenced rfl with
        ends := hwaiting
        clearing := nofun }

theorem placed_endDraining (h : Placed c) {owner : ShutdownOwner}
    {rest : List ShutdownOwner} (hpoint : c.point = .draining owner rest)
    (thrown : Option (ShutdownError ε)) : Placed (c.own owner thrown).finishShutdown := by
  have hearly : c.point.early = true := by rw [hpoint]; rfl
  obtain ⟨hsame, hcompleted, hends, -⟩ := c.own_frame owner thrown
  obtain ⟨hopen, hnone⟩ := h.ends.of_early hearly
  refine placed_finishShutdown (sound_own h.toSound (h.joined_eq hearly) owner thrown) ?_
    (hcompleted.trans hopen) (hends.trans hnone)
  rw [hsame, hpoint]
  rfl

theorem placed_clearing (h : Placed c) (hpoint : c.point = .clearing)
    (thrown : Option (ShutdownError ε)) :
    Placed (match thrown with
      | none => { c with armed := false }.closeOrTerminate
      | some error => (c.record error).closeOrTerminate) := by
  obtain ⟨hopen, hends⟩ := h.clearing_open hpoint
  have hfenced : c.point.fencesLeft = [] := by rw [hpoint]; rfl
  have hjoined := h.clearing hpoint
  cases thrown with
  | none => exact placed_closeOrTerminate { h.toSound with } hfenced hjoined hopen hends
  | some error =>
      exact placed_closeOrTerminate (sound_record h.toSound error) hfenced hjoined hopen hends

/-- What an end past `terminate` has reached. -/
theorem Placed.terminated (h : Placed c) (hpoint : c.point = .terminating ∨
    c.point = .reportingFailure) : c.completed = true ∧ Terminated c.ends := by
  have hends := h.ends
  rcases hpoint with hpoint | hpoint <;> rw [hpoint] at hends <;>
    cases hflag : c.completed <;> rw [hflag] at hends
  · exact hends.elim
  · exact ⟨rfl, hends⟩
  · exact hends.elim
  · exact ⟨rfl, hends⟩

theorem placed_reportingTermination (h : Placed c) {status : ShutdownStatus}
    (hpoint : c.point = .reportingTermination status) (thrown : Option (ShutdownError ε)) :
    Placed ((c.recordThrown thrown).callTerminate status) := by
  obtain ⟨hsame, hcompleted, hlog, -⟩ := c.recordThrown_frame thrown
  have hends := h.ends
  rw [hpoint] at hends
  cases hflag : c.completed with
  | false =>
      rw [hflag] at hends
      exact hends.elim
  | true =>
      rw [hflag] at hends
      refine placed_callTerminate (sound_recordThrown h.toSound thrown) (hcompleted.trans hflag)
        (hlog.trans hends.1) ?_ hends.2
      rw [hsame, hpoint]
      rfl

theorem placed_reportingErrors (h : Placed c) (hpoint : c.point = .reportingErrors)
    (thrown : Option (ShutdownError ε)) : Placed (c.recordThrown thrown).finishDrained := by
  obtain ⟨hsame, hcompleted, hlog, -⟩ := c.recordThrown_frame thrown
  have hends := h.ends
  rw [hpoint] at hends
  cases hflag : c.completed with
  | false =>
      rw [hflag] at hends
      exact hends.elim
  | true =>
      rw [hflag] at hends
      refine placed_finishDrained (sound_recordThrown h.toSound thrown) (hcompleted.trans hflag)
        (hlog.trans hends) ?_
      rw [hsame, hpoint]
      rfl

/-- A callback ends. -/
theorem placed_resume (h : Placed c) (thrown : Option (ShutdownError ε)) :
    Placed (c.resume thrown) := by
  rw [resume.eq_def]
  split
  next hpoint => exact h
  next fence next rest hpoint => exact placed_endFence h hpoint rfl rfl thrown
  next fence hpoint => exact placed_endFence h hpoint rfl rfl thrown
  next hpoint =>
    exact placed_own h (by rw [hpoint]; rfl) (by rw [hpoint]; rfl) rfl .server thrown
  next hpoint =>
    exact placed_install h (by rw [hpoint]; rfl) (by rw [hpoint]; rfl) rfl thrown
  next owner next rest hpoint =>
    exact placed_own h (by rw [hpoint]; rfl) (by rw [hpoint]; rfl) rfl owner thrown
  next owner hpoint => exact placed_endDraining h hpoint thrown
  next hpoint => exact h
  next hpoint => exact placed_clearing h hpoint thrown
  next hpoint => exact placed_endCloseStore h hpoint thrown
  next hpoint => exact placed_reportingErrors h hpoint thrown
  next status hpoint => exact placed_reportingTermination h hpoint thrown
  next hpoint =>
    obtain ⟨hcompleted, hends⟩ := h.terminated (Or.inl hpoint)
    have hfenced : c.point.fencesLeft = [] := by rw [hpoint]; rfl
    cases thrown with
    | none => exact placed_back h.toSound hfenced hcompleted hends
    | some error =>
        exact
          { sound_goTo_late h.toSound .reportingFailure hfenced rfl with
            ends := by
              change Ends .reportingFailure c.completed c.ends
              rw [hcompleted]
              exact hends
            clearing := nofun }
  next hpoint =>
    obtain ⟨hsame, hcompleted, hlog, -⟩ := c.recordThrown_frame thrown
    obtain ⟨hflag, hends⟩ := h.terminated (Or.inr hpoint)
    refine placed_back (sound_recordThrown h.toSound thrown) ?_ (hcompleted.trans hflag) ?_
    · rw [hsame, hpoint]
      rfl
    · rw [hlog]
      exact hends

/-! ## The other events -/

/-- An error is recorded while control stays where it is. -/
theorem placed_recordThrown (h : Placed c) (thrown : Option (ShutdownError ε)) (reports : ℕ) :
    Placed { c.recordThrown thrown with reports := reports } := by
  obtain ⟨hsame, hcompleted, hlog, hjoined⟩ := c.recordThrown_frame thrown
  exact
    { sound_recordThrown h.toSound thrown with
      ends := by
        change Ends (c.recordThrown thrown).point (c.recordThrown thrown).completed
          (c.recordThrown thrown).ends
        rw [hsame, hcompleted, hlog]
        exact h.ends
      clearing := fun hpoint => hjoined.trans (h.clearing (hsame ▸ hpoint)) }

theorem placed_shutdown (h : Placed c) (error : Option (ShutdownError ε)) :
    Placed (c.shutdown error) := by
  rw [shutdown.eq_def]
  split
  next hpoint =>
    obtain ⟨hsame, hcompleted, hlog, hjoined⟩ := c.recordThrown_frame error
    have hearly : c.point.early = true := by rw [hpoint]; rfl
    obtain ⟨hopen, hnone⟩ := h.ends.of_early hearly
    have hasked : Sound { c.recordThrown error with
        pending := .server :: .application :: drains } :=
      { sound_recordThrown h.toSound error with }
    refine placed_early hasked (hcompleted.trans hopen) (hlog.trans hnone)
      (hjoined.trans (h.joined_eq hearly)) rfl fun fence hfence => Or.inl ?_
    change fence ∈ (c.recordThrown error).point.fencesLeft at hfence
    rw [hsame, hpoint] at hfence
    exact hfence
  next =>
    cases error with
    | none => exact h
    | some error =>
        dsimp only
        split
        · exact h
        · exact placed_recordThrown h (some error) _

theorem placed_settle (h : Placed c) (owner : ShutdownOwner)
    (how : LifetimeEnd ε) : Placed (c.settle owner how) := by
  have hsettled : ∀ flag : Bool, (flag = false → c.ownershipUnproven = false) →
      ((.settled owner how : Happening ε).unproven = true → flag = true) →
      Sound { c with
        ownershipUnproven := flag
        pending := c.pending.erase owner
        lifetimes := fun o => if o = owner then .settled else c.lifetimes o
        log := .settled owner how :: c.log } := fun flag hflag hunproven =>
    { h.toSound with
      unproven := fun hproven x hx => by
        rcases List.mem_cons.mp hx with rfl | hx
        · by_contra hun
          rw [hunproven (by simpa using hun)] at hproven
          cases hproven
        · exact h.unproven (hflag hproven) x hx
      fenced := fun fence => by
        rcases h.fenced fence with hleft | hmem | hmem
        · exact Or.inl hleft
        · exact Or.inr (Or.inl (List.mem_cons_of_mem _ hmem))
        · exact Or.inr (Or.inr (List.mem_cons_of_mem _ hmem))
      settled := fun other hother => by
        by_cases heq : other = owner
        · exact ⟨how, heq ▸ List.mem_cons_self ..⟩
        · obtain ⟨how', hmem⟩ := h.settled other (by simpa [heq] using hother)
          exact ⟨how', List.mem_cons_of_mem _ hmem⟩
      joined := fun hjoined => ⟨(h.joined hjoined).1, fun other => by
        have hother := (h.joined hjoined).2 other
        change (if other = owner then Lifetime.settled else c.lifetimes other) = .settled
        split
        · rfl
        · exact hother⟩
      recorded := fun hnil error hmem => by
        rcases List.mem_cons.mp hmem with heq | hmem
        · cases heq
        · exact h.recorded hnil error hmem
      deadline := fun hmem => by
        rcases List.mem_cons.mp hmem with heq | hmem
        · cases heq
        · exact h.deadline hmem
      history := historic_cons.mpr ⟨trivial, h.history⟩ }
  have hends := h.ends
  have hclearing : c.point = .clearing → c.joined = true := h.clearing
  cases how with
  | fulfilled =>
      exact { hsettled c.ownershipUnproven id nofun with ends := hends, clearing := hclearing }
  | rejected error =>
      have hflag := hsettled (c.ownershipUnproven || error.isIncompleteServerClose)
        (fun hor => (Bool.or_eq_false_iff.mp hor).1)
        (fun hun => Bool.or_eq_true_iff.mpr (Or.inr hun))
      exact { sound_record hflag error with ends := hends, clearing := hclearing }

theorem placed_fireDeadline (h : Placed c) (hpoint : c.point = .waiting) :
    Placed c.fireDeadline := by
  have hfenced : c.point.fencesLeft = [] := by rw [hpoint]; rfl
  have hends := h.ends
  rw [hpoint] at hends
  cases hopen : c.completed with
  | true =>
      have hfired : Sound (({ c with armed := false } : Coordinator ε).note .deadlineFired) :=
        sound_note (c := { c with armed := false }) (x := .deadlineFired)
          { h.toSound with } nofun nofun (fun _ => hopen) trivial
      exact placed_terminate hfired hfenced nofun hends
  | false =>
      -- `terminate` sets `completed` in the same stretch.
      have hfired : Sound
          (({ c with armed := false, completed := true } : Coordinator ε).note .deadlineFired) :=
        sound_note (c := { c with armed := false, completed := true }) (x := .deadlineFired)
          { h.toSound with deadline := fun _ => rfl } nofun nofun (fun _ => rfl) trivial
      have hgone := sound_goTo_late hfired (.reportingTermination .deadlineExceeded) hfenced rfl
      have hterminate : c.fireDeadline =
          (({ c with armed := false, completed := true } : Coordinator ε).note
            .deadlineFired).goTo (.reportingTermination .deadlineExceeded) := by
        simp [fireDeadline, terminate, note, goTo, hopen]
      rw [hterminate]
      exact
        { hgone with
          ends := ⟨h.waiting_open hpoint hopen, nofun⟩
          clearing := nofun }

/-- **The step lemma.** -/
theorem placed_step (c : Coordinator ε) (event : Event ε) (h : Placed c) :
    Placed (step c event) := by
  cases event with
  | shutdown error => exact placed_shutdown h error
  | resume thrown =>
      rw [step]
      split
      · exact placed_resume h thrown
      · exact h
  | endReport thrown =>
      rw [step]
      split
      · exact placed_recordThrown h thrown _
      · exact h
  | settle owner how =>
      rw [step]
      split
      · split
        · exact placed_settle h owner how
        · exact placed_settle h owner _
        · exact h
      · exact h
  | join =>
      rw [step]
      split
      · rename_i hready
        exact placed_join h hready.1.1 hready.2.2
      · exact h
  | fireDeadline =>
      rw [step]
      split
      · rename_i hready
        exact placed_fireDeadline h hready.1.1
      · exact h

/-- **The run lemma.** -/
theorem placed_after (events : List (Event ε)) : Placed (after events) :=
  Runs.run_invariant' placed_step events placed_create

/-! ## What a history of ends is -/

/-- The four shapes the ends can have. -/
theorem Ends.shape {point : Point} {completed : Bool} {ends : List (Happening ε)}
    (h : Ends point completed ends) :
    ends = [] ∨ ends = [.storeClosed] ∨ Drained ends ∨ Terminated ends := by
  cases point <;> cases completed <;>
    first
      | exact h.elim
      | exact Or.inl h
      | exact Or.inr (Or.inl h)
      | exact Or.inr (Or.inr h)
      | exact Or.inr (Or.inr (Or.inr h))
      | exact Or.inl h.1

end Coordinator

/-- Counted among the ends. -/
theorem countP_ends {log : List (Happening ε)} {p : Happening ε → Bool}
    (hp : ∀ h, p h = true → h.isEnd = true) :
    log.countP p = (log.filter Happening.isEnd).countP p := by
  rw [List.countP_filter]
  refine List.countP_congr fun h _ => ?_
  constructor
  · intro hh
    rw [hh, hp h hh]
    rfl
  · intro hh
    exact (Bool.and_eq_true_iff.mp hh).1

theorem mem_ends {log : List (Happening ε)} {h : Happening ε} (hend : h.isEnd = true) :
    h ∈ log ↔ h ∈ log.filter Happening.isEnd := by
  rw [List.mem_filter]
  exact ⟨fun hmem => ⟨hmem, hend⟩, And.left⟩

/-- The ends have one of the four shapes. -/
def HasEnded (ends : List (Happening ε)) : Prop :=
  ends = [] ∨ ends = [.storeClosed] ∨ Coordinator.Drained ends ∨ Coordinator.Terminated ends

namespace HasEnded

variable {ends : List (Happening ε)}

theorem counts (h : HasEnded ends) : ends.countP Happening.isStoreClosed ≤ 1 ∧
    ends.countP Happening.isResolved ≤ 1 ∧ ends.countP Happening.isTerminated ≤ 1 := by
  rcases h with rfl | rfl | ⟨result, rfl, -⟩ | ⟨result, rfl, -⟩ <;>
    refine ⟨?_, ?_, ?_⟩ <;>
    simp [List.countP_cons, Happening.isStoreClosed, Happening.isResolved,
      Happening.isTerminated]

theorem drained_iff (h : HasEnded ends) {result : ShutdownResult ε}
    (hmem : .resolved result ∈ ends) : result.status = .drained ↔ .storeClosed ∈ ends := by
  rcases h with rfl | rfl | ⟨result', rfl, hstatus⟩ | ⟨result', rfl, hstatus⟩
  · cases hmem
  · simp at hmem
  · have heq : result = result' := by simpa using hmem
    simp [heq, hstatus]
  · have heq : result = result' := by simpa using hmem
    simp [heq, hstatus]

theorem not_both (h : HasEnded ends) (hmem : .terminated ∈ ends) : .storeClosed ∉ ends := by
  rcases h with rfl | rfl | ⟨result, rfl, -⟩ | ⟨result, rfl, -⟩
  · cases hmem
  · simp at hmem
  · simp at hmem
  · simp

end HasEnded

/-- A close of the server that threw without settling its sockets keeps the store open. -/
theorem MayClose.server {earlier : List (Happening ε)} (h : MayClose earlier)
    {close : NodeServerClose ε} (hclose : .settled .server (closeNodeServer close) ∈ earlier)
    (error : ε) : close ≠ .throws false error := by
  rintro rfl
  cases h.proven _ hclose

/-- **The store is closed last, and a shutdown has one end.**  Whatever the owners do and
whenever `shutdown` is called again, the store is closed at most once, and then only when
every fence has returned, every owner has settled, nothing is left unproven and the
deadline has not fired; the promise resolves at most once, as drained exactly if the store
was closed; the process is told to end at most once, and never with the store closed; and
the exit code is zero only if no error was recorded. -/
theorem store_closed_last (events : List (Coordinator.Event ε)) :
    let log := (Coordinator.after events).log
    log.countP Happening.isStoreClosed ≤ 1 ∧
      (∀ later earlier, log = later ++ .storeClosed :: earlier → MayClose earlier ∧
        ∀ close error, .settled .server (closeNodeServer close) ∈ earlier →
          close ≠ .throws false error) ∧
      log.countP Happening.isResolved ≤ 1 ∧
      (∀ result, .resolved result ∈ log → (result.status = .drained ↔ .storeClosed ∈ log)) ∧
      log.countP Happening.isTerminated ≤ 1 ∧
      (.terminated ∈ log → .storeClosed ∉ log) ∧
      ∀ later result earlier, log = later ++ .resolved result :: earlier →
        result.exitCode = 0 → ∀ error, .recorded error ∉ earlier := by
  intro log
  have hplaced := Coordinator.placed_after events
  have hshape : HasEnded (log.filter Happening.isEnd) := hplaced.ends.shape
  obtain ⟨hclosed, hresolved, hterminated⟩ := hshape.counts
  rw [← countP_ends fun h hh => by cases h <;> first | rfl | cases hh]
    at hclosed hresolved hterminated
  refine ⟨hclosed, fun later earlier heq => ?_, hresolved, fun result hmem => ?_, hterminated,
    fun hmem => ?_, fun later result earlier heq => hplaced.history later _ earlier heq⟩
  · have hmay : MayClose earlier := hplaced.history later _ earlier heq
    exact ⟨hmay, fun close error hclose => hmay.server hclose error⟩
  · rw [mem_ends rfl] at hmem ⊢
    exact hshape.drained_iff hmem
  · rw [mem_ends rfl] at hmem ⊢
    exact hshape.not_both hmem

end RoundWatch
