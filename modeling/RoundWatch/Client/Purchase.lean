import RoundWatch.Client.Payments
import RoundWatch.Client.Recovery

/-!
# One checkpoint, one purchase

The checkpoint is written before anything is paid, and nothing but the operator takes it
away.

* `RunnerWorld.Permits` — what the operator takes care of;
* `FileKeeps` — the file has a purchase;
* `RunnerWorld.Kept` — the file, the runs at work on it and the payments;
* `one_purchase` — at most one payment for a checkpoint, and a way back to it.
-/

namespace RoundWatch

open JsText Checks

/-! ## The file and the runs -/

/-- A run that is buying. -/
def RunnerPhase.buying : RunnerPhase → Bool
  | .startReady _ | .startUnpaid .. | .startPaying .. | .startPaid .. | .startReading .. => true
  | _ => false

/-- The checkpoint that a run is at work on, and that is in the file. -/
def RunnerPhase.keeps : RunnerPhase → Option Json
  | .startUnpaid _ state | .startPaying _ state | .startPaid _ state
  | .startReading _ state .. | .recovering state => some state
  | _ => none

/-- The account of a mnemonic has a valid address. -/
def RunnerEvent.Real (isValidAlgorandAddress : JsString → Bool) : RunnerEvent → Prop
  | .launch env _ _ => ∀ account, env.account = some account →
      isValidAlgorandAddress account.val = true
  | _ => True

/-- What the operator takes care of: no second purchase beside one, no checkpoint is removed
under a run that buys or recovers, and no run is cut off in the middle of a write. -/
def RunnerWorld.Permits (w : RunnerWorld) : RunnerEvent → Bool
  | .launch _ .start _ => w.runs.all fun run => !run.phase.buying
  | .remove => w.runs.all fun run => !run.phase.buying && run.phase.keeps.isNone
  | .crash _ writing => writing.isNone
  | _ => true

/-- Every run against the approved server takes the checkpoint for a valid one. -/
def ValidForAll (parse : UrlParser) (isValidAlgorandAddress : JsString → Bool) (j : Json) : Prop :=
  ∀ serverUrl, normalizeHttpsUrl parse serverUrl = .ok defaultServerUrl →
    ValidCheckpoint parse isValidAlgorandAddress serverUrl j

/-- The file has the purchase of the checkpoint. -/
def FileKeeps (parse : UrlParser) (isValidAlgorandAddress : JsString → Bool) (file : RunnerFile)
    (state : Json) : Prop :=
  ∃ j, file = some (some j) ∧ SamePurchase j state ∧ ValidForAll parse isValidAlgorandAddress j

section Purchase

variable {parse : UrlParser} {isValidAlgorandAddress : JsString → Bool}

theorem ValidCheckpoint.forAll {serverUrl : JsString} {j : Json}
    (h : ValidCheckpoint parse isValidAlgorandAddress serverUrl j) :
    ValidForAll parse isValidAlgorandAddress j :=
  fun _ hserver => ⟨h.isObject, hserver, h.network, h.assetId, h.serverUrl, h.sender, h.receiver,
    h.amount, h.nonce, h.watchId⟩

/-- Another checkpoint of the same purchase in the file. -/
theorem FileKeeps.rewrite {file : RunnerFile} {state state' j : Json}
    (h : FileKeeps parse isValidAlgorandAddress file state)
    (h' : FileKeeps parse isValidAlgorandAddress file state') (hsame : SamePurchase j state)
    (hvalid : ValidForAll parse isValidAlgorandAddress j) :
    FileKeeps parse isValidAlgorandAddress (some (some j)) state' := by
  obtain ⟨k, hfile, hstate, -⟩ := h
  obtain ⟨k', hfile', hstate', -⟩ := h'
  rw [hfile] at hfile'
  cases hfile'
  exact ⟨j, rfl, hsame.trans (hstate.symm.trans hstate'), hvalid⟩

theorem not_fileKeeps_none {state : Json} : ¬FileKeeps parse isValidAlgorandAddress none state := by
  rintro ⟨j, hfile, -⟩
  cases hfile

/-- What a stretch writes: the checkpoint of a new purchase, or one of the purchase it is
at work on. -/
theorem Proceeded.wrote {env : RunnerEnv} {phase : RunnerPhase} {s : Stretch}
    (hact : Proceeded parse isValidAlgorandAddress env phase s) {j : Json}
    (hj : s.write = some j) :
    (∃ sender nonce, phase = .startReady sender ∧ isUuid nonce = true ∧
        j = newCheckpoint sender nonce ∧ s.phase = .startUnpaid sender j) ∨
      s.phase = .ended ∧ ∃ state, phase.keeps = some state ∧ SamePurchase j state ∧
        ValidForAll parse isValidAlgorandAddress j := by
  cases hact with
  | begin sender nonce hnonce =>
      cases hj
      exact .inl ⟨sender, nonce, rfl, hnonce, rfl, rfl⟩
  | complete sender state watchId transaction hvalid =>
      cases hj
      exact .inr ⟨rfl, state, rfl, .completed state watchId transaction, hvalid.forAll⟩
  | recover state j' hvalid hsame =>
      cases hj
      exact .inr ⟨rfl, state, rfl, hsame, hvalid.forAll⟩
  | _ => cases hj

/-- A stretch that writes nothing takes up no purchase. -/
theorem Proceeded.keeps {env : RunnerEnv} {phase : RunnerPhase} {s : Stretch}
    (hact : Proceeded parse isValidAlgorandAddress env phase s) (hwrite : s.write = none)
    {state : Json} (h : s.phase.keeps = some state) : phase.keeps = some state := by
  cases hact with
  | begin | complete | recover => cases hwrite
  | wait | challenged | pay | unpaid | paid => exact h
  | _ => cases h

theorem Proceeded.buying {env : RunnerEnv} {phase : RunnerPhase} {s : Stretch}
    (hact : Proceeded parse isValidAlgorandAddress env phase s) (h : s.phase.buying = true) :
    phase.buying = true := by
  cases hact with
  | wait => exact h
  | begin | challenged | pay | unpaid | paid => rfl
  | _ => cases h

theorem Proceeded.ready {env : RunnerEnv} {phase : RunnerPhase} {s : Stretch} {sender : JsString}
    (hact : Proceeded parse isValidAlgorandAddress env phase s)
    (h : s.phase = .startReady sender) : phase = .startReady sender := by
  cases hact with
  | wait => exact h
  | _ => cases h

theorem RunnerPhase.buying_of_beforePayment {phase : RunnerPhase}
    (h : phase.beforePayment = true) : phase.buying = true := by
  cases phase <;> first | rfl | cases h

end Purchase

namespace RunnerWorld

variable {parse : UrlParser} {isValidAlgorandAddress : JsString → Bool} {w : RunnerWorld}

/-- What holds at every moment when the operator takes care. -/
structure Kept (parse : UrlParser) (isValidAlgorandAddress : JsString → Bool)
    (w : RunnerWorld) : Prop where
  accounts : ∀ run ∈ w.runs, ∀ account, run.env.account = some account →
    isValidAlgorandAddress account.val = true
  alone : ∀ (i j : ℕ) (run run' : RunnerRun), w.runs[i]? = some run → w.runs[j]? = some run' →
    run.phase.buying = true → run'.phase.buying = true → i = j
  absent : ∀ run ∈ w.runs, ∀ sender, run.phase = .startReady sender → w.file = none
  keeps : ∀ run ∈ w.runs, ∀ state, run.phase.keeps = some state →
    FileKeeps parse isValidAlgorandAddress w.file state
  fresh : ∀ run ∈ w.runs, run.phase.beforePayment = true →
    ∀ p ∈ w.services, p.removals ≠ w.removals
  current : ∀ p ∈ w.services, p.removals = w.removals →
    FileKeeps parse isValidAlgorandAddress w.file p.payment.state
  bound : ∀ p ∈ w.services, p.removals ≤ w.removals
  once : (w.services.map SignedPayment.removals).Nodup
  onDisk : ∀ p ∈ w.services, FileKeeps parse isValidAlgorandAddress p.file p.payment.state

/-- Nothing was paid since the file is absent. -/
theorem Kept.unpaid (h : w.Kept parse isValidAlgorandAddress) (hfile : w.file = none) :
    ∀ p ∈ w.services, p.removals ≠ w.removals := by
  intro p hp hcurrent
  have hkept := h.current p hp hcurrent
  rw [hfile] at hkept
  exact not_fileKeeps_none hkept

/-- The runs behind a stretch: the others, and its own in the next phase. -/
theorem mem_runs_advance {i : ℕ} {run q : RunnerRun} {s : Stretch}
    (hq : q ∈ (w.advance i run s).runs) : q ∈ w.runs ∨ q = { run with phase := s.phase } :=
  List.mem_or_eq_of_mem_set hq

/-- The runs behind a stretch that are buying were buying before. -/
theorem Kept.alone_advance (h : w.Kept parse isValidAlgorandAddress) {i : ℕ} {run : RunnerRun}
    (hrun : w.runs[i]? = some run) {s : Stretch}
    (hact : Proceeded parse isValidAlgorandAddress run.env run.phase s) (j k : ℕ)
    (q q' : RunnerRun) (hq : (w.advance i run s).runs[j]? = some q)
    (hq' : (w.advance i run s).runs[k]? = some q') (hbuying : q.phase.buying = true)
    (hbuying' : q'.phase.buying = true) : j = k := by
  have hold : ∀ {j : ℕ} {q : RunnerRun}, (w.advance i run s).runs[j]? = some q →
      q.phase.buying = true → ∃ q₀, w.runs[j]? = some q₀ ∧ q₀.phase.buying = true := by
    intro j q hq hbuying
    by_cases hj : i = j
    · subst hj
      rw [show (w.advance i run s).runs[i]? = (w.runs.set i { run with phase := s.phase })[i]?
        from rfl, List.getElem?_set_self (List.getElem?_eq_some_iff.1 hrun).1] at hq
      cases hq
      exact ⟨run, hrun, hact.buying hbuying⟩
    · exact ⟨q, (List.getElem?_set_ne hj).symm.trans hq, hbuying⟩
  obtain ⟨q₀, hq₀, hbuying₀⟩ := hold hq hbuying
  obtain ⟨q₁, hq₁, hbuying₁⟩ := hold hq' hbuying'
  exact h.alone j k q₀ q₁ hq₀ hq₁ hbuying₀ hbuying₁

/-- Beside a run that is buying there is no other. -/
theorem Kept.other_not_buying (h : w.Kept parse isValidAlgorandAddress) {i : ℕ} {run : RunnerRun}
    (hrun : w.runs[i]? = some run) (hbuying : run.phase.buying = true) {q : RunnerRun}
    {s : Stretch} (hq : q ∈ (w.advance i run s).runs) :
    q = { run with phase := s.phase } ∨ (q ∈ w.runs ∧ q.phase.buying = false) := by
  obtain ⟨j, hj⟩ := List.getElem?_of_mem hq
  by_cases hij : i = j
  · subst hij
    rw [show (w.advance i run s).runs[i]? = (w.runs.set i { run with phase := s.phase })[i]?
      from rfl, List.getElem?_set_self (List.getElem?_eq_some_iff.1 hrun).1] at hj
    exact .inl (Option.some.inj hj).symm
  · have hj' : w.runs[j]? = some q := (List.getElem?_set_ne hij).symm.trans hj
    refine .inr ⟨List.mem_of_getElem? hj', ?_⟩
    rw [← Bool.not_eq_true]
    intro hq
    exact hij (h.alone i j run q hrun hj' hbuying hq)

/-- A stretch that signs nothing, and leaves the file to the purchases it had. -/
theorem Kept.advance_of_unsigned (h : w.Kept parse isValidAlgorandAddress) {i : ℕ}
    {run : RunnerRun} (hrun : w.runs[i]? = some run) {s : Stretch}
    (hact : Proceeded parse isValidAlgorandAddress run.env run.phase s) (hservice : s.service = none)
    (hready : ∀ q ∈ (w.advance i run s).runs, ∀ sender, q.phase = .startReady sender →
      (w.advance i run s).file = none)
    (hkeeps : ∀ q ∈ (w.advance i run s).runs, ∀ state, q.phase.keeps = some state →
      FileKeeps parse isValidAlgorandAddress (w.advance i run s).file state)
    (hcurrent : ∀ p ∈ w.services, p.removals = w.removals →
      FileKeeps parse isValidAlgorandAddress (w.advance i run s).file p.payment.state)
    (hfresh : s.phase.beforePayment = true → ∀ p ∈ w.services, p.removals ≠ w.removals) :
    (w.advance i run s).Kept parse isValidAlgorandAddress := by
  have hservices : (w.advance i run s).services = w.services := by
    simp [RunnerWorld.advance, hservice]
  refine ⟨?_, h.alone_advance hrun hact, hready, hkeeps, ?_, ?_, ?_, ?_, ?_⟩
  · intro q hq
    rcases mem_runs_advance hq with hq | rfl
    · exact h.accounts q hq
    · exact h.accounts run (List.mem_of_getElem? hrun)
  · intro q hq hbefore p hp
    rw [hservices] at hp
    rcases mem_runs_advance hq with hq | rfl
    · exact h.fresh q hq hbefore p hp
    · exact hfresh hbefore p hp
  · intro p hp
    rw [hservices] at hp
    exact hcurrent p hp
  · intro p hp
    rw [hservices] at hp
    exact h.bound p hp
  · rw [hservices]
    exact h.once
  · intro p hp
    rw [hservices] at hp
    exact h.onDisk p hp

/-- **The step lemma for the purchase.** -/
theorem Kept.advance (h : w.Kept parse isValidAlgorandAddress)
    (hvouched : w.Vouched parse isValidAlgorandAddress) {i : ℕ} {run : RunnerRun}
    (hrun : w.runs[i]? = some run) {s : Stretch}
    (hact : Proceeded parse isValidAlgorandAddress run.env run.phase s) :
    (w.advance i run s).Kept parse isValidAlgorandAddress := by
  have hmem := List.mem_of_getElem? hrun
  cases hwrite : s.write with
  | some j =>
      have hservice : s.service = none := by
        rw [Option.eq_none_iff_forall_ne_some]
        intro p hp
        rw [(hact.service hp).2.2.1] at hwrite
        cases hwrite
      have hfile : (w.advance i run s).file = some (some j) := by
        simp [RunnerWorld.advance, hwrite]
      rcases hact.wrote hwrite with ⟨sender, nonce, hphase, hnonce, rfl, hnext⟩ |
        ⟨hnext, state, hstate, hsame, hvalid⟩
      · -- a new purchase: the file was absent, and nobody else buys
        have habsent := h.absent run hmem sender hphase
        have hfits := hvouched.fits run hmem
        rw [RunnerRun.Fits, hphase] at hfits
        obtain ⟨hne, haccount⟩ := hfits.account
        have hvalid := (validCheckpoint_newCheckpoint hfits.safe
          (h.accounts run hmem _ haccount) hnonce).forAll
        refine h.advance_of_unsigned hrun hact hservice ?_ ?_ ?_ fun _ => h.unpaid habsent
        · intro q hq sender' hready
          rcases h.other_not_buying hrun (by rw [hphase]; rfl) hq with rfl | ⟨-, hidle⟩
          · rw [hnext] at hready
            cases hready
          · rw [hready] at hidle
            cases hidle
        · intro q hq state hkeeps
          rw [hfile]
          rcases mem_runs_advance hq with hq | rfl
          · have hkept := h.keeps q hq state hkeeps
            rw [habsent] at hkept
            exact absurd hkept not_fileKeeps_none
          · rw [hnext] at hkeeps
            cases hkeeps
            exact ⟨_, rfl, .refl _, hvalid⟩
        · intro p hp hcurrent
          exact absurd hcurrent (h.unpaid habsent p hp)
      · -- another checkpoint of the purchase that is in the file
        have hkept := h.keeps run hmem state hstate
        have hrewrite : ∀ {state'}, FileKeeps parse isValidAlgorandAddress w.file state' →
            FileKeeps parse isValidAlgorandAddress (w.advance i run s).file state' := by
          intro state' h'
          rw [hfile]
          exact hkept.rewrite h' hsame hvalid
        refine h.advance_of_unsigned hrun hact hservice ?_ ?_ ?_ ?_
        · intro q hq sender hready
          rcases mem_runs_advance hq with hq | rfl
          · rw [h.absent q hq sender hready] at hkept
            exact absurd hkept not_fileKeeps_none
          · rw [hnext] at hready
            cases hready
        · intro q hq state' hkeeps
          rcases mem_runs_advance hq with hq | rfl
          · exact hrewrite (h.keeps q hq state' hkeeps)
          · rw [hnext] at hkeeps
            cases hkeeps
        · exact fun p hp hcurrent => hrewrite (h.current p hp hcurrent)
        · intro hbefore
          rw [hnext] at hbefore
          cases hbefore
  | none =>
      have hfile : (w.advance i run s).file = w.file := by
        simp [RunnerWorld.advance, hwrite]
      have hready : ∀ q ∈ (w.advance i run s).runs, ∀ sender, q.phase = .startReady sender →
          (w.advance i run s).file = none := by
        intro q hq sender hphase
        rw [hfile]
        rcases mem_runs_advance hq with hq | rfl
        · exact h.absent q hq sender hphase
        · exact h.absent run hmem sender (hact.ready hphase)
      have hkeeps : ∀ q ∈ (w.advance i run s).runs, ∀ state, q.phase.keeps = some state →
          FileKeeps parse isValidAlgorandAddress (w.advance i run s).file state := by
        intro q hq state hstate
        rw [hfile]
        rcases mem_runs_advance hq with hq | rfl
        · exact h.keeps q hq state hstate
        · exact h.keeps run hmem state (hact.keeps hwrite hstate)
      cases hservice : s.service with
      | none =>
          refine h.advance_of_unsigned hrun hact hservice hready hkeeps ?_ ?_
          · rw [hfile]
            exact h.current
          · intro hbefore
            refine h.fresh run hmem ?_
            by_contra hnot
            rw [hact.beforePayment (Bool.not_eq_true _ ▸ hnot)] at hbefore
            cases hbefore
      | some payment =>
          obtain ⟨hphase, hnext, -⟩ := hact.service hservice
          have hfresh := h.fresh run hmem (by rw [hphase]; rfl)
          have hkept := h.keeps run hmem payment.state (by rw [hphase]; rfl)
          have hservices : (w.advance i run s).services =
              w.services ++ [⟨i, run, payment, w.file, w.removals⟩] := by
            simp [RunnerWorld.advance, hservice]
          refine ⟨?_, h.alone_advance hrun hact, hready, hkeeps, ?_, ?_, ?_, ?_, ?_⟩
          · intro q hq
            rcases mem_runs_advance hq with hq | rfl
            · exact h.accounts q hq
            · exact h.accounts run hmem
          · intro q hq hbefore
            rcases h.other_not_buying hrun (by rw [hphase]; rfl) hq with rfl | ⟨-, hidle⟩
            · rw [hnext] at hbefore
              cases hbefore
            · rw [RunnerPhase.buying_of_beforePayment hbefore] at hidle
              cases hidle
          · intro p hp hcurrent
            rw [hfile]
            rw [hservices, List.mem_append, List.mem_singleton] at hp
            rcases hp with hp | rfl
            · exact h.current p hp hcurrent
            · exact hkept
          · intro p hp
            rw [hservices, List.mem_append, List.mem_singleton] at hp
            rcases hp with hp | rfl
            · exact h.bound p hp
            · exact le_rfl
          · rw [hservices, List.map_append]
            refine List.nodup_append.2 ⟨h.once, List.nodup_singleton _, ?_⟩
            intro removals hremovals removals' hremovals'
            obtain ⟨p, hp, rfl⟩ := List.mem_map.1 hremovals
            rw [List.map_singleton, List.mem_singleton] at hremovals'
            rw [hremovals']
            exact hfresh p hp
          · intro p hp
            rw [hservices, List.mem_append, List.mem_singleton] at hp
            rcases hp with hp | rfl
            · exact h.onDisk p hp
            · exact hkept

/-- A run that begins. -/
theorem Kept.launch (h : w.Kept parse isValidAlgorandAddress) {env : RunnerEnv}
    {mode : RunnerMode} {confirmed : Bool} {phase : RunnerPhase}
    (hlaunch : Launched parse isValidAlgorandAddress env w.file mode confirmed phase)
    (hreal : ∀ account, env.account = some account → isValidAlgorandAddress account.val = true)
    (hpermits : mode = .start → ∀ run ∈ w.runs, run.phase.buying = false) :
    RunnerWorld.Kept parse isValidAlgorandAddress
      { w with runs := w.runs ++ [⟨env, mode, confirmed, phase⟩] } := by
  -- a run that begins to buy does so alone, and without a file
  have hbuying : phase.buying = true → mode = .start ∧ w.file = none := by
    intro hphase
    cases hlaunch with
    | start sender hne hsafe haccount hfile => exact ⟨rfl, hfile⟩
    | _ => cases hphase
  have hnew : ∀ {j : ℕ} {q : RunnerRun},
      (w.runs ++ [(⟨env, mode, confirmed, phase⟩ : RunnerRun)])[j]? = some q →
        w.runs[j]? = some q ∨ j = w.runs.length ∧ q = ⟨env, mode, confirmed, phase⟩ := by
    intro j q hq
    rcases lt_trichotomy j w.runs.length with hj | hj | hj
    · exact .inl (by rwa [List.getElem?_append_left hj] at hq)
    · refine .inr ⟨hj, ?_⟩
      rw [hj, List.getElem?_append_right le_rfl, Nat.sub_self] at hq
      exact (Option.some.inj hq).symm
    · rw [List.getElem?_eq_none (by simp; omega)] at hq
      cases hq
  refine ⟨?_, ?_, ?_, ?_, ?_, h.current, h.bound, h.once, h.onDisk⟩
  · intro q hq
    rcases List.mem_append.1 hq with hq | hq
    · exact h.accounts q hq
    · rw [List.mem_singleton.1 hq]
      exact hreal
  · intro j k q q' hq hq' hbuy hbuy'
    rcases hnew hq with hq | ⟨rfl, rfl⟩ <;> rcases hnew hq' with hq' | ⟨rfl, rfl⟩
    · exact h.alone j k q q' hq hq' hbuy hbuy'
    · rw [hpermits (hbuying hbuy').1 q (List.mem_of_getElem? hq)] at hbuy
      cases hbuy
    · rw [hpermits (hbuying hbuy).1 q' (List.mem_of_getElem? hq')] at hbuy'
      cases hbuy'
    · rfl
  · intro q hq sender hready
    rcases List.mem_append.1 hq with hq | hq
    · exact h.absent q hq sender hready
    · rw [List.mem_singleton.1 hq] at hready
      exact (hbuying (by rw [show phase = .startReady sender from hready]; rfl)).2
  · intro q hq state hkeeps
    rcases List.mem_append.1 hq with hq | hq
    · exact h.keeps q hq state hkeeps
    · rw [List.mem_singleton.1 hq] at hkeeps
      cases hlaunch with
      | recover _ state' hfile hvalid =>
          cases hkeeps
          exact ⟨state, hfile, .refl _, hvalid.forAll⟩
      | _ => cases hkeeps
  · intro q hq hbefore
    rcases List.mem_append.1 hq with hq | hq
    · exact h.fresh q hq hbefore
    · rw [List.mem_singleton.1 hq] at hbefore
      exact h.unpaid (hbuying (RunnerPhase.buying_of_beforePayment hbefore)).2

theorem Kept.step (h : w.Kept parse isValidAlgorandAddress)
    (hvouched : w.Vouched parse isValidAlgorandAddress) {e : RunnerEvent}
    (hreal : e.Real isValidAlgorandAddress) (hpermits : w.Permits e = true) :
    (w.step parse isValidAlgorandAddress e).Kept parse isValidAlgorandAddress := by
  cases e with
  | launch env mode confirmed =>
      refine h.launch (launched env mode confirmed w.file) hreal ?_
      rintro rfl run hrun
      simpa using List.all_eq_true.1 hpermits run hrun
  | answer i answer =>
      unfold RunnerWorld.step
      dsimp only
      split
      · rename_i run hrun
        exact h.advance hvouched hrun (proceeded run.env run.phase answer)
      · exact h
  | crash i writing =>
      have hwhole : writing = none := by simpa [RunnerWorld.Permits] using hpermits
      subst hwhole
      unfold RunnerWorld.step
      dsimp only
      split
      · rename_i run hrun
        exact h.advance hvouched hrun (.stop run.phase)
      · exact h
  | remove =>
      have hidle : ∀ run ∈ w.runs, run.phase.buying = false ∧ run.phase.keeps = none := by
        intro run hrun
        simpa using List.all_eq_true.1 hpermits run hrun
      refine ⟨h.accounts, h.alone, ?_, ?_, ?_, ?_, ?_, h.once, h.onDisk⟩
      · exact fun _ _ _ _ => rfl
      · intro run hrun state hkeeps
        rw [(hidle run hrun).2] at hkeeps
        cases hkeeps
      · intro run hrun hbefore
        have hbuying := RunnerPhase.buying_of_beforePayment hbefore
        rw [(hidle run hrun).1] at hbuying
        cases hbuying
      · intro p hp hcurrent
        have hbound := h.bound p hp
        have hcurrent : p.removals = w.removals + 1 := hcurrent
        omega
      · intro p hp
        exact (h.bound p hp).trans (Nat.le_succ _)

/-- **One checkpoint, one purchase.**  When no purchase is started beside another and no
checkpoint is removed under a run that buys or recovers, then in every schedule, with runs
cut off anywhere but in the middle of a write, and whatever the servers answer: between two
removals of the checkpoint at most one service payment is signed; the file had the purchase
before it was; and from then until the checkpoint is removed the file has it still, so that
a `recover` gets past every check of the file with it, and a `start` ends before it asks
anyone. -/
theorem one_purchase (parse : UrlParser) (isValidAlgorandAddress : JsString → Bool)
    (file : RunnerFile) (es : List RunnerEvent)
    (h : Runs.Admissible (step parse isValidAlgorandAddress)
      (fun w e => e.Real isValidAlgorandAddress ∧ w.Permits e = true) (opened file) es) :
    let w := after parse isValidAlgorandAddress file es
    (w.services.map SignedPayment.removals).Nodup ∧
      (∀ p ∈ w.services, ∃ j, p.file = some (some j) ∧ SamePurchase j p.payment.state ∧
        ValidForAll parse isValidAlgorandAddress j) ∧
      ∀ p ∈ w.services, p.removals = w.removals →
        ∃ j, w.file = some (some j) ∧ SamePurchase j p.payment.state ∧
          ∀ (env : RunnerEnv) (confirmed : Bool), env.assertStaticSafety parse = true →
            env.launch parse isValidAlgorandAddress .recover confirmed w.file = .recovering j ∧
            env.launch parse isValidAlgorandAddress .start confirmed w.file = .ended := by
  intro w
  have hall : w.Vouched parse isValidAlgorandAddress ∧ w.Kept parse isValidAlgorandAddress := by
    refine Runs.run_invariant
      (I := fun w => RunnerWorld.Vouched parse isValidAlgorandAddress w ∧
        RunnerWorld.Kept parse isValidAlgorandAddress w)
      (fun w e he hw => ⟨hw.1.step e, hw.2.step hw.1 he.1 he.2⟩) h ?_
    exact ⟨vouched_after parse isValidAlgorandAddress file [],
      by simp [opened], by simp [opened], by simp [opened], by simp [opened], by simp [opened],
      by simp [opened], by simp [opened], by simp [opened], by simp [opened]⟩
  obtain ⟨-, hkept⟩ := hall
  refine ⟨hkept.once, hkept.onDisk, ?_⟩
  intro p hp hcurrent
  obtain ⟨j, hfile, hsame, hvalid⟩ := hkept.current p hp hcurrent
  refine ⟨j, hfile, hsame, ?_⟩
  intro env confirmed hsafe
  have hserver : env.Safe parse := RunnerEnv.safe_of_assertStaticSafety (by rw [hsafe]; decide)
  have hcheckpoint : env.checkpoint parse isValidAlgorandAddress w.file false = some j := by
    rw [RunnerEnv.checkpoint, hfile]
    refine toOption_eq_some.2 (validateMainnetCheckpoint_ok.2 ⟨rfl, hvalid _ hserver, ?_, ?_, ?_⟩)
    · intro payer hpayer
      cases hpayer
    · intro hrequired
      cases hrequired
    · intro watch hwatch
      cases hwatch
  constructor
  · simp [RunnerEnv.launch, hsafe, hcheckpoint]
  · cases confirmed <;> cases haccount : env.account <;>
      simp [RunnerEnv.launch, hsafe, haccount, hfile]

end RunnerWorld

/-! ## A purchase that was cut off -/

/-- The environment of the runs. -/
def sampleRunnerEnv : RunnerEnv where
  roundwatchServerUrl := none
  algorandAlgodUrl := some defaultServerUrl
  avmAddress := none
  account := some ⟨probeAddress, by decide⟩

/-- The offer of the server. -/
def sampleRequirement : Json := .obj
  [(js "scheme", .str (js "exact")), (js "network", .str algorandMainnet),
    (js "amount", .str serviceAtomicAmount), (js "asset", .str (js "31566704")),
    (js "payTo", .str expectedReceiver), (js "extra", .obj [(js "tag", .str challengeTag)])]

def samplePaymentRequired : Json := .obj
  [(js "x402Version", .num 2),
    (js "resource", .obj [(js "url", .str (defaultServerUrl ++ js "/v1/watch"))]),
    (js "accepts", .arr [sampleRequirement])]

/-- The watch that was bought, as the server hands it back. -/
def sampleRecovered : Json := .obj
  [(js "id", .str sampleWatchId), (js "state", .str (js "active")),
    (js "expectedSender", .str probeAddress), (js "expectedReceiver", .str expectedReceiver),
    (js "assetId", .num usdcMainnetAsaId), (js "atomicAmount", .str invoiceAtomicAmount),
    (js "invoiceNote", .str (js "roundwatch:mainnet:" ++ sampleNonce)),
    (js "serviceTransaction", .str (js "TX"))]

/-- A run that pays and is cut off, and a recovery. -/
def sampleRuns : List RunnerEvent :=
  [.launch sampleRunnerEnv .start true,
    .answer 0 (.ready true (.obj [(js "status", .str (js "ready")),
      (js "network", .str (js "mainnet"))]) ⟨sampleNonce, by decide⟩),
    .answer 0 (.unpaid 402 (some samplePaymentRequired)),
    .answer 0 (.challenge samplePaymentRequired [sampleRequirement] 0),
    .crash 0 none,
    .launch sampleRunnerEnv .recover false,
    .answer 1 (.http ⟨200, some (.obj [(js "watch", sampleRecovered)])⟩)]

theorem RunnerWorld.one_purchase_recovered :
    let w := after parseServerUrl isPurchaseAddress none sampleRuns
    w.services.length = 1 ∧ ∀ p ∈ w.services, ∃ j, w.file = some (some j) ∧
      SamePurchase j p.payment.state ∧ j.get? "watchId" = some (.str sampleWatchId) := by
  intro w
  have hreal : ∀ e ∈ sampleRuns, e.Real isPurchaseAddress := by
    intro e he
    simp only [sampleRuns, List.mem_cons, List.not_mem_nil, or_false] at he
    rcases he with rfl | rfl | rfl | rfl | rfl | rfl | rfl
    · rintro account ⟨⟩
      decide
    · trivial
    · trivial
    · trivial
    · trivial
    · rintro account ⟨⟩
      decide
    · trivial
  have hpermits : Runs.Admissible (step parseServerUrl isPurchaseAddress)
      (fun w e => w.Permits e = true) (opened none) sampleRuns := by decide +kernel
  have hrun := one_purchase parseServerUrl isPurchaseAddress none sampleRuns
    ((Runs.admissible_of_forall hreal).and hpermits)
  have hremovals : w.removals = 0 ∧ w.services.map SignedPayment.removals = [0] ∧
      (w.file.join.bind fun j => textField j "watchId") = some sampleWatchId := by decide +kernel
  obtain ⟨hzero, hservices, hid⟩ := hremovals
  refine ⟨by simpa using congrArg List.length hservices, ?_⟩
  intro p hp
  have hcurrent : p.removals = w.removals := by
    have hmem := List.mem_map_of_mem (f := SignedPayment.removals) hp
    rw [hservices, List.mem_singleton] at hmem
    rw [hmem, hzero]
  obtain ⟨j, hfile, hsame, -⟩ := hrun.2.2 p hp hcurrent
  refine ⟨j, hfile, hsame, ?_⟩
  rw [hfile] at hid
  exact textField_eq_some.1 hid

end RoundWatch
