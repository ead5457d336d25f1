import RoundWatch.Foundation.JsonLayout
import RoundWatch.Foundation.Runs
import RoundWatch.Foundation.Utf8
import RoundWatch.Foundation.Json
import Mathlib.Algebra.Order.Floor.Ring
import Mathlib.Data.Rat.Floor

/-!
# Reading a request body

`readJsonBodyWithLimit` reads a stream that the caller controls: it refuses a body
that declares or delivers too much, gives up when the whole body has not arrived by
its deadline, and parses what is left as fatal UTF-8 and JSON.

The loop is a step function on what each `reader.read()` comes to, so a slow, endless
or broken stream is a list of `BodyRead`s like any other.

* `body_reader_bounded` — what the reader holds, cancels and waits for;
* `body_read_iff` — the bodies it accepts, whatever their chunks; `unrepeated_of_read`,
  that a name in them stands for one value;
* `body_round_trip` — a document that was sent is the document that is read.
-/

namespace RoundWatch

open JsText

/-- Everything that `readJsonBodyWithLimit` throws. -/
inductive BodyError where
  | limitBytes
  | timeoutMilliseconds
  | tooLarge (limitBytes : ℤ)
  | readTimeout (timeoutMilliseconds : ℚ)
  /-- What the transport rejected a read with. -/
  | stream
  /-- The decoder's `TypeError`. -/
  | encoding
  /-- The `SyntaxError` of `JSON.parse`. -/
  | json
  deriving DecidableEq

/-- `parseDeclaredLength`: a length that is not a safe integer is no declaration. -/
def parseDeclaredLength (value : Option JsString) : Option ℕ :=
  value.bind fun value =>
    if value = [] then none
    else (digitsValue? 10 0 value).filter fun n => (n : ℤ) ≤ Json.maxSafeInteger

/-! ## The loop -/

/-- What the race in `readChunk` comes to: the read settles, or its timer fires. -/
inductive ReadOutcome where
  | chunk (value : List UInt8)
  | done
  | failed
  | timer
  deriving DecidableEq

/-- One turn of the loop: the clock when the read is asked for, and its outcome. -/
structure BodyRead where
  now : ℚ
  outcome : ReadOutcome
  deriving DecidableEq

/-- The limit and the deadline of one body. -/
structure BodyConfig where
  limitBytes : ℤ
  timeoutMilliseconds : Option ℚ
  /-- `performance.now()` when the first read is about to be asked for. -/
  start : ℚ

def BodyConfig.deadline (cfg : BodyConfig) : Option ℚ :=
  cfg.timeoutMilliseconds.map fun timeout => cfg.start + timeout

/-- The loop between two reads.  `timers` are the timers it has set, each with the
clock it was set at; `result` is there once the loop has ended. -/
structure BodyReader where
  chunks : List (List UInt8)
  totalBytes : ℕ
  reads : ℕ
  timers : List (ℚ × ℤ)
  cancels : ℕ
  result : Option (Except BodyError (List UInt8))

namespace BodyReader

def fresh : BodyReader := ⟨[], 0, 0, [], 0, none⟩

/-- The loop ends with an error after the stream was cancelled. -/
def abandon (r : BodyReader) (error : BodyError) : BodyReader :=
  { r with cancels := r.cancels + 1, result := some (.error error) }

/-- What the loop does with the outcome of a read. -/
def settle (cfg : BodyConfig) (timeout : ℚ) (r : BodyReader) : ReadOutcome → BodyReader
  | .chunk value =>
      let r := { r with totalBytes := r.totalBytes + value.length }
      if cfg.limitBytes < r.totalBytes then r.abandon (.tooLarge cfg.limitBytes)
      else { r with chunks := r.chunks ++ [value] }
  | .done => { r with result := some (.ok r.chunks.flatten) }
  | .failed => { r with result := some (.error .stream) }
  | .timer => r.abandon (.readTimeout timeout)

/-- One turn of the loop.  Without a deadline there is no timer to fire. -/
def step (cfg : BodyConfig) (r : BodyReader) (read : BodyRead) : BodyReader :=
  if r.result.isSome then r
  else
    match cfg.timeoutMilliseconds with
    | none =>
        if read.outcome = .timer then r
        else settle cfg 0 { r with reads := r.reads + 1 } read.outcome
    | some timeout =>
        if cfg.start + timeout - read.now ≤ 0 then r.abandon (.readTimeout timeout)
        else
          settle cfg timeout
            { r with
              reads := r.reads + 1
              timers := r.timers ++ [(read.now, ⌈cfg.start + timeout - read.now⌉)] }
            read.outcome

/-- The loop over any number of reads. -/
def after (cfg : BodyConfig) (reads : List BodyRead) : BodyReader :=
  Runs.run (step cfg) fresh reads

end BodyReader

/-- The text and the value of a body that has arrived. -/
def decodeBody {ν : Type} (fmt : JsonText.NumberFormat ν) (bytes : List UInt8) :
    Except BodyError (JsonDoc ν) :=
  match Utf8.decodeText bytes with
  | none => .error .encoding
  | some text =>
      match JsonText.parseValue fmt text with
      | none => .error .json
      | some value => .ok value

/-- `readJsonBodyWithLimit`; `none` while a read is still awaited. -/
def readJsonBodyWithLimit {ν : Type} (fmt : JsonText.NumberFormat ν) (cfg : BodyConfig)
    (contentLength : Option JsString) (hasBody : Bool) (reads : List BodyRead) :
    Option (Except BodyError (JsonDoc ν)) :=
  if ¬(Json.isSafeInteger cfg.limitBytes = true ∧ 0 < cfg.limitBytes) then some (.error .limitBytes)
  else if cfg.timeoutMilliseconds.any (· ≤ 0) = true then some (.error .timeoutMilliseconds)
  else if (parseDeclaredLength contentLength).any (fun n : ℕ => decide (cfg.limitBytes < n)) = true then
    some (.error (.tooLarge cfg.limitBytes))
  else if hasBody = false then some (decodeBody fmt [])
  else (BodyReader.after cfg reads).result.map fun result => result.bind (decodeBody fmt)

/-! ## What the reader holds and waits for -/

namespace BodyReader

/-- The errors that the stream is cancelled for. -/
def isAbandoned : Option (Except BodyError (List UInt8)) → Bool
  | some (.error (.tooLarge _)) | some (.error (.readTimeout _)) => true
  | _ => false

/-- At every moment: no more than the limit is held, the stream was cancelled once if
it was given up and not otherwise, and every timer fires within a millisecond of
the deadline, which had not passed when it was set. -/
structure Bounded (cfg : BodyConfig) (r : BodyReader) : Prop where
  held : (r.chunks.flatten.length : ℤ) ≤ cfg.limitBytes
  total : r.result = none → r.totalBytes = r.chunks.flatten.length
  cancels : r.cancels = if isAbandoned r.result then 1 else 0
  timers : ∀ timer ∈ r.timers, ∃ deadline, cfg.deadline = some deadline ∧ timer.1 < deadline ∧
    0 < timer.2 ∧ timer.1 + timer.2 < deadline + 1
  result : ∀ bytes, r.result = some (.ok bytes) → bytes = r.chunks.flatten

variable {cfg : BodyConfig} {r : BodyReader}

theorem Bounded.abandon (h : r.Bounded cfg) (hopen : r.result = none) {error : BodyError}
    (herror : isAbandoned (some (.error error)) = true) : (r.abandon error).Bounded cfg := by
  refine ⟨h.held, nofun, ?_, h.timers, nofun⟩
  have hzero : r.cancels = 0 := by rw [h.cancels, hopen]; rfl
  show r.cancels + 1 = if isAbandoned (some (.error error)) = true then 1 else 0
  rw [hzero, if_pos herror]

theorem Bounded.settle (h : r.Bounded cfg) (hopen : r.result = none) (timeout : ℚ)
    (outcome : ReadOutcome) : (settle cfg timeout r outcome).Bounded cfg := by
  have hzero : r.cancels = 0 := by rw [h.cancels, hopen]; rfl
  cases outcome with
  | chunk value =>
      have htotal := h.total hopen
      unfold BodyReader.settle
      dsimp only
      split
      · refine ⟨h.held, nofun, ?_, h.timers, nofun⟩
        show r.cancels + 1 = 1
        rw [hzero]
      · rename_i hfits
        refine ⟨?_, ?_, ?_, h.timers, ?_⟩
        · show ((r.chunks ++ [value]).flatten.length : ℤ) ≤ cfg.limitBytes
          rw [List.flatten_append, List.length_append, List.flatten_singleton, ← htotal]
          push_cast
          omega
        · intro _
          show r.totalBytes + value.length = (r.chunks ++ [value]).flatten.length
          rw [List.flatten_append, List.length_append, List.flatten_singleton, ← htotal]
        · show r.cancels = if isAbandoned r.result then 1 else 0
          exact h.cancels
        · intro bytes hbytes
          rw [show r.result = some (.ok bytes) from hbytes] at hopen
          cases hopen
  | done =>
      refine ⟨h.held, nofun, hzero, h.timers, ?_⟩
      intro bytes hbytes
      exact (Except.ok.inj (Option.some.inj hbytes)).symm
  | failed => exact ⟨h.held, nofun, hzero, h.timers, nofun⟩
  | timer => exact h.abandon hopen rfl

/-- A timer that is set before the deadline fires less than a millisecond after it. -/
theorem timer_in_time {now deadline : ℚ} (h : ¬(deadline - now ≤ 0)) :
    now < deadline ∧ 0 < ⌈deadline - now⌉ ∧ now + (⌈deadline - now⌉ : ℤ) < deadline + 1 := by
  have hpos : 0 < deadline - now := not_le.1 h
  have hceil := Int.ceil_lt_add_one (deadline - now)
  exact ⟨sub_pos.1 hpos, Int.ceil_pos.2 hpos, by linarith⟩

theorem Bounded.step (h : r.Bounded cfg) (read : BodyRead) : (step cfg r read).Bounded cfg := by
  unfold BodyReader.step
  split
  · exact h
  rename_i hresult
  have hopen : r.result = none := Option.not_isSome_iff_eq_none.1 hresult
  split
  · split
    · exact h
    · exact Bounded.settle (r := { r with reads := r.reads + 1 })
        ⟨h.held, h.total, h.cancels, h.timers, h.result⟩ hopen _ _
  · rename_i timeout htimeout
    split
    · exact h.abandon hopen rfl
    · rename_i hlate
      obtain ⟨hbefore, hpos, hafter⟩ := timer_in_time hlate
      have hset : Bounded cfg
          { r with
            reads := r.reads + 1
            timers := r.timers ++ [(read.now, ⌈cfg.start + timeout - read.now⌉)] } := by
        refine ⟨h.held, h.total, h.cancels, ?_, h.result⟩
        intro timer htimer
        rcases List.mem_append.1 htimer with htimer | htimer
        · exact h.timers timer htimer
        · rw [List.mem_singleton.1 htimer]
          exact ⟨cfg.start + timeout, by simp [BodyConfig.deadline, htimeout], hbefore, hpos,
            hafter⟩
      exact hset.settle hopen timeout read.outcome

theorem fresh_bounded (hlimit : 0 < cfg.limitBytes) : fresh.Bounded cfg :=
  ⟨by simp [fresh]; omega, fun _ => rfl, rfl, by simp [fresh], nofun⟩

/-- **The reader is bounded.**  However the stream behaves, and at every moment of the
read: the reader holds no more bytes than the limit, it has cancelled the stream
exactly once if it gave up and not at all otherwise, and no timer it set runs more
than a millisecond past the deadline of the whole body, however many chunks the
body was cut into. -/
theorem body_reader_bounded (cfg : BodyConfig) (hlimit : 0 < cfg.limitBytes)
    (reads : List BodyRead) : (after cfg reads).Bounded cfg :=
  Runs.run_invariant' (fun _ read h => h.step read) reads (fresh_bounded hlimit)

/-- A body that grows past its limit, and goes on. -/
theorem body_reader_bounded_growing :
    (after ⟨2, some 2000, 0⟩ [⟨1, .chunk [91, 49]⟩, ⟨5, .chunk [44]⟩, ⟨7, .chunk [93]⟩]).Bounded
      ⟨2, some 2000, 0⟩ :=
  body_reader_bounded _ (by decide) _

/-! ## The bodies it accepts -/

/-- What a stream delivers: the bytes of its chunks up to its end, if every read was
asked for before the deadline and none failed or was overtaken by its timer. -/
def delivered (deadline : Option ℚ) : List BodyRead → Option (List UInt8)
  | [] => none
  | read :: reads =>
      if deadline.any (· ≤ read.now) then none
      else
        match read.outcome with
        | .chunk value => (delivered deadline reads).map (value ++ ·)
        | .done => some []
        | .failed => none
        | .timer => if deadline.isSome then none else delivered deadline reads

theorem run_of_result (h : r.result ≠ none) (reads : List BodyRead) :
    Runs.run (step cfg) r reads = r := by
  induction reads with
  | nil => rfl
  | cons read reads ih =>
      have hstep : step cfg r read = r := if_pos (Option.isSome_iff_ne_none.2 h)
      rw [Runs.run_cons, hstep, ih]

/-- A read that is asked for too late ends the loop. -/
theorem step_late (hopen : r.result = none) {read : BodyRead}
    (hlate : cfg.deadline.any (· ≤ read.now) = true) :
    ∃ error, (step cfg r read).result = some (.error error) := by
  unfold BodyConfig.deadline at hlate
  cases htimeout : cfg.timeoutMilliseconds with
  | none => simp [htimeout] at hlate
  | some timeout =>
      rw [htimeout, Option.map_some, Option.any_some, decide_eq_true_eq] at hlate
      refine ⟨.readTimeout timeout, ?_⟩
      unfold BodyReader.step
      rw [hopen, htimeout, if_neg (by simp)]
      dsimp only
      rw [if_pos (by linarith)]
      rfl

/-- A read in time is settled, unless there is no timer for it to lose to. -/
theorem step_in_time (hopen : r.result = none) {read : BodyRead}
    (htime : ¬cfg.deadline.any (· ≤ read.now) = true)
    (htimer : read.outcome = .timer → cfg.deadline.isSome = true) :
    ∃ timers, step cfg r read =
      settle cfg (cfg.timeoutMilliseconds.getD 0)
        { r with reads := r.reads + 1, timers := timers } read.outcome := by
  unfold BodyConfig.deadline at htime htimer
  unfold BodyReader.step
  rw [hopen, if_neg (by simp)]
  cases htimeout : cfg.timeoutMilliseconds with
  | none =>
      rw [htimeout] at htimer
      refine ⟨r.timers, ?_⟩
      dsimp only
      rw [if_neg fun h => by simpa using htimer h]
      rfl
  | some timeout =>
      rw [htimeout, Option.map_some, Option.any_some, decide_eq_true_eq, not_le] at htime
      refine ⟨r.timers ++ [(read.now, ⌈cfg.start + timeout - read.now⌉)], ?_⟩
      dsimp only
      rw [if_neg (by linarith)]
      rfl

theorem result_run_error (error : BodyError) (h : r.result = some (.error error))
    (reads : List BodyRead) (bytes : List UInt8) :
    (Runs.run (step cfg) r reads).result ≠ some (.ok bytes) := by
  rw [run_of_result (by rw [h]; nofun), h]
  nofun

/-- The loop comes to an end with exactly the bytes that the stream delivers within
the limit.  The induction is on the reads; what is held already stands in front. -/
theorem result_ok (reads : List BodyRead) : ∀ {r : BodyReader} {bytes : List UInt8},
    r.result = none → r.Bounded cfg →
    ((Runs.run (step cfg) r reads).result = some (.ok bytes) ↔
      ∃ more, delivered cfg.deadline reads = some more ∧ bytes = r.chunks.flatten ++ more ∧
        (bytes.length : ℤ) ≤ cfg.limitBytes) := by
  induction reads with
  | nil =>
      intro r bytes hopen hbounded
      simp [delivered, hopen]
  | cons read reads ih =>
      intro r bytes hopen hbounded
      rw [Runs.run_cons, delivered]
      by_cases hlate : cfg.deadline.any (· ≤ read.now) = true
      · obtain ⟨error, herror⟩ := step_late hopen hlate
        rw [if_pos hlate]
        exact ⟨fun h => absurd h (result_run_error _ herror reads bytes), nofun⟩
      rw [if_neg hlate]
      by_cases hskip : read.outcome = .timer ∧ cfg.deadline.isSome = false
      · have hstep : step cfg r read = r := by
          have hnone : cfg.timeoutMilliseconds = none := by
            simpa [BodyConfig.deadline] using hskip.2
          unfold BodyReader.step
          rw [hopen, if_neg (by simp), hnone]
          dsimp only
          rw [if_pos hskip.1]
        rw [hstep, hskip.1]
        dsimp only
        rw [if_neg (by simp [hskip.2])]
        exact ih hopen hbounded
      have htimer : read.outcome = .timer → cfg.deadline.isSome = true := by
        intro h
        by_contra hnone
        exact hskip ⟨h, Bool.eq_false_iff.2 hnone⟩
      obtain ⟨timers, hstep⟩ := step_in_time hopen hlate htimer
      have hkept : (step cfg r read).Bounded cfg := hbounded.step read
      rw [hstep] at hkept ⊢
      cases houtcome : read.outcome with
      | chunk value =>
          rw [houtcome] at hkept
          dsimp only
          by_cases hover : cfg.limitBytes < ((r.totalBytes + value.length : ℕ) : ℤ)
          · -- the body is too large already, whatever follows
            constructor
            · intro h
              refine absurd h (result_run_error (.tooLarge cfg.limitBytes) ?_ reads bytes)
              unfold BodyReader.settle
              dsimp only
              rw [if_pos hover]
              rfl
            · rintro ⟨more, hmore, hbytes, hfits⟩
              obtain ⟨rest, -, rfl⟩ := Option.map_eq_some_iff.1 hmore
              have htotal := hbounded.total hopen
              rw [hbytes] at hfits
              simp only [List.length_append] at hfits
              push_cast at hfits hover
              omega
          · have hsettle : settle cfg (cfg.timeoutMilliseconds.getD 0)
                { r with reads := r.reads + 1, timers := timers } (.chunk value) =
                { r with
                  reads := r.reads + 1
                  timers := timers
                  totalBytes := r.totalBytes + value.length
                  chunks := r.chunks ++ [value] } := by
              unfold BodyReader.settle
              dsimp only
              rw [if_neg hover]
            rw [hsettle] at hkept ⊢
            rw [ih (by exact hopen) hkept]
            simp only [List.flatten_append, List.flatten_singleton, List.append_assoc,
              Option.map_eq_some_iff]
            constructor
            · rintro ⟨more, hmore, hbytes, hfits⟩
              exact ⟨value ++ more, ⟨more, hmore, rfl⟩, hbytes, hfits⟩
            · rintro ⟨_, ⟨more, hmore, rfl⟩, hbytes, hfits⟩
              exact ⟨more, hmore, hbytes, hfits⟩
      | done =>
          dsimp only
          rw [run_of_result (by exact nofun)]
          constructor
          · intro h
            have hbytes : r.chunks.flatten = bytes := Except.ok.inj (Option.some.inj h)
            exact ⟨[], rfl, by rw [List.append_nil, hbytes], by rw [← hbytes]; exact hbounded.held⟩
          · rintro ⟨more, hmore, hbytes, -⟩
            rw [← Option.some.inj hmore, List.append_nil] at hbytes
            rw [hbytes]
            rfl
      | failed =>
          dsimp only
          exact ⟨fun h => absurd h (result_run_error .stream rfl reads bytes), nofun⟩
      | timer =>
          dsimp only
          rw [if_pos (htimer houtcome)]
          refine ⟨fun h => absurd h (result_run_error _ rfl reads bytes), nofun⟩

end BodyReader

open BodyReader

theorem decodeBody_ok {ν : Type} {fmt : JsonText.NumberFormat ν} {bytes : List UInt8}
    {value : JsonDoc ν} : decodeBody fmt bytes = .ok value ↔
      ∃ text, WellFormed text ∧ utf8Bytes text = bytes ∧
        JsonText.parseValue fmt (Utf8.stripMark text) = some value := by
  have hdecode : ∀ text, Utf8.decode bytes = some text ↔ WellFormed text ∧ utf8Bytes text = bytes :=
    fun text => Utf8.decode_eq_some_iff
  unfold decodeBody Utf8.decodeText
  cases h : Utf8.decode bytes with
  | none =>
      refine ⟨nofun, ?_⟩
      rintro ⟨text, hw, hbytes, -⟩
      rw [(hdecode text).2 ⟨hw, hbytes⟩] at h
      cases h
  | some text =>
      obtain ⟨hw, hbytes⟩ := (hdecode text).1 h
      simp only [Option.map_some]
      cases hparse : JsonText.parseValue fmt (Utf8.stripMark text) with
      | none =>
          refine ⟨nofun, ?_⟩
          rintro ⟨text', hw', hbytes', hparse'⟩
          rw [(hdecode text').2 ⟨hw', hbytes'⟩, Option.some.injEq] at h
          rw [h, hparse] at hparse'
          cases hparse'
      | some v =>
          simp only [Except.ok.injEq]
          constructor
          · rintro rfl
            exact ⟨text, hw, hbytes, hparse⟩
          · rintro ⟨text', hw', hbytes', hparse'⟩
            rw [(hdecode text').2 ⟨hw', hbytes'⟩, Option.some.injEq] at h
            rw [h, hparse] at hparse'
            exact Option.some.inj hparse'

/-- An empty body is no JSON. -/
theorem decodeBody_nil {ν : Type} (fmt : JsonText.NumberFormat ν) :
    decodeBody fmt [] = .error .json := rfl

variable {ν : Type} {fmt : JsonText.NumberFormat ν} {cfg : BodyConfig}
  {contentLength : Option JsString} {reads : List BodyRead} {value : JsonDoc ν}

/-- What the caller of a read has to get right before the stream is looked at. -/
structure BodyConfig.Admits (cfg : BodyConfig) (contentLength : Option JsString) : Prop where
  safe : Json.isSafeInteger cfg.limitBytes = true
  positive : 0 < cfg.limitBytes
  timeout : ∀ timeout, cfg.timeoutMilliseconds = some timeout → 0 < timeout
  declared : ∀ n, parseDeclaredLength contentLength = some n → (n : ℤ) ≤ cfg.limitBytes

/-- A read that is admitted is the loop and the decoder. -/
theorem readJsonBody_of_admits (h : cfg.Admits contentLength) :
    readJsonBodyWithLimit fmt cfg contentLength true reads =
      (BodyReader.after cfg reads).result.map fun result => result.bind (decodeBody fmt) := by
  have htimeout : ¬cfg.timeoutMilliseconds.any (· ≤ 0) = true := by
    intro hany
    obtain ⟨timeout, heq, hle⟩ := (Option.any_eq_true _ _).1 hany
    exact absurd (h.timeout timeout heq) (not_lt.2 (by simpa using hle))
  have hdeclared :
      ¬(parseDeclaredLength contentLength).any (fun n : ℕ => decide (cfg.limitBytes < n)) =
        true := by
    intro hany
    obtain ⟨n, heq, hlt⟩ := (Option.any_eq_true _ _).1 hany
    exact absurd (h.declared n heq) (not_le.2 (by simpa using hlt))
  unfold readJsonBodyWithLimit
  rw [if_neg (not_not.2 ⟨h.safe, h.positive⟩), if_neg htimeout, if_neg hdeclared,
    if_neg (by decide)]

/-- What is read was admitted, and there was a body. -/
theorem admits_of_read {hasBody : Bool}
    (h : readJsonBodyWithLimit fmt cfg contentLength hasBody reads = some (.ok value)) :
    cfg.Admits contentLength ∧ hasBody = true := by
  unfold readJsonBodyWithLimit at h
  by_cases hlimit : Json.isSafeInteger cfg.limitBytes = true ∧ 0 < cfg.limitBytes
  swap
  · rw [if_pos hlimit] at h
    cases h
  rw [if_neg (not_not.2 hlimit)] at h
  by_cases htimeout : cfg.timeoutMilliseconds.any (· ≤ 0) = true
  · rw [if_pos htimeout] at h
    cases h
  rw [if_neg htimeout] at h
  by_cases hdeclared :
      (parseDeclaredLength contentLength).any (fun n : ℕ => decide (cfg.limitBytes < n)) = true
  · rw [if_pos hdeclared] at h
    cases h
  rw [if_neg hdeclared] at h
  by_cases hbody : hasBody = false
  · rw [if_pos hbody, decodeBody_nil] at h
    cases h
  refine ⟨⟨hlimit.1, hlimit.2, ?_, ?_⟩, Bool.eq_true_of_not_eq_false hbody⟩
  · intro timeout heq
    simpa [heq] using htimeout
  · intro n heq
    simpa [heq] using hdeclared

/-- An admitted stream that delivers an encoded text in time and within the limit. -/
theorem read_of_delivered (h : cfg.Admits contentLength) {text : JsString} (hw : WellFormed text)
    (hmore : delivered cfg.deadline reads = some (utf8Bytes text))
    (hfits : ((utf8Bytes text).length : ℤ) ≤ cfg.limitBytes)
    (hparse : JsonText.parseValue fmt (Utf8.stripMark text) = some value) :
    readJsonBodyWithLimit fmt cfg contentLength true reads = some (.ok value) := by
  have hresult : (after cfg reads).result = some (.ok (utf8Bytes text)) :=
    (result_ok reads rfl (fresh_bounded h.positive)).2 ⟨utf8Bytes text, hmore, rfl, hfits⟩
  rw [readJsonBody_of_admits h]
  exact Option.map_eq_some_iff.2 ⟨_, hresult, decodeBody_ok.2 ⟨text, hw, rfl, hparse⟩⟩

/-- What a body that is read was. -/
theorem delivered_of_read {hasBody : Bool}
    (h : readJsonBodyWithLimit fmt cfg contentLength hasBody reads = some (.ok value)) :
    cfg.Admits contentLength ∧ hasBody = true ∧
      ∃ text, WellFormed text ∧ delivered cfg.deadline reads = some (utf8Bytes text) ∧
        ((utf8Bytes text).length : ℤ) ≤ cfg.limitBytes ∧
        JsonText.parseValue fmt (Utf8.stripMark text) = some value := by
  obtain ⟨hadmits, rfl⟩ := admits_of_read h
  rw [readJsonBody_of_admits hadmits] at h
  obtain ⟨result, hresult, hvalue⟩ := Option.map_eq_some_iff.1 h
  cases result with
  | error error => cases hvalue
  | ok bytes =>
      obtain ⟨more, hmore, hbytes, hfits⟩ :=
        (result_ok reads rfl (fresh_bounded hadmits.positive)).1 hresult
      obtain ⟨text, hw, htext, hparse⟩ := decodeBody_ok.1 hvalue
      have hsame : utf8Bytes text = more := htext.trans hbytes
      rw [← htext] at hfits
      exact ⟨hadmits, rfl, text, hw, by rw [hsame, hmore], hfits, hparse⟩

/-- A name in a body that is read stands for one value. -/
theorem unrepeated_of_read {hasBody : Bool}
    (h : readJsonBodyWithLimit fmt cfg contentLength hasBody reads = some (.ok value)) :
    value.Unrepeated := by
  obtain ⟨-, -, text, -, -, -, hparse⟩ := delivered_of_read h
  obtain ⟨doc, -, rfl⟩ := Option.map_eq_some_iff.1 hparse
  exact doc.unrepeated_folded

/-- **Which bodies are read.**  For every limit, deadline, declared length and stream,
in whatever chunks, at whatever times and with whatever ending: the body is read as
`value` exactly when the limit and the timeout are sound, no larger length was
declared, the stream delivers its bytes in time and within the limit, and these are
the UTF-8 of a well-formed text, with or without a byte order mark, whose JSON is
`value`.  Nothing depends on how the bytes were cut. -/
theorem body_read_iff {ν : Type} (fmt : JsonText.NumberFormat ν) (cfg : BodyConfig)
    (contentLength : Option JsString) (hasBody : Bool) (reads : List BodyRead)
    (value : JsonDoc ν) :
    readJsonBodyWithLimit fmt cfg contentLength hasBody reads = some (.ok value) ↔
      cfg.Admits contentLength ∧ hasBody = true ∧
        ∃ text, WellFormed text ∧ delivered cfg.deadline reads = some (utf8Bytes text) ∧
          ((utf8Bytes text).length : ℤ) ≤ cfg.limitBytes ∧
          JsonText.parseValue fmt (Utf8.stripMark text) = some value := by
  refine ⟨delivered_of_read, ?_⟩
  rintro ⟨hadmits, rfl, text, hw, hmore, hfits, hparse⟩
  exact read_of_delivered hadmits hw hmore hfits hparse

/-- **A document survives the wire.**  The text that `JSON.stringify` writes for any
document, encoded as UTF-8 and cut into any chunks, is read as the value of that
document, if it keeps to the limit and to the deadline; a document that repeats no
name is read as it was. -/
theorem body_round_trip {ν : Type} (fmt : JsonText.NumberFormat ν)
    (hnum : ∀ n, JsonText.Whole (fmt.write n)) (cfg : BodyConfig)
    (contentLength : Option JsString) (hadmits : cfg.Admits contentLength)
    (reads : List BodyRead) (value : JsonDoc ν)
    (hsent : delivered cfg.deadline reads = some (utf8Bytes (JsonText.stringify fmt value)))
    (hfits : ((utf8Bytes (JsonText.stringify fmt value)).length : ℤ) ≤ cfg.limitBytes) :
    readJsonBodyWithLimit fmt cfg contentLength true reads = some (.ok value.folded) ∧
      (value.Unrepeated →
        readJsonBodyWithLimit fmt cfg contentLength true reads = some (.ok value)) := by
  have hread :
      readJsonBodyWithLimit fmt cfg contentLength true reads = some (.ok value.folded) := by
    refine read_of_delivered hadmits (JsonText.whole_stringify hnum value).wellFormed hsent hfits ?_
    rw [Utf8.stripMark_of_ne (JsonText.stringify_unmarked value), JsonText.parseValue_stringify]
  exact ⟨hread, fun hvalue => by rw [hread, JsonDoc.folded_of_unrepeated hvalue]⟩

/-- `{"note":"é","amount":7}`. -/
def sampleBody : JsonDoc ℤ :=
  .obj [([110, 111, 116, 101], .str [233]), ([97, 109, 111, 117, 110, 116], .num 7)]

/-- The letter is cut between two chunks, and the last of them comes at the last moment. -/
theorem body_round_trip_cut :
    readJsonBodyWithLimit JsonText.wholeNumbers ⟨8192, some 10, 0⟩ (some [50, 52]) true
      [⟨1, .chunk [123, 34, 110, 111, 116, 101, 34, 58, 34, 195]⟩,
        ⟨5, .chunk [169, 34, 44, 34, 97, 109, 111, 117, 110, 116, 34, 58, 55, 125]⟩,
        ⟨9, .done⟩] = some (.ok sampleBody) :=
  (body_round_trip JsonText.wholeNumbers JsonText.whole_wholeNumbers _ _
    ⟨by decide, by decide, by rintro _ ⟨⟩; norm_num, by decide⟩ _ sampleBody
    (by simp [delivered, BodyConfig.deadline]; decide) (by decide)).2
    (by simp [sampleBody, JsonDoc.Unrepeated, JsonDoc.UnrepeatedFields])

end RoundWatch
