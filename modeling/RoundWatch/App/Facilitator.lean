import RoundWatch.Foundation.Headers
import RoundWatch.Foundation.Url
import RoundWatch.Lifetimes.Application

/-!
# The facilitator client

Every HTTP attempt of the client follows redirects itself, one fenced transport call a hop.

* `followRedirect` — a turn of the redirect loop, and `Redirected`, what it does;
* `HopChain` — the hops of an attempt;
* `Call.Sound` — the calls under way log chains only;
* `redirects_contained` — how long chains are, what they carry, where they lead, and what
  is left of them after `stopAdmission`.

The responses, their bodies, the clocks and the injected callbacks are answers of the
environment, so a stop can come between any two of them.
-/

namespace RoundWatch

open JsText

/-! ## Requests -/

inductive Method where
  | get
  | head
  | post
  deriving DecidableEq, Repr

/-- A `RequestInit`, as far as the redirect loop changes it. -/
structure RequestInit where
  method : Method
  headers : Http.Entries
  body : Option JsString
  deriving DecidableEq, Repr

/-- A `Response`, as far as the client looks at it before its body. -/
structure FacilitatorResponse where
  status : ℕ
  location : Option JsString
  deriving DecidableEq, Repr

inductive FacilitatorError where
  | shutdownInterrupted
  | redirectCountExceeded
  | unsupportedRedirectUrl
  /-- `new URL` throws. -/
  | invalidUrl
  /-- `new Headers` throws. -/
  | invalidHeaders
  /-- A promise or a callback of the environment, or the answer of the facilitator. -/
  | thrown
  deriving DecidableEq, Repr

/-- A transport call: the locals of the loop, and the response that led to it. -/
structure Hop where
  url : JsString
  init : RequestInit
  redirects : ℕ
  cause : Option FacilitatorResponse
  deriving DecidableEq, Repr

def Hop.carries (hop : Hop) (name : JsString) : Bool := Http.carries hop.init.headers name

/-! ## The redirect loop -/

def isRedirect (status : ℕ) : Bool := [301, 302, 303, 307, 308].contains status

def credentialHeaders : List JsString :=
  [js "authorization", js "proxy-authorization", js "cookie", js "cookie2"]

def contentHeaders : List JsString :=
  [js "content-type", js "content-length", js "content-encoding", js "content-language",
    js "content-location"]

/-- An `http` or `https` URL without credentials. -/
def supportedRedirectUrl (u : URL) : Bool :=
  (u.protocol == js "http:" || u.protocol == js "https:") && u.username.isEmpty &&
    u.password.isEmpty

/-- A redirect turns the request into a `GET`. -/
def rewritesToGet (status : ℕ) (method : Method) : Bool :=
  (status == 303 && method != .head) || ((status == 301 || status == 302) && method == .post)

/-- The next hop, once the body of the redirecting response is cancelled. -/
def followRedirect (parse : UrlParser) (hop : Hop) (response : FacilitatorResponse)
    (location : JsString) : Except FacilitatorError Hop :=
  if 20 ≤ hop.redirects then .error .redirectCountExceeded
  else
    match parse location (some hop.url) with
    | none => .error .invalidUrl
    | some next =>
        if !supportedRedirectUrl next then .error .unsupportedRedirectUrl
        else
          match Http.ofEntries hop.init.headers with
          | none => .error .invalidHeaders
          | some headers =>
              match parse hop.url none with
              | none => .error .invalidUrl
              | some current =>
                  let headers := if next.origin != current.origin then
                    Http.deleteAll headers credentialHeaders else headers
                  let init := if rewritesToGet response.status hop.init.method then
                      ⟨.get, Http.deleteAll headers contentHeaders, none⟩
                    else { hop.init with headers := headers }
                  .ok { url := next.href, init := init, redirects := hop.redirects + 1,
                        cause := some response }

/-! ## Calls -/

/-- A call of the client; `body` is the payment as `JSON.stringify` writes it. -/
inductive FacilitatorRequest where
  | verify (body : JsString)
  | settle (body : JsString)
  | supported
  deriving DecidableEq, Repr

namespace FacilitatorRequest

def operation : FacilitatorRequest → JsString
  | .verify _ => js "verify"
  | .settle _ => js "settle"
  | .supported => js "supported"

def method : FacilitatorRequest → Method
  | .verify _ | .settle _ => .post
  | .supported => .get

def body : FacilitatorRequest → Option JsString
  | .verify body | .settle body => some body
  | .supported => none

end FacilitatorRequest

/-- Where a call is.  A call waits at every point for the environment to answer. -/
inductive CallPhase where
  | headers
  /-- `createAuthHeaders` was called. -/
  | authorizing
  /-- Before `attempt`. -/
  | attempting
  /-- At the head of the redirect loop. -/
  | fetching (hop : Hop)
  | transporting (hop : Hop)
  /-- `body.cancel()` was called. -/
  | cancelling (hop : Hop) (response : FacilitatorResponse) (location : JsString)
  /-- The loop returned a response, whose body is read. -/
  | reading (response : FacilitatorResponse)
  /-- `waitToRetry`. -/
  | waiting
  /-- `waitToRetry`, cancelled. -/
  | interrupted
  | returned
  | failed (error : FacilitatorError)
  deriving DecidableEq, Repr

/-- A call under way; behind the locals, its transport calls by attempt, latest first. -/
structure FacilitatorCall where
  request : FacilitatorRequest
  phase : CallPhase
  headers : Http.Entries
  attempt : ℕ
  attempts : List (List Hop)
  deriving DecidableEq, Repr

/-- How the environment answers. -/
inductive FacilitatorAnswer where
  | done
  | threw
  | authHeaders (fields : Http.Entries)
  | response (response : FacilitatorResponse)
  deriving DecidableEq, Repr

/-- `{ 'Content-Type': 'application/json', ...headers }`. -/
def jsonHeaders (fields : Http.Entries) : Http.Entries :=
  let name := js "Content-Type"
  match fields.find? (·.1 == name) with
  | some own => own :: fields.filter (·.1 != name)
  | none => (name, js "application/json") :: fields

namespace FacilitatorCall

def begun (request : FacilitatorRequest) : FacilitatorCall := ⟨request, .headers, [], 0, []⟩

/-- What `fetchFollowingRedirects` is called with. -/
def start (url : JsString) (c : FacilitatorCall) : Hop where
  url := url ++ js "/" ++ c.request.operation
  init := ⟨c.request.method, c.headers, c.request.body⟩
  redirects := 0
  cause := none

def goTo (c : FacilitatorCall) (phase : CallPhase) : FacilitatorCall := { c with phase := phase }

/-- `assertAdmission`, then the step. -/
def admitted (c : FacilitatorCall) (stopped : Bool) (next : FacilitatorCall) : FacilitatorCall :=
  if stopped then c.goTo (.failed .shutdownInterrupted) else next

/-- The transport call of a hop. -/
def transport (c : FacilitatorCall) (hop : Hop) : FacilitatorCall :=
  match c.attempts with
  | hops :: earlier =>
      { c with phase := .transporting hop, attempts := (hop :: hops) :: earlier }
  | [] => c

/-- A response, at the top of the loop. -/
def receive (c : FacilitatorCall) (hop : Hop) (response : FacilitatorResponse) : FacilitatorCall :=
  match isRedirect response.status, response.location with
  | true, some (unit :: rest) => c.goTo (.cancelling hop response (unit :: rest))
  | _, _ => c.goTo (.reading response)

/-- The answer of the facilitator is read: `getSupported` retries on 429, twice. -/
def read (c : FacilitatorCall) (stopped : Bool) (response : FacilitatorResponse) :
    FacilitatorCall :=
  if 200 ≤ response.status && response.status ≤ 299 then c.goTo .returned
  else if c.request == .supported && response.status == 429 && c.attempt != 2 then
    c.admitted stopped (c.goTo .waiting)
  else c.goTo (.failed .thrown)

/-- A call goes on. -/
def step (parse : UrlParser) (url : JsString) (stopped : Bool) (c : FacilitatorCall)
    (answer : FacilitatorAnswer) : FacilitatorCall :=
  match c.phase, answer with
  | .headers, .done => c.admitted stopped (c.goTo .authorizing)
  | .authorizing, .authHeaders fields =>
      { c with phase := .attempting, headers := jsonHeaders fields }
  | .attempting, .done =>
      c.admitted stopped
        { c with phase := .fetching (c.start url), attempts := [] :: c.attempts }
  | .fetching hop, .done => c.admitted stopped (c.transport hop)
  | .transporting hop, .response response => c.receive hop response
  | .cancelling hop response location, .done =>
      match followRedirect parse hop response location with
      | .ok next => c.goTo (.fetching next)
      | .error error => c.goTo (.failed error)
  | .reading response, .done => c.read stopped response
  | .waiting, .done => { c with phase := .attempting, attempt := c.attempt + 1 }
  | .interrupted, _ => c.goTo (.failed .shutdownInterrupted)
  | .authorizing, .threw | .attempting, .threw | .transporting _, .threw
  | .cancelling _ _ _, .threw | .reading _, .threw => c.goTo (.failed .thrown)
  | _, _ => c

/-- The promise of the call has settled. -/
def settled (c : FacilitatorCall) : Bool :=
  match c.phase with
  | .returned | .failed _ => true
  | _ => false

/-- `cancel` of a retry wait. -/
def cancelWait (c : FacilitatorCall) : FacilitatorCall :=
  if c.phase = .waiting then c.goTo .interrupted else c

end FacilitatorCall

/-! ## The client -/

/-- A `RoundWatchFacilitatorClient`, with the calls its lifetime admitted. -/
structure FacilitatorClient where
  stopped : Bool
  lifetime : ApplicationLifetime
  calls : List FacilitatorCall
  deriving DecidableEq, Repr

namespace FacilitatorClient

def fresh : FacilitatorClient := ⟨false, .fresh, []⟩

/-- `verify`, `settle` and `getSupported`, each tracked by the lifetime. -/
def begin (c : FacilitatorClient) (request : FacilitatorRequest) : FacilitatorClient :=
  if c.lifetime.stopped then c
  else
    { c with
      lifetime := c.lifetime.track.leave
      calls := c.calls ++ [.begun request] }

/-- A call goes on, and is released when its promise settles. -/
def answer (parse : UrlParser) (url : JsString) (c : FacilitatorClient) (i : ℕ)
    (answer : FacilitatorAnswer) : FacilitatorClient :=
  match c.calls[i]? with
  | none => c
  | some call =>
      let next := call.step parse url c.stopped answer
      { c with
        lifetime := if next.settled && !call.settled then c.lifetime.release i else c.lifetime
        calls := c.calls.set i next }

def stopAdmission (c : FacilitatorClient) : FacilitatorClient where
  stopped := true
  lifetime := c.lifetime.stopAdmission
  calls := c.calls.map FacilitatorCall.cancelWait

def drain (c : FacilitatorClient) : FacilitatorClient :=
  let c := c.stopAdmission
  { c with lifetime := c.lifetime.drain }

inductive Event where
  | begin (request : FacilitatorRequest)
  | answer (call : ℕ) (answer : FacilitatorAnswer)
  | stopAdmission
  | drain
  deriving DecidableEq, Repr

def step (parse : UrlParser) (url : JsString) (c : FacilitatorClient) :
    Event → FacilitatorClient
  | .begin request => c.begin request
  | .answer call answer => c.answer parse url call answer
  | .stopAdmission => c.stopAdmission
  | .drain => c.drain

/-- The client for the configured URL after the events. -/
def after (parse : UrlParser) (url : JsString) (events : List Event) : FacilitatorClient :=
  Runs.run (step parse url) fresh events

end FacilitatorClient

/-! ## Chains of hops -/

/-- The origin of the URL that a hop is sent to. -/
def originOf (parse : UrlParser) (url : JsString) : Option JsString :=
  (parse url none).map URL.origin

/-- The hop was rewritten to `GET`, or was one without content. -/
structure Hop.Stripped (hop : Hop) : Prop where
  method : hop.init.method = .get
  body : hop.init.body = none
  content : ∀ name ∈ contentHeaders, hop.carries name = false

/-- What a redirect does to a request. -/
structure Redirected (parse : UrlParser) (hop next : Hop) : Prop where
  count : hop.redirects < 20 ∧ next.redirects = hop.redirects + 1
  headers : ∀ name, next.carries name = true → hop.carries name = true
  /-- Where the redirect leads, and what it crosses. -/
  target : ∃ response location u, next.cause = some response ∧
    response.location = some location ∧ isRedirect response.status = true ∧
    parse location (some hop.url) = some u ∧ supportedRedirectUrl u = true ∧ next.url = u.href ∧
    (some u.origin ≠ originOf parse hop.url →
      ∀ name ∈ credentialHeaders, next.carries name = false) ∧
    if rewritesToGet response.status hop.init.method then next.Stripped
    else next.init.method = hop.init.method ∧ next.init.body = hop.init.body

section Chains

variable {parse : UrlParser} {hop next : Hop}

theorem carries_deleteAll_of_mem {names : List JsString} {name : JsString} (h : name ∈ names)
    (headers : Http.Entries) : Http.carries (Http.deleteAll headers names) name = false := by
  rw [Http.carries_deleteAll, List.contains_iff_mem.2 h, Bool.not_true, Bool.and_false]

theorem carries_of_deleteAll {names : List JsString} {name : JsString} {headers : Http.Entries}
    (h : Http.carries (Http.deleteAll headers names) name = true) :
    Http.carries headers name = true := by
  rw [Http.carries_deleteAll, Bool.and_eq_true] at h
  exact h.1

/-- **A turn of the loop.** -/
theorem followRedirect_ok {response : FacilitatorResponse} {location : JsString}
    (hstatus : isRedirect response.status = true) (hlocation : response.location = some location)
    (h : followRedirect parse hop response location = .ok next) : Redirected parse hop next := by
  rw [followRedirect] at h
  split at h
  · cases h
  rename_i hcount
  split at h
  · cases h
  rename_i u hu
  split at h
  · cases h
  rename_i hsupported
  split at h
  · cases h
  rename_i headers hheaders
  split at h
  · cases h
  rename_i current hcurrent
  have horigin : originOf parse hop.url = some current.origin := by rw [originOf, hcurrent]; rfl
  -- The headers behind the first deletion.
  generalize hkept : (if u.origin != current.origin then Http.deleteAll headers credentialHeaders
    else headers) = kept at h
  have hkeeps : ∀ name, Http.carries kept name = true → hop.carries name = true := by
    intro name hname
    rw [Hop.carries, ← Http.carries_ofEntries hheaders]
    rw [← hkept] at hname
    split at hname
    · exact carries_of_deleteAll hname
    · exact hname
  have hcross : some u.origin ≠ originOf parse hop.url →
      ∀ name ∈ credentialHeaders, Http.carries kept name = false := by
    intro hne name hname
    have hdiffers : (u.origin != current.origin) = true := by
      rw [bne_iff_ne]
      exact fun heq => hne (heq ▸ horigin.symm)
    rw [← hkept, if_pos hdiffers]
    exact carries_deleteAll_of_mem hname headers
  cases h
  by_cases hrewrite : rewritesToGet response.status hop.init.method
  · refine ⟨⟨by omega, rfl⟩, fun name hname => ?_, response, location, u, rfl, hlocation, hstatus,
      hu, by simpa using hsupported, rfl, fun hne name hname => ?_, ?_⟩
    · simp only [Hop.carries, hrewrite, if_true] at hname
      exact hkeeps name (carries_of_deleteAll hname)
    · simp only [Hop.carries, hrewrite, if_true]
      rw [Http.carries_deleteAll, hcross hne name hname, Bool.false_and]
    · simp only [hrewrite, if_true]
      exact ⟨rfl, rfl, fun name hname => carries_deleteAll_of_mem hname kept⟩
  · refine ⟨⟨by omega, rfl⟩, fun name hname => ?_, response, location, u, rfl, hlocation, hstatus,
      hu, by simpa using hsupported, rfl, fun hne name hname => ?_, ?_⟩
    · simp only [Hop.carries, hrewrite] at hname
      exact hkeeps name hname
    · simp only [Hop.carries, hrewrite]
      exact hcross hne name hname
    · simp only [hrewrite]
      exact ⟨rfl, rfl⟩

/-- A stripped request stays stripped. -/
theorem Redirected.stripped (h : Redirected parse hop next) (hstripped : hop.Stripped) :
    next.Stripped := by
  obtain ⟨response, location, u, -, -, -, -, -, -, -, hrewrite⟩ := h.target
  split at hrewrite
  · exact hrewrite
  · refine ⟨hrewrite.1.trans hstripped.method, hrewrite.2.trans hstripped.body, ?_⟩
    intro name hname
    rw [Bool.eq_false_iff]
    exact fun hcarries => Bool.eq_false_iff.1 (hstripped.content name hname)
      (h.headers name hcarries)

/-- The hops of an attempt that starts with the given one, latest first. -/
inductive HopChain (parse : UrlParser) (start : Hop) : List Hop → Prop
  | none : HopChain parse start []
  | first : HopChain parse start [start]
  | next {hop next : Hop} {earlier : List Hop} :
      HopChain parse start (hop :: earlier) → Redirected parse hop next →
      HopChain parse start (next :: hop :: earlier)

variable {start : Hop} {hops earlier later : List Hop}

theorem HopChain.tail (h : HopChain parse start (hop :: earlier)) :
    HopChain parse start earlier := by
  cases h with
  | first => exact .none
  | next h _ => exact h

theorem HopChain.suffix (h : HopChain parse start (later ++ hops)) : HopChain parse start hops := by
  induction later with
  | nil => exact h
  | cons hop later ih => exact ih h.tail

theorem HopChain.redirected (h : HopChain parse start (next :: hop :: earlier)) :
    Redirected parse hop next := by
  cases h with
  | next _ h => exact h

/-- The counter of the loop counts the hops. -/
theorem HopChain.length_eq (hstart : start.redirects = 0)
    (h : HopChain parse start (hop :: earlier)) :
    earlier.length = hop.redirects := by
  generalize heq : hop :: earlier = hops at h
  induction h generalizing hop earlier with
  | none => cases heq
  | first =>
      cases heq
      exact hstart.symm
  | next h hnext ih =>
      cases heq
      rw [List.length_cons, ih rfl, hnext.count.2]

/-- An attempt has 21 hops at most. -/
theorem HopChain.length_le (hstart : start.redirects = 0) (h : HopChain parse start hops) :
    hops.length ≤ 21 := by
  cases h with
  | none => exact Nat.zero_le _
  | first => exact Nat.le_of_ble_eq_true rfl
  | next h hnext =>
      have hlength := h.length_eq hstart
      have hcount := hnext.count.1
      simp only [List.length_cons]
      omega

/-- Parsing what a URL prints keeps its origin. -/
def KeepsOrigin (parse : UrlParser) : Prop :=
  ∀ input base u, parse input base = some u → supportedRedirectUrl u = true →
    originOf parse u.href = some u.origin

/-- A hop with credentials, and every hop before it, is at the first origin. -/
theorem HopChain.origin (hparse : KeepsOrigin parse) (h : HopChain parse start (hop :: earlier))
    {name : JsString} (hname : name ∈ credentialHeaders) (hcarries : hop.carries name = true) :
    ∀ hop' ∈ hop :: earlier, originOf parse hop'.url = originOf parse start.url := by
  generalize heq : hop :: earlier = hops at h
  induction h generalizing hop earlier with
  | none => cases heq
  | first =>
      cases heq
      intro hop' hmem
      rw [List.mem_singleton.1 hmem]
  | @next hop next earlier h hnext ih =>
      cases heq
      have hbefore := ih (hnext.headers name hcarries) rfl
      obtain ⟨response, location, u, -, -, -, hu, hsupported, hurl, hcross, -⟩ := hnext.target
      have hsame : some u.origin = originOf parse hop.url := by
        by_contra hne
        exact Bool.eq_false_iff.1 (hcross hne name hname) hcarries
      intro hop' hmem
      rcases List.mem_cons.1 hmem with rfl | hmem
      · rw [hurl, hparse _ _ _ hu hsupported, hsame]
        exact hbefore hop (List.mem_cons_self ..)
      · exact hbefore hop' hmem

/-- No hop behind a stripped one has content. -/
theorem HopChain.stripped (h : HopChain parse start (later ++ hop :: earlier))
    (hstripped : hop.Stripped) : ∀ hop' ∈ later ++ [hop], hop'.Stripped := by
  induction later with
  | nil =>
      intro hop' hmem
      rw [List.nil_append, List.mem_singleton] at hmem
      exact hmem ▸ hstripped
  | cons latest later ih =>
      have hlater := ih h.tail
      intro hop' hmem
      rcases List.mem_cons.1 hmem with rfl | hmem
      · cases later with
        | nil => exact HopChain.redirected h |>.stripped hstripped
        | cons last later =>
            exact HopChain.redirected h |>.stripped (hlater last (List.mem_cons_self ..))
      · exact hlater hop' hmem

end Chains

/-! ## The calls under way -/

/-- What the phase of a call says about its last attempt. -/
def FacilitatorCall.Placed (parse : UrlParser) (url : JsString) (c : FacilitatorCall) : Prop :=
  match c.phase with
  | .headers | .authorizing => c.attempts = []
  | .fetching hop => ∃ hops earlier, c.attempts = hops :: earlier ∧
      HopChain parse (c.start url) (hop :: hops)
  | .transporting hop => ∃ hops earlier, c.attempts = (hop :: hops) :: earlier
  | .cancelling hop response location =>
      isRedirect response.status = true ∧ response.location = some location ∧
        ∃ hops earlier, c.attempts = (hop :: hops) :: earlier
  | _ => True

/-- A call logs chains only. -/
structure FacilitatorCall.Sound (parse : UrlParser) (url : JsString) (c : FacilitatorCall) :
    Prop where
  chains : ∀ hops ∈ c.attempts, HopChain parse (c.start url) hops
  placed : c.Placed parse url

namespace FacilitatorCall

variable {parse : UrlParser} {url : JsString} {c : FacilitatorCall}

theorem Sound.goTo (h : c.Sound parse url) {phase : CallPhase}
    (hphase : (c.goTo phase).Placed parse url) : (c.goTo phase).Sound parse url :=
  ⟨h.chains, hphase⟩

theorem Sound.admitted (h : c.Sound parse url) {stopped : Bool} {next : FacilitatorCall}
    (hnext : stopped = false → next.Sound parse url) :
    (c.admitted stopped next).Sound parse url := by
  rw [FacilitatorCall.admitted]
  split
  · exact h.goTo trivial
  · rename_i hopen
    exact hnext (by simpa using hopen)

theorem Sound.transport (h : c.Sound parse url) {hop : Hop} (hphase : c.phase = .fetching hop) :
    (c.transport hop).Sound parse url := by
  have hplaced := h.placed
  simp only [Placed, hphase] at hplaced
  obtain ⟨hops, earlier, hattempts, hchain⟩ := hplaced
  simp only [FacilitatorCall.transport, hattempts]
  refine ⟨fun hops' hmem => ?_, hops, earlier, rfl⟩
  rcases List.mem_cons.1 hmem with rfl | hmem
  · exact hchain
  · exact h.chains hops' (hattempts ▸ List.mem_cons_of_mem _ hmem)

theorem Sound.receive (h : c.Sound parse url) {hop : Hop} (hphase : c.phase = .transporting hop)
    (response : FacilitatorResponse) : (c.receive hop response).Sound parse url := by
  have hplaced := h.placed
  simp only [Placed, hphase] at hplaced
  rw [FacilitatorCall.receive]
  split
  · rename_i hstatus hlocation
    exact h.goTo ⟨hstatus, hlocation, hplaced⟩
  · exact h.goTo trivial

theorem Sound.read (h : c.Sound parse url) (stopped : Bool) (response : FacilitatorResponse) :
    (c.read stopped response).Sound parse url := by
  rw [FacilitatorCall.read]
  split
  · exact h.goTo trivial
  · split
    · exact h.admitted fun _ => h.goTo trivial
    · exact h.goTo trivial

/-- **A call goes on soundly.** -/
theorem Sound.step (h : c.Sound parse url) (stopped : Bool) (answer : FacilitatorAnswer) :
    (c.step parse url stopped answer).Sound parse url := by
  have hplaced := h.placed
  unfold FacilitatorCall.step
  split
  · rename_i hphase
    simp only [Placed, hphase] at hplaced
    exact h.admitted fun _ => h.goTo hplaced
  · rename_i fields hphase
    simp only [Placed, hphase] at hplaced
    refine ⟨fun hops hmem => ?_, trivial⟩
    rw [hplaced] at hmem
    cases hmem
  · refine h.admitted fun _ => ⟨fun hops hmem => ?_, [], c.attempts, rfl, .first⟩
    rcases List.mem_cons.1 hmem with rfl | hmem
    · exact .none
    · exact h.chains hops hmem
  · rename_i hop hphase
    exact h.admitted fun _ => h.transport hphase
  · rename_i hop response hphase
    exact h.receive hphase response
  · rename_i hop response location hphase
    simp only [Placed, hphase] at hplaced
    obtain ⟨hstatus, hlocation, hops, earlier, hattempts⟩ := hplaced
    split
    · rename_i next hnext
      have hchain := h.chains (hop :: hops) (hattempts ▸ List.mem_cons_self ..)
      exact h.goTo ⟨hop :: hops, earlier, hattempts,
        hchain.next (followRedirect_ok hstatus hlocation hnext)⟩
    · exact h.goTo trivial
  · exact h.read stopped _
  · exact ⟨h.chains, trivial⟩
  all_goals first | exact h.goTo trivial | exact h

theorem Sound.cancelWait (h : c.Sound parse url) : c.cancelWait.Sound parse url := by
  rw [FacilitatorCall.cancelWait]
  split
  · exact h.goTo trivial
  · exact h

theorem sound_begun (request : FacilitatorRequest) : (begun request).Sound parse url :=
  ⟨fun _ hmem => absurd hmem List.not_mem_nil, rfl⟩

/-- A stopped client lets no call send. -/
theorem attempts_step_of_stopped (answer : FacilitatorAnswer) :
    (c.step parse url true answer).attempts = c.attempts := by
  unfold FacilitatorCall.step
  split <;> try rfl
  · rw [FacilitatorCall.receive]
    split <;> rfl
  · split <;> rfl
  · rw [FacilitatorCall.read]
    split
    · rfl
    · split <;> rfl

theorem attempts_cancelWait : c.cancelWait.attempts = c.attempts := by
  rw [FacilitatorCall.cancelWait]
  split <;> rfl

end FacilitatorCall

namespace FacilitatorClient

variable {parse : UrlParser} {url : JsString}

theorem sound_step {c : FacilitatorClient} (h : ∀ call ∈ c.calls, call.Sound parse url)
    (event : Event) : ∀ call ∈ (c.step parse url event).calls, call.Sound parse url := by
  have hcancelled : ∀ call ∈ c.calls.map FacilitatorCall.cancelWait, call.Sound parse url := by
    intro call hmem
    obtain ⟨old, hold, rfl⟩ := List.mem_map.1 hmem
    exact (h old hold).cancelWait
  cases event with
  | begin request =>
      rw [step, begin]
      split
      · exact h
      · intro call hmem
        rcases List.mem_append.1 hmem with hmem | hmem
        · exact h call hmem
        · rw [List.mem_singleton.1 hmem]
          exact FacilitatorCall.sound_begun request
  | answer i reply =>
      rw [step, answer]
      split
      · exact h
      · rename_i call hcall
        intro call' hmem
        rcases List.mem_or_eq_of_mem_set hmem with hmem | rfl
        · exact h call' hmem
        · exact (h call (List.mem_of_getElem? hcall)).step c.stopped reply
  | stopAdmission => exact hcancelled
  | drain => exact hcancelled

theorem sound_after (events : List Event) :
    ∀ call ∈ (after parse url events).calls, call.Sound parse url :=
  Runs.run_invariant' (I := fun c : FacilitatorClient => ∀ call ∈ c.calls, call.Sound parse url)
    (fun _ event h => sound_step h event) events (fun _ hmem => absurd hmem List.not_mem_nil)

/-- What the client has sent, by call and attempt. -/
def sent (c : FacilitatorClient) : List (List (List Hop)) :=
  c.calls.map FacilitatorCall.attempts

/-- Waits that are cancelled have sent nothing. -/
theorem attempts_map_cancelWait (calls : List FacilitatorCall) :
    (calls.map FacilitatorCall.cancelWait).map FacilitatorCall.attempts =
      calls.map FacilitatorCall.attempts := by
  rw [List.map_map]
  exact List.map_congr_left fun _ _ => FacilitatorCall.attempts_cancelWait

/-- A stopped client stays stopped and sends nothing. -/
theorem sent_step_of_stopped {c : FacilitatorClient} (hstopped : c.stopped = true)
    (hlifetime : c.lifetime.stopped = true) (event : Event) :
    (c.step parse url event).stopped = true ∧ (c.step parse url event).lifetime.stopped = true ∧
      (c.step parse url event).sent = c.sent := by
  cases event with
  | begin request => simp [step, begin, hlifetime, hstopped]
  | answer i reply =>
      rw [step, answer]
      split
      · exact ⟨hstopped, hlifetime, rfl⟩
      · rename_i call hcall
        refine ⟨hstopped, ?_, ?_⟩
        · dsimp only
          split
          · exact hlifetime
          · exact hlifetime
        · obtain ⟨hlt, rfl⟩ := List.getElem?_eq_some_iff.1 hcall
          rw [sent, sent, List.map_set, hstopped, FacilitatorCall.attempts_step_of_stopped,
            ← List.getElem_map FacilitatorCall.attempts (h := by simpa using hlt)]
          exact List.set_getElem_self _
  | stopAdmission => exact ⟨rfl, rfl, attempts_map_cancelWait c.calls⟩
  | drain => exact ⟨rfl, rfl, attempts_map_cancelWait c.calls⟩

theorem sent_after_stop (before after' : List Event) {stop : Event}
    (hstop : stop = .stopAdmission ∨ stop = .drain) :
    (after parse url (before ++ stop :: after')).sent = (after parse url before).sent := by
  rw [after, after, Runs.run_append, Runs.run_cons]
  generalize Runs.run (step parse url) fresh before = c
  have hnow : (c.step parse url stop).stopped = true ∧
      (c.step parse url stop).lifetime.stopped = true ∧ (c.step parse url stop).sent = c.sent := by
    rcases hstop with rfl | rfl <;> exact ⟨rfl, rfl, attempts_map_cancelWait c.calls⟩
  have hstep : ∀ (d : FacilitatorClient) (event : Event),
      d.stopped = true ∧ d.lifetime.stopped = true ∧ d.sent = c.sent →
        (d.step parse url event).stopped = true ∧
          (d.step parse url event).lifetime.stopped = true ∧
          (d.step parse url event).sent = c.sent := by
    rintro d event ⟨hstopped, hlifetime, hsent⟩
    obtain ⟨hstopped', hlifetime', hsent'⟩ := sent_step_of_stopped hstopped hlifetime event
    exact ⟨hstopped', hlifetime', hsent'.trans hsent⟩
  exact (Runs.run_invariant' hstep after' hnow).2.2

end FacilitatorClient

/-- **Redirects are contained.**  An attempt has 21 hops at most.  A hop with a credential
header is at the origin of the first URL, as is every hop before it.  Behind a rewrite to
`GET` no hop has a body or content headers; without one the method and the body stay.
Redirects lead to `http` and `https` URLs without credentials, and a stopped client sends
nothing. -/
theorem redirects_contained (parse : UrlParser) (hparse : KeepsOrigin parse) (url : JsString)
    (events : List FacilitatorClient.Event) :
    let client := FacilitatorClient.after parse url events
    (∀ call ∈ client.calls, ∀ hops ∈ call.attempts,
      hops.length ≤ 21 ∧
      (∀ later hop earlier, hops = later ++ hop :: earlier →
        ∀ name ∈ credentialHeaders, hop.carries name = true →
          ∀ hop' ∈ hop :: earlier,
            originOf parse hop'.url = originOf parse (call.start url).url) ∧
      ∀ later next hop earlier, hops = later ++ next :: hop :: earlier →
        ∃ response location u, next.cause = some response ∧
          response.location = some location ∧ isRedirect response.status = true ∧
          parse location (some hop.url) = some u ∧ next.url = u.href ∧
          (u.protocol = js "http:" ∨ u.protocol = js "https:") ∧
          u.username = [] ∧ u.password = [] ∧
          if rewritesToGet response.status hop.init.method then
            ∀ hop' ∈ later ++ [next], hop'.init.method = .get ∧ hop'.init.body = none ∧
              ∀ name ∈ contentHeaders, hop'.carries name = false
          else next.init.method = hop.init.method ∧ next.init.body = hop.init.body) ∧
    ∀ before stop later, events = before ++ stop :: later →
      (stop = .stopAdmission ∨ stop = .drain) →
        client.sent = (FacilitatorClient.after parse url before).sent := by
  intro client
  refine ⟨fun call hcall hops hhops => ?_, ?_⟩
  · have hchain : HopChain parse (call.start url) hops :=
      (FacilitatorClient.sound_after events call hcall).chains hops hhops
    refine ⟨hchain.length_le rfl, ?_, ?_⟩
    · rintro later hop earlier rfl name hname hcarries
      exact hchain.suffix.origin hparse hname hcarries
    · rintro later next hop earlier rfl
      obtain ⟨response, location, u, hcause, hlocation, hstatus, hu, hsupported, hurl, -,
        hrewrite⟩ := hchain.suffix.redirected.target
      simp only [supportedRedirectUrl, Bool.and_eq_true, Bool.or_eq_true, beq_iff_eq,
        List.isEmpty_iff] at hsupported
      refine ⟨response, location, u, hcause, hlocation, hstatus, hu, hurl, hsupported.1.1,
        hsupported.1.2, hsupported.2, ?_⟩
      split
      · rename_i hget
        rw [if_pos hget] at hrewrite
        intro hop' hmem
        have hstripped := hchain.stripped hrewrite hop' hmem
        exact ⟨hstripped.method, hstripped.body, hstripped.content⟩
      · rename_i hkeep
        rwa [if_neg hkeep] at hrewrite
  · rintro before stop later rfl hstop
    exact FacilitatorClient.sent_after_stop before later hstop

/-- The URL of the sample client, and one of another origin. -/
def samplePages : List URL :=
  [⟨js "https:", [], [], [], [], js "https://pay.example", js "https://pay.example/supported"⟩,
    ⟨js "https:", [], [], [], [], js "https://other.example",
      js "https://other.example/supported"⟩]

/-- `new URL` on the sample pages, given in full. -/
def sampleParse : UrlParser := fun input base =>
  let page := fun text => samplePages.find? (·.href == text)
  match base with
  | none => page input
  | some base => (page base).bind fun _ => page input

theorem keepsOrigin_sampleParse : KeepsOrigin sampleParse := by
  intro input base u h _
  have hfind : samplePages.find? (·.href == input) = some u := by
    cases base with
    | none => exact h
    | some base =>
        obtain ⟨_, -, hfind⟩ := Option.bind_eq_some_iff.1 h
        exact hfind
  have hpages : ∀ u ∈ samplePages, originOf sampleParse u.href = some u.origin := by decide
  exact hpages u (List.mem_of_find?_eq_some hfind)

/-- A call whose facilitator redirects it to another origin. -/
def crossing : List FacilitatorClient.Event :=
  [.begin .supported, .answer 0 .done,
    .answer 0 (.authHeaders [(js "Authorization", js "Bearer token")]), .answer 0 .done,
    .answer 0 .done, .answer 0 (.response ⟨302, some (js "https://other.example/supported")⟩),
    .answer 0 .done, .answer 0 .done]

theorem redirects_contained_crossing :
    let client := FacilitatorClient.after sampleParse (js "https://pay.example") crossing
    (∀ call ∈ client.calls, ∀ hops ∈ call.attempts, hops.length ≤ 21) ∧
      client.sent.map (·.map (·.map fun hop => (hop.url, hop.carries (js "authorization")))) =
        [[[(js "https://other.example/supported", false),
          (js "https://pay.example/supported", true)]]] :=
  ⟨fun call hcall hops hhops => ((redirects_contained sampleParse keepsOrigin_sampleParse
    (js "https://pay.example") crossing).1 call hcall hops hhops).1, by decide⟩

end RoundWatch
