import RoundWatch.Foundation.Escapes
import RoundWatch.Foundation.Headers
import RoundWatch.Foundation.Url
import RoundWatch.Observatory.Pipeline

/-!
# The internal namespace

One listener serves the application and the snapshots.  It looks at the path twice, as the
client wrote it and as the URL has it, and gives the application only what is no alias of the
internal namespace.

* `inNamespace`, `classifyPath` — paths, and what the listener makes of them;
* `createObservatoryTransport`, `ObservatoryTransport.respond` — the snapshots;
* `roundWatchFetch` — the listener;
* `Canonical` — the one request that is served;
* `observatory_sealed` — nothing else sees a snapshot, and no alias reaches the application.
-/

namespace RoundWatch.Observatory

open JsText Escapes

def observatoryNamespace : JsString := js "/internal/observatory"

def observatoryRuntimePath : JsString := js "/internal/observatory/runtime"

def maxAuthorizationCharacters : ℕ := 1024

def maxTargetCharacters : ℕ := 8192

def maxPathDecodePasses : ℕ := 4

/-! ## Responses -/

structure HttpResponse where
  status : ℕ
  headers : List (String × String)
  body : JsString
  deriving DecidableEq

/-- `failure`. -/
def failure (status : ℕ) (error : String) : HttpResponse where
  status := status
  headers :=
    [("content-type", "application/json; charset=utf-8"), ("cache-control", "no-store")] ++
      (if status = 401 then [("www-authenticate", "Bearer")] else []) ++
      (if status = 405 then [("allow", "GET")] else [])
  body := ((Plain.object [(js "error", .string (js error))]).stringify).getD []

/-- The response of a listener that is being stopped. -/
def shuttingDown : HttpResponse :=
  ⟨503, [("cache-control", "no-store")], js "Service is shutting down"⟩

/-- Every failure that says nothing but itself. -/
def fixedFailures : List HttpResponse :=
  [shuttingDown, failure 404 "not_found", failure 405 "method_not_allowed",
    failure 401 "unauthorized"]

/-! ## Paths -/

/-- `value.replace(/\/+/g, '/')`. -/
def collapseSlashes : JsString → JsString
  | [] => []
  | u :: rest =>
      if u = 47 ∧ rest.head? = some 47 then collapseSlashes rest else u :: collapseSlashes rest

section Paths

-- `String.prototype.toLowerCase`; nothing here depends on its tables.
variable (toLowerCase : JsString → JsString)

/-- The path with slashes for backslashes, one for many, and small letters. -/
def foldPath (path : JsString) : JsString :=
  toLowerCase (collapseSlashes (path.map fun u => if u = 92 then 47 else u))

/-- `reserved`. -/
def inNamespace (path : JsString) : Bool :=
  foldPath toLowerCase path == observatoryNamespace ||
    (observatoryNamespace ++ [47]).isPrefixOf (foldPath toLowerCase path)

/-- Nothing is left to decode. -/
def hasNoMark (path : JsString) : Bool := !path.contains 37

/-- `classifyPath`. -/
def classifyPath (path : JsString) : Classification :=
  if maxTargetCharacters < path.length then .rejected
  else classify decode (inNamespace toLowerCase) hasNoMark maxPathDecodePasses path

variable {toLowerCase}

/-- **A normal path is in the namespace after no number of decodings.** -/
theorem outside_of_normal {path : JsString} (h : classifyPath toLowerCase path = .normal) (n : ℕ) :
    inNamespace toLowerCase (decode^[n] path) = false := by
  have hsettled : ∀ path, hasNoMark path = true → decode path = path := by
    intro path hpath
    refine decode_eq_self fun hmem => ?_
    have hcontains : path.contains 37 = true := List.contains_iff_mem.2 hmem
    rw [hasNoMark, hcontains] at hpath
    cases hpath
  unfold classifyPath at h
  split at h
  · cases h
  · exact not_bad_of_normal hsettled h n

variable (toLowerCase) in
/-- A path that some number of decodings brings into the namespace. -/
def Aliases (path : JsString) : Prop := ∃ n, inNamespace toLowerCase (decode^[n] path) = true

theorem not_aliases_of_normal {path : JsString} (h : classifyPath toLowerCase path = .normal) :
    ¬ Aliases toLowerCase path := by
  rintro ⟨n, hn⟩
  rw [outside_of_normal h n] at hn
  cases hn

end Paths

def isLetter (u : UInt16) : Bool := (65 ≤ u && u ≤ 90) || (97 ≤ u && u ≤ 122)

/-- A unit of a scheme, behind its first. -/
def isSchemeUnit (u : UInt16) : Bool :=
  isLetter u || (48 ≤ u && u ≤ 57) || u == 43 || u == 46 || u == 45

/-- `target.replace(/^[A-Za-z][A-Za-z0-9+.-]*:\/\/[^/?#]*/, '')`. -/
def stripOrigin (target : JsString) : JsString :=
  let behind := target.dropWhile isSchemeUnit
  if (target.head?.any isLetter) && (js "://").isPrefixOf behind then
    (behind.drop 3).dropWhile fun u => !(u == 47 || u == 63 || u == 35)
  else target

/-- The path of a raw target. -/
def targetPath (target : JsString) : JsString :=
  (stripOrigin target).takeWhile fun u => !(u == 63 || u == 35)

/-! ## The transport -/

structure ObservatoryTransportOptions where
  token : Option JsString
  /-- What the getter does, if there is one. -/
  runtimeSnapshot : Option Outcome

def isHexDigit (u : UInt16) : Bool := (digitValue? 16 u).isSome

/-- `/^[0-9a-fA-F]{64}$/`. -/
def isToken (token : JsString) : Bool := token.length == 64 && token.all isHexDigit

structure ObservatoryTransport (Digest : Type) where
  expectedDigest : Digest
  runtimeSnapshot : Outcome

/-- A request, with the target of the adapter if there is one. -/
structure IncomingRequest where
  method : JsString
  url : JsString
  authorization : Option JsString
  rawTarget : Option JsString

/-- What `/^Bearer ([0-9a-fA-F]+)$/i` finds. -/
def bearer? (authorization : JsString) : Option JsString :=
  let credential := authorization.drop 7
  if Http.lower (authorization.take 7) = js "bearer " ∧ credential ≠ [] ∧
      credential.all isHexDigit = true then
    some credential
  else none

section Transport

variable {Digest : Type} [DecidableEq Digest]

-- SHA-256.
variable (sha256 : List UInt8 → Digest)

/-- `digest`. -/
def digest (value : JsString) : Digest := sha256 (utf8Bytes value)

/-- `createObservatoryTransport`. -/
def createObservatoryTransport (options : ObservatoryTransportOptions) :
    Option (ObservatoryTransport Digest) :=
  match options.token, options.runtimeSnapshot with
  | some token, some runtimeSnapshot =>
      if isToken token then some ⟨digest sha256 token, runtimeSnapshot⟩ else none
  | _, _ => none

/-- What the transport answers; `none` is a throw. -/
def ObservatoryTransport.respond (transport : ObservatoryTransport Digest)
    (request : IncomingRequest) (path : JsString) : Option HttpResponse :=
  if path ≠ observatoryRuntimePath then some (failure 404 "not_found")
  else if request.method ≠ js "GET" then some (failure 405 "method_not_allowed")
  else if request.authorization.any fun a => maxAuthorizationCharacters < a.length then
    some (failure 401 "unauthorized")
  else
    let found := bearer? (request.authorization.getD [])
    let isMatch := decide (transport.expectedDigest = digest sha256 (found.getD []))
    if found.isNone || !isMatch then some (failure 401 "unauthorized")
    else
      (transport.runtimeSnapshot.bind serializeObservatoryRuntime).map fun text =>
        ⟨200, [("content-type", "application/json; charset=utf-8"), ("cache-control", "no-store")],
          text⟩

/-! ## The listener -/

/-- What the listener does with a request. -/
inductive Answer where
  /-- The application is called with it. -/
  | operational
  | response (r : HttpResponse)
  deriving DecidableEq

-- The pathname of the URL of a request, which always parses.
variable (pathname : JsString → JsString)

variable (toLowerCase : JsString → JsString)

/-- The path as the client wrote it. -/
def IncomingRequest.rawPath (request : IncomingRequest) : JsString :=
  match request.rawTarget with
  | none => pathname request.url
  | some target => targetPath target

/-- `createRoundWatchHttpFetch`, on a request that meets a running or a stopped lifetime. -/
def roundWatchFetch (options : ObservatoryTransportOptions) (stopped : Bool)
    (request : IncomingRequest) : Answer :=
  let transport := createObservatoryTransport sha256 options
  if stopped then .response shuttingDown
  else if maxTargetCharacters < request.url.length ∨
      request.rawTarget.any (fun target => maxTargetCharacters < target.length) then
    .response (failure 404 "not_found")
  else
    let path := pathname request.url
    let rawPath := request.rawPath pathname
    let rawClassification := classifyPath toLowerCase rawPath
    if rawClassification = .rejected then .response (failure 404 "not_found")
    else
      let classification := classifyPath toLowerCase path
      if classification = .rejected then .response (failure 404 "not_found")
      else if rawClassification = .normal ∧ classification = .normal then .operational
      else
        match transport with
        | none => .response (failure 404 "not_found")
        | some transport =>
            if rawPath ≠ observatoryRuntimePath then .response (failure 404 "not_found")
            else
              .response ((transport.respond sha256 request path).getD
                (failure 500 "observatory_unavailable"))

/-! ## The one request -/

/-- The request that is served: a read of the one path, as it was written and as it was
parsed, with the token. -/
structure Canonical (options : ObservatoryTransportOptions) (request : IncomingRequest) : Prop where
  method : request.method = js "GET"
  rawPath : request.rawPath pathname = observatoryRuntimePath
  path : pathname request.url = observatoryRuntimePath
  bearer : ∃ token a, options.token = some token ∧ request.authorization = some a ∧
    bearer? a = some token

/-- The same options, with another snapshot behind the getter. -/
def ObservatoryTransportOptions.withSnapshot (options : ObservatoryTransportOptions)
    (snapshot : Outcome) : ObservatoryTransportOptions :=
  { options with runtimeSnapshot := options.runtimeSnapshot.map fun _ => snapshot }

variable {sha256 pathname toLowerCase}

theorem wellFormed_of_hex {s : JsString} (h : s.all isHexDigit = true) : WellFormed s := by
  refine wellFormed_of_plain ?_
  intro u hu
  have hdigit : isHexDigit u = true := List.all_eq_true.1 h u hu
  rw [UInt16.lt_iff_toNat_lt]
  unfold isHexDigit digitValue? at hdigit
  simp only [Bool.and_eq_true, decide_eq_true_eq] at hdigit
  show u.toNat < 55296
  split_ifs at hdigit with hdecimal hlower hupper hvalue
  all_goals first | omega | cases hdigit

omit [DecidableEq Digest] in
/-- Two texts of hexadecimal digits with one digest are one text. -/
theorem eq_of_digest_eq (hsha : Function.Injective sha256) {s t : JsString}
    (hs : s.all isHexDigit = true) (ht : t.all isHexDigit = true)
    (h : digest sha256 s = digest sha256 t) : s = t :=
  Url.eq_of_utf8Bytes_eq (wellFormed_of_hex hs) (wellFormed_of_hex ht) (hsha h)

theorem bearer?_eq_some {a credential : JsString} (h : bearer? a = some credential) :
    credential.all isHexDigit = true := by
  unfold bearer? at h
  simp only at h
  split at h
  · next hshape =>
    cases h
    exact hshape.2.2
  · cases h

omit [DecidableEq Digest] in
theorem createObservatoryTransport_eq_some {options : ObservatoryTransportOptions}
    {transport : ObservatoryTransport Digest}
    (h : createObservatoryTransport sha256 options = some transport) :
    ∃ token, options.token = some token ∧ isToken token = true ∧
      transport.expectedDigest = digest sha256 token ∧
      options.runtimeSnapshot = some transport.runtimeSnapshot := by
  unfold createObservatoryTransport at h
  split at h
  · next token snapshot htoken hsnapshot =>
    split at h
    · next hhex =>
      cases h
      exact ⟨token, htoken, hhex, rfl, hsnapshot⟩
    · cases h
  · cases h

/-- The transport knows the token, and fails in a fixed way without it. -/
theorem respond_cases (hsha : Function.Injective sha256) {options : ObservatoryTransportOptions}
    {transport : ObservatoryTransport Digest}
    (htransport : createObservatoryTransport sha256 options = some transport)
    (request : IncomingRequest) (path : JsString) :
    (∃ f ∈ fixedFailures, ∀ snapshot : Outcome,
        ({ transport with runtimeSnapshot := snapshot }).respond sha256 request path = some f) ∨
      path = observatoryRuntimePath ∧ request.method = js "GET" ∧
        ∃ token a, options.token = some token ∧ request.authorization = some a ∧
          bearer? a = some token := by
  obtain ⟨token, htoken, hhex, hdigest, -⟩ := createObservatoryTransport_eq_some htransport
  by_cases hpath : path = observatoryRuntimePath
  case neg =>
    refine Or.inl ⟨failure 404 "not_found", by simp [fixedFailures], ?_⟩
    intro snapshot
    rw [ObservatoryTransport.respond, if_pos hpath]
  by_cases hmethod : request.method = js "GET"
  case neg =>
    refine Or.inl ⟨failure 405 "method_not_allowed", by simp [fixedFailures], ?_⟩
    intro snapshot
    rw [ObservatoryTransport.respond, if_neg (not_not.2 hpath), if_pos hmethod]
  have hunauthorized : failure 401 "unauthorized" ∈ fixedFailures := by simp [fixedFailures]
  cases hlong : request.authorization.any
      fun a => decide (maxAuthorizationCharacters < a.length) with
  | true =>
    refine Or.inl ⟨_, hunauthorized, ?_⟩
    intro snapshot
    rw [ObservatoryTransport.respond, if_neg (not_not.2 hpath), if_neg (not_not.2 hmethod),
      if_pos hlong]
  | false =>
    have hrest (snapshot : Outcome) :
        ({ transport with runtimeSnapshot := snapshot }).respond sha256 request path =
          if (bearer? (request.authorization.getD [])).isNone ||
              !decide (transport.expectedDigest =
                digest sha256 ((bearer? (request.authorization.getD [])).getD [])) then
            some (failure 401 "unauthorized")
          else
            (snapshot.bind serializeObservatoryRuntime).map fun text =>
              ⟨200, [("content-type", "application/json; charset=utf-8"),
                ("cache-control", "no-store")], text⟩ := by
      rw [ObservatoryTransport.respond, if_neg (not_not.2 hpath), if_neg (not_not.2 hmethod),
        if_neg (by simp [hlong])]
    cases hfound : bearer? (request.authorization.getD []) with
    | none =>
      refine Or.inl ⟨_, hunauthorized, ?_⟩
      intro snapshot
      rw [hrest, hfound]
      rfl
    | some credential =>
      by_cases hsame : transport.expectedDigest = digest sha256 credential
      · obtain ⟨a, ha⟩ : ∃ a, request.authorization = some a := by
          cases ha : request.authorization with
          | none =>
            rw [ha] at hfound
            cases hfound
          | some a => exact ⟨a, rfl⟩
        rw [ha, Option.getD_some] at hfound
        have htokenHex : token.all isHexDigit = true := (Bool.and_eq_true _ _ ▸ hhex).2
        have heq : token = credential :=
          eq_of_digest_eq hsha htokenHex (bearer?_eq_some hfound) (hdigest.symm.trans hsame)
        subst heq
        exact Or.inr ⟨hpath, hmethod, token, a, htoken, ha, hfound⟩
      · refine Or.inl ⟨_, hunauthorized, ?_⟩
        intro snapshot
        rw [hrest, hfound]
        simp [hsame]

/-! ## The seal -/

omit [DecidableEq Digest] in
theorem createObservatoryTransport_withSnapshot (options : ObservatoryTransportOptions)
    (snapshot : Outcome) :
    createObservatoryTransport sha256 (options.withSnapshot snapshot) =
      (createObservatoryTransport sha256 options).map fun transport =>
        { transport with runtimeSnapshot := snapshot } := by
  obtain ⟨token, getter⟩ := options
  cases token with
  | none => rfl
  | some token =>
    cases getter with
    | none => rfl
    | some outcome =>
      cases hhex : isToken token <;>
        simp [createObservatoryTransport, ObservatoryTransportOptions.withSnapshot, hhex]

/-- What a listener does, whatever snapshot there is. -/
theorem roundWatchFetch_cases (hsha : Function.Injective sha256)
    (options : ObservatoryTransportOptions) (stopped : Bool) (request : IncomingRequest) :
    (classifyPath toLowerCase (request.rawPath pathname) = .normal ∧
        classifyPath toLowerCase (pathname request.url) = .normal ∧ ∀ snapshot : Outcome,
        roundWatchFetch sha256 pathname toLowerCase (options.withSnapshot snapshot) stopped request =
          .operational) ∨
      (∃ f ∈ fixedFailures, ∀ snapshot : Outcome,
        roundWatchFetch sha256 pathname toLowerCase (options.withSnapshot snapshot) stopped request =
          .response f) ∨
      (Canonical pathname options request ∧ ∀ snapshot : Outcome, ∃ r,
        roundWatchFetch sha256 pathname toLowerCase (options.withSnapshot snapshot) stopped request =
          .response r) := by
  have hnotFound : failure 404 "not_found" ∈ fixedFailures := by simp [fixedFailures]
  by_cases hstopped : stopped = true
  · refine Or.inr (Or.inl ⟨shuttingDown, by simp [fixedFailures], ?_⟩)
    intro snapshot
    rw [roundWatchFetch, if_pos hstopped]
  by_cases hlong : maxTargetCharacters < request.url.length ∨
      request.rawTarget.any (fun target => maxTargetCharacters < target.length) = true
  · refine Or.inr (Or.inl ⟨_, hnotFound, ?_⟩)
    intro snapshot
    rw [roundWatchFetch, if_neg hstopped, if_pos hlong]
  by_cases hraw : classifyPath toLowerCase (request.rawPath pathname) = .rejected
  · refine Or.inr (Or.inl ⟨_, hnotFound, ?_⟩)
    intro snapshot
    rw [roundWatchFetch, if_neg hstopped, if_neg hlong]
    exact if_pos hraw
  by_cases hpath : classifyPath toLowerCase (pathname request.url) = .rejected
  · refine Or.inr (Or.inl ⟨_, hnotFound, ?_⟩)
    intro snapshot
    rw [roundWatchFetch, if_neg hstopped, if_neg hlong]
    exact (if_neg hraw).trans (if_pos hpath)
  by_cases hnormal : classifyPath toLowerCase (request.rawPath pathname) = .normal ∧
      classifyPath toLowerCase (pathname request.url) = .normal
  · refine Or.inl ⟨hnormal.1, hnormal.2, ?_⟩
    intro snapshot
    rw [roundWatchFetch, if_neg hstopped, if_neg hlong]
    exact (if_neg hraw).trans ((if_neg hpath).trans (if_pos hnormal))
  have hrest (snapshot : Outcome) :
      roundWatchFetch sha256 pathname toLowerCase (options.withSnapshot snapshot) stopped request =
        match createObservatoryTransport sha256 (options.withSnapshot snapshot) with
        | none => .response (failure 404 "not_found")
        | some transport =>
            if request.rawPath pathname ≠ observatoryRuntimePath then
              .response (failure 404 "not_found")
            else
              .response ((transport.respond sha256 request (pathname request.url)).getD
                (failure 500 "observatory_unavailable")) := by
    rw [roundWatchFetch, if_neg hstopped, if_neg hlong]
    exact (if_neg hraw).trans ((if_neg hpath).trans (if_neg hnormal))
  cases htransport : createObservatoryTransport sha256 options with
  | none =>
    refine Or.inr (Or.inl ⟨_, hnotFound, ?_⟩)
    intro snapshot
    rw [hrest, createObservatoryTransport_withSnapshot, htransport]
    rfl
  | some transport =>
    by_cases hwritten : request.rawPath pathname = observatoryRuntimePath
    case neg =>
      refine Or.inr (Or.inl ⟨_, hnotFound, ?_⟩)
      intro snapshot
      rw [hrest, createObservatoryTransport_withSnapshot, htransport]
      exact if_pos hwritten
    obtain ⟨f, hf, hfixed⟩ | ⟨hsame, hmethod, hbearer⟩ :=
      respond_cases hsha htransport request (pathname request.url)
    · refine Or.inr (Or.inl ⟨f, hf, ?_⟩)
      intro snapshot
      rw [hrest, createObservatoryTransport_withSnapshot, htransport]
      simp only [Option.map_some, hfixed, if_neg (not_not.2 hwritten), Option.getD_some]
    · refine Or.inr (Or.inr ⟨⟨hmethod, hwritten, hsame, hbearer⟩, ?_⟩)
      intro snapshot
      rw [hrest, createObservatoryTransport_withSnapshot, htransport]
      exact ⟨_, if_neg (not_not.2 hwritten)⟩

theorem status_fixedFailures {f : HttpResponse} (h : f ∈ fixedFailures) : f.status ≠ 200 := by
  simp only [fixedFailures, List.mem_cons, List.not_mem_nil, or_false] at h
  obtain rfl | rfl | rfl | rfl := h <;> decide

theorem ObservatoryTransportOptions.exists_withSnapshot (options : ObservatoryTransportOptions) :
    ∃ snapshot, options.withSnapshot snapshot = options := by
  obtain ⟨token, getter⟩ := options
  cases getter with
  | none => exact ⟨none, rfl⟩
  | some snapshot => exact ⟨snapshot, rfl⟩

/-- **The namespace is sealed.**  The application sees no alias of it, only the canonical
request sees runtime data, and everything else gets a failure that no snapshot changes. -/
theorem observatory_sealed (hsha : Function.Injective sha256)
    (pathname toLowerCase : JsString → JsString) (options : ObservatoryTransportOptions)
    (stopped : Bool) (request : IncomingRequest) :
    let answer := fun options =>
      roundWatchFetch sha256 pathname toLowerCase options stopped request
    let rawPath := request.rawPath pathname
    let path := pathname request.url
    (answer options = .operational → ¬ Aliases toLowerCase rawPath ∧ ¬ Aliases toLowerCase path) ∧
      (∀ r, answer options = .response r → r.status = 200 → Canonical pathname options request) ∧
      (∀ snapshot snapshot',
        answer (options.withSnapshot snapshot) ≠ answer (options.withSnapshot snapshot') →
        Canonical pathname options request) ∧
      (Aliases toLowerCase rawPath ∨ Aliases toLowerCase path →
        ¬ Canonical pathname options request →
        ∃ f ∈ fixedFailures, ∀ snapshot, answer (options.withSnapshot snapshot) = .response f) := by
  intro answer rawPath path
  obtain ⟨own, hown⟩ := options.exists_withSnapshot
  obtain ⟨hraw, hpath, hoperational⟩ | ⟨f, hf, hfixed⟩ | ⟨hcanonical, hresponse⟩ :=
    @roundWatchFetch_cases _ _ sha256 pathname toLowerCase hsha options stopped request
  · have hrawOutside := not_aliases_of_normal hraw
    have hpathOutside := not_aliases_of_normal hpath
    refine ⟨fun _ => ⟨hrawOutside, hpathOutside⟩, ?_, ?_, ?_⟩
    · intro r h
      have howned := hoperational own
      rw [hown] at howned
      exact absurd (h.symm.trans howned) (by simp)
    · intro snapshot snapshot' hne
      exact absurd ((hoperational snapshot).trans (hoperational snapshot').symm) hne
    · rintro (halias | halias)
      · exact absurd halias hrawOutside
      · exact absurd halias hpathOutside
  · have howned : answer options = .response f := by
      have h := hfixed own
      rwa [hown] at h
    refine ⟨?_, ?_, ?_, fun _ _ => ⟨f, hf, hfixed⟩⟩
    · intro h
      rw [howned] at h
      cases h
    · rintro r h hstatus
      rw [howned] at h
      cases h
      exact absurd hstatus (status_fixedFailures hf)
    · intro snapshot snapshot' hne
      exact absurd ((hfixed snapshot).trans (hfixed snapshot').symm) hne
  · refine ⟨?_, fun _ _ _ => hcanonical, fun _ _ _ => hcanonical, ?_⟩
    · intro h
      obtain ⟨r, hr⟩ := hresponse own
      rw [hown] at hr
      exact absurd (h.symm.trans hr) (by simp)
    · intro _ hnot
      exact absurd hcanonical hnot

/-! ## What the canonical request gets -/

theorem length_of_bearer? {a token : JsString} (h : bearer? a = some token)
    (htoken : isToken token = true) : a.length = 71 := by
  unfold bearer? at h
  simp only at h
  split at h
  · cases h
    have hlength : (a.drop 7).length = 64 := by
      rw [isToken, Bool.and_eq_true, beq_iff_eq] at htoken
      exact htoken.1
    rw [List.length_drop] at hlength
    omega
  · cases h

theorem classifyPath_runtimePath
    (hlower : toLowerCase observatoryRuntimePath = observatoryRuntimePath) :
    classifyPath toLowerCase observatoryRuntimePath = .reserved := by
  have hfold : foldPath toLowerCase observatoryRuntimePath = observatoryRuntimePath := by
    have hplain : collapseSlashes (observatoryRuntimePath.map fun u => if u = 92 then 47 else u) =
        observatoryRuntimePath := by decide
    rw [foldPath, hplain, hlower]
  have hreserved : inNamespace toLowerCase observatoryRuntimePath = true := by
    rw [inNamespace, hfold]
    decide
  rw [classifyPath, if_neg (by decide), classify_of_bad hreserved]

/-- **The canonical request is served**, where the getter has a snapshot that has a text. -/
theorem roundWatchFetch_canonical {options : ObservatoryTransportOptions}
    {request : IncomingRequest} (h : Canonical pathname options request)
    (htoken : ∀ token, options.token = some token → isToken token = true)
    (hlower : toLowerCase observatoryRuntimePath = observatoryRuntimePath)
    (hurl : request.url.length ≤ maxTargetCharacters)
    (htarget : ∀ target, request.rawTarget = some target → target.length ≤ maxTargetCharacters)
    {snapshot : Plain} {text : JsString} (hsnapshot : options.runtimeSnapshot = some (some snapshot))
    (htext : serializeObservatoryRuntime snapshot = some text) :
    roundWatchFetch sha256 pathname toLowerCase options false request =
      .response ⟨200, [("content-type", "application/json; charset=utf-8"),
        ("cache-control", "no-store")], text⟩ := by
  obtain ⟨token, a, hoption, hauthorization, hbearer⟩ := h.bearer
  have hhex := htoken token hoption
  have htransport : createObservatoryTransport sha256 options =
      some ⟨digest sha256 token, some snapshot⟩ := by
    rw [createObservatoryTransport, hoption, hsnapshot]
    exact if_pos hhex
  have hresponse : (ObservatoryTransport.mk (digest sha256 token) (some snapshot)).respond sha256
      request observatoryRuntimePath = some ⟨200, [("content-type",
        "application/json; charset=utf-8"), ("cache-control", "no-store")], text⟩ := by
    have hshort : ¬ maxAuthorizationCharacters < a.length := by
      rw [length_of_bearer? hbearer hhex]
      decide
    rw [ObservatoryTransport.respond, if_neg (by simp), if_neg (not_not.2 h.method),
      hauthorization, Option.any_some, if_neg (by simpa using hshort), Option.getD_some, hbearer]
    simp [htext]
  have hsmall : ¬ (maxTargetCharacters < request.url.length ∨
      request.rawTarget.any (fun target => maxTargetCharacters < target.length) = true) := by
    rintro (hlong | hlong)
    · omega
    · obtain ⟨target, hraw, hlong⟩ := (Option.any_eq_true _ _).1 hlong
      have hle := htarget target hraw
      have hlt := of_decide_eq_true hlong
      omega
  have hreserved := classifyPath_runtimePath hlower
  rw [roundWatchFetch, if_neg (by simp), if_neg hsmall]
  simp only [h.rawPath, h.path, hreserved, htransport]
  simp [hresponse]

/-- **A snapshot after any history reaches whoever may read it.** -/
theorem canonical_reads_snapshot {sources : ObservatoryRuntimeSources}
    {processEpoch : Option JsString} (hsources : sources.Valid processEpoch)
    (es : List ObservatoryEvent) {reads : ReadOutcomes} (hclock : reads.ClockValid)
    {options : ObservatoryTransportOptions} {request : IncomingRequest}
    (h : Canonical pathname options request)
    (htoken : ∀ token, options.token = some token → isToken token = true)
    (hlower : toLowerCase observatoryRuntimePath = observatoryRuntimePath)
    (hurl : request.url.length ≤ maxTargetCharacters)
    (htarget : ∀ target, request.rawTarget = some target → target.length ≤ maxTargetCharacters)
    (hgetter : options.runtimeSnapshot = some ((buildSnapshot sources processEpoch
      (reads.of (Producers.after es))).map ObservatoryRuntime.toPlain)) :
    ∃ snapshot text headers,
      buildSnapshot sources processEpoch (reads.of (Producers.after es)) = some snapshot ∧
      roundWatchFetch sha256 pathname toLowerCase options false request =
        .response ⟨200, headers, text⟩ ∧
      Plain.parse text = some snapshot.toPlain.unsignZeros := by
  have hwired : (reads.of (Producers.after es)).ClockValid := hclock
  obtain ⟨snapshot, hbuild⟩ := buildSnapshot_of_clock hwired sources processEpoch
  obtain ⟨text, htext, hparse⟩ := exists_serialized (buildSnapshot_serializable hsources hbuild)
  rw [hbuild, Option.map_some] at hgetter
  exact ⟨snapshot, text, _, hbuild,
    roundWatchFetch_canonical h htoken hlower hurl htarget hgetter htext, hparse⟩

/-! ## An alias -/

/-- The path of an absolute URL that is written plainly: what stands behind the authority, up
to a query or a fragment. -/
def pathBehindAuthority (url : JsString) : JsString :=
  (((url.dropWhile (· ≠ 47)).drop 2).dropWhile (· ≠ 47)).takeWhile fun u => u ≠ 63 && u ≠ 35

/-- An encoded letter in an encoded mark, in front of a path that the URL makes harmless. -/
def aliasRequest : IncomingRequest :=
  ⟨js "GET", js "http://127.0.0.1:3000/ready", none,
    some (js "/%2569nternal/observatory/../../ready")⟩

example : pathBehindAuthority aliasRequest.url = js "/ready" := by decide

def aliasOptions : ObservatoryTransportOptions := ⟨some (List.replicate 64 97), some none⟩

/-- No snapshot changes what it gets. -/
theorem observatory_sealed_alias :
    ∃ f ∈ fixedFailures, ∀ snapshot, roundWatchFetch id pathBehindAuthority Http.lower
      (aliasOptions.withSnapshot snapshot) false aliasRequest = .response f := by
  have halias : Aliases Http.lower (aliasRequest.rawPath pathBehindAuthority) := ⟨2, by decide⟩
  have hother : ¬ Canonical pathBehindAuthority aliasOptions aliasRequest := fun h =>
    absurd h.path (by decide)
  exact (@observatory_sealed (List UInt8) _ id Function.injective_id pathBehindAuthority Http.lower
    aliasOptions false aliasRequest).2.2.2 (Or.inl halias) hother

end Transport

end RoundWatch.Observatory
