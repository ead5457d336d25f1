import RoundWatch.App.McpServer

/-!
# What the MCP endpoint answers

A client of JSON-RPC over HTTP may rely on the shape of every answer: a request gets one message
with its own id, a notification gets no message at all.  A proxy in front of the endpoint routes
by the headers of a modern client, so what they say has to be what the server then does.

* `Conforms` — the answers that a client may rely on;
* `ModernCall`, `LegacyCall` — the two ways in which the signals of a message agree;
* `Serves` — a message is carried out exactly if its signals agree;
* `mcp_answers` — so it is, and every answer conforms.
-/

namespace RoundWatch

open JsText Checks Mcp

/-! ## Replies -/

/-- `-32601`, the code of a method that is not there. -/
def methodNotFound : ℤ := -32601

/-- The methods that are there. -/
def knownMethods : List JsString :=
  [js "server/discover", js "initialize", js "ping", js "tools/list", js "tools/call"]

/-- A reply to a method whose status says what its payload is; that the method is not there
is said of all the others and of them alone. -/
inductive Reply.Fits (method : JsString) : Reply → Prop
  | result (doc : JsonDoc ℤ) (hknown : method ∈ knownMethods) : Fits method (200, .result doc)
  | unknownMethod (e : JsonRpcError) (hunknown : method ∉ knownMethods)
      (hcode : e.code = methodNotFound) : Fits method (404, .error e)
  | badRequest (e : JsonRpcError) (hknown : method ∈ knownMethods)
      (hcode : e.code ≠ methodNotFound) : Fits method (400, .error e)

/-- The arguments of `roundwatch.get_watch` name a watch that is there, by an id that no URL can
hold. -/
def Unencodable (store : Store) (args : List (JsString × Json)) : Prop :=
  ∃ watchId watch, getWatchArgument args = .ok watchId ∧ store.getWatch watchId = some watch ∧
    ¬ WellFormed watchId

/-- A call of the tool with such arguments. -/
structure Throws (store : Store) (e : Envelope) : Prop where
  request : e.id ≠ none
  method : e.method = js "tools/call"
  tool : e.toolName = some (js "roundwatch.get_watch")
  arguments : ∃ args, (e.params.bind fun params => Json.lookup params (js "arguments")) =
    some (.obj args) ∧ Unencodable store args

section Replies

variable {deps : McpDependencies}

theorem call_known : js "tools/call" ∈ knownMethods := by decide

theorem fits_toolSuccess (content : JsonDoc ℤ) (modern : Bool) :
    Reply.Fits (js "tools/call") (toolSuccess content modern) := .result _ call_known

theorem fits_toolError (message : JsString) (modern : Bool) :
    Reply.Fits (js "tools/call") (toolError message modern) := .result _ call_known

theorem fits_refusal {method : JsString} {code : ℤ} (message : String)
    (hknown : method ∈ knownMethods) (hcode : code ≠ methodNotFound) :
    Reply.Fits method (badRequest (refusal code message)) := .badRequest _ hknown hcode

/-- A call that gives a fitting reply does not throw. -/
theorem fits_some {method : JsString} {r : Reply} {thrown : Prop} (h : Reply.Fits method r) :
    (∀ reply, some r = some reply → Reply.Fits method reply) ∧ (some r = none → thrown) := by
  refine ⟨fun reply heq => ?_, fun heq => by cases heq⟩
  rw [← Option.some.inj heq]
  exact h

theorem shownWatch_eq_none {watchId : JsString} {watch : WatchRow}
    (h : shownWatch deps watchId watch = none) : ¬ WellFormed watchId := by
  intro hwell
  have hencoded : toWellFormed watchId = watchId := hwell
  rw [shownWatch, encodeURIComponent, if_pos hencoded] at h
  cases h

/-- A tool either answers or throws on the id of a watch that it has found. -/
theorem callTool_fits (deps : McpDependencies) (modern : Bool) (name : JsString)
    (args : List (JsString × Json)) :
    (∀ reply, callTool deps name args modern = some reply →
      Reply.Fits (js "tools/call") reply) ∧
      (callTool deps name args modern = none →
        name = js "roundwatch.get_watch" ∧ Unencodable deps.store args) := by
  rw [callTool.eq_def]
  split
  · -- `roundwatch.service_info`
    refine fits_some ?_
    split
    · exact fits_toolSuccess _ _
    · exact fits_refusal _ call_known (by decide)
  split
  · -- `roundwatch.prepare_watch`
    refine fits_some ?_
    split
    · exact fits_toolError _ _
    · exact fits_toolSuccess _ _
  split
  · -- `roundwatch.prepare_recovery`
    refine fits_some ?_
    split
    · exact fits_toolError _ _
    · exact fits_toolSuccess _ _
  split
  · -- `roundwatch.get_watch`
    rename_i hname
    cases hargument : getWatchArgument args with
    | error message =>
        exact fits_some (fits_refusal _ call_known (by decide))
    | ok watchId =>
        cases hwatch : deps.store.getWatch watchId with
        | none =>
            simp only [hwatch]
            exact fits_some (fits_toolError _ _)
        | some watch =>
            simp only [hwatch, Option.map_eq_some_iff, Option.map_eq_none_iff]
            constructor
            · rintro reply ⟨content, -, rfl⟩
              exact fits_toolSuccess _ _
            · exact fun h => ⟨hname, watchId, watch, hargument, hwatch, shownWatch_eq_none h⟩
  · exact fits_some (.badRequest _ call_known (show (-32602 : ℤ) ≠ methodNotFound by decide))

theorem callToolMethod_fits (deps : McpDependencies) (modern : Bool) (e : Envelope) :
    (∀ reply, callToolMethod deps e modern = some reply → Reply.Fits (js "tools/call") reply) ∧
      (callToolMethod deps e modern = none →
        e.toolName = some (js "roundwatch.get_watch") ∧
          ∃ args, (e.params.bind fun params => Json.lookup params (js "arguments")) =
            some (.obj args) ∧ Unencodable deps.store args) := by
  have hinvalid (message : String) :
      Reply.Fits (js "tools/call") (badRequest (refusal (-32602) message)) :=
    fits_refusal message call_known (by decide)
  rw [callToolMethod]
  split
  · exact fits_some (hinvalid _)
  rename_i name hname
  split
  · exact fits_some (hinvalid _)
  split
  · obtain ⟨hfits, hthrow⟩ := callTool_fits deps modern name []
    refine ⟨hfits, fun h => ?_⟩
    obtain ⟨-, watchId, watch, hargument, -⟩ := hthrow h
    cases hargument
  · rename_i args hargs
    obtain ⟨hfits, hthrow⟩ := callTool_fits deps modern name args
    refine ⟨hfits, fun h => ?_⟩
    obtain ⟨rfl, hunencodable⟩ := hthrow h
    exact ⟨hname, args, hargs, hunencodable⟩
  · exact fits_some (hinvalid _)

/-- One case for each method. -/
theorem callMethod_fits (deps : McpDependencies) (modern : Bool) (e : Envelope)
    (hid : e.id ≠ none) :
    (∀ reply, callMethod deps e modern = some reply → Reply.Fits e.method reply) ∧
      (callMethod deps e modern = none → Throws deps.store e) := by
  have hknown {method : JsString} (heq : e.method = method) (hmem : method ∈ knownMethods) :
      e.method ∈ knownMethods := heq ▸ hmem
  rw [callMethod]
  split
  · exact fits_some (.result _ (hknown ‹_› (by decide)))
  split
  · -- `initialize`
    have hinitialize := hknown ‹_› (by decide)
    refine fits_some ?_
    split
    · split
      · exact .result _ hinitialize
      · exact fits_refusal _ hinitialize (by decide)
    · exact fits_refusal _ hinitialize (by decide)
  split
  · exact fits_some (.result _ (hknown ‹_› (by decide)))
  split
  · exact fits_some (.result _ (hknown ‹_› (by decide)))
  split
  · rename_i hcall
    obtain ⟨hfits, hthrow⟩ := callToolMethod_fits deps modern e
    rw [hcall]
    refine ⟨hfits, fun h => ?_⟩
    obtain ⟨htool, harguments⟩ := hthrow h
    exact ⟨hid, hcall, htool, harguments⟩
  · rename_i hdiscover hinitialize hping hlist hcall
    refine fits_some (.unknownMethod _ ?_ rfl)
    simp only [knownMethods, List.mem_cons, List.not_mem_nil, or_false, not_or]
    exact ⟨hdiscover, hinitialize, hping, hlist, hcall⟩

end Replies

/-- The message that a request brings. -/
def McpRequest.envelope (request : McpRequest) : Option Envelope :=
  match request.body with
  | .ok body => (asObject (some body)).bind readEnvelope
  | .error _ => none

/-! ## The signals of a message -/

/-- `params` and `params._meta` are objects where they are there. -/
structure ProperParams (e : Envelope) : Prop where
  params : Json.lookup e.message (js "params") ≠ none → e.params ≠ none
  metaFields : ∀ params ∈ e.params, Json.lookup params (js "_meta") ≠ none → e.metaFields ≠ none

/-- The header and `_meta` name versions out of a list, and one if they both name one. -/
structure Names (versions : List JsString) (header version : Option JsString) (e : Envelope) :
    Prop where
  inMeta : e.metaVersion = version.map .str
  ofHeader : ∀ v ∈ header, v ∈ versions
  ofMeta : ∀ v ∈ version, v ∈ versions
  agree : ∀ v ∈ header, ∀ w ∈ version, v = w

/-- A legacy message; `initialize` names the one version of the session to come. -/
structure LegacyCall (headers : McpHeaders) (e : Envelope) : Prop where
  proper : ProperParams e
  versions : ∃ version, Names legacyProtocolVersions headers.protocolVersion version e
  not_discover : e.method ≠ js "server/discover"
  handshake : e.method = js "initialize" → ∃ v ∈ legacyProtocolVersions,
    e.requestedVersion = some (.str v) ∧ (∀ h ∈ headers.protocolVersion, h = v) ∧
      ∀ value ∈ e.metaVersion, value = .str v

/-- A modern message: its headers say what it asks for. -/
structure ModernCall (headers : McpHeaders) (e : Envelope) : Prop where
  proper : ProperParams e
  header : headers.protocolVersion = some modernProtocolVersion
  metaVersion : e.metaVersion = some (.str modernProtocolVersion)
  method : headers.method = some e.method
  not_handshake : e.method ≠ js "initialize"
  capabilities : ∀ fields ∈ e.metaFields, ∀ value ∈ Json.lookup fields (js capabilitiesMetaKey),
    ∃ capabilities, value = .obj capabilities
  tool : e.method = js "tools/call" →
    ∃ name, name ≠ [] ∧ e.toolName = some name ∧ headers.name = some name

/-! ## Conforming answers -/

/-- **What a client may rely on.** -/
inductive Conforms (request : McpRequest) : McpResponse → Prop
  | methodNotAllowed (hmethod : request.method ≠ js "POST") : Conforms request .methodNotAllowed
  /-- There is no message to answer. -/
  | unreadable {status : ℕ} {error : JsonRpcError} (hnone : request.envelope = none)
      (hstatus : status = 400 ∨ status = 413) (hcode : error.code ≠ methodNotFound) :
      Conforms request (.rpc status none (.error error))
  | notification {e : Envelope} {status : ℕ} (henvelope : request.envelope = some e)
      (hid : e.id = none) (hstatus : status = 202 ∨ status = 400) :
      Conforms request (.bodyless status)
  /-- The signals of the message disagree, whatever its method. -/
  | refused {e : Envelope} {id : JsonRpcId} {error : JsonRpcError}
      (henvelope : request.envelope = some e) (hid : e.id = some id)
      (hmodern : ¬ ModernCall request.headers e) (hlegacy : ¬ LegacyCall request.headers e)
      (hcode : error.code ≠ methodNotFound) : Conforms request (.rpc 400 (some id) (.error error))
  | reply {e : Envelope} {id : JsonRpcId} {r : Reply} (henvelope : request.envelope = some e)
      (hid : e.id = some id) (hfits : Reply.Fits e.method r) :
      Conforms request (.rpc r.1 (some id) r.2)

section Signals

variable {headers : McpHeaders} {header version : Option JsString} {e : Envelope}

theorem nil_not_mem_versions : ([] : JsString) ∉ supportedProtocolVersions := by decide

theorem checkMetaVersion_ok_iff {value : Option Json} :
    checkMetaVersion value = .ok version ↔
      value = version.map .str ∧ ∀ v ∈ version, v ∈ supportedProtocolVersions := by
  match value with
  | none => cases version <;> simp [checkMetaVersion]
  | some (.str s) =>
      rw [checkMetaVersion]
      by_cases hnil : s = []
      · subst hnil
        cases version with
        | none => simp
        | some v =>
            simp only [if_true, reduceCtorEq, false_iff, not_and]
            rintro hv hmem
            obtain rfl : [] = v := by simpa using hv
            exact nil_not_mem_versions (hmem [] rfl)
      · rw [if_neg hnil]
        split
        · rename_i hmem
          cases version with
          | none => simp
          | some v =>
              simp only [Except.ok.injEq, Option.some.injEq, Option.map_some, Json.str.injEq,
                Option.mem_def, forall_eq']
              exact ⟨fun h => ⟨h, h ▸ hmem⟩, fun h => h.1⟩
        · rename_i hmem
          cases version with
          | none => simp
          | some v =>
              simp only [reduceCtorEq, false_iff, not_and]
              rintro hv hsupported
              obtain rfl : s = v := by simpa using hv
              exact hmem (hsupported s rfl)
  | some .null | some (.bool _) | some (.num _) | some .frac | some (.arr _) | some (.obj _) =>
      cases version <;> simp [checkMetaVersion]

theorem not_any_ne_iff {o : Option JsString} {v : JsString} :
    ¬ (o.any (· ≠ v) = true) ↔ ∀ w ∈ o, w = v := by
  cases o <;> simp

theorem checkInitialize_ok_iff :
    checkInitialize header version e = .ok () ↔
      ∃ v ∈ legacyProtocolVersions, e.requestedVersion = some (.str v) ∧
        (∀ h ∈ header, h = v) ∧ ∀ w ∈ version, w = v := by
  rw [checkInitialize]
  split
  · rename_i hparams
    simp [Envelope.requestedVersion, hparams]
  split
  · rename_i requested hrequested
    constructor
    · intro h
      split at h
      · cases h
      split at h
      · cases h
      rename_i hheader
      split at h
      · cases h
      rename_i hversion
      split at h
      · cases h
      split at h
      · exact ⟨requested, ‹_›, hrequested, not_any_ne_iff.1 hheader, not_any_ne_iff.1 hversion⟩
      · cases h
    · rintro ⟨v, hv, hv', hheader, hversion⟩
      obtain rfl : requested = v := by simpa [hrequested] using hv'
      have hnil : requested ≠ [] := by
        rintro rfl
        exact absurd hv (by decide)
      have hmodern : requested ≠ modernProtocolVersion := by
        rintro rfl
        exact absurd hv (by decide)
      rw [if_neg hnil, if_neg (not_any_ne_iff.2 hheader), if_neg (not_any_ne_iff.2 hversion),
        if_neg hmodern, if_pos hv]
  · rename_i hother
    constructor
    · intro h
      cases h
    · rintro ⟨v, -, hv, -⟩
      exact absurd hv (hother v)

theorem Names.version_unique {versions : List JsString} {w : Option JsString}
    (h : Names versions header version e) (hw : e.metaVersion = w.map .str) : version = w := by
  have hmap : version.map Json.str = w.map Json.str := h.inMeta.symm.trans hw
  exact Option.map_injective (fun _ _ hstr => Json.str.inj hstr) hmap

/-- What the checks of the signals let through. -/
theorem validateProtocolSignals_ok_iff {modern : Bool} :
    validateProtocolSignals header e = .ok modern ↔
      ProperParams e ∧ ∃ version, Names supportedProtocolVersions header version e ∧
        ((e.method = js "initialize" ∧ checkInitialize header version e = .ok () ∧
            modern = false) ∨
          (e.method ≠ js "initialize" ∧ isModern header version e.method = modern ∧
            (modern = true → (∀ v ∈ header, v = modernProtocolVersion) ∧
              ∀ v ∈ version, v = modernProtocolVersion))) := by
  rw [validateProtocolSignals]
  split
  · rename_i hparams
    refine iff_of_false (by simp) ?_
    rintro ⟨hproper, -⟩
    exact absurd hparams.2 (hproper.params hparams.1)
  rename_i hparams
  split
  · rename_i hmeta
    refine iff_of_false (by simp) ?_
    rintro ⟨hproper, -⟩
    obtain ⟨params, heq, hthere⟩ := (Option.any_eq_true _ _).1 hmeta.1
    exact hproper.metaFields params heq (Option.isSome_iff_ne_none.1 hthere) hmeta.2
  rename_i hmeta
  have hproper : ProperParams e := by
    refine ⟨fun hthere hnone => hparams ⟨hthere, hnone⟩, fun params heq hthere hnone => ?_⟩
    refine hmeta ⟨?_, hnone⟩
    rw [Option.mem_def.1 heq, Option.any_some]
    exact Option.isSome_iff_ne_none.2 hthere
  split
  · rename_i v hfilter
    refine iff_of_false (by simp) ?_
    rintro ⟨-, w, hnames, -⟩
    obtain ⟨hv, hunknown⟩ := Option.filter_eq_some_iff.1 hfilter
    exact of_decide_eq_true hunknown (hnames.ofHeader v hv)
  rename_i hfilter
  have hheader : ∀ v ∈ header, v ∈ supportedProtocolVersions := by
    intro v hv
    by_contra hunknown
    exact hfilter v (Option.filter_eq_some_iff.2 ⟨hv, decide_eq_true hunknown⟩)
  split
  · rename_i error hcheck
    refine iff_of_false (by simp) ?_
    rintro ⟨-, w, hnames, -⟩
    have hok := checkMetaVersion_ok_iff.2 ⟨hnames.inMeta, hnames.ofMeta⟩
    rw [hcheck] at hok
    cases hok
  rename_i version hcheck
  obtain ⟨hin, hmem⟩ := checkMetaVersion_ok_iff.1 hcheck
  split
  · rename_i hdisagree
    refine iff_of_false (by simp) ?_
    rintro ⟨-, w, hnames, -⟩
    obtain rfl := hnames.version_unique hin
    obtain ⟨v, hv, hany⟩ := (Option.any_eq_true _ _).1 hdisagree
    obtain ⟨w', hw', hne⟩ := (Option.any_eq_true _ _).1 hany
    exact of_decide_eq_true hne (hnames.agree v hv w' hw')
  rename_i hagree
  have hnames : Names supportedProtocolVersions header version e := by
    refine ⟨hin, hheader, hmem, fun v hv w hw => ?_⟩
    by_contra hne
    exact hagree ((Option.any_eq_true _ _).2 ⟨v, hv, (Option.any_eq_true _ _).2
      ⟨w, hw, decide_eq_true hne⟩⟩)
  split
  · rename_i hbegin
    cases hcheck' : checkInitialize header version e with
    | error error =>
        refine iff_of_false (by simp [Except.map]) ?_
        rintro ⟨-, w, hnames', ⟨-, hok, -⟩ | ⟨hother, -⟩⟩
        · obtain rfl := hnames'.version_unique hin
          rw [hcheck'] at hok
          cases hok
        · exact hother hbegin
    | ok _ =>
        simp only [Except.map, Except.ok.injEq]
        constructor
        · rintro rfl
          exact ⟨hproper, version, hnames, .inl ⟨hbegin, hcheck', rfl⟩⟩
        · rintro ⟨-, w, -, ⟨-, -, rfl⟩ | ⟨hother, -⟩⟩
          · rfl
          · exact absurd hbegin hother
  rename_i hbegin
  split
  · rename_i hmixed
    refine iff_of_false (by simp) ?_
    rintro ⟨-, w, hnames', ⟨h, -⟩ | ⟨-, hera, hone⟩⟩
    · exact hbegin h
    · obtain rfl := hnames'.version_unique hin
      obtain ⟨hheader', hmeta'⟩ := hone (hera ▸ hmixed.1)
      exact hmixed.2.elim (not_any_ne_iff.2 hheader') (not_any_ne_iff.2 hmeta')
  · rename_i hpure
    constructor
    · intro h
      have hera := Except.ok.inj h
      refine ⟨hproper, version, hnames, .inr ⟨hbegin, hera, fun hmodern => ?_⟩⟩
      have hone := not_or.1 fun hany => hpure ⟨hera.trans hmodern, hany⟩
      exact ⟨not_any_ne_iff.1 hone.1, not_any_ne_iff.1 hone.2⟩
    · rintro ⟨-, w, hnames', ⟨h, -⟩ | ⟨-, hera, -⟩⟩
      · exact absurd h hbegin
      · obtain rfl := hnames'.version_unique hin
        rw [hera]

theorem stringField_eq_some_iff {fields : List (JsString × Json)} {name : String} {s : JsString} :
    stringField (.obj fields) name = some s ↔ Json.lookup fields (js name) = some (.str s) := by
  refine ⟨lookup_of_stringField, fun h => ?_⟩
  rw [stringField, show Json.get? (.obj fields) name = some (.str s) from h]

/-- The headers of a modern message that the endpoint lets through. -/
theorem validateModernHeaders_none_iff :
    validateModernHeaders headers e = none ↔
      headers.protocolVersion = some modernProtocolVersion ∧ headers.method = some e.method ∧
        e.metaVersion = some (.str modernProtocolVersion) ∧
        (∀ fields ∈ e.metaFields, ∀ value ∈ Json.lookup fields (js capabilitiesMetaKey),
          ∃ capabilities, value = .obj capabilities) ∧
        (e.method = js "tools/call" →
          ∃ name, name ≠ [] ∧ e.toolName = some name ∧ headers.name = some name) := by
  rw [validateModernHeaders]
  split
  · rename_i hheader
    exact iff_of_false (by simp) fun h => hheader h.1
  rename_i hheader
  split
  · rename_i hmethod
    exact iff_of_false (by simp) fun h => hmethod h.2.1
  rename_i hmethod
  cases hfields : e.metaFields with
  | none =>
      refine iff_of_false (by simp) ?_
      rintro ⟨-, -, hversion, -⟩
      simp [Envelope.metaVersion, hfields] at hversion
  | some fields =>
      have hversion : e.metaVersion = some (.str modernProtocolVersion) ↔
          stringField (.obj fields) protocolMetaKey = some modernProtocolVersion := by
        rw [stringField_eq_some_iff, Envelope.metaVersion, hfields, Option.bind_some]
      simp only
      split
      · rename_i hother
        exact iff_of_false (by simp) fun h => hother (hversion.1 h.2.2.1)
      rename_i hsame
      split
      · rename_i hcapabilities
        refine iff_of_false (by simp) ?_
        rintro ⟨-, -, -, hobject, -⟩
        obtain ⟨value, hvalue⟩ := Option.isSome_iff_exists.1 hcapabilities.1
        obtain ⟨capabilities, rfl⟩ := hobject fields rfl value hvalue
        rw [hvalue] at hcapabilities
        cases hcapabilities.2
      rename_i hcapabilities
      have hobject : ∀ value ∈ Json.lookup fields (js capabilitiesMetaKey),
          ∃ capabilities, value = .obj capabilities := by
        intro value hvalue
        rw [Option.mem_def.1 hvalue] at hcapabilities
        cases value with
        | obj capabilities => exact ⟨capabilities, rfl⟩
        | _ => exact absurd ⟨rfl, rfl⟩ hcapabilities
      split
      · rename_i htool
        refine iff_of_false (by simp) ?_
        rintro ⟨-, -, -, -, hname⟩
        obtain ⟨name, hnil, hcalled, hheader'⟩ := hname htool.1
        rw [hcalled, hheader'] at htool
        simp [hnil] at htool
      · rename_i htool
        refine iff_of_true rfl ⟨not_not.1 hheader, not_not.1 hmethod, hversion.2 (not_not.1 hsame),
          fun fields' hfields' => ?_, fun hcall => ?_⟩
        · obtain rfl : fields = fields' := Option.some.inj hfields'
          exact hobject
        · obtain ⟨hthere, hnil, hsame'⟩ : e.toolName ≠ none ∧ e.toolName ≠ some [] ∧
              headers.name = e.toolName := by
            simpa [hcall, not_or] using htool
          obtain ⟨name, hname⟩ := Option.ne_none_iff_exists'.1 hthere
          exact ⟨name, fun h => hnil (h ▸ hname), hname, hsame'.trans hname⟩

theorem Names.mono {versions versions' : List JsString} (h : Names versions header version e)
    (hsub : ∀ v ∈ versions, v ∈ versions') : Names versions' header version e :=
  { h with
    ofHeader := fun v hv => hsub v (h.ofHeader v hv)
    ofMeta := fun v hv => hsub v (h.ofMeta v hv) }

theorem modernCall_iff :
    ModernCall headers e ↔
      validateProtocolSignals headers.protocolVersion e = .ok true ∧
        validateModernHeaders headers e = none := by
  rw [validateProtocolSignals_ok_iff, validateModernHeaders_none_iff]
  constructor
  · intro h
    refine ⟨⟨h.proper, some modernProtocolVersion, ⟨h.metaVersion, ?_, ?_, ?_⟩,
        .inr ⟨h.not_handshake, ?_, fun _ => ⟨?_, ?_⟩⟩⟩,
      h.header, h.method, h.metaVersion, h.capabilities, h.tool⟩
    all_goals simp [h.header, isModern, supportedProtocolVersions]
  · rintro ⟨⟨hproper, _, -, hera⟩, hheader, hmethod, hversion, hcapabilities, htool⟩
    rcases hera with ⟨-, -, hfalse⟩ | ⟨hbegin, -⟩
    · cases hfalse
    · exact ⟨hproper, hheader, hversion, hmethod, hbegin, hcapabilities, htool⟩

theorem mem_legacy_iff {v : JsString} :
    v ∈ legacyProtocolVersions ↔ v ∈ supportedProtocolVersions ∧ v ≠ modernProtocolVersion := by
  have hmodern : modernProtocolVersion ∉ legacyProtocolVersions := by decide
  rw [supportedProtocolVersions, List.mem_cons]
  constructor
  · exact fun h => ⟨.inr h, fun heq => hmodern (heq ▸ h)⟩
  · exact fun ⟨h, hne⟩ => h.resolve_left hne

theorem isModern_eq_false_iff {method : JsString} :
    isModern header version method = false ↔ method ≠ js "server/discover" ∧
      header ≠ some modernProtocolVersion ∧ version ≠ some modernProtocolVersion := by
  simp [isModern, and_assoc]

theorem legacyCall_iff :
    LegacyCall headers e ↔ validateProtocolSignals headers.protocolVersion e = .ok false := by
  rw [validateProtocolSignals_ok_iff]
  constructor
  · intro h
    obtain ⟨version, hnames⟩ := h.versions
    refine ⟨h.proper, version, hnames.mono fun v hv => (mem_legacy_iff.1 hv).1, ?_⟩
    by_cases hbegin : e.method = js "initialize"
    · obtain ⟨v, hv, hrequested, hheader, hmeta⟩ := h.handshake hbegin
      refine .inl ⟨hbegin, checkInitialize_ok_iff.2 ⟨v, hv, hrequested, hheader, ?_⟩, rfl⟩
      intro w hw
      have hvalue : e.metaVersion = some (.str w) := by
        rw [hnames.inMeta, Option.mem_def.1 hw, Option.map_some]
      exact Json.str.inj (hmeta _ hvalue)
    · refine .inr ⟨hbegin, isModern_eq_false_iff.2 ⟨h.not_discover, ?_, ?_⟩, by simp⟩
      · exact fun heq => (mem_legacy_iff.1 (hnames.ofHeader _ heq)).2 rfl
      · exact fun heq => (mem_legacy_iff.1 (hnames.ofMeta _ heq)).2 rfl
  · rintro ⟨hproper, version, hnames, ⟨hbegin, hcheck, -⟩ | ⟨hbegin, hera, -⟩⟩
    · obtain ⟨v, hv, hrequested, hheader, hmeta⟩ := checkInitialize_ok_iff.1 hcheck
      refine ⟨hproper, ⟨version, hnames.inMeta, fun h hh => ?_, fun w hw => ?_, hnames.agree⟩, ?_,
        fun _ => ⟨v, hv, hrequested, hheader, ?_⟩⟩
      · rw [hheader h hh]
        exact hv
      · rw [hmeta w hw]
        exact hv
      · rw [hbegin]
        decide
      · intro value hvalue
        rw [hnames.inMeta] at hvalue
        obtain ⟨w, hw, rfl⟩ := Option.map_eq_some_iff.1 hvalue
        rw [hmeta w hw]
    · obtain ⟨hdiscover, hheader, hmeta⟩ := isModern_eq_false_iff.1 hera
      refine ⟨hproper, ⟨version, hnames.inMeta, fun v hv => ?_, fun v hv => ?_, hnames.agree⟩,
        hdiscover, fun h => absurd h hbegin⟩
      · exact mem_legacy_iff.2 ⟨hnames.ofHeader v hv, fun heq => hheader (heq ▸ hv)⟩
      · exact mem_legacy_iff.2 ⟨hnames.ofMeta v hv, fun heq => hmeta (heq ▸ hv)⟩

/-- The codes of a message that is refused for its signals. -/
def signalCodes : List ℤ := [-32602, -32020, -32022]

theorem checkMetaVersion_code {value : Option Json} {error : JsonRpcError}
    (h : checkMetaVersion value = .error error) : error.code ∈ signalCodes := by
  unfold checkMetaVersion at h
  split at h
  · cases h
  · split at h
    · cases h
      decide
    split at h <;> cases h
    simp [unsupportedProtocolVersion, signalCodes]
  · cases h
    decide

theorem checkInitialize_code {error : JsonRpcError}
    (h : checkInitialize header version e = .error error) : error.code ∈ signalCodes := by
  rw [checkInitialize] at h
  repeat' split at h
  all_goals first | cases h; decide | cases h

theorem validateProtocolSignals_code {error : JsonRpcError}
    (h : validateProtocolSignals header e = .error error) : error.code ∈ signalCodes := by
  rw [validateProtocolSignals] at h
  split at h
  · cases h
    decide
  split at h
  · cases h
    decide
  split at h
  · cases h
    simp [unsupportedProtocolVersion, signalCodes]
  split at h
  · rename_i error' hcheck
    obtain rfl : error' = error := Except.error.inj h
    exact checkMetaVersion_code hcheck
  split at h
  · cases h
    decide
  split at h
  · exact checkInitialize_code (map_eq_error.1 h)
  split at h
  · cases h
    decide
  · cases h

end Signals

/-! ## Main results -/

/-- What a message asks for; a notification is acknowledged, unless it would begin a session. -/
def carriedOut (deps : McpDependencies) (e : Envelope) (modern : Bool) : Option McpResponse :=
  match e.id with
  | none =>
      some (.bodyless
        (if e.method = js "initialize" ∨ e.method = js "server/discover" then 400 else 202))
  | some id => (callMethod deps e modern).map fun reply => .rpc reply.1 (some id) reply.2

/-- What the endpoint does with a request.  Where a proxy routes by the headers of a modern
client, it routes by the method and the tool that are then called. -/
inductive Serves (deps : McpDependencies) (request : McpRequest) : Option McpResponse → Prop
  | methodNotAllowed (hmethod : request.method ≠ js "POST") :
      Serves deps request (some .methodNotAllowed)
  | unreadable {status : ℕ} {error : JsonRpcError} (hnone : request.envelope = none)
      (hstatus : status = 400 ∨ status = 413) (hcode : error.code ≠ methodNotFound) :
      Serves deps request (some (.rpc status none (.error error)))
  | modern {e : Envelope} (henvelope : request.envelope = some e)
      (hcall : ModernCall request.headers e) : Serves deps request (carriedOut deps e true)
  | legacy {e : Envelope} (henvelope : request.envelope = some e)
      (hcall : LegacyCall request.headers e) : Serves deps request (carriedOut deps e false)
  /-- The signals of the message disagree. -/
  | refused {e : Envelope} {error : JsonRpcError} (henvelope : request.envelope = some e)
      (hmodern : ¬ ModernCall request.headers e) (hlegacy : ¬ LegacyCall request.headers e)
      (hcode : error.code ∈ signalCodes) : Serves deps request (some (e.refused error))

/-- An answer that conforms, or a throw. -/
def McpAnswered (deps : McpDependencies) (request : McpRequest) : Option McpResponse → Prop
  | some response => Conforms request response
  | none => ∃ e, request.envelope = some e ∧ Throws deps.store e

section Main

variable {deps : McpDependencies} {request : McpRequest} {e : Envelope}

theorem ModernCall.not_legacy {headers : McpHeaders} (h : ModernCall headers e) :
    ¬ LegacyCall headers e := by
  intro hlegacy
  have htrue := (modernCall_iff.1 h).1
  rw [legacyCall_iff.1 hlegacy] at htrue
  cases htrue

theorem serves_answerEnvelope (henvelope : request.envelope = some e) :
    Serves deps request (answerEnvelope deps request.headers e) := by
  rw [answerEnvelope]
  cases hsignals : validateProtocolSignals request.headers.protocolVersion e with
  | error error =>
      refine .refused henvelope ?_ ?_ (validateProtocolSignals_code hsignals)
      · rw [modernCall_iff, hsignals]
        simp
      · rw [legacyCall_iff, hsignals]
        simp
  | ok modern =>
      cases modern with
      | false => exact .legacy henvelope (legacyCall_iff.2 hsignals)
      | true =>
          simp only [if_true]
          cases hheaders : validateModernHeaders request.headers e with
          | none => exact .modern henvelope (modernCall_iff.2 ⟨hsignals, hheaders⟩)
          | some message =>
              refine .refused henvelope ?_ ?_ (show (-32020 : ℤ) ∈ signalCodes by decide)
              · rw [modernCall_iff, hheaders]
                simp
              · rw [legacyCall_iff, hsignals]
                simp

theorem serves_handleMcpHttpRequest (deps : McpDependencies) (request : McpRequest) :
    Serves deps request (handleMcpHttpRequest deps request) := by
  rw [handleMcpHttpRequest]
  split
  · exact .methodNotAllowed ‹_›
  split
  · rename_i hbody
    exact .unreadable (by rw [McpRequest.envelope, hbody]) (.inr rfl)
      (show (-32021 : ℤ) ≠ methodNotFound by decide)
  · rename_i hbody
    exact .unreadable (by rw [McpRequest.envelope, hbody]) (.inl rfl)
      (show (-32700 : ℤ) ≠ methodNotFound by decide)
  · rename_i body hbody
    have henvelope : request.envelope = (asObject (some body)).bind readEnvelope := by
      rw [McpRequest.envelope, hbody]
    split
    · rename_i hnone
      exact .unreadable (henvelope.trans hnone) (.inl rfl)
        (show (-32600 : ℤ) ≠ methodNotFound by decide)
    · rename_i e he
      exact serves_answerEnvelope (henvelope.trans he)

theorem conforms_refused {error : JsonRpcError} (henvelope : request.envelope = some e)
    (hmodern : ¬ ModernCall request.headers e) (hlegacy : ¬ LegacyCall request.headers e)
    (hcode : error.code ∈ signalCodes) : Conforms request (e.refused error) := by
  have hother : error.code ≠ methodNotFound := by
    intro heq
    rw [heq] at hcode
    exact absurd hcode (by decide)
  rw [Envelope.refused]
  split
  · exact .notification henvelope ‹_› (.inr rfl)
  · exact .refused henvelope ‹_› hmodern hlegacy hother

theorem answers_carriedOut (modern : Bool) (henvelope : request.envelope = some e) :
    McpAnswered deps request (carriedOut deps e modern) := by
  rw [carriedOut]
  split
  · refine .notification henvelope ‹_› ?_
    split
    · exact .inr rfl
    · exact .inl rfl
  · rename_i id hid
    obtain ⟨hfits, hthrow⟩ := callMethod_fits deps modern e (by rw [hid]; nofun)
    cases hcall : callMethod deps e modern with
    | none => exact ⟨e, henvelope, hthrow hcall⟩
    | some reply => exact .reply henvelope hid (hfits reply hcall)

/-- One case for each thing that the endpoint does. -/
theorem Serves.answered {response : Option McpResponse} (h : Serves deps request response) :
    McpAnswered deps request response := by
  cases h with
  | methodNotAllowed hmethod => exact .methodNotAllowed hmethod
  | unreadable hnone hstatus hcode => exact .unreadable hnone hstatus hcode
  | modern henvelope _ => exact answers_carriedOut true henvelope
  | legacy henvelope _ => exact answers_carriedOut false henvelope
  | refused henvelope hmodern hlegacy hcode =>
      exact conforms_refused henvelope hmodern hlegacy hcode

/-- **A message is carried out exactly if its signals agree**, as a modern one or as a legacy
one, and never as both; **every answer conforms**, and nothing but the call of
`roundwatch.get_watch` that finds a watch under an id that no URL can hold keeps the endpoint from
answering. -/
theorem mcp_answers (deps : McpDependencies) (request : McpRequest) :
    Serves deps request (handleMcpHttpRequest deps request) ∧
      (∀ e, ¬ (ModernCall request.headers e ∧ LegacyCall request.headers e)) ∧
      McpAnswered deps request (handleMcpHttpRequest deps request) :=
  have hserves := serves_handleMcpHttpRequest deps request
  ⟨hserves, fun _ h => h.1.not_legacy h.2, hserves.answered⟩

end Main

end RoundWatch
