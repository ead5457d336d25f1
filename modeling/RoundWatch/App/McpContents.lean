import RoundWatch.App.McpServer

/-!
# What a client reads from a tool

A tool answers with one document twice: as it is, for programs, and as a text laid out for
people.  A client that goes by the text and one that goes by the document have to end up with
the same request to make.

* `JsonDoc.value` — what the server reads where a document is posted;
* `unrepeated_toolSuccess` — no answer repeats a name, so none is lost in reading it;
* `Shows` — what a client finds in the body of an answer;
* `prepared_requests_read_back` — what it finds is what the routes accept.
-/

namespace JsonDoc

open JsText

/-- A field of a document. -/
def field? {ν : Type} (doc : JsonDoc ν) (name : String) : Option (JsonDoc ν) :=
  match doc with
  | .obj fields => (fields.find? fun f => f.1 = js name).map Prod.snd
  | _ => none

mutual

/-- The value that a document is read as. -/
def value : JsonDoc ℤ → Json
  | .null => .null
  | .bool b => .bool b
  | .num n => .num n
  | .str s => .str s
  | .arr items => .arr (values items)
  | .obj fields => .obj (valueFields fields)

def values : List (JsonDoc ℤ) → List Json
  | [] => []
  | doc :: rest => value doc :: values rest

def valueFields : List (JsString × JsonDoc ℤ) → List (JsString × Json)
  | [] => []
  | (name, doc) :: rest => (name, value doc) :: valueFields rest

end

theorem valueFields_append (fields fields' : List (JsString × JsonDoc ℤ)) :
    valueFields (fields ++ fields') = valueFields fields ++ valueFields fields' := by
  induction fields with
  | nil => rfl
  | cons f rest ih =>
      obtain ⟨name, doc⟩ := f
      simp only [List.cons_append, valueFields, ih]

end JsonDoc

namespace RoundWatch

open JsText Checks Mcp

/-! ## Bodies -/

theorem PreparedWatchArguments.valueFields_docFields (value : PreparedWatchArguments) :
    JsonDoc.valueFields value.docFields = value.fields := by
  rw [docFields, fields, JsonDoc.valueFields_append]
  cases value.invoiceNote <;> rfl

/-- The document of the prepared create request is its body. -/
theorem PreparedWatchArguments.value_docFields (value : PreparedWatchArguments) :
    (JsonDoc.obj value.docFields).value = value.body := by
  rw [JsonDoc.value, value.valueFields_docFields]
  rfl

theorem PreparedWatchArguments.value_recoveryFields (value : PreparedWatchArguments)
    (servicePayer : JsString) :
    (JsonDoc.obj (value.docFields ++ [(js "servicePayer", .str servicePayer)])).value =
      value.recoveryBody servicePayer := by
  rw [JsonDoc.value, JsonDoc.valueFields_append, value.valueFields_docFields]
  rfl

/-! ## Names -/

section Names

open JsonDoc

/-- An object literal repeats no name if its fields do not. -/
theorem unrepeated_object {fields : List (String × JsonDoc ℤ)}
    (hnames : (fields.map Prod.fst).Nodup) (h : ∀ f ∈ fields, f.2.Unrepeated) :
    (object fields).Unrepeated := by
  refine ⟨?_, unrepeatedFields_iff.2 ?_⟩
  · have hmap : (fields.map fun f => (js f.1, f.2)).map Prod.fst = (fields.map Prod.fst).map js := by
      simp [List.map_map, Function.comp_def]
    exact hmap ▸ hnames.map Utf8.js_injective
  · intro f hf
    obtain ⟨f', hf', rfl⟩ := List.mem_map.1 hf
    exact h f' hf'

@[simp] theorem unrepeated_str (s : String) : (str s).Unrepeated := trivial

theorem unrepeated_eligibility (deps : McpDependencies) : deps.eligibility.Unrepeated := by
  refine unrepeated_object (by simp) ?_
  simp only [List.forall_mem_cons]
  refine ⟨trivial, trivial, trivial, ?_, ?_, List.forall_mem_nil _⟩
  · exact unrepeated_object (by simp) (by simp [Unrepeated])
  · exact unrepeated_object (by simp) (by simp [Unrepeated])

theorem unrepeated_preparedRequest (deps : McpDependencies) (path : JsString) {body : JsonDoc ℤ}
    (h : body.Unrepeated) : (deps.preparedRequest path body).Unrepeated := by
  refine unrepeated_object (by simp) ?_
  simp only [List.forall_mem_cons]
  exact ⟨trivial, trivial, unrepeated_object (by simp) (by simp), h, List.forall_mem_nil _⟩

theorem unrepeated_preparedWatch (deps : McpDependencies) {body : JsonDoc ℤ}
    (h : body.Unrepeated) : (deps.preparedWatch body).Unrepeated := by
  refine unrepeated_object (by simp) ?_
  simp only [List.forall_mem_cons]
  exact ⟨trivial, trivial, trivial, unrepeated_preparedRequest deps _ h, unrepeated_eligibility deps,
    unrepeated_object (by simp) (by simp [Unrepeated]), by simp [Unrepeated, UnrepeatedItems],
    List.forall_mem_nil _⟩

theorem unrepeated_preparedRecovery (deps : McpDependencies) {body : JsonDoc ℤ}
    (h : body.Unrepeated) : (deps.preparedRecovery body).Unrepeated := by
  refine unrepeated_object (by simp) ?_
  simp only [List.forall_mem_cons]
  exact ⟨trivial, trivial, trivial, unrepeated_preparedRequest deps _ h,
    by simp [Unrepeated, UnrepeatedItems], List.forall_mem_nil _⟩

theorem unrepeated_docFields (value : PreparedWatchArguments) :
    (JsonDoc.obj value.docFields).Unrepeated := by
  cases h : value.invoiceNote <;>
    simp [PreparedWatchArguments.docFields, h, Unrepeated, unrepeatedFields_iff,
      Utf8.js_injective.eq_iff]

theorem unrepeated_recoveryFields (value : PreparedWatchArguments) (servicePayer : JsString) :
    (JsonDoc.obj (value.docFields ++ [(js "servicePayer", .str servicePayer)])).Unrepeated := by
  cases h : value.invoiceNote <;>
    simp [PreparedWatchArguments.docFields, h, Unrepeated, unrepeatedFields_iff,
      Utf8.js_injective.eq_iff]

theorem unrepeated_id (id : Option JsonRpcId) :
    ((id.map JsonRpcId.doc).getD .null).Unrepeated := by
  cases id with
  | none => trivial
  | some id => cases id <;> trivial

theorem unrepeated_textContent (text : JsString) : (textContent text).Unrepeated :=
  ⟨unrepeated_object (by simp) (by simp [Unrepeated]), trivial⟩

theorem unrepeated_toolSuccess (id : Option JsonRpcId) {content : JsonDoc ℤ}
    (h : content.Unrepeated) (modern : Bool) :
    (answerDoc id (toolSuccess content modern).2).Unrepeated := by
  have hserver : serverInfo.Unrepeated := unrepeated_object (by simp) (by simp)
  have hmeta : (object [("io.modelcontextprotocol/serverInfo", serverInfo)]).Unrepeated :=
    unrepeated_object (by simp) (by simp [hserver])
  have hresult (text : JsString) : (resultOf modern [("content", textContent text),
      ("structuredContent", content), ("isError", .bool false)]).Unrepeated := by
    cases modern <;>
      exact unrepeated_object (by simp [modernResult])
        (by simp [modernResult, unrepeated_textContent, h, hmeta, Unrepeated])
  refine unrepeated_object (by simp [toolSuccess, success, JsonRpcPayload.field]) ?_
  simp only [List.forall_mem_cons]
  exact ⟨unrepeated_str _, unrepeated_id id, hresult _, List.forall_mem_nil _⟩

end Names

/-! ## Contents -/

/-- `result.structuredContent`. -/
def structuredContent (answer : JsonDoc ℤ) : Option (JsonDoc ℤ) :=
  (answer.field? "result").bind (·.field? "structuredContent")

/-- The text of `result.content`. -/
def contentText (answer : JsonDoc ℤ) : Option JsString :=
  match (answer.field? "result").bind (·.field? "content") with
  | some (.arr [item]) =>
      match item.field? "text" with
      | some (.str text) => some text
      | _ => none
  | _ => none

/-- `request.body` of what a preparing tool hands out. -/
def requestBody (content : JsonDoc ℤ) : Option (JsonDoc ℤ) :=
  (content.field? "request").bind (·.field? "body")

/-- What a client finds in the body of an answer, by the document and by its text. -/
structure Shows (response : McpResponse) (content : JsonDoc ℤ) : Prop where
  answered : ∃ body answer, response.body = some body ∧
    JsonText.parseValue JsonText.wholeNumbers body = some answer ∧
      structuredContent answer = some content ∧
        ∃ text, contentText answer = some text ∧
          JsonText.parseValue JsonText.wholeNumbers text = some content

/-- Fields are found by their names. -/
@[simp] theorem field?_object (fields : List (String × JsonDoc ℤ)) (name : String) :
    (object fields).field? name = (fields.find? fun f => f.1 = name).map Prod.snd := by
  have hname (f : String × JsonDoc ℤ) : (js f.1 = js name) = (f.1 = name) :=
    propext Utf8.js_injective.eq_iff
  simp only [object, JsonDoc.field?, List.find?_map, Option.map_map, Function.comp_def, hname]

theorem structuredContent_toolSuccess (id : Option JsonRpcId) (content : JsonDoc ℤ)
    (modern : Bool) :
    structuredContent (answerDoc id (toolSuccess content modern).2) = some content := by
  cases modern <;>
    simp [structuredContent, answerDoc, toolSuccess, success, JsonRpcPayload.field, resultOf,
      modernResult]

theorem contentText_toolSuccess (id : Option JsonRpcId) (content : JsonDoc ℤ) (modern : Bool) :
    contentText (answerDoc id (toolSuccess content modern).2) =
      some (JsonText.layOut JsonText.wholeNumbers (JsonText.indented 2) 0 content) := by
  cases modern <;>
    simp [contentText, answerDoc, toolSuccess, success, JsonRpcPayload.field, resultOf,
      modernResult, textContent]

/-- Both ways of reading an answer lead to the content of the tool. -/
theorem shows_toolSuccess (id : Option JsonRpcId) {content : JsonDoc ℤ}
    (h : content.Unrepeated) (modern : Bool) :
    Shows (.rpc (toolSuccess content modern).1 id (toolSuccess content modern).2) content where
  answered := by
    have hanswer := JsonDoc.folded_of_unrepeated (unrepeated_toolSuccess id h modern)
    have htext : JsonText.parseValue JsonText.wholeNumbers
        (JsonText.layOut JsonText.wholeNumbers (JsonText.indented 2) 0 content) = some content := by
      rw [JsonText.parseValue, JsonText.parse_layOut JsonText.wholeNumbers_spaced,
        Option.map_some, JsonDoc.folded_of_unrepeated h]
    exact ⟨_, _, rfl, (JsonText.parseValue_stringify _).trans (congrArg some hanswer),
      structuredContent_toolSuccess id content modern, _,
      contentText_toolSuccess id content modern, htext⟩

theorem requestBody_preparedWatch (deps : McpDependencies) (body : JsonDoc ℤ) :
    requestBody (deps.preparedWatch body) = some body := by
  simp [requestBody, McpDependencies.preparedWatch, McpDependencies.preparedRequest]

theorem requestBody_preparedRecovery (deps : McpDependencies) (body : JsonDoc ℤ) :
    requestBody (deps.preparedRecovery body) = some body := by
  simp [requestBody, McpDependencies.preparedRecovery, McpDependencies.preparedRequest]

section Tools

variable (deps : McpDependencies) (args : List (JsString × Json)) (modern : Bool)

theorem callTool_prepareWatch {value : PreparedWatchArguments}
    (h : validatePrepareArguments deps.isValidAlgorandAddress args = .ok value) :
    callTool deps (js "roundwatch.prepare_watch") args modern =
      some (toolSuccess (deps.preparedWatch (.obj value.docFields)) modern) := by
  have hother : js "roundwatch.prepare_watch" ≠ js "roundwatch.service_info" := by decide
  rw [callTool.eq_def, if_neg hother, if_pos rfl, h]

theorem callTool_prepareRecovery {value : PreparedWatchArguments} {servicePayer : JsString}
    (h : validateRecoveryArguments deps.isValidAlgorandAddress args = .ok (value, servicePayer)) :
    callTool deps (js "roundwatch.prepare_recovery") args modern =
      some (toolSuccess (deps.preparedRecovery
        (.obj (value.docFields ++ [(js "servicePayer", .str servicePayer)]))) modern) := by
  have hinfo : js "roundwatch.prepare_recovery" ≠ js "roundwatch.service_info" := by decide
  have hwatch : js "roundwatch.prepare_recovery" ≠ js "roundwatch.prepare_watch" := by decide
  rw [callTool.eq_def, if_neg hinfo, if_neg hwatch, if_pos rfl, h]

/-- **What a client reads is what the routes accept.**  Where a preparing tool takes its
arguments, the body on the wire and the text in it read back as one content, and the body of the
request in it is taken by the route as the arguments were meant. -/
theorem prepared_requests_read_back (usdcAssetId : ℤ) (id : Option JsonRpcId) :
    (∀ value, validatePrepareArguments deps.isValidAlgorandAddress args = .ok value →
      ∃ reply content body,
        callTool deps (js "roundwatch.prepare_watch") args modern = some reply ∧
          Shows (.rpc reply.1 id reply.2) content ∧ requestBody content = some body ∧
            acceptCreate deps.isValidAlgorandAddress usdcAssetId body.value =
              .ok (value.spec usdcAssetId)) ∧
      ∀ value servicePayer,
        validateRecoveryArguments deps.isValidAlgorandAddress args = .ok (value, servicePayer) →
          ∃ reply content body,
            callTool deps (js "roundwatch.prepare_recovery") args modern = some reply ∧
              Shows (.rpc reply.1 id reply.2) content ∧ requestBody content = some body ∧
                RecoveryRequest deps.isValidAlgorandAddress usdcAssetId body.value
                  (value.spec usdcAssetId) servicePayer := by
  refine ⟨fun value h => ?_, fun value servicePayer h => ?_⟩
  · obtain ⟨-, hcreate⟩ := (validatePrepareArguments_ok usdcAssetId).1 h
    refine ⟨_, _, .obj value.docFields, callTool_prepareWatch deps args modern h,
      shows_toolSuccess id (unrepeated_preparedWatch deps (unrepeated_docFields value)) modern,
      requestBody_preparedWatch deps _, ?_⟩
    rw [value.value_docFields]
    exact acceptCreate_body hcreate
  · obtain ⟨-, hrequest⟩ := (validateRecoveryArguments_ok usdcAssetId).1 h
    have hcontent := unrepeated_preparedRecovery deps (unrepeated_recoveryFields value servicePayer)
    refine ⟨_, _, _, callTool_prepareRecovery deps args modern h,
      shows_toolSuccess id hcontent modern, requestBody_preparedRecovery deps _, ?_⟩
    rw [value.value_recoveryFields]
    exact recoveryRequest_body hrequest

end Tools

def sampleMcp : McpDependencies where
  isValidAlgorandAddress := isKnownAddress
  store := .empty .default
  networkName := js "Algorand MainNet"
  network := js "algorand:mainnet"
  usdcAssetId := js "31566704"
  publicBaseUrl := none
  serviceReceiver := probeAddress
  servicePriceUsd := js "$0.01"
  serviceAtomicAmount := js "10000"
  workUnitBudget := 100
  watchTtlMilliseconds := 1800000
  watchPath := js "/v1/watch"
  ttl_checked := by decide

/-- Arguments with a note beyond ASCII. -/
def notedArguments : PreparedWatchArguments where
  idempotencyKey := js "invoice-7"
  expectedSender := probeAddress
  expectedReceiver := algorandZeroAddress
  atomicAmount := js "250000"
  invoiceNote := some (js "Über 7")

/-- Both tools take them, the recovery with a payer. -/
theorem prepared_requests_read_back_noted :
    (∃ reply content body,
      callTool sampleMcp (js "roundwatch.prepare_watch") notedArguments.fields true = some reply ∧
        Shows (.rpc reply.1 (some (.number 1)) reply.2) content ∧
          requestBody content = some body ∧
            acceptCreate isKnownAddress 31566704 body.value = .ok (notedArguments.spec 31566704)) ∧
      ∃ reply content body,
        callTool sampleMcp (js "roundwatch.prepare_recovery")
            (notedArguments.fields ++ [(js "servicePayer", .str probeAddress)]) false =
          some reply ∧
          Shows (.rpc reply.1 (some (.number 1)) reply.2) content ∧
            requestBody content = some body ∧
              RecoveryRequest isKnownAddress 31566704 body.value (notedArguments.spec 31566704)
                probeAddress :=
  ⟨(prepared_requests_read_back sampleMcp notedArguments.fields true 31566704
      (some (.number 1))).1 notedArguments (by decide +kernel),
    (prepared_requests_read_back sampleMcp
      (notedArguments.fields ++ [(js "servicePayer", .str probeAddress)]) false 31566704
      (some (.number 1))).2 notedArguments probeAddress (by decide +kernel)⟩

end RoundWatch
