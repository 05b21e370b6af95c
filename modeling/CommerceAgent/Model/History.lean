import CommerceAgent.Lib.JsonLine
import CommerceAgent.Lib.Raising
import CommerceAgent.Model.Completion

/-!
# The history on the wire

What `complete` posts of the turns before: every group stands as its assistant message and its tool results, and an
assistant message says what the provider said.
-/

open CommerceAgent.Lib
open CommerceAgent.Operations (UUID Text Code HexDigest Checked)
open CommerceAgent.Orchestration

namespace CommerceAgent.Orchestration.Value

/-! ## Values as JSON -/

mutual

def toJson : Value → JsonValue ℚ
  | .null => .null
  | .bool b => .bool b
  | .int n => .int n
  | .float q => .float q
  | .str s => .str s
  | .arr items => .arr (itemsToJson items)
  | .obj fields => .obj (fieldsToJson fields)

def itemsToJson : List Value → List (JsonValue ℚ)
  | [] => []
  | item :: items => toJson item :: itemsToJson items

def fieldsToJson : List (String × Value) → List (String × JsonValue ℚ)
  | [] => []
  | (key, value) :: fields => (key, toJson value) :: fieldsToJson fields

end

mutual

def ofJson : JsonValue ℚ → Value
  | .null => .null
  | .bool b => .bool b
  | .int n => .int n
  | .float q => .float q
  | .str s => .str s
  | .arr xs => .arr (ofItems xs)
  | .obj kvs => .obj (ofFields kvs)

def ofItems : List (JsonValue ℚ) → List Value
  | [] => []
  | x :: xs => ofJson x :: ofItems xs

def ofFields : List (String × JsonValue ℚ) → List (String × Value)
  | [] => []
  | (k, v) :: kvs => (k, ofJson v) :: ofFields kvs

end

theorem toJson_ofJson (v : JsonValue ℚ) : (ofJson v).toJson = v := by
  induction v using JsonValue.parts_induction with
  | null | bool | int | float | str => rfl
  | arr xs ih =>
    rw [ofJson, toJson]
    congr 1
    induction xs with
    | nil => rfl
    | cons x xs ihxs =>
      rw [ofItems, itemsToJson, ih x List.mem_cons_self, ihxs fun y hy => ih y (List.mem_cons_of_mem _ hy)]
  | obj kvs ih =>
    rw [ofJson, toJson]
    congr 1
    induction kvs with
    | nil => rfl
    | cons kv kvs ihkvs =>
      obtain ⟨k, v⟩ := kv
      rw [ofFields, fieldsToJson, ih (k, v) List.mem_cons_self, ihkvs fun kv hkv => ih kv (List.mem_cons_of_mem _ hkv)]

/-- The same JSON value: the order of keys does not count. -/
def SameJson (value other : Value) : Prop := value.toJson.sortKeys = other.toJson.sortKeys

end CommerceAgent.Orchestration.Value

namespace CommerceAgent.Model

/-- The library reads and writes JSON, with some text for a float. -/
structure ReadsJson (library : Library) (floats : FloatText ℚ) : Prop where
  loads : ∀ text, library.loads text = (JsonValue.loads floats text.toList).map Value.ofJson
  canonical_json : ∀ value, library.canonical_json value = String.ofList (JsonValue.dumps floats 0 value.toJson)

/-! ## Turns and stores -/

namespace PrivateProviderTurn

/-- What the validators of a turn say of its tool calls. -/
def Valid (gateway : Gateway) (turn : PrivateProviderTurn) : Prop :=
  gateway.canonical_calls turn.tool_calls_json.text turn.expected_tool_call_ids = true

/-- The reference names the turn. -/
structure Bound (turn : PrivateProviderTurn) (ref : ProviderTurnRef) : Prop where
  scope : ref.scope_digest = turn.scope_digest
  attempt : ref.attempt_id = turn.attempt_id
  sequence : ref.sequence = turn.sequence
  expected_tool_calls : ref.expected_tool_call_ids = turn.expected_tool_call_ids

structure SamePayload (turn kept : PrivateProviderTurn) : Prop where
  content : kept.content = turn.content
  reasoning_content : kept.reasoning_content = turn.reasoning_content
  tool_calls_json : kept.tool_calls_json = turn.tool_calls_json

end PrivateProviderTurn

variable (gateway : Gateway)

/-- A store resolves a reference to a valid turn that it names, and no dict of a payload has a key twice. -/
def Answers : Event Op Ans → Prop
  | ⟨.resolve ref, .ok turn⟩ => turn.Valid gateway ∧ turn.Bound ref
  | ⟨.post _, .response _ _ (.json payload)⟩ => payload.toJson.Distinct
  | _ => True

/-! ## What a call should post -/

/-- The identifiers of the tool calls of an assistant message. -/
def own_call_ids (message : Value) : List (Option Value) :=
  match message.get? "tool_calls" with
  | some (.arr calls) => calls.map (Value.get? · "id")
  | _ => []

/-- The messages of a group whose turn is resolved. -/
def block (group : ConversationGroup) (turn : PrivateProviderTurn) : List Value :=
  gateway.assistant_json turn :: Gateway.results_json group

/-- A group on the wire: its assistant message, and one tool message for each call of it, in order. -/
structure Exchange (group : ConversationGroup) (turn : PrivateProviderTurn) : Prop where
  role : (gateway.assistant_json turn).get? "role" = some (.str "assistant")
  tools : ∀ result ∈ Gateway.results_json group, result.get? "role" = some (.str "tool")
  ids : (Gateway.results_json group).map (Value.get? · "tool_call_id") = own_call_ids (gateway.assistant_json turn)

def message_of (payload : Value) : Option Value := (choice_of payload).bind (Value.get? · "message")

/-- `message.get("tool_calls") or []`. -/
def calls_of : Value → Value
  | .obj fields => get_or fields "tool_calls" (.arr [])
  | _ => .null

/-- An assistant message says what a message of the provider says. -/
structure Reproduces (message encoded : Value) : Prop where
  content : encoded.get? "content" = some ((message.get? "content").getD .null)
  reasoning_content : (encoded.get? "reasoning_content").getD .null = (message.get? "reasoning_content").getD .null
  tool_calls : ((encoded.get? "tool_calls").getD (.arr [])).SameJson (calls_of message)

def answers (log : Log Op Ans) : List PostAnswer :=
  log.filterMap fun
    | ⟨.post _, answer⟩ => some answer
    | _ => none

/-- **The encoding** of one completion. -/
structure EncodesHistory (request : CompletionRequest) (result : Except Failure Completion) (log : Log Op Ans) :
    Prop where
  messages : ∀ before user, request.messages = before ++ [user] → user.role = .user →
    ∀ body answer, ⟨.post body, answer⟩ ∈ log → ∃ turns : List PrivateProviderTurn,
      List.Forall₂ (fun group turn => ⟨.resolve group.ref, .ok turn⟩ ∈ log ∧ Exchange gateway group turn)
        request.history turns ∧
      body.get? "messages" = some (.arr (before.map Gateway.message_json ++
        (List.zipWith (block gateway) request.history turns).flatten ++ [Gateway.message_json user]))
  sends : gateway.validate_request request = .ok () → (∀ ref failure, ⟨.resolve ref, .error failure⟩ ∉ log) →
    answers log ≠ []
  reproduces : ∀ response, result = .ok response → ∃ status retry_after payload message turn turn_id,
    (answers log).getLast? = some (.response status retry_after (.json payload)) ∧ message_of payload = some message ∧
      ⟨.save turn, .ok turn_id⟩ ∈ log ∧ response.provider_turn_ref = turn.ref turn_id ∧
      ∀ kept, turn.SamePayload kept → Reproduces message (gateway.assistant_json kept)

/-! ## What a call posts and saves -/

/-- From here on every post has the body, and its answer is one to rely on. -/
structure Sent (body : Value) (start log : Log Op Ans) : Prop where
  started : start ⊆ log
  posts : ∀ sent answer, ⟨.post sent, answer⟩ ∈ log → sent = body ∧ Answers gateway ⟨.post sent, answer⟩

/-- A completion that is accepted has saved the turn of its last answer. -/
def Accepted (request : CompletionRequest) (result : Except Failure Completion) (log : Log Op Ans) : Prop :=
  ∀ response, result = .ok response → ∃ status retry_after payload usage sent_at finish output turn turn_id,
    (answers log).getLast? = some (.response status retry_after (.json payload)) ∧
      gateway.parse_output payload request usage sent_at finish = some (output, turn) ∧
      ⟨.save turn, .ok turn_id⟩ ∈ log ∧ response.provider_turn_ref = turn.ref turn_id

/-- How an attempt ends. -/
def Encoded (request : CompletionRequest) (body : Value) (start : Log Op Ans) (result : Except Failure Completion)
    (log : Log Op Ans) : Prop :=
  Sent gateway body start log ∧ Accepted gateway request result log

variable {gateway} {request : CompletionRequest} {body : Value} {start log : Log Op Ans}

@[simp] theorem answers_append (log tail : Log Op Ans) : answers (log ++ tail) = answers log ++ answers tail :=
  List.filterMap_append

theorem Sent.other (h : Sent gateway body start log) {e : Event Op Ans}
    (he : ∀ sent answer, e ≠ ⟨.post sent, answer⟩) : Sent gateway body start (log ++ [e]) := by
  refine ⟨fun e he => List.mem_append_left _ (h.started he), fun sent answer hmem => ?_⟩
  rcases List.mem_append.mp hmem with hmem | hmem
  · exact h.posts sent answer hmem
  · exact absurd (List.mem_singleton.mp hmem).symm (he sent answer)

theorem Sent.post (h : Sent gateway body start log) {answer : PostAnswer}
    (hanswer : Answers gateway ⟨.post body, answer⟩) :
    Sent gateway body start (log ++ [⟨.post body, answer⟩]) := by
  refine ⟨fun e he => List.mem_append_left _ (h.started he), fun sent other hmem => ?_⟩
  rcases List.mem_append.mp hmem with hmem | hmem
  · exact h.posts sent other hmem
  · cases List.mem_singleton.mp hmem
    exact ⟨rfl, hanswer⟩

/-- What the environment may answer. -/
abbrev relied (gateway : Gateway) : Log Op Ans → Event Op Ans → Prop := fun _ e => Answers gateway e

theorem Sent.failed (h : Sent gateway body start log) (failure : Failure) :
    (Flow.done (.error failure) : Call Completion).Meets (relied gateway)
      (Flow.Ends (Encoded gateway request body start)) log :=
  Flow.Meets.done ⟨h, nofun⟩

theorem Sent.record (h : Sent gateway body start log) {attempts : List ModelAttemptSummary}
    {k : List ModelAttemptSummary → Call Completion} {summary : Except Failure ModelAttemptSummary}
    (hk : ∀ summary, Sent gateway body start (log ++ [⟨.after_attempt summary, ()⟩]) →
      (k (attempts ++ [summary])).Meets (relied gateway) (Flow.Ends (Encoded gateway request body start))
        (log ++ [⟨.after_attempt summary, ()⟩])) :
    (Gateway.record attempts k summary).Meets (relied gateway)
      (Flow.Ends (Encoded gateway request body start)) log := by
  cases summary with
  | error failure => exact h.failed failure
  | ok summary => exact Flow.Meets.ask fun _ _ => hk summary (h.other fun _ _ => nofun)

theorem Sent.wait_to_retry (h : Sent gateway body start log) {attempt_number : ℕ} {retry_after : Option String}
    {retry exhausted : Call Completion}
    (hretry : ∀ log, Sent gateway body start log →
      retry.Meets (relied gateway) (Flow.Ends (Encoded gateway request body start)) log)
    (hexhausted : ∀ log, Sent gateway body start log →
      exhausted.Meets (relied gateway) (Flow.Ends (Encoded gateway request body start)) log) :
    (gateway.wait_to_retry attempt_number retry_after retry exhausted).Meets (relied gateway)
      (Flow.Ends (Encoded gateway request body start)) log := by
  refine Flow.Meets.ask fun jitter _ => ?_
  have hjitter := h.other (e := ⟨.jitter, jitter⟩) fun _ _ => nofun
  split
  · exact hjitter.failed _
  · exact hexhausted _ hjitter
  · exact Flow.Meets.ask fun _ _ => hretry _ (hjitter.other fun _ _ => nofun)

theorem Sent.raise_http (h : Sent gateway body start log) (status attempt_number : ℕ)
    (attempts : List ModelAttemptSummary) : (Gateway.raise_http status attempt_number attempts).Meets (relied gateway)
      (Flow.Ends (Encoded gateway request body start)) log := by
  unfold Gateway.raise_http fail
  split_ifs <;> exact h.failed _

theorem model_response_ref {output : ModelOutput} {ref : ProviderTurnRef} {finish : FinishReason} {payload : Value}
    {usage : Usage} {attempts : List ModelAttemptSummary} {response : Completion}
    (h : Gateway.model_response output ref finish payload usage attempts = .ok response) :
    response.provider_turn_ref = ref := by
  unfold Gateway.model_response at h
  dsimp only at h
  split at h
  · cases h
  · split at h
    · cases h
      rfl
    · cases h

theorem Sent.succeed (h : Sent gateway body start log) {attempt_number status : ℕ} {retry_after : Option String}
    {sent_at completed_at : Instant} {payload : Value} {finish : FinishReason} {usage : Usage} {output : ModelOutput}
    {turn : PrivateProviderTurn} {attempts : List ModelAttemptSummary}
    (hlast : (answers log).getLast? = some (.response status retry_after (.json payload)))
    (hparse : gateway.parse_output payload request usage sent_at finish = some (output, turn)) :
    (Gateway.succeed attempt_number sent_at completed_at payload finish usage output turn attempts).Meets
      (relied gateway) (Flow.Ends (Encoded gateway request body start)) log := by
  refine h.record fun summary hsent => Flow.Meets.ask fun saved _ => ?_
  have hsaved := hsent.other (e := ⟨.save turn, saved⟩) fun _ _ => nofun
  cases saved with
  | error failure => exact hsaved.failed _
  | ok turn_id =>
    refine Flow.Meets.done ⟨hsaved, fun response hresponse => ?_⟩
    refine ⟨status, retry_after, payload, usage, sent_at, finish, output, turn, turn_id, ?_, hparse,
      List.mem_append_right _ (List.mem_singleton_self _), model_response_ref hresponse⟩
    rw [answers_append, answers_append]
    simpa [answers] using hlast

theorem Sent.protocol_error (h : Sent gateway body start log) (attempt_number : ℕ) (sent_at completed_at : Instant)
    (usage : Usage) (attempts : List ModelAttemptSummary) :
    (Gateway.protocol_error attempt_number sent_at completed_at usage attempts).Meets (relied gateway)
      (Flow.Ends (Encoded gateway request body start)) log :=
  h.record fun _ hsent => hsent.failed _

theorem Sent.on_body (h : Sent gateway body start log) {attempt_number status : ℕ} {retry_after : Option String}
    {sent_at completed_at : Instant} {attempts : List ModelAttemptSummary}
    {retry : List ModelAttemptSummary → Call Completion} {received : Body}
    (hlast : (answers log).getLast? = some (.response status retry_after received))
    (hretry : ∀ summary log, Sent gateway body start log →
      (retry (attempts ++ [summary])).Meets (relied gateway) (Flow.Ends (Encoded gateway request body start)) log) :
    (gateway.on_body request attempt_number sent_at completed_at attempts retry received).Meets (relied gateway)
      (Flow.Ends (Encoded gateway request body start)) log := by
  unfold Gateway.on_body
  cases received with
  | malformed => exact h.protocol_error _ _ _ _ _
  | json payload =>
    dsimp only
    split
    · refine h.record fun summary hsent => hsent.wait_to_retry (hretry summary) fun log hlog => ?_
      exact hlog.failed _
    · split
      · exact h.protocol_error _ _ _ _ _
      · rename_i output turn hparse
        exact h.succeed hlast hparse
    · exact h.protocol_error _ _ _ _ _

theorem Sent.attempt {log : Log Op Ans} (h : Sent gateway body start log) (attempt_number : ℕ)
    (attempts : List ModelAttemptSummary) :
    (gateway.attempt request body attempt_number attempts).Meets (relied gateway)
      (Flow.Ends (Encoded gateway request body start)) log := by
  unfold Gateway.attempt
  split
  · exact h.failed _
  · rename_i hless
    have hretry (summary : ModelAttemptSummary) (log : Log Op Ans) (hsent : Sent gateway body start log) :
        (gateway.attempt request body (attempt_number + 1) (attempts ++ [summary])).Meets (relied gateway)
          (Flow.Ends (Encoded gateway request body start)) log :=
      Sent.attempt hsent (attempt_number + 1) (attempts ++ [summary])
    refine Flow.Meets.ask fun sent_at _ => Flow.Meets.ask fun _ _ => Flow.Meets.ask fun answer hanswer =>
      Flow.Meets.ask fun completed_at _ => ?_
    have hsent := h.other (e := ⟨.now, sent_at⟩) fun _ _ => nofun
    have hguarded := hsent.other (e := ⟨.before_send attempt_number sent_at, ()⟩) fun _ _ => nofun
    have hposted := (hguarded.post hanswer).other (e := ⟨.now, completed_at⟩) fun _ _ => nofun
    cases answer with
    | transport_error connect =>
      exact hposted.record fun summary hrecorded =>
        hrecorded.wait_to_retry (hretry summary) fun log hlog => hlog.failed _
    | response status retry_after received =>
      dsimp only
      split
      · refine hposted.record fun summary hrecorded => ?_
        dsimp only
        split
        · exact hrecorded.wait_to_retry (hretry summary) fun log hlog => hlog.raise_http _ _ _
        · exact hrecorded.raise_http _ _ _
      · have hlast : (answers (log ++ [⟨.now, sent_at⟩] ++ [⟨.before_send attempt_number sent_at, ()⟩] ++
            [⟨.post body, .response status retry_after received⟩] ++ [⟨.now, completed_at⟩])).getLast? =
              some (.response status retry_after received) := by
          simp [answers]
        exact hposted.on_body hlast hretry
termination_by gateway.retry.maximum_attempts + 1 - attempt_number
decreasing_by omega

/-! ## Assistant messages -/

variable {turn : PrivateProviderTurn} {group : ConversationGroup}

/-- The tool calls of an assistant message, when there are any. -/
def encoded_calls (gateway : Gateway) (turn : PrivateProviderTurn) : List (String × Value) :=
  match gateway.library.loads turn.tool_calls_json.text with
  | some calls => if calls.truthy then [("tool_calls", calls)] else []
  | none => []

theorem assistant_json_eq : gateway.assistant_json turn =
    .obj ([("role", .str "assistant"), ("content", (turn.content.map fun text => Value.str text.text).getD .null)] ++
      ((turn.reasoning_content.map fun text => ("reasoning_content", Value.str text.text)).toList) ++
      encoded_calls gateway turn) := rfl

theorem lookup_encoded_calls {key : String} (h : key ≠ "tool_calls") :
    (encoded_calls gateway turn).lookup key = none := by
  unfold encoded_calls
  split
  · split
    · rw [List.lookup_cons, beq_false_of_ne h]
      rfl
    · rfl
  · rfl

theorem assistant_role : (gateway.assistant_json turn).get? "role" = some (.str "assistant") := rfl

theorem assistant_content : (gateway.assistant_json turn).get? "content" =
    some ((turn.content.map fun text => Value.str text.text).getD .null) := rfl

theorem assistant_reasoning_content : (gateway.assistant_json turn).get? "reasoning_content" =
    turn.reasoning_content.map fun text => Value.str text.text := by
  rw [assistant_json_eq]
  show List.lookup "reasoning_content" ((turn.reasoning_content.map _).toList ++ encoded_calls gateway turn) = _
  cases turn.reasoning_content with
  | none => exact lookup_encoded_calls (by decide)
  | some text => rfl

theorem assistant_tool_calls : (gateway.assistant_json turn).get? "tool_calls" =
    (encoded_calls gateway turn).lookup "tool_calls" := by
  rw [assistant_json_eq]
  show List.lookup "tool_calls" ((turn.reasoning_content.map _).toList ++ encoded_calls gateway turn) = _
  cases turn.reasoning_content with
  | none => rfl
  | some text => rfl

/-- The tool calls that a text stands for. -/
theorem assistant_calls {calls : List Value} (h : gateway.library.loads turn.tool_calls_json.text = some (.arr calls)) :
    ((gateway.assistant_json turn).get? "tool_calls").getD (.arr []) = .arr calls := by
  rw [assistant_tool_calls, encoded_calls, h]
  cases calls with
  | nil => rfl
  | cons call calls => rfl

theorem own_call_ids_eq {calls : List Value} (h : gateway.library.loads turn.tool_calls_json.text = some (.arr calls)) :
    own_call_ids (gateway.assistant_json turn) = calls.map (Value.get? · "id") := by
  rw [own_call_ids, assistant_tool_calls, encoded_calls, h]
  cases calls with
  | nil => rfl
  | cons call calls => rfl

theorem raw_id_eq {call : Value} {id : String} (h : Gateway.raw_id call = some id) :
    call.get? "id" = some (.str id) := by
  unfold Gateway.raw_id at h
  split at h
  · rename_i heq
    rw [heq, Option.some.inj h]
  · cases h

theorem PrivateProviderTurn.Valid.own_call_ids (h : turn.Valid gateway) :
    own_call_ids (gateway.assistant_json turn) = turn.expected_tool_call_ids.map fun id => some (.str id.text) := by
  unfold Valid Gateway.canonical_calls at h
  split at h
  · rename_i calls hloads
    rw [Bool.and_eq_true, decide_eq_true_eq, decide_eq_true_eq] at h
    have hids := mapM_eq_some.mp h.2
    rw [own_call_ids_eq hloads, ← List.forall₂_eq_eq_eq]
    rw [List.forall₂_map_left_iff, List.forall₂_map_right_iff]
    rw [List.forall₂_map_right_iff] at hids
    exact hids.imp fun call id hid => raw_id_eq hid
  · cases h

theorem results_ids : (Gateway.results_json group).map (Value.get? · "tool_call_id") =
    group.ref.expected_tool_call_ids.map fun id => some (.str id.text) := by
  cases group with
  | assistant group =>
    show [] = _
    rw [ConversationGroup.ref, group.no_expected_calls]
    rfl
  | tool_exchange group =>
    have hids : group.tool_results.map ToolResult.call_id = group.provider_turn_ref.expected_tool_call_ids :=
      group.ids.trans group.expected
    show (group.tool_results.map _).map _ = _
    rw [ConversationGroup.ref, ← hids, List.map_map, List.map_map]
    rfl

theorem exchange (hvalid : turn.Valid gateway) (hbound : turn.Bound group.ref) : Exchange gateway group turn := by
  refine ⟨assistant_role, fun result hresult => ?_, ?_⟩
  · cases group with
    | assistant group => cases hresult
    | tool_exchange group =>
      obtain ⟨item, -, rfl⟩ := List.mem_map.mp hresult
      rfl
  · rw [results_ids, hvalid.own_call_ids, hbound.expected_tool_calls]

/-! ## A message of the provider -/

theorem checked_text {ok : String → Bool} {text : String} {checked : Checked ok}
    (h : Checked.parse text = some checked) :
    checked.text = text := by
  unfold Checked.parse at h
  split at h
  · rw [← Option.some.inj h]
  · cases h

theorem private_turn_keeps {message : Value} {raw_calls : List Value} {calls : List ToolCall} {usage : Usage}
    {sent_at : Instant} (h : gateway.private_turn message raw_calls calls request usage sent_at = some turn) :
    Gateway.private_text message "content" = some turn.content ∧
      Gateway.private_text message "reasoning_content" = some turn.reasoning_content ∧
      turn.tool_calls_json.text = gateway.library.canonical_json (.arr raw_calls) := by
  unfold Gateway.private_turn at h
  simp only [Option.bind_eq_bind, Option.bind_eq_some_iff] at h
  obtain ⟨content, hcontent, reasoning_content, hreasoning, tool_calls_json, hcalls, hturn⟩ := h
  split at hturn
  · cases hturn
    exact ⟨hcontent, hreasoning, checked_text hcalls⟩
  · cases hturn

theorem private_text_eq {ok : String → Bool} {message : Value} {key : String} {text : Option (Checked ok)}
    (h : Gateway.private_text message key = some text) :
    (text.map fun text => Value.str text.text).getD .null = (message.get? key).getD .null := by
  unfold Gateway.private_text at h
  split at h
  · rename_i heq
    rw [heq, ← Option.some.inj h]
    rfl
  · rename_i heq
    rw [heq, ← Option.some.inj h]
    rfl
  · rename_i heq
    obtain ⟨checked, hparse, rfl⟩ := Option.map_eq_some_iff.mp h
    rw [heq, ← checked_text hparse]
    rfl
  · cases h

theorem fieldsToJson_eq (fields : List (String × Value)) :
    Value.fieldsToJson fields = fields.map fun field => (field.1, field.2.toJson) := by
  induction fields with
  | nil => rfl
  | cons field fields ih => rw [Value.fieldsToJson, ih, List.map_cons]

theorem itemsToJson_eq (items : List Value) : Value.itemsToJson items = items.map Value.toJson := by
  induction items with
  | nil => rfl
  | cons item items ih => rw [Value.itemsToJson, ih, List.map_cons]

theorem distinct_get? {value part : Value} (h : value.toJson.Distinct) {key : String}
    (hget : value.get? key = some part) :
    part.toJson.Distinct := by
  cases value with
  | obj fields =>
    obtain ⟨front, back, rfl, -⟩ := List.lookup_eq_some_iff.mp hget
    rw [Value.toJson, fieldsToJson_eq, JsonValue.Distinct, JsonValue.distinctFields_iff] at h
    exact h.2 (key, part.toJson) (List.mem_map.mpr ⟨(key, part), List.mem_append_right _ List.mem_cons_self, rfl⟩)
  | _ => cases hget

theorem distinct_message {payload message : Value} (h : payload.toJson.Distinct)
    (hmessage : message_of payload = some message) :
    message.toJson.Distinct := by
  obtain ⟨choice, hchoice, hget⟩ := Option.bind_eq_some_iff.mp hmessage
  unfold choice_of at hchoice
  split at hchoice
  · rename_i first hchoices
    obtain rfl := Option.some.inj hchoice
    have hlist := distinct_get? h hchoices
    rw [Value.toJson, itemsToJson_eq, JsonValue.Distinct, JsonValue.distinctItems_iff] at hlist
    exact distinct_get? (hlist _ List.mem_cons_self) hget
  · cases hchoice

theorem loads_calls {floats : FloatText ℚ} (hjson : ReadsJson gateway.library floats) {raw_calls : List Value}
    (hdistinct : (Value.arr raw_calls).toJson.Distinct) :
    ∃ calls, gateway.library.loads (gateway.library.canonical_json (.arr raw_calls)) = some (.arr calls) ∧
      (Value.arr calls).SameJson (.arr raw_calls) := by
  have hloads : gateway.library.loads (gateway.library.canonical_json (.arr raw_calls)) =
      some (Value.ofJson (Value.arr raw_calls).toJson.sortKeys) := by
    rw [hjson.loads, hjson.canonical_json, String.toList_ofList, JsonValue.loads_dumps floats 0 hdistinct]
    rfl
  have harr : Value.ofJson (Value.arr raw_calls).toJson.sortKeys =
      .arr (Value.ofItems (JsonValue.sortItems (Value.itemsToJson raw_calls))) := by
    rw [Value.toJson, JsonValue.sortKeys, Value.ofJson]
  refine ⟨_, hloads.trans (congrArg some harr), ?_⟩
  rw [Value.SameJson, ← harr, Value.toJson_ofJson, JsonValue.sortKeys_sortKeys]

/-- The turn of a payload, encoded in a later request, says what the message of the payload says. -/
theorem parse_output_reproduces {floats : FloatText ℚ} (hjson : ReadsJson gateway.library floats) {payload : Value}
    (hdistinct : payload.toJson.Distinct) {usage : Usage} {sent_at : Instant} {finish : FinishReason}
      {output : ModelOutput}
    (h : gateway.parse_output payload request usage sent_at finish = some (output, turn)) :
    ∃ message, message_of payload = some message ∧
      ∀ kept, turn.SamePayload kept → Reproduces message (gateway.assistant_json kept) := by
  unfold Gateway.parse_output at h
  split at h
  · rename_i model fields _ hmessage
    split_ifs at h
    split at h
    · rename_i raw_calls hraw
      simp only [Option.bind_eq_bind, Option.bind_eq_some_iff] at h
      obtain ⟨calls, -, h⟩ := h
      split_ifs at h
      simp only [Option.bind_eq_some_iff, Option.some.injEq, Prod.mk.injEq] at h
      obtain ⟨output', -, turn', hturn, rfl, rfl⟩ := h
      obtain ⟨hcontent, hreasoning, htext⟩ := private_turn_keeps hturn
      have hcalls : (Value.arr raw_calls).toJson.Distinct := by
        have hfields := distinct_message hdistinct hmessage
        unfold get_or at hraw
        split at hraw
        · rename_i value hlookup
          split_ifs at hraw
          · exact hraw ▸ distinct_get? hfields hlookup
          · cases hraw
            trivial
        · cases hraw
          trivial
      refine ⟨.obj fields, hmessage, fun kept hkept => ⟨?_, ?_, ?_⟩⟩
      · rw [assistant_content, hkept.content, private_text_eq hcontent]
      · rw [assistant_reasoning_content, hkept.reasoning_content, private_text_eq hreasoning]
      · obtain ⟨read, hread, hsame⟩ := loads_calls hjson hcalls
        rw [← htext, ← hkept.tool_calls_json] at hread
        rw [assistant_calls hread, calls_of, hraw]
        exact hsame
    · cases h
  · cases h

/-! ## The whole call -/

theorem EncodesHistory.unsent {log : Log Op Ans} (h : ∀ body answer, ⟨.post body, answer⟩ ∉ log) (failure : Failure)
    (hwhy : gateway.validate_request request = .ok () → ∃ ref failure, ⟨.resolve ref, .error failure⟩ ∈ log) :
    EncodesHistory gateway request (.error failure) log := by
  refine ⟨fun _ _ _ _ body answer hmem => absurd hmem (h body answer), fun hvalid hresolved => ?_, nofun⟩
  obtain ⟨ref, reason, hmem⟩ := hwhy hvalid
  exact absurd hmem (hresolved ref reason)

theorem encode_history_encodes {ended : Except Failure Completion → Log Op Ans → Prop}
    (hfail : ∀ failure log, (∀ body answer, ⟨.post body, answer⟩ ∉ log) →
      (∃ ref failure, ⟨.resolve ref, .error failure⟩ ∈ log) → ended (.error failure) log)
    (history : List ConversationGroup) {k : List Value → Call Completion} {log : Log Op Ans}
    (hlog : ∀ body answer, ⟨.post body, answer⟩ ∉ log)
    (hk : ∀ turns log', (∀ body answer, ⟨.post body, answer⟩ ∉ log') → log ⊆ log' →
      List.Forall₂ (fun group turn => ⟨.resolve group.ref, .ok turn⟩ ∈ log' ∧ Exchange gateway group turn) history
        turns →
      (k (List.zipWith (block gateway) history turns).flatten).Meets (relied gateway) (Flow.Ends ended) log') :
    (gateway.encode_history history k).Meets (relied gateway) (Flow.Ends ended) log := by
  induction history generalizing k log with
  | nil => exact hk [] log hlog (List.Subset.refl log) .nil
  | cons group groups ih =>
    unfold Gateway.encode_history
    refine Flow.Meets.ask fun answer hanswer => ?_
    have hnext : ∀ body sent, (⟨.post body, sent⟩ : Event Op Ans) ∉ log ++ [⟨.resolve group.ref, answer⟩] := by
      intro body sent hmem
      rcases List.mem_append.mp hmem with hmem | hmem
      · exact hlog body sent hmem
      · cases List.mem_singleton.mp hmem
    cases answer with
    | error failure =>
      exact Flow.Meets.done (hfail _ _ hnext ⟨_, _, List.mem_append_right _ (List.mem_singleton_self _)⟩)
    | ok turn =>
      refine ih hnext fun turns log' hlog' hsubset hturns => ?_
      obtain ⟨hvalid, hbound⟩ := hanswer
      have hmem : ⟨.resolve group.ref, .ok turn⟩ ∈ log' :=
        hsubset (List.mem_append_right _ (List.mem_singleton_self _))
      exact hk (turn :: turns) log' hlog' (fun e he => hsubset (List.mem_append_left _ he))
        (.cons ⟨hmem, exchange hvalid hbound⟩ hturns)

theorem wire_body_messages {before : List ChatMessage} {user : ChatMessage} (h : request.messages = before ++ [user])
    (huser : user.role = .user) (history : List Value) : (gateway.wire_body request history).get? "messages" =
      some (.arr (before.map Gateway.message_json ++ history ++ [Gateway.message_json user])) := by
  have hlast : request.messages.getLast request.has_message = user := by
    simp only [h, List.getLast_append_singleton]
  have hdrop : request.messages.dropLast = before := by
    rw [h, List.dropLast_concat]
  unfold Gateway.wire_body
  rw [hlast, hdrop]
  obtain ⟨role, content⟩ := user
  obtain rfl : role = .user := huser
  rfl

theorem attempt_posts (request : CompletionRequest) (body : Value) (log : Log Op Ans) :
    (gateway.attempt request body 1 []).Meets (relied gateway) (Flow.Ends fun _ log => answers log ≠ []) log := by
  unfold Gateway.attempt
  rw [if_neg (not_lt.mpr gateway.retry.attempts_bound.1)]
  refine Flow.Meets.ask fun _ _ => Flow.Meets.ask fun _ _ => Flow.Meets.ask fun answer _ => ?_
  refine (Flow.Meets.grows _ _ _).mono fun _ later hlater _ _ hnil => ?_
  have hmem : answer ∈ answers later :=
    List.mem_filterMap.mpr ⟨⟨.post body, answer⟩, hlater (List.mem_append_right _ (List.mem_singleton_self _)), rfl⟩
  rw [hnil] at hmem
  exact List.not_mem_nil hmem

/-- The requests of a gateway say what was said before, in order. -/
theorem complete_encodes_history {floats : FloatText ℚ} (hjson : ReadsJson gateway.library floats)
    (request : CompletionRequest) (env : Env Op Ans) (henv : Flow.Obeys (relied gateway) env) :
    EncodesHistory gateway request ((gateway.complete request).play env []).1
      ((gateway.complete request).play env []).2 := by
  have hempty : ∀ body answer, (⟨.post body, answer⟩ : Event Op Ans) ∉ ([] : Log Op Ans) := fun _ _ => List.not_mem_nil
  have hmeets : (gateway.complete request).Meets (relied gateway) (Flow.Ends (EncodesHistory gateway request)) [] := by
    unfold Gateway.complete
    split
    · rename_i failure hinvalid
      refine Flow.Meets.done (.unsent hempty _ fun hvalid => ?_)
      rw [hinvalid] at hvalid
      cases hvalid
    · refine encode_history_encodes (fun failure log hlog hwhy => .unsent hlog failure fun _ => hwhy) request.history
        hempty fun turns log hlog _ hturns => ?_
      have hsent : Sent gateway (gateway.wire_body request (List.zipWith (block gateway) request.history turns).flatten)
          log log := ⟨List.Subset.refl log, fun sent answer hmem => absurd hmem (hlog sent answer)⟩
      refine ((hsent.attempt 1 []).and (attempt_posts _ _ log)).mono fun result ended hended result' hresult => ?_
      obtain ⟨hsent, haccepted⟩ := hended.1 result' hresult
      refine ⟨fun before user hmessages huser body answer hmem => ?_, fun _ _ => hended.2 result' hresult,
        fun response hresponse => ?_⟩
      · refine ⟨turns, hturns.imp fun group turn h => ⟨hsent.started h.1, h.2⟩, ?_⟩
        rw [(hsent.posts body answer hmem).1]
        exact wire_body_messages hmessages huser _
      · obtain ⟨status, retry_after, payload, usage, sent_at, finish, output, turn, turn_id, hlast, hparse, hsaved,
          href⟩ :=
          haccepted response hresponse
        have hdistinct : payload.toJson.Distinct := by
          obtain ⟨⟨op, answer⟩, hmem, hanswer⟩ := List.mem_filterMap.mp (List.mem_of_getLast? hlast)
          cases op with
          | post body =>
            obtain rfl := Option.some.inj hanswer
            exact (hsent.posts body _ hmem).2
          | _ => cases hanswer
        obtain ⟨message, hmessage, hreproduces⟩ := parse_output_reproduces hjson hdistinct hparse
        exact ⟨status, retry_after, payload, message, turn, turn_id, hlast, hmessage, hsaved, href, hreproduces⟩
  exact hmeets.result henv

/-! ## A sample -/

theorem point_notMem (i : ℤ) : ∀ c ∈ intText i, decide (c ≠ '.') = true := by
  have hdigits (n : ℕ) : ∀ c ∈ Nat.toDigits 10 n, decide (c ≠ '.') = true := by
    intro c hc
    rw [decide_eq_true_eq]
    rintro rfl
    exact absurd (isDigit_of_mem_toDigits hc) (by decide)
  cases i with
  | ofNat n => exact hdigits n
  | negSucc n => exact List.forall_mem_cons.mpr ⟨by decide, hdigits _⟩

/-- A fraction as the text of its numerator, a point and its denominator. -/
def fractionText : FloatText ℚ where
  repr q := intText q.num ++ '.' :: Nat.toDigits 10 q.den
  float text :=
    JsonValue.intOfText (text.takeWhile (· ≠ '.')) / Nat.ofDigitChars 10 (text.dropWhile (· ≠ '.')).tail 0
  written q r hr := by
    obtain ⟨htake, hdrop⟩ := JsonValue.takeWhile_digits (fun c hc => isDigit_of_mem_toDigits (n := q.den) hc) hr.stop
    have hwhole : JsonValue.readWhole (intText q.num ++ ('.' :: (Nat.toDigits 10 q.den ++ r))) =
        some (intText q.num, '.' :: (Nat.toDigits 10 q.den ++ r)) := JsonValue.readWhole_intText _ (by simp [stop_cons])
    have hfraction : JsonValue.readFraction ('.' :: (Nat.toDigits 10 q.den ++ r)) =
        some ('.' :: Nat.toDigits 10 q.den, r) := by
      rw [JsonValue.readFraction, htake, hdrop, if_neg Nat.toDigits_ne_nil]
    rw [List.append_assoc, List.cons_append]
    unfold JsonValue.readNumber
    rw [hwhole]
    simp [hfraction, JsonValue.readExponent_of_follows hr]
  float_repr q := by
    rw [List.takeWhile_append_of_pos (point_notMem _), List.dropWhile_append_of_pos (point_notMem _)]
    simp [JsonValue.intOfText_intText, Nat.ofDigitChars_ten_toDigits, Rat.num_div_den]

def jsonLibrary : Library where
  loads text := (JsonValue.loads fractionText text.toList).map Value.ofJson
  canonical_json value := String.ofList (JsonValue.dumps fractionText 0 value.toJson)
  dumps value := String.ofList (JsonValue.dumps fractionText 1 value.toJson)
  sha256 _ := HexDigest.ofNat 0
  str _ := ""
  float _ := .ok none
  fixed _ := ""
  strip text := text

theorem jsonLibrary_readsJson : ReadsJson jsonLibrary fractionText := ⟨fun _ => rfl, fun _ => rfl⟩

def historyGateway : Gateway := { sampleGateway with library := jsonLibrary }

/-- A turn that called for one tool. -/
def schemaCall : Value :=
  .obj [("function", .obj [("arguments", .str "\x7b \x7d"), ("name", .str "get_schema")]), ("id", .str "call-7"),
    ("type", .str "function")]

def schemaId : Text 1 128 := ⟨"call-7", by decide⟩
def schemaName : Code 2 63 := ⟨"get_schema", by decide⟩
def emptyObject : Text 1 262144 := ⟨"\x7b \x7d", by decide⟩

def schemaTurn : PrivateProviderTurn where
  scope_digest := scope_digest jsonLibrary sampleRequest.run_scope
  attempt_id := 1
  sequence := 0
  model := sampleGateway.capability.response_model
  content := none
  reasoning_content := none
  tool_calls_json := ⟨jsonLibrary.canonical_json (.arr [schemaCall]), by decide +kernel⟩
  payload_sha256 := HexDigest.ofNat 0
  expected_tool_call_ids := [schemaId]
  token_weight := 0
  created_at := 0
  few := Nat.le_add_left 1 7
  unique := List.nodup_singleton _

def schemaExchange : ToolExchangeGroup where
  provider_turn_ref := schemaTurn.ref 7
  tool_calls := [⟨schemaId, schemaName, emptyObject⟩]
  tool_results := [⟨schemaId, schemaName, .success, emptyObject, ⟨"The schema.", by decide⟩, HexDigest.ofNat 0, []⟩]
  size := ⟨le_refl 1, Nat.le_add_left 1 7⟩
  ids := rfl
  expected := rfl
  names := rfl

def historyRequest : CompletionRequest := { sampleRequest with sequence := 1, history := [.tool_exchange schemaExchange] }

/-- An answer that calls for no tool. -/
def finalPayload : Value :=
  .obj [("choices", .arr [.obj [("finish_reason", .str "stop"), ("message", .obj [("content", .str "ten rows")])]]),
    ("model", .str "model")]

theorem finalPayload_distinct : finalPayload.toJson.Distinct := by
  simp [finalPayload, Value.toJson, Value.itemsToJson, Value.fieldsToJson, JsonValue.Distinct, JsonValue.DistinctItems,
    JsonValue.DistinctFields]

/-- The store has the turn, and the provider gives a final answer. -/
def historyEnv : Env Op Ans
  | _, .resolve ref =>
    if ref = schemaTurn.ref 7 then .ok schemaTurn
    else .error (.state "state_not_found" "provider turn not found" false)
  | _, .now => (0 : ℤ)
  | _, .before_send .. => ()
  | _, .post _ => .response 200 none (.json finalPayload)
  | _, .after_attempt _ => ()
  | _, .jitter => (0 : ℚ)
  | _, .sleep _ => ()
  | _, .save _ => .ok 8

theorem schemaTurn_valid : schemaTurn.Valid historyGateway := by
  unfold PrivateProviderTurn.Valid
  decide +kernel

theorem historyEnv_relied : Flow.Obeys (relied historyGateway) historyEnv := by
  intro log op
  cases op with
  | resolve ref =>
    show Answers historyGateway ⟨.resolve ref, if ref = schemaTurn.ref 7 then .ok schemaTurn else _⟩
    split
    · rename_i href
      obtain rfl := href
      exact ⟨schemaTurn_valid, rfl, rfl, rfl, rfl⟩
    · trivial
  | post body => exact finalPayload_distinct
  | _ => trivial

/-- A tool exchange is encoded, and the answer to it is accepted. -/
theorem complete_encodes_history_sample :
    EncodesHistory historyGateway historyRequest ((historyGateway.complete historyRequest).play historyEnv []).1
      ((historyGateway.complete historyRequest).play historyEnv []).2 ∧
    ((historyGateway.complete historyRequest).play historyEnv []).1.isOk = true :=
  ⟨complete_encodes_history jsonLibrary_readsJson historyRequest historyEnv historyEnv_relied, by decide +kernel⟩

end CommerceAgent.Model
