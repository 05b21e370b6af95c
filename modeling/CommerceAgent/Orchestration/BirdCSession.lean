import CommerceAgent.Orchestration.BirdServer

/-!
# Sessions in c-mode

The responder, which makes one exchange with the model, and the loop of a session that
hands each phase to it.
-/

open CommerceAgent.Lib
open CommerceAgent.Lib.Flow (onOk)
open CommerceAgent.Operations (UUID Text Code Checked)

namespace CommerceAgent.Orchestration

/-! ## Requests and candidates -/

structure BirdCRequest where
  run_scope : RunScope
  attempt_id : UUID
  current_phase : ContextDatum
  confirmed_facts : List ContextDatum
  evidence : List ContextDatum
  latest_error : Option TypedErrorDatum
  bird_c : (run_scope.track, run_scope.mode) = (.bird, .c)

inductive BirdCCandidate where
  | ask_user (question : Text 1 4000)
  | submit_sql (sql : Text 1 100000)
  | text (content : Text 1 100000)
  deriving DecidableEq

structure BirdCResponse where
  candidate : BirdCCandidate
  hashes : PromptHashes
  attempt_id : UUID
  deriving DecidableEq

/-! ## Operations -/

inductive BirdCOp where
  | attempt_id
  | build (request : ContextRequest)
  | complete (request : ModelRequest)
  | delete_attempt (attempt : AttemptRef)
  | execute (call : ToolCall)
  deriving DecidableEq

abbrev BirdCAns : BirdCOp → Type
  | .attempt_id => UUID
  | .build _ => Except Raised PromptHashes
  | .complete _ => Except Raised ModelResponse
  | .delete_attempt _ => Except Raised Unit
  | .execute _ => Except Raised ToolResult

/-! ## The responder -/

namespace BirdCResponder

variable (library : Library)

def argument {ok : String → Bool} (name key : String) (fields : List (String × Value)) : Option (Checked ok) :=
  match (fields.lookup "type").getD (.str name), fields.lookup key with
  | .str type, some (.str text) =>
    if type = name ∧ fields.all fun field => ["type", key].contains field.1 then Checked.parse text else none
  | _, _ => none

def candidate (call : ToolCall) : Except Raised BirdCCandidate :=
  if call.name.text ∉ ["ask_user", "submit_sql"] then .error (ToolContractError "tool_not_registered")
  else
    match library.loads call.arguments_json.text with
    | some (.obj fields) =>
      if call.name.text = "ask_user" then
        match argument "ask_user" "question" fields with
        | some question => .ok (.ask_user question)
        | none => .error (ToolContractError "invalid_tool_arguments")
      else
        match argument "submit_sql" "sql" fields with
        | some sql => .ok (.submit_sql sql)
        | none => .error (ToolContractError "invalid_tool_arguments")
    | _ => .error (ToolContractError "invalid_tool_arguments")

/-- The candidate of a model response. -/
def candidate_of (response : ModelResponse) : Except Raised BirdCCandidate :=
  match response.output with
  | .final output => (validated output.content.text).map .text
  | .tool_calls output =>
    if response.finish_reason ≠ .tool_calls then .error (ToolContractError "bird_c_candidate_required")
    else
      match output.tool_calls with
      | [call] => candidate library call
      | _ => .error (ToolContractError "bird_c_single_candidate_required")

/-- `_validate_response_binding(bundle, ref)`. -/
def response_bound (bundle : PromptBundle) (ref : ProviderTurnRef) : Bool :=
  ref.scope_digest = scope_digest library bundle.model_request.run_scope &&
    ref.attempt_id = bundle.model_request.attempt_id && ref.sequence = bundle.model_request.sequence

def context (request : BirdCRequest) : ContextRequest where
  run_scope := request.run_scope
  attempt_id := request.attempt_id
  sequence := 0
  step := .bird_c_respond
  current_input := request.current_phase
  confirmed_facts := request.confirmed_facts
  evidence := request.evidence
  latest_error := request.latest_error
  history := []

def respond_once (request : BirdCRequest) : Flow BirdCOp BirdCAns (Except Raised BirdCResponse) :=
  .ask (.build (context request)) <| onOk fun hashes =>
  .ask (.complete ((context request).bundle hashes).model_request) <| onOk fun response =>
  if ¬ response_bound library ((context request).bundle hashes) response.provider_turn_ref then
    .done (.error (ToolContractError "model_response_binding_mismatch"))
  else .done ((candidate_of library response).map fun candidate => ⟨candidate, hashes, request.attempt_id⟩)

/-- One candidate, and the destruction of the attempt's private state on exit. -/
def respond (request : BirdCRequest) : Flow BirdCOp BirdCAns (Except Raised BirdCResponse) :=
  (respond_once library request).bind fun result =>
  .ask (.delete_attempt ⟨scope_digest library request.run_scope, request.attempt_id⟩) fun
    | .ok () => .done result
    | .error _ => .done (.error (ToolInfrastructureError "private_turn_cleanup_failed"))

end BirdCResponder

/-! ## What the model is shown -/

/-- A part that the orchestrator seeded, under its heading. -/
def seeded_part (library : Library) (heading : String) : Option Value → List String
  | none => []
  | some value =>
    match value with
    | .str text =>
      if library.strip text ≠ "" then [heading ++ "\n" ++ text]
      else if text ≠ "" then [heading ++ "\n" ++ library.dumps (.str text)]
      else []
    | value => if value.truthy then [heading ++ "\n" ++ library.dumps value] else []

/-- `_phase_content(task_message, dialogue, state, current_message=...)`. -/
def phase_content (library : Library) (task_message : String) (dialogue : List String) (state : SessionState)
    (current_message : String) : String :=
  "\n\n".intercalate <|
    ["User Query (official first message):\n" ++ task_message] ++
    seeded_part library "[Task schema]" state.db_schema ++
    seeded_part library "[External knowledge]" state.external_kg ++
    (if current_message ≠ task_message then ["Orchestrator message for this phase:\n" ++ current_message] else []) ++
    (if dialogue.isEmpty then [] else ["Clarification dialogue so far:\n" ++ "\n".intercalate dialogue]) ++
    match clarification_budget state with
    | none => []
    | some max_turn =>
      [s!"[clarification budget: {state.ask_user_turns} of {max_turn} ask_user turns " ++
        "used; once exhausted you must call submit_sql]"]

def phase_datum (library : Library) (source_ref content : String) : Except Raised ContextDatum := do
  let source_ref ← validated source_ref
  let checked ← validated content
  return ⟨.phase, .bird_c_phase, source_ref, none, checked, library.sha256 content⟩

/-! ## The session -/

/-- A session, as it stands between two runs: the state and the memory of the session. -/
structure CSession where
  state : SessionState
  model_turns : ℤ
  task_message : Option String
  memory : List String

/-- A new session over the state that it is given. -/
def CSession.init (state : SessionState) : CSession := ⟨state, state.model_turns, none, []⟩

abbrev BirdCCall := Flow BirdCOp BirdCAns (Except Raised String × CSession)

def answer_text (library : Library) (result : ToolResult) : Except Raised String :=
  if result.status ≠ .success then .ok result.content_json.text
  else
    match library.loads result.content_json.text with
    | none => .ok result.content_json.text
    | some content => (BirdSessionStatePort.get_or_empty content "answer").map library.str

/-- A tool call of the session, which raises when its identity or its arguments do not fit. -/
def tool_call (library : Library) (call_id : String) (name : Code 2 63) (arguments : Value) :
    Except Raised ToolCall := do
  let call_id ← validated call_id
  let arguments_json ← validated (library.canonical_json arguments)
  return ⟨call_id, name, arguments_json⟩

namespace SystemAgent

variable (agent : SystemAgent)

def phase_source (model_turns : ℤ) : String := s!"bird-session:{agent.session_id.text}:turn{model_turns}"

/-- A tool call through the port of the session. -/
def call_tool (s : CSession) (call : Except Raised ToolCall) (k : ToolResult → SessionState → BirdCCall) : BirdCCall :=
  match call with
  | .error e => .done (.error e, s)
  | .ok call =>
    (BirdSessionStatePort.execute agent.library (fun call => .ask (.execute call) .done) .c call s.state).bind fun
    | (.error e, state) => .done (.error e, { s with state := state })
    | (.ok result, state) => k result state

/-- The session goes on after a question only: `next`. -/
def on_candidate (s : CSession) (next : SessionState → List String → BirdCCall) : BirdCCandidate → BirdCCall
  | .ask_user question =>
    agent.call_tool s (tool_call agent.library s!"c_ask_{s.model_turns}" ask_user_name
      (.obj [("question", .str question.text)])) fun result state =>
    match answer_text agent.library result with
    | .error e => .done (.error e, { s with state := state, memory := s.memory ++ ["[agent ask] " ++ question.text] })
    | .ok reply => next state (s.memory ++ ["[agent ask] " ++ question.text, "[user reply] " ++ reply])
  | .text content =>
    .done (.ok content.text, { s with memory := s.memory ++ ["[agent note] " ++ preview content.text 2000] })
  | .submit_sql sql =>
    agent.call_tool s (tool_call agent.library s!"c_submit_{s.model_turns}" submit_sql_name
      (.obj [("sql", .str sql.text)])) fun result state =>
    .done (.ok "SQL submitted. Awaiting result.",
      { s with
        state := state
        memory := s.memory ++
          ["[agent submit_sql]\n" ++ sql.text, "[submit result] " ++ preview result.content_json.text 800] })

/-- One model turn, which the session has counted. -/
def c_turn (h : (agent.run_scope.track, agent.run_scope.mode) = (.bird, .c)) (task_message message : String)
    (s : CSession) (next : SessionState → List String → BirdCCall) : BirdCCall :=
  .ask .attempt_id fun attempt_id =>
  match phase_datum agent.library (agent.phase_source s.model_turns)
      (phase_content agent.library task_message s.memory s.state message) with
  | .error e => .done (.error e, s)
  | .ok datum =>
    (BirdCResponder.respond agent.library ⟨agent.run_scope, attempt_id, datum, [], [], none, h⟩).bind fun
    | .error e => .done (.error e, s)
    | .ok response => agent.on_candidate s next response.candidate

/-- The session with one more model turn on its counter. -/
def count_turn (s : CSession) : CSession :=
  { s with model_turns := s.model_turns + 1, state := { s.state with model_turns := s.model_turns + 1 } }

def c_loop (h : (agent.run_scope.track, agent.run_scope.mode) = (.bird, .c)) (task_message message : String)
    (s : CSession) : BirdCCall :=
  if s.model_turns < MAX_MODEL_TURNS then
    agent.c_turn h task_message message (count_turn s) fun state memory =>
    c_loop h task_message message { count_turn s with state := state, memory := memory }
  else
    .done (.ok "Maximum turns reached. Task ended.", { s with state := { s.state with model_turns := s.model_turns } })
termination_by (MAX_MODEL_TURNS - s.model_turns).toNat
decreasing_by
  unfold count_turn
  dsimp only
  omega

def begin_phase (s : CSession) : CSession :=
  { s with state := { s.state with submitted_this_phase := false, ask_user_turns := 0 } }

def run_c (h : (agent.run_scope.track, agent.run_scope.mode) = (.bird, .c)) (message : String) (s : CSession) :
    BirdCCall :=
  if agent.stop_on_submit_fail ∧ s.state.last_submit_passed = some false then
    .done (.ok "No repair attempted (ablation condition A).", begin_phase s)
  else
    agent.c_loop h (s.task_message.getD message) message
      { begin_phase s with task_message := some (s.task_message.getD message) }

/-- Runs of one session, one after another. -/
def runs_c (h : (agent.run_scope.track, agent.run_scope.mode) = (.bird, .c)) :
    List String → CSession → Flow BirdCOp BirdCAns (List (Except Raised String) × CSession) :=
  Flow.each (agent.run_c h)

end SystemAgent

end CommerceAgent.Orchestration
