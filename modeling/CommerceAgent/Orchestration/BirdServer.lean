import CommerceAgent.Orchestration.BirdAGraph

/-!
# Sessions of the system agent

The session state, the tool port that keeps it, the gates in front of a model turn, and
one run of a session in either mode.
-/

open CommerceAgent.Lib
open CommerceAgent.Lib.Flow (onOk)
open CommerceAgent.Operations (UUID Text Code HexDigest Checked)

namespace CommerceAgent.Orchestration

/-! ## Session state -/

structure TrajectoryEntry where
  tool : String
  args : Value
  result : String

structure DialogueEntry where
  role : String
  content : Value

/-- The keys of the session state that the session reads or writes. -/
structure SessionState where
  budget_remaining : Option ℚ
  task_done : Bool
  phase1_completed : Bool
  phase2_completed : Bool
  current_phase : ℕ
  total_reward : Option ℚ
  last_submit_raw : Option Value
  last_submit_passed : Option Bool
  submitted_this_phase : Bool
  ask_user_turns : ℕ
  model_turns : ℤ
  max_turn : Option Value
  db_schema : Option Value
  external_kg : Option Value
  tool_trajectory : List TrajectoryEntry
  dialogue_history : List DialogueEntry

/-- `float(state.get("budget_remaining", 0))`. -/
def SessionState.budget (s : SessionState) : ℚ := s.budget_remaining.getD 0

def coin_cost (name : String) : Option ℚ :=
  [("execute_sql", 1), ("get_schema", 1), ("get_all_column_meanings", 1), ("get_column_meaning", 1 / 2),
    ("get_all_external_knowledge_names", 1 / 2), ("get_knowledge_definition", 1 / 2),
    ("get_all_knowledge_definitions", 1), ("ask_user", 2), ("submit_sql", 3)].lookup name

def clarification_budget (s : SessionState) : Option ℕ :=
  match s.max_turn with
  | some (.int n) => if n ≤ 0 then none else some n.toNat
  | _ => none

/-- `_preview(text, limit)`, for a text. -/
def preview (text : String) (limit : ℕ) : String :=
  if limit < text.length then String.ofList (text.toList.take limit) ++ "...<truncated>" else text

/-- A checked text, or the validation error of its model. -/
def validated {ok : String → Bool} (text : String) : Except Raised (Checked ok) :=
  match Checked.parse text with
  | some checked => .ok checked
  | none => .error ValidationError

namespace BirdSessionStatePort

variable (library : Library)

/-! ## The gates of the port -/

/-- `_text_result(call, text, key=..., source_ref=...)`. -/
def text_result (call : ToolCall) (text key source_ref : String) : Except Raised ToolResult := do
  let content_json := library.canonical_json (.obj [(key, .str text)])
  let digest := library.sha256 content_json
  let content ← validated content_json
  let summary ← validated (library.canonical_json
    (.obj [("content_sha256", .str digest.text), ("source_refs", .arr [.str source_ref])]))
  return {
    call_id := call.call_id
    name := call.name
    status := .success
    content_json := content
    deterministic_summary := summary
    content_sha256 := digest
    source_refs := [source_ref] }

/-- `_gate_budget(call)`: the result that takes the place of the call, if it does not go through. -/
def gate_budget (call : ToolCall) (s : SessionState) : Option (Except Raised ToolResult) × SessionState :=
  match coin_cost call.name.text with
  | none => (none, s)
  | some cost =>
    if s.budget < cost then
      if call.name.text = "submit_sql" then (none, { s with budget_remaining := some (-1) })
      else
        (some (text_result library call
          ("Budget exhausted (" ++ library.fixed s.budget ++
            " remaining). You MUST call submit_sql now with your best SQL.") "text" "bird:budget_gate"), s)
    else if call.name.text = "submit_sql" ∧ s.budget - cost ≤ 0 then (none, { s with budget_remaining := some (-1) })
    else (none, { s with budget_remaining := some (s.budget - cost) })

def gate_clarification_budget (call : ToolCall) (s : SessionState) : Option (Except Raised ToolResult) :=
  match clarification_budget s with
  | none => none
  | some max_turn =>
    if s.ask_user_turns < max_turn then none
    else
      some (text_result library call
        (s!"Clarification budget exhausted ({s.ask_user_turns} of {max_turn} ask_user turns " ++
          "used). You MUST call submit_sql with your best query now.") "answer" "bird:clarification_gate")

def gate (mode : Mode) (call : ToolCall) (s : SessionState) : Option (Except Raised ToolResult) × SessionState :=
  match mode with
  | .a => gate_budget library call s
  | .c => if call.name.text = "ask_user" then (gate_clarification_budget library call s, s) else (none, s)
  | .retail => (none, s)

/-! ## The state after a tool -/

/-- `phase_completed` of a passed submission. -/
def complete_phase (body : Value) (s : SessionState) : SessionState :=
  if (body.get? "phase_completed").bind Value.number? = some 1 then
    match body.get? "has_follow_up" with
    | some (.bool true) => { s with phase1_completed := true, current_phase := 2 }
    | _ => { s with phase1_completed := true, current_phase := 2, task_done := true }
  else if (body.get? "phase_completed").bind Value.number? = some 2 then
    { s with phase2_completed := true, task_done := true }
  else s

/-- The last submission, for the stop gates. -/
def note_submit (body : Value) (passed : Bool) (s : SessionState) : SessionState :=
  { s with
    last_submit_raw := some ((body.get? "message").getD (.str ""))
    last_submit_passed := some passed }

def apply_submit_state (result : ToolResult) (s : SessionState) : Except Raised Unit × SessionState :=
  if result.status ≠ .success then (.ok (), s)
  else
    match library.loads result.content_json.text with
    | some (.obj fields) =>
      match Value.get? (.obj fields) "passed" with
      | some (.bool true) =>
        match library.float ((Value.get? (.obj fields) "reward").getD (.float 0)) with
        | .error e => (.error e, s)
        | .ok reward =>
          (.ok (), note_submit (.obj fields) true <| complete_phase (.obj fields)
            { s with total_reward := do return (← s.total_reward) + (← reward) })
      | _ => (.ok (), note_submit (.obj fields) false s)
    | _ => (.ok (), s)

/-- `value.get(key, "")`, which only a dictionary has. -/
def get_or_empty (value : Value) (key : String) : Except Raised Value :=
  match value with
  | .obj fields => .ok ((fields.lookup key).getD (.str ""))
  | _ => .error (.exception "AttributeError")

/-- The answer and the question of a successful `ask_user`. -/
def note_ask_user (arguments : Value) (result : ToolResult) (s : SessionState) : Except Raised Unit × SessionState :=
  let answer := match library.loads result.content_json.text with
    | none => Except.ok ""
    | some content => (get_or_empty content "answer").map library.str
  match answer, get_or_empty arguments "question" with
  | .error e, _ => (.error e, s)
  | .ok _, .error e => (.error e, s)
  | .ok answer, .ok question =>
    (.ok (), { s with dialogue_history := s.dialogue_history ++ [⟨"agent", question⟩, ⟨"user", .str answer⟩] })

/-- The tool call on record. -/
def note_trajectory (call : ToolCall) (arguments : Value) (result : ToolResult) (s : SessionState) : SessionState :=
  { s with
    tool_trajectory := s.tool_trajectory ++ [⟨call.name.text, arguments, preview result.content_json.text 2000⟩] }

/-- One more question, which the c-mode counts. -/
def count_ask_user (mode : Mode) (s : SessionState) : SessionState :=
  if mode = .c then { s with ask_user_turns := s.ask_user_turns + 1 } else s

/-- `json.loads(call.arguments_json)`. -/
def arguments_of (call : ToolCall) : Value := (library.loads call.arguments_json.text).getD (.obj [])

def after_tool (mode : Mode) (call : ToolCall) (result : ToolResult) (s : SessionState) :
    Except Raised Unit × SessionState :=
  if call.name.text = "ask_user" ∧ result.status = .success then
    note_ask_user library (arguments_of library call) result
      (count_ask_user mode (note_trajectory call (arguments_of library call) result s))
  else if call.name.text = "submit_sql" then
    match apply_submit_state library result (note_trajectory call (arguments_of library call) result s) with
    | (.error e, s) => (.error e, s)
    | (.ok (), s) => (.ok (), if mode = .c then { s with submitted_this_phase := true } else s)
  else (.ok (), note_trajectory call (arguments_of library call) result s)

/-- A call behind its gate: `inner.execute`, and the state after it. -/
def forward {Op : Type} {Ans : Op → Type} (inner : ToolCall → Flow Op Ans (Except Raised ToolResult)) (mode : Mode)
    (call : ToolCall) (s : SessionState) : Flow Op Ans (Except Raised ToolResult × SessionState) :=
  (inner call).bind fun
    | .error e => .done (.error e, s)
    | .ok result => .done ((after_tool library mode call result s).1.map fun _ => result,
        (after_tool library mode call result s).2)

def execute {Op : Type} {Ans : Op → Type} (inner : ToolCall → Flow Op Ans (Except Raised ToolResult)) (mode : Mode)
    (call : ToolCall) (s : SessionState) : Flow Op Ans (Except Raised ToolResult × SessionState) :=
  match gate library mode call s with
  | (some gated, s) => .done (gated, s)
  | (none, s) => forward library inner mode call s

end BirdSessionStatePort

/-! ## The gates in front of a model turn -/

def official_task_done : StopOutcome := ⟨.completed, ⟨"official_task_done", by decide⟩, none, false⟩
def coin_budget_signal : StopOutcome := ⟨.budget_exhausted, ⟨"coin_budget_signal", by decide⟩, none, false⟩
def ablation_stop_on_submit_fail : StopOutcome :=
  ⟨.completed, ⟨"ablation_stop_on_submit_fail", by decide⟩, none, false⟩

/-- `_BudgetStopGate.stop_model_turn()`. -/
def budget_stop_gate (s : SessionState) : Option StopOutcome :=
  if s.task_done then some official_task_done
  else
    match s.budget_remaining with
    | some budget => if budget < 0 then some coin_budget_signal else none
    | none => none

/-- `_ConditionalStopGate.stop_model_turn()`. -/
def conditional_stop_gate (enabled : Bool) (s : SessionState) : Option StopOutcome :=
  if enabled ∧ s.last_submit_passed = some false then some ablation_stop_on_submit_fail else budget_stop_gate s

/-! ## A run in a-mode -/

def user_datum (library : Library) (source_ref content : String) : Except Raised ContextDatum := do
  let source_ref ← validated source_ref
  let checked ← validated content
  return ⟨.user_input, .user_input, source_ref, none, checked, library.sha256 content⟩

def MAX_MODEL_TURNS : ℕ := 60

/-- The text of an outcome, for the official orchestrator. -/
def a_text (outcome : BirdARunOutcome) : String :=
  match outcome.final_output, outcome.stop with
  | some output, _ => output.content.text
  | none, none => ""
  | none, some stop =>
    if stop.kind = .completed ∧ stop.reason_code.text = "official_task_done" then "Task completed."
    else if stop.kind = .completed ∧ stop.reason_code.text = "ablation_stop_on_submit_fail" then
      "Stopped after failed submission (ablation condition A)."
    else if stop.kind = .budget_exhausted ∧ stop.reason_code.text = "coin_budget_signal" then
      "Budget exhausted. Task ended."
    else if stop.kind = .budget_exhausted ∧ stop.reason_code.text = "model_call_limit" then
      "Maximum interaction turns reached. Task ended."
    else "Stopped: " ++ stop.kind.value ++ ":" ++ stop.reason_code.text

/-- A session of a system agent: what it was built with. -/
structure SystemAgent where
  library : Library
  run_scope : RunScope
  session_id : UUID
  stop_on_submit_fail : Bool

/-- How a tool call went through the port. -/
inductive Charge where
  | charged (cost : ℚ)
  | free
  | uncosted
  deriving DecidableEq

/-- An event of a session: a model turn, with the state it started from and the tool calls that it
asked for, or a tool call that reached the tool service, with the state after it. -/
inductive Entry where
  | turn (budget : ℚ) (task_done : Bool) (calls : List ToolCall)
  | passed (call : ToolCall) (charge : Charge) (budget : ℚ) (task_done : Bool)

/-- The session state, and the history of the session. -/
structure ASession where
  state : SessionState
  ledger : List Entry

/-- The charge of a call, if it goes through. -/
def charge (call : ToolCall) (budget : ℚ) : Option Charge :=
  match coin_cost call.name.text with
  | none => some .uncosted
  | some cost =>
    if budget < cost then if call.name.text = "submit_sql" then some .free else none else some (.charged cost)

/-- The tool calls that a model response asks for. -/
def calls_of : Except Raised ModelResponse → List ToolCall
  | .ok response =>
    match response.output with
    | .tool_calls output => output.tool_calls
    | .final _ => []
  | .error _ => []

namespace SystemAgent

variable (agent : SystemAgent)

/-- An operation of the graph, with the gates and the port of the session in front of it. -/
def on_op : (op : BirdAOp) → ASession → Flow BirdAOp BirdAAns (BirdAAns op × ASession)
  | .build request, s => .ask (.build request) fun answer => .done (answer, s)
  | .stop_model_turn, s => .done (.ok (conditional_stop_gate agent.stop_on_submit_fail s.state), s)
  | .complete request, s => .ask (.complete request) fun answer =>
    .done (answer, ⟨s.state, s.ledger ++ [.turn s.state.budget s.state.task_done (calls_of answer)]⟩)
  | .execute call, s =>
    (BirdSessionStatePort.execute agent.library (fun call => .ask (.execute call) .done) .a call s.state).bind fun r =>
    .done (r.1, ⟨r.2, s.ledger ++ ((charge call s.state.budget).map fun c =>
      .passed call c r.2.budget r.2.task_done).toList⟩)
  | .delete_attempt attempt, s => .ask (.delete_attempt attempt) fun answer => .done (answer, s)

def a_request (h : (agent.run_scope.track, agent.run_scope.mode) = (.bird, .a)) (attempt_id : UUID)
    (datum : ContextDatum) : BirdARunRequest where
  run_scope := agent.run_scope
  attempt_id := attempt_id
  current_input := datum
  confirmed_facts := []
  evidence := []
  latest_error := none
  max_model_calls := MAX_MODEL_TURNS
  max_tool_calls := MAX_MODEL_TURNS
  model_bound := by decide
  tool_bound := by decide
  bird_a := h

def run_a (h : (agent.run_scope.track, agent.run_scope.mode) = (.bird, .a)) (message : String) (attempt_id : UUID)
    (s : ASession) : Flow BirdAOp BirdAAns (Except Raised String × ASession) :=
  match user_datum agent.library ("bird-session:" ++ agent.session_id.text ++ ":turn") message with
  | .error e => .done (.error e, s)
  | .ok datum =>
    ((BirdAGraph.run agent.library true (agent.a_request h attempt_id datum)).handle agent.on_op s).bind fun r =>
    .done (r.1.map a_text, r.2)

/-- Runs of one session, one after another. -/
def runs_a (h : (agent.run_scope.track, agent.run_scope.mode) = (.bird, .a)) :
    List (String × UUID) → ASession → Flow BirdAOp BirdAAns (List (Except Raised String) × ASession) :=
  Flow.each fun (message, attempt_id) => agent.run_a h message attempt_id

end SystemAgent

/-! ## A sample session -/

def sampleAAgent : SystemAgent := ⟨sampleLibrary, sampleScope .a bird_a, 2, false⟩
def sampleCAgent : SystemAgent := ⟨sampleLibrary, sampleScope .c bird_c, 2, false⟩

theorem sampleAAgent_mode : (sampleAAgent.run_scope.track, sampleAAgent.run_scope.mode) = (.bird, .a) := rfl
theorem sampleCAgent_mode : (sampleCAgent.run_scope.track, sampleCAgent.run_scope.mode) = (.bird, .c) := rfl

/-- The state of a new session with two coins. -/
def sampleState : SessionState where
  budget_remaining := some 2
  task_done := false
  phase1_completed := false
  phase2_completed := false
  current_phase := 1
  total_reward := some 0
  last_submit_raw := none
  last_submit_passed := none
  submitted_this_phase := false
  ask_user_turns := 0
  model_turns := 0
  max_turn := none
  db_schema := none
  external_kg := none
  tool_trajectory := []
  dialogue_history := []

end CommerceAgent.Orchestration
