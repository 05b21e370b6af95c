import CommerceAgent.Lib.JsonLine
import CommerceAgent.Lib.Raising
import CommerceAgent.Orchestration.BirdServer
import Mathlib.Data.List.DropRight

/-!
# Bird tools over HTTP

The port that turns an action into requests to the official services. A stateless action may be tried again, a
stateful one never is.
-/

open CommerceAgent.Lib
open CommerceAgent.Lib.Flow (onOk)
open CommerceAgent.Operations (Text Code HexDigest Checked)

namespace CommerceAgent.Orchestration

variable {φ : Type}

/-! ## Endpoints -/

inductive Service where
  | db_env
  | user_sim
  deriving DecidableEq, Repr

def Service.value : Service → String
  | .db_env => "db_env"
  | .user_sim => "user_sim"

structure BirdEndpointContract where
  action : String
  service : Service
  path : String
  timeout_seconds : ℕ
  deriving DecidableEq

def outbound_endpoints : List BirdEndpointContract :=
  [⟨"execute_sql", .db_env, "/execute", 120⟩, ⟨"get_schema", .db_env, "/schema", 30⟩,
    ⟨"get_all_column_meanings", .db_env, "/all_column_meanings", 30⟩,
    ⟨"get_column_meaning", .db_env, "/column_meaning", 30⟩,
    ⟨"get_all_external_knowledge_names", .db_env, "/knowledge_names", 30⟩,
    ⟨"get_knowledge_definition", .db_env, "/knowledge", 30⟩,
    ⟨"get_all_knowledge_definitions", .db_env, "/knowledge", 30⟩, ⟨"ask_user", .user_sim, "/ask", 60⟩,
    ⟨"submit_sql", .db_env, "/submit", 120⟩, ⟨"submit_sql", .user_sim, "/phase_transition", 120⟩]

def BirdEndpointContract.is_transition (entry : BirdEndpointContract) : Bool :=
  entry.action == "submit_sql" && entry.path == "/phase_transition"

/-- `_primary.get(name)`: the first endpoint of an action. -/
def primary (name : String) : Option BirdEndpointContract :=
  (outbound_endpoints.filter fun entry => !entry.is_transition).find? fun entry => entry.action == name

def phase_transition : Option BirdEndpointContract :=
  (outbound_endpoints.filter BirdEndpointContract.is_transition).getLast?

/-- `_STATEFUL_ACTIONS`. -/
def BirdEndpointContract.is_stateful (endpoint : BirdEndpointContract) : Bool :=
  ["execute_sql", "ask_user", "submit_sql"].elem endpoint.action

/-- `^https?://[A-Za-z0-9._:\-]+$`. -/
def is_base_url (s : String) : Bool :=
  let host (cs : List Char) := cs ≠ [] && cs.all fun c => c.isAlphanum || "._:-".toList.elem c
  match s.toList with
  | 'h' :: 't' :: 't' :: 'p' :: ':' :: '/' :: '/' :: cs => host cs
  | 'h' :: 't' :: 't' :: 'p' :: 's' :: ':' :: '/' :: '/' :: cs => host cs
  | _ => false

abbrev BirdToolEndpoint := Checked fun s => 1 ≤ s.length && s.length ≤ 512 && is_base_url s

/-! ## Replies -/

structure BirdHttpResponse where
  status_code : ℤ
  headers : List (String × String)
  body : List UInt8

/-- A text of Python: characters, and surrogates that stand alone. -/
abbrev PyText := List (Char ⊕ Fin 2048)

inductive Nonfinite where
  | nan
  | infinity
  | minus_infinity
  deriving DecidableEq

/-- What `json.loads` makes of a body. -/
inductive Body (φ : Type) where
  | null
  | bool (b : Bool)
  | int (n : ℤ)
  | float (x : φ)
  | nonfinite (x : Nonfinite)
  | str (s : PyText)
  | arr (items : List (Body φ))
  | obj (fields : List (PyText × Body φ))

/-- The text, if UTF-8 can write it. -/
def PyText.encode (s : PyText) : Option String := (s.mapM Sum.getLeft?).map String.ofList

namespace Body

mutual

/-- Without `NaN` and the infinities, which `_canonical_json` does not take. -/
def is_finite : Body φ → Bool
  | .nonfinite _ => false
  | .arr items => finite_items items
  | .obj fields => finite_fields fields
  | _ => true

def finite_items : List (Body φ) → Bool
  | [] => true
  | x :: xs => is_finite x && finite_items xs

def finite_fields : List (PyText × Body φ) → Bool
  | [] => true
  | (_, v) :: kvs => is_finite v && finite_fields kvs

end

mutual

/-- The body as a value, if all of it can be written. -/
def value? : Body φ → Option (JsonValue φ)
  | .null => some .null
  | .bool b => some (.bool b)
  | .int n => some (.int n)
  | .float x => some (.float x)
  | .nonfinite _ => none
  | .str s => s.encode.map .str
  | .arr items => (items? items).map .arr
  | .obj fields => (fields? fields).map .obj

def items? : List (Body φ) → Option (List (JsonValue φ))
  | [] => some []
  | x :: xs => do return (← value? x) :: (← items? xs)

def fields? : List (PyText × Body φ) → Option (List (String × JsonValue φ))
  | [] => some []
  | (k, v) :: kvs => do return (← k.encode, ← value? v) :: (← fields? kvs)

end

end Body

/-- How `json.loads(response.body.decode("utf-8"))` ends. -/
inductive Decoded (φ : Type) where
  /-- `UnicodeDecodeError` or `JSONDecodeError`. -/
  | undecodable
  /-- Another exception: an integer of too many digits, or too deep a nesting. -/
  | raises (name : String)
  | body (body : Body φ) (distinct : ∀ value, body.value? = some value → value.Distinct)

mutual

/-- The value, with its floats as numbers. -/
def Value.of (number : φ → ℚ) : JsonValue φ → Value
  | .null => .null
  | .bool b => .bool b
  | .int n => .int n
  | .float x => .float (number x)
  | .str s => .str s
  | .arr items => .arr (Value.of_items number items)
  | .obj fields => .obj (Value.of_fields number fields)

def Value.of_items (number : φ → ℚ) : List (JsonValue φ) → List Value
  | [] => []
  | x :: xs => Value.of number x :: Value.of_items number xs

def Value.of_fields (number : φ → ℚ) : List (String × JsonValue φ) → List (String × Value)
  | [] => []
  | (k, v) :: kvs => (k, Value.of number v) :: Value.of_fields number kvs

end

mutual

/-- The value, with its numbers as floats. -/
def Value.json (float : ℚ → φ) : Value → JsonValue φ
  | .null => .null
  | .bool b => .bool b
  | .int n => .int n
  | .float q => .float (float q)
  | .str s => .str s
  | .arr items => .arr (Value.json_items float items)
  | .obj fields => .obj (Value.json_fields float fields)

def Value.json_items (float : ℚ → φ) : List Value → List (JsonValue φ)
  | [] => []
  | x :: xs => Value.json float x :: Value.json_items float xs

def Value.json_fields (float : ℚ → φ) : List (String × Value) → List (String × JsonValue φ)
  | [] => []
  | (k, v) :: kvs => (k, Value.json float v) :: Value.json_fields float kvs

end

theorem json_of {number : φ → ℚ} {float : ℚ → φ} (h : ∀ x, float (number x) = x) (value : JsonValue φ) :
    Value.json float (Value.of number value) = value := by
  induction value using JsonValue.parts_induction with
  | null | bool | int | str => rfl
  | float x => exact congrArg JsonValue.float (h x)
  | arr items ih =>
    unfold Value.of Value.json
    refine congrArg JsonValue.arr ?_
    induction items with
    | nil => rfl
    | cons x xs ihs =>
      unfold Value.of_items Value.json_items
      rw [ih x List.mem_cons_self, ihs fun y hy => ih y (List.mem_cons_of_mem _ hy)]
  | obj fields ih =>
    unfold Value.of Value.json
    refine congrArg JsonValue.obj ?_
    induction fields with
    | nil => rfl
    | cons kv kvs ihs =>
      unfold Value.of_fields Value.json_fields
      rw [ih kv List.mem_cons_self, ihs fun y hy => ih y (List.mem_cons_of_mem _ hy)]

/-- What the port uses of Python. -/
structure HttpLibrary (φ : Type) extends Library where
  floats : FloatText φ
  number : φ → ℚ
  loads_eq : ∀ text, loads text = (JsonValue.loads floats text.toList).map (Value.of number)
  canonical_json_eq : ∀ value : JsonValue φ,
    canonical_json (Value.of number value) = String.ofList (value.dumps floats 0)
  /-- A float with one decimal has at most 312 characters. -/
  fixed_short : ∀ q, (fixed q).length ≤ 312
  /-- `float(value)` raises exceptions of the language only. -/
  float_raises : ∀ value e, float value = .error e → ∃ name, e = .exception name
  /-- The reading of a reply. -/
  decode : List UInt8 → Decoded φ
  /-- `float(text)` does not raise. -/
  reads_float : String → Bool
  /-- `text.lower()`. -/
  lower : String → String

/-! ## The port -/

/-- What the port waits for before it tries again. -/
inductive Delay where
  /-- `max(0.0, float(seconds))`. -/
  | retry_after (seconds : String)
  /-- `_backoff_seconds(attempt)`. -/
  | backoff (attempt : ℕ)
  deriving DecidableEq

inductive HttpOp where
  | post (url : String) (payload : Value) (timeout_seconds : ℕ)
  | sleep (delay : Delay)

/-- A reply, or the name of the exception that the transport raises. -/
abbrev HttpReply := Except String BirdHttpResponse

def HttpAns : HttpOp → Type
  | .post _ _ _ => HttpReply
  | .sleep _ => Unit

abbrev HttpCall (α : Type) := Flow HttpOp HttpAns (Except Raised α)

def MAX_STATELESS_ATTEMPTS : ℕ := 3

/-- `_TYPED_ARGUMENTS`: the fields of an action, each a text of bounded length. -/
def typed_arguments : String → Option (List (String × ℕ))
  | "execute_sql" => some [("sql", 100000)]
  | "get_column_meaning" => some [("table_name", 256), ("column_name", 256)]
  | "get_knowledge_definition" => some [("knowledge_name", 256)]
  | "ask_user" => some [("question", 4000)]
  | "submit_sql" => some [("sql", 100000)]
  | _ => none

def text_field (arguments : List (String × Value)) (field : String × ℕ) : Option (String × Value) :=
  match arguments.lookup field.1 with
  | some (.str text) => if 1 ≤ text.length ∧ text.length ≤ field.2 then some (field.1, .str text) else none
  | _ => none

def header_value (lower : String → String) (headers : List (String × String)) (name : String) : Option String :=
  (headers.find? fun header => lower header.1 == lower name).map Prod.snd

structure HttpBirdToolPort (φ : Type) where
  library : HttpLibrary φ
  db_env : BirdToolEndpoint
  user_sim : BirdToolEndpoint
  task_id : String

namespace HttpBirdToolPort

variable (port : HttpBirdToolPort φ)

def service_base : Service → BirdToolEndpoint
  | .db_env => port.db_env
  | .user_sim => port.user_sim

def url (endpoint : BirdEndpointContract) : String :=
  String.ofList ((port.service_base endpoint.service).text.toList.rdropWhile (· = '/')) ++ endpoint.path

def invalid_action_arguments {α : Type} : Except Raised α := .error (ToolContractError "invalid_action_arguments")

def payload (call : ToolCall) : Except Raised Value :=
  match port.library.loads call.arguments_json.text with
  | some (.obj arguments) =>
    match typed_arguments call.name.text with
    | none => if arguments = [] then .ok (.obj [("task_id", .str port.task_id)]) else invalid_action_arguments
    | some fields =>
      if arguments.all fun argument => (fields.map Prod.fst).elem argument.1 then
        match fields.mapM (text_field arguments) with
        | some fields => .ok (.obj (("task_id", .str port.task_id) :: fields))
        | none => invalid_action_arguments
      else invalid_action_arguments
  | _ => invalid_action_arguments

def source_ref (endpoint : BirdEndpointContract) : String := "bird:" ++ endpoint.service.value ++ endpoint.path

def tool_result (call : ToolCall) (endpoint : BirdEndpointContract) (status : ToolStatus) (content_json : String) :
    Except Raised ToolResult := do
  let digest := port.library.sha256 content_json
  let content ← validated content_json
  let summary ← validated (port.library.canonical_json
    (.obj [("content_sha256", .str digest.text), ("source_refs", .arr [.str (source_ref endpoint)])]))
  return {
    call_id := call.call_id
    name := call.name
    status := status
    content_json := content
    deterministic_summary := summary
    content_sha256 := digest
    source_refs := [source_ref endpoint] }

/-- `_canonical_json(body)`, and its text in UTF-8. -/
def content_json (body : Body φ) : Except Raised String :=
  if ¬ body.is_finite then .error (.exception "ValueError")
  else match body.value? with
    | none => .error (.exception "UnicodeEncodeError")
    | some value => .ok (port.library.canonical_json (Value.of port.library.number value))

def result (call : ToolCall) (endpoint : BirdEndpointContract) (body : Body φ) : Except Raised ToolResult := do
  port.tool_result call endpoint .success (← port.content_json body)

def rejected_result (call : ToolCall) (endpoint : BirdEndpointContract) (response : BirdHttpResponse) :
    Except Raised ToolResult :=
  port.tool_result call endpoint .error (port.library.canonical_json
    (.obj [("path", .str endpoint.path), ("status_code", .int response.status_code)]))

def retry_delay (response : BirdHttpResponse) (attempt : ℕ) : Delay :=
  match header_value port.library.lower response.headers "Retry-After" with
  | some seconds => if port.library.reads_float seconds then .retry_after seconds else .backoff attempt
  | none => .backoff attempt

/-- A failure that leaves open whether the request was served: a stateful action is over, a stateless one goes on
with `again` while it has attempts left. -/
def unserved (endpoint : BirdEndpointContract) (attempt : ℕ) (again : Option (Delay → HttpCall ToolResult)) :
    HttpCall ToolResult :=
  if endpoint.is_stateful then .done (.error (ToolInfrastructureError "ambiguous_delivery"))
  else match again with
    | some again => again (.backoff attempt)
    | none => .done (.error (ToolInfrastructureError "stateless_transport_exhausted"))

def after_reply (call : ToolCall) (endpoint : BirdEndpointContract) (attempt : ℕ)
    (again : Option (Delay → HttpCall ToolResult)) : HttpReply → HttpCall ToolResult
  | .error _ => unserved endpoint attempt again
  | .ok response =>
    if 200 ≤ response.status_code ∧ response.status_code < 300 then
      match port.library.decode response.body with
      | .undecodable => unserved endpoint attempt again
      | .raises name => .done (.error (.exception name))
      | .body body _ => .done (port.result call endpoint body)
    else if endpoint.is_stateful then .done (port.rejected_result call endpoint response)
    else if response.status_code = 429 ∨ 500 ≤ response.status_code then
      match again with
      | some again => again (port.retry_delay response attempt)
      | none => .done (.error (ToolInfrastructureError "stateless_transport_exhausted"))
    else .done (.error (ToolInfrastructureError "service_http_rejected"))

def request_op (endpoint : BirdEndpointContract) (payload : Value) : HttpOp :=
  .post (port.url endpoint) payload endpoint.timeout_seconds

/-- One request of `_request`, and those after it, of which there are at most `left`. -/
def attempts (call : ToolCall) (endpoint : BirdEndpointContract) (payload : Value) : ℕ → HttpCall ToolResult
  | 0 => .ask (port.request_op endpoint payload)
      (port.after_reply call endpoint MAX_STATELESS_ATTEMPTS none)
  | left + 1 => .ask (port.request_op endpoint payload)
      (port.after_reply call endpoint (MAX_STATELESS_ATTEMPTS - (left + 1)) (some fun delay =>
        .ask (.sleep delay) fun _ => attempts call endpoint payload left))

def request (call : ToolCall) (endpoint : BirdEndpointContract) (payload : Value) : HttpCall ToolResult :=
  port.attempts call endpoint payload (MAX_STATELESS_ATTEMPTS - 1)

/-- `value is True`. -/
def is_true : Option Value → Bool
  | some (.bool true) => true
  | _ => false

/-- The first phase passed, and there is a second one. -/
def has_transition (body : Value) : Bool :=
  is_true (body.get? "passed") && (body.get? "phase_completed").bind Value.number? == some 1 &&
    is_true (body.get? "has_follow_up")

/-- The request for the next phase. -/
def transition_op (transition : BirdEndpointContract) : HttpOp :=
  port.request_op transition (.obj [("task_id", .str port.task_id)])

def maybe_phase_transition (result : ToolResult) : HttpCall ToolResult :=
  match result.status, phase_transition with
  | .success, some transition =>
    match port.library.loads result.content_json.text with
    | none => .done (.error (.exception "JSONDecodeError"))
    | some (.obj fields) =>
      if has_transition (.obj fields) then .ask (port.transition_op transition) fun _ => .done (.ok result)
      else .done (.ok result)
    | some _ => .done (.error (.exception "AttributeError"))
  | _, _ => .done (.ok result)

def execute (call : ToolCall) : HttpCall ToolResult :=
  match primary call.name.text with
  | none => .done (.error (ToolContractError "action_not_allowlisted"))
  | some endpoint =>
    match port.payload call with
    | .error e => .done (.error e)
    | .ok payload =>
      (port.request call endpoint payload).bind (onOk fun result =>
        if call.name.text = "submit_sql" then port.maybe_phase_transition result else .done (.ok result))

/-! ## What a request does -/

section Requests

variable {port : HttpBirdToolPort φ} {call : ToolCall} {endpoint : BirdEndpointContract} {payload : Value}

/-- The reply does not settle the request: no reply at all, one of success that says nothing, or a status to try
again. -/
def Unsettled (port : HttpBirdToolPort φ) : HttpReply → Prop
  | .error _ => True
  | .ok response =>
    if 200 ≤ response.status_code ∧ response.status_code < 300 then
      match port.library.decode response.body with
      | .undecodable => True
      | _ => False
    else response.status_code = 429 ∨ 500 ≤ response.status_code

/-- The error of a call that is given up. -/
def given_up (endpoint : BirdEndpointContract) : Raised :=
  ToolInfrastructureError (if endpoint.is_stateful then "ambiguous_delivery" else "stateless_transport_exhausted")

/-- What becomes of the call with its last reply. -/
def outcome (port : HttpBirdToolPort φ) (call : ToolCall) (endpoint : BirdEndpointContract) :
    HttpReply → Except Raised ToolResult
  | .error _ => .error (given_up endpoint)
  | .ok response =>
    if 200 ≤ response.status_code ∧ response.status_code < 300 then
      match port.library.decode response.body with
      | .undecodable => .error (given_up endpoint)
      | .raises name => .error (.exception name)
      | .body body _ => port.result call endpoint body
    else if endpoint.is_stateful then port.rejected_result call endpoint response
    else if response.status_code = 429 ∨ 500 ≤ response.status_code then .error (given_up endpoint)
    else .error (ToolInfrastructureError "service_http_rejected")

variable (endpoint) in
theorem unserved_cases (attempt : ℕ) (again : Option (Delay → HttpCall ToolResult)) :
    unserved endpoint attempt again = .done (.error (given_up endpoint)) ∨
      endpoint.is_stateful = false ∧ ∃ next delay, again = some next ∧ unserved endpoint attempt again = next delay := by
  unfold unserved given_up
  cases endpoint.is_stateful with
  | true => exact Or.inl rfl
  | false =>
    cases again with
    | none => exact Or.inl rfl
    | some next => exact Or.inr ⟨rfl, next, _, rfl, rfl⟩

variable (port call endpoint) in
theorem after_reply_cases (attempt : ℕ) (again : Option (Delay → HttpCall ToolResult)) (reply : HttpReply) :
    port.after_reply call endpoint attempt again reply = .done (port.outcome call endpoint reply) ∨
      endpoint.is_stateful = false ∧ port.Unsettled reply ∧ ∃ next delay, again = some next ∧
        port.after_reply call endpoint attempt again reply = next delay := by
  have hunserved := unserved_cases endpoint attempt again
  unfold after_reply outcome Unsettled
  cases reply with
  | error name => exact hunserved.imp id fun ⟨hstateless, h⟩ => ⟨hstateless, trivial, h⟩
  | ok response =>
    dsimp only
    split_ifs with hsuccess hstateful hretryable
    · cases port.library.decode response.body with
      | undecodable => exact hunserved.imp id fun ⟨hstateless, h⟩ => ⟨hstateless, trivial, h⟩
      | raises name => exact Or.inl rfl
      | body body hdistinct => exact Or.inl rfl
    · exact Or.inl rfl
    · have hstateless := Bool.eq_false_iff.mpr hstateful
      cases again with
      | none =>
        refine Or.inl ?_
        unfold given_up
        rw [hstateless]
        rfl
      | some next => exact Or.inr ⟨hstateless, hretryable, next, _, rfl, rfl⟩
    · exact Or.inl rfl

/-- The events of a request of at most `left + 1` attempts, and its last reply. -/
inductive Tried (port : HttpBirdToolPort φ) (endpoint : BirdEndpointContract) (payload : Value) :
    ℕ → Log HttpOp HttpAns → HttpReply → Prop
  | last (left : ℕ) (reply : HttpReply) :
    Tried port endpoint payload left [⟨port.request_op endpoint payload, reply⟩] reply
  | again {left : ℕ} {tail : Log HttpOp HttpAns} {last : HttpReply} (reply : HttpReply) (delay : Delay) (slept : Unit)
    (hstateless : endpoint.is_stateful = false) (hunsettled : port.Unsettled reply)
    (htried : Tried port endpoint payload left tail last) :
    Tried port endpoint payload (left + 1)
      (⟨port.request_op endpoint payload, reply⟩ :: ⟨.sleep delay, slept⟩ :: tail) last

variable (port call endpoint payload) in
theorem attempts_meets (left : ℕ) (log : Log HttpOp HttpAns) :
    (port.attempts call endpoint payload left).Meets (fun _ _ => True) (Flow.Ends fun r log' => ∃ tail last,
      log' = log ++ tail ∧ Tried port endpoint payload left tail last ∧ r = port.outcome call endpoint last) log := by
  induction left generalizing log with
  | zero =>
    refine Flow.Meets.ask fun reply _ => ?_
    obtain h | ⟨-, -, next, delay, hnone, -⟩ :=
      after_reply_cases port call endpoint MAX_STATELESS_ATTEMPTS none reply
    · rw [h]
      exact Flow.Meets.done ⟨_, reply, rfl, .last 0 reply, rfl⟩
    · cases hnone
  | succ left ih =>
    refine Flow.Meets.ask fun reply _ => ?_
    obtain h | ⟨hstateless, hunsettled, next, delay, hnext, h⟩ :=
      after_reply_cases port call endpoint (MAX_STATELESS_ATTEMPTS - (left + 1))
        (some fun delay => .ask (.sleep delay) fun _ => port.attempts call endpoint payload left) reply
    · rw [h]
      exact Flow.Meets.done ⟨_, reply, rfl, .last _ reply, rfl⟩
    · rw [h]
      obtain rfl := Option.some.inj hnext
      refine Flow.Meets.ask fun slept _ => (ih _).mono fun r log' hends a ha => ?_
      obtain ⟨tail, last, rfl, htried, hr⟩ := hends a ha
      refine ⟨_, last, ?_, .again reply delay slept hstateless hunsettled htried, hr⟩
      simp only [List.append_assoc, List.cons_append, List.nil_append]

/-! ## The second phase -/

variable (port) in
theorem maybe_phase_transition_meets (result : ToolResult) (log : Log HttpOp HttpAns) :
    (port.maybe_phase_transition result).Meets (fun _ _ => True) (Flow.Ends fun r log' =>
      log' = log ∨ ∃ transition answer fields, phase_transition = some transition ∧
        log' = log ++ [⟨port.transition_op transition, answer⟩] ∧ r = .ok result ∧ result.status = .success ∧
        port.library.loads result.content_json.text = some (.obj fields) ∧ has_transition (.obj fields) = true) log := by
  unfold maybe_phase_transition
  split
  case h_1 transition hstatus htransition =>
    split
    case h_1 => exact Flow.Meets.done (Or.inl rfl)
    case h_2 fields hloads =>
      split_ifs with hpassed
      · refine Flow.Meets.ask fun answer _ => Flow.Meets.done (Or.inr ?_)
        exact ⟨transition, answer, fields, htransition, rfl, rfl, hstatus, hloads, hpassed⟩
      · exact Flow.Meets.done (Or.inl rfl)
    case h_3 => exact Flow.Meets.done (Or.inl rfl)
  case h_2 => exact Flow.Meets.done (Or.inl rfl)

theorem lookup_of_fields (number : φ → ℚ) (kvs : List (String × JsonValue φ)) (key : String) :
    (Value.of_fields number kvs).lookup key = (kvs.lookup key).map (Value.of number) := by
  induction kvs with
  | nil => rfl
  | cons kv kvs ih =>
    unfold Value.of_fields
    rw [List.lookup_cons, List.lookup_cons, ih]
    cases key == kv.1 <;> rfl

theorem get?_sortKeys (number : φ → ℚ) {kvs : List (String × JsonValue φ)} (h : (JsonValue.obj kvs).Distinct)
    (key : String) : (Value.of number (JsonValue.obj kvs).sortKeys).get? key =
      (kvs.lookup key).map fun field => Value.of number field.sortKeys := by
  unfold JsonValue.Distinct at h
  change (Value.of_fields number _).lookup key = _
  rw [lookup_of_fields, JsonValue.lookup_sorted h.1, Option.map_map]
  rfl

theorem is_true_sortKeys (number : φ → ℚ) (field : Option (JsonValue φ)) :
    is_true (field.map fun field => Value.of number field.sortKeys) = is_true (field.map (Value.of number)) := by
  cases field with
  | none => rfl
  | some field => cases field <;> rfl

theorem number_sortKeys (number : φ → ℚ) (field : Option (JsonValue φ)) :
    (field.map fun field => Value.of number field.sortKeys).bind Value.number? =
      (field.map (Value.of number)).bind Value.number? := by
  cases field with
  | none => rfl
  | some field => cases field <;> rfl

theorem has_transition_sortKeys (number : φ → ℚ) {value : JsonValue φ} (h : value.Distinct) :
    has_transition (Value.of number value.sortKeys) = has_transition (Value.of number value) := by
  cases value with
  | obj kvs =>
    have hget (key : String) : (Value.of number (.obj kvs)).get? key = (kvs.lookup key).map (Value.of number) :=
      lookup_of_fields number kvs key
    unfold has_transition
    rw [get?_sortKeys number h, get?_sortKeys number h, get?_sortKeys number h, is_true_sortKeys, is_true_sortKeys,
      number_sortKeys, hget, hget, hget]
  | null | bool | int | float | str | arr => rfl

theorem loads_content (value : JsonValue φ) (h : value.Distinct) :
    port.library.loads (port.library.canonical_json (Value.of port.library.number value)) =
      some (Value.of port.library.number value.sortKeys) := by
  rw [port.library.canonical_json_eq, port.library.loads_eq, String.toList_ofList, JsonValue.loads_dumps _ _ h]
  rfl

theorem validated_ok {ok : String → Bool} {text : String} {checked : Checked ok} (h : validated text = .ok checked) :
    checked.text = text := by
  unfold validated Checked.parse at h
  split at h
  case h_1 parsed hparsed =>
    split_ifs at hparsed
    obtain rfl := Except.ok.inj h
    exact (congrArg Checked.text (Option.some.inj hparsed)).symm
  case h_2 => cases h

theorem tool_result_ok {status : ToolStatus} {text : String} {result : ToolResult}
    (h : port.tool_result call endpoint status text = .ok result) :
    result.status = status ∧ result.content_json.text = text := by
  unfold tool_result at h
  obtain ⟨content, hcontent, h⟩ := except_bind_ok h
  obtain ⟨summary, -, h⟩ := except_bind_ok h
  obtain rfl := Except.ok.inj h
  exact ⟨rfl, validated_ok hcontent⟩

theorem content_json_ok {body : Body φ} {text : String} (h : port.content_json body = .ok text) :
    ∃ value, body.value? = some value ∧ text = port.library.canonical_json (Value.of port.library.number value) := by
  unfold content_json at h
  split_ifs at h
  split at h
  case h_1 => cases h
  case h_2 value hvalue => exact ⟨value, hvalue, (Except.ok.inj h).symm⟩

/-- The reply of a successful request. -/
structure Replied (port : HttpBirdToolPort φ) (reply : HttpReply) (value : JsonValue φ) : Prop where
  success : ∃ response, reply = .ok response ∧ 200 ≤ response.status_code ∧ response.status_code < 300 ∧
    ∃ body distinct, port.library.decode response.body = .body body distinct ∧ body.value? = some value

theorem Replied.distinct {reply : HttpReply} {value : JsonValue φ} (h : port.Replied reply value) : value.Distinct := by
  obtain ⟨response, -, -, -, body, hdistinct, -, hvalue⟩ := h.success
  exact hdistinct value hvalue

theorem outcome_success {reply : HttpReply} {result : ToolResult} (h : port.outcome call endpoint reply = .ok result)
    (hsuccess : result.status = .success) : ∃ value, port.Replied reply value ∧
      result.content_json.text = port.library.canonical_json (Value.of port.library.number value) := by
  unfold outcome at h
  cases reply with
  | error name => cases h
  | ok response =>
    dsimp only at h
    split_ifs at h with hstatus
    · split at h
      case h_1 => cases h
      case h_2 => cases h
      case h_3 body hdistinct hbody =>
        obtain ⟨text, htext, h⟩ := except_bind_ok h
        obtain ⟨value, hvalue, rfl⟩ := content_json_ok htext
        exact ⟨value, ⟨response, rfl, hstatus.1, hstatus.2, body, hdistinct, hbody, hvalue⟩, (tool_result_ok h).2⟩
    · have herror : result.status = .error := (tool_result_ok h).1
      rw [hsuccess] at herror
      cases herror

/-! ## At most once -/

/-- The requests that were sent, each with its reply. -/
def posts (log : Log HttpOp HttpAns) : List (HttpOp × HttpReply) :=
  log.filterMap fun
    | ⟨.post url payload timeout_seconds, reply⟩ => some (.post url payload timeout_seconds, reply)
    | ⟨.sleep _, _⟩ => none

theorem Tried.posts {left : ℕ} {sent : Log HttpOp HttpAns} {last : HttpReply}
    (h : port.Tried endpoint payload left sent last) : ∃ earlier : List HttpReply,
      posts sent = (earlier ++ [last]).map (fun reply => (port.request_op endpoint payload, reply)) ∧
      earlier.length ≤ left ∧ (∀ reply ∈ earlier, port.Unsettled reply) ∧
      (endpoint.is_stateful = true → earlier = []) := by
  induction h with
  | last left reply => exact ⟨[], rfl, Nat.zero_le _, fun _ h => absurd h List.not_mem_nil, fun _ => rfl⟩
  | again reply delay slept hstateless hunsettled _ ih =>
    obtain ⟨earlier, hposts, hlength, hearlier, -⟩ := ih
    refine ⟨reply :: earlier, ?_, Nat.succ_le_succ hlength, ?_, ?_⟩
    · rw [List.cons_append, List.map_cons, ← hposts]
      rfl
    · exact List.forall_mem_cons.mpr ⟨hunsettled, hearlier⟩
    · intro hstateful
      rw [hstateless] at hstateful
      cases hstateful

theorem execute_play (hendpoint : primary call.name.text = some endpoint) (hpayload : port.payload call = .ok payload)
    (env : Env HttpOp HttpAns) : ∃ sent last, port.Tried endpoint payload 2 sent last ∧
      (port.request call endpoint payload).play env [] = (port.outcome call endpoint last, sent) ∧
      (port.execute call).play env [] = (onOk (fun result =>
        if call.name.text = "submit_sql" then port.maybe_phase_transition result else .done (.ok result))
        (port.outcome call endpoint last)).play env sent := by
  have henv : Flow.Obeys (fun _ _ => True) env := fun _ _ => trivial
  obtain ⟨sent, last, hsent, htried, hresult⟩ :=
    (attempts_meets port call endpoint payload 2 []).result henv
  have hrequest : (port.request call endpoint payload).play env [] = (port.outcome call endpoint last, sent) :=
    Prod.ext hresult hsent
  refine ⟨sent, last, htried, hrequest, ?_⟩
  unfold execute
  rw [hendpoint]
  dsimp only
  rw [hpayload]
  dsimp only
  rw [Flow.play_bind, hrequest]

end Requests

/-- A stateful action is sent once, a stateless one at most three times and again only while no reply has settled it.
The second phase is asked for only when a submission reports it, and what becomes of that request does not matter. -/
theorem execute_at_most_once (port : HttpBirdToolPort φ) (call : ToolCall) (endpoint : BirdEndpointContract)
    (payload : Value) (hendpoint : primary call.name.text = some endpoint) (hpayload : port.payload call = .ok payload)
    (env : Env HttpOp HttpAns) :
    ∃ (earlier : List HttpReply) (last : HttpReply) (after : List (HttpOp × HttpReply)),
      posts ((port.execute call).play env []).2 =
        (earlier ++ [last]).map (fun reply => (port.request_op endpoint payload, reply)) ++ after ∧
      earlier.length < MAX_STATELESS_ATTEMPTS ∧ (∀ reply ∈ earlier, port.Unsettled reply) ∧
      (endpoint.is_stateful = true → earlier = []) ∧
      (after = [] ∨ ∃ transition reply value, phase_transition = some transition ∧
        after = [(port.transition_op transition, reply)] ∧ call.name.text = "submit_sql" ∧
        port.Replied last value ∧ has_transition (Value.of port.library.number value) = true ∧
        ((port.execute call).play env []).1 = ((port.request call endpoint payload).play env []).1) := by
  have henv : Flow.Obeys (fun _ _ => True) env := fun _ _ => trivial
  obtain ⟨sent, last, htried, hrequest, hplay⟩ := execute_play hendpoint hpayload env
  obtain ⟨earlier, hposts, hlength, hearlier, hstateful⟩ := htried.posts
  refine ⟨earlier, last, ?_⟩
  rw [hplay, hrequest, ← hposts]
  cases houtcome : port.outcome call endpoint last with
  | error e => exact ⟨[], (List.append_nil _).symm, Nat.lt_succ_of_le hlength, hearlier, hstateful, Or.inl rfl⟩
  | ok result =>
    rw [Flow.onOk_ok]
    split_ifs with hsubmit
    case neg => exact ⟨[], (List.append_nil _).symm, Nat.lt_succ_of_le hlength, hearlier, hstateful, Or.inl rfl⟩
    rcases (maybe_phase_transition_meets port result sent).result henv with hlog | ⟨transition, reply, fields,
      htransition, hlog, hsame, hsuccess, hloads, hphase⟩
    · rw [hlog]
      exact ⟨[], (List.append_nil _).symm, Nat.lt_succ_of_le hlength, hearlier, hstateful, Or.inl rfl⟩
    · rw [hlog, hsame]
      obtain ⟨value, hreplied, hcontent⟩ := outcome_success houtcome hsuccess
      rw [hcontent, loads_content value hreplied.distinct, Option.some.injEq] at hloads
      rw [← hloads, has_transition_sortKeys _ hreplied.distinct] at hphase
      refine ⟨[(port.transition_op transition, reply)], ?_, Nat.lt_succ_of_le hlength, hearlier, hstateful,
        Or.inr ⟨transition, reply, value, htransition, rfl, hsubmit, hreplied, hphase, rfl⟩⟩
      unfold HttpBirdToolPort.posts
      rw [List.filterMap_append]
      rfl

end HttpBirdToolPort

/-! ## A submission without an answer -/

/-- The one body that is JSON is an empty list. -/
def sampleDecode (bytes : List UInt8) : Decoded Unit :=
  if bytes = [91, 93] then .body (.arr []) fun value h => by cases h; trivial else .undecodable

theorem sampleDecode_list : ∃ distinct, sampleDecode [91, 93] = .body (.arr []) distinct := ⟨_, if_pos rfl⟩

/-- The standard library, of which the one float is a half. -/
def sampleHttpLibrary : HttpLibrary Unit where
  loads text := (JsonValue.loads FloatText.half text.toList).map (Value.of fun _ => 1 / 2)
  canonical_json value := String.ofList ((Value.json (fun _ => ()) value).dumps FloatText.half 0)
  dumps value := String.ofList ((Value.json (fun _ => ()) value).dumps FloatText.half 1)
  sha256 _ := HexDigest.ofNat 0
  str _ := ""
  float _ := .ok none
  fixed _ := "0.0"
  strip text := text
  floats := FloatText.half
  number _ := 1 / 2
  loads_eq _ := rfl
  canonical_json_eq value := by rw [json_of fun _ => rfl]
  fixed_short _ := by decide
  float_raises _ _ h := by cases h
  decode := sampleDecode
  reads_float _ := false
  lower := String.toLower

def sampleEndpoint : BirdToolEndpoint := ⟨"http://localhost:6002", by decide⟩

def sampleHttpPort : HttpBirdToolPort Unit := ⟨sampleHttpLibrary, sampleEndpoint, sampleEndpoint, "task-1"⟩

theorem submit_call_id : (fun s : String => decide (1 ≤ s.length) && decide (s.length ≤ 128)) "call-1" = true := by decide

def submitCall : ToolCall := ⟨⟨"call-1", submit_call_id⟩, submit_sql_name, ⟨"\x7b\"sql\":\"s\"\x7d", by decide⟩⟩

def submitEndpoint : BirdEndpointContract := ⟨"submit_sql", .db_env, "/submit", 120⟩

def submitPayload : Value := .obj [("task_id", .str "task-1"), ("sql", .str "s")]

theorem submit_endpoint : primary submitCall.name.text = some submitEndpoint := by decide

theorem submit_arguments : sampleHttpLibrary.loads submitCall.arguments_json.text = some (.obj [("sql", .str "s")]) := by
  have htext : submitCall.arguments_json.text.toList =
      JsonValue.dumps FloatText.half 0 (.obj [("sql", .str "s")]) := by decide
  have hdistinct : (JsonValue.obj [("sql", .str "s")] : JsonValue Unit).Distinct := by
    simp [JsonValue.Distinct, JsonValue.DistinctFields]
  rw [sampleHttpLibrary.loads_eq, htext]
  exact congrArg (Option.map (Value.of sampleHttpLibrary.number)) (JsonValue.loads_dumps FloatText.half 0 hdistinct)

theorem submit_payload : sampleHttpPort.payload submitCall = .ok submitPayload := by
  unfold HttpBirdToolPort.payload
  have harguments : sampleHttpPort.library.loads submitCall.arguments_json.text = _ := submit_arguments
  rw [harguments]
  rfl

/-- A transport that always raises. -/
def noAnswer : Env HttpOp HttpAns
  | _, .post _ _ _ => (.error "ConnectError" : HttpReply)
  | _, .sleep _ => ()

theorem submit_once : ∃ last after,
    HttpBirdToolPort.posts ((sampleHttpPort.execute submitCall).play noAnswer []).2 =
      (sampleHttpPort.request_op submitEndpoint submitPayload, last) :: after := by
  obtain ⟨earlier, last, after, hposts, -, -, hstateful, -⟩ := HttpBirdToolPort.execute_at_most_once sampleHttpPort
    submitCall submitEndpoint submitPayload submit_endpoint submit_payload noAnswer
  obtain rfl := hstateful rfl
  exact ⟨last, after, hposts⟩

end CommerceAgent.Orchestration
