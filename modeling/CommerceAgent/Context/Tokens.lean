import CommerceAgent.Context.Trimming
import CommerceAgent.Lib.Words

/-!
# Token estimates

What the estimator counts of a request, and what the gateway sends of it. The results of tools are sent and not
counted.
-/

open CommerceAgent.Lib
open CommerceAgent.Operations (UUID Text Code HexDigest Checked)
open CommerceAgent.Orchestration

namespace CommerceAgent.Context

open ContextBuilder

variable {φ : Type}

/-! ## The estimator -/

structure ProvisionedDeepSeekTokenEstimator where
  revision : String
  /-- The tokens of `tokenizer.json`. -/
  vocab : String → Bool
  chars : WordChars

/-- What the estimator and the gateway make of a tool. Its contract has canonical JSON in `parameters_json`. -/
def tool_json (python : Python φ) (tool : ToolDefinition) : JsonValue φ :=
  .obj [("type", .str "function"),
    ("function", .obj [("name", .str tool.name.text), ("description", .str tool.description.text),
      ("parameters", (JsonValue.loads python.floats tool.parameters_json.text.toList).getD .null)])]

namespace ProvisionedDeepSeekTokenEstimator

variable (tokens : ProvisionedDeepSeekTokenEstimator) (python : Python φ)

/-- The weight of one of the `visible_tokens`. -/
def weight (token : List Char) : ℕ :=
  if tokens.vocab (String.ofList token) then 1 else max 1 (((String.ofList token).utf8ByteSize + 3) / 4)

def count (text : List Char) : ℕ := ((tokens.chars.findall text).map tokens.weight).sum

def wire (request : ModelRequest φ) : JsonValue φ :=
  .obj [("messages", .arr (request.messages.map ChatMessage.to_json)),
    ("tools", .arr (request.tools.map (tool_json python)))]

def private_count (request : ModelRequest φ) : ℕ := (request.history.map fun group => group.ref.token_weight).sum

def estimate (request : ModelRequest φ) : TokenEstimate :=
  ⟨tokens.count (python.canonical_json (wire python request)).toList + private_count request, tokens.revision⟩

def estimator : TokenEstimator φ := ⟨tokens.revision, tokens.estimate python, fun _ => rfl, fun _ _ => rfl⟩

end ProvisionedDeepSeekTokenEstimator

/-! ## The encoded request -/

/-- A message in the body that the gateway sends. The turns of the assistant are private. -/
inductive WireMessage where
  | chat (message : ChatMessage)
  | assistant (provider_turn_ref : ProviderTurnRef)
  | tool (call_id : Text 1 128) (name : Code 2 63) (content : String)

/-- The messages of one group of the history. -/
def ConversationGroup.wire_messages (group : ConversationGroup) : List WireMessage :=
  .assistant group.ref :: group.results.map fun result => .tool result.call_id result.name result.content_json

/-- The messages before the history, and a user message at the end of them for behind it. -/
def trailing_user (messages : List ChatMessage) : List ChatMessage × List ChatMessage :=
  match messages.getLast? with
  | some message => if message.role = Role.user then (messages.dropLast, [message]) else (messages, [])
  | none => (messages, [])

/-- The messages of `_encode_request(request)`. -/
def encode_messages (request : ModelRequest φ) : List WireMessage :=
  let (current_messages, trailing_user) := trailing_user request.messages
  current_messages.map WireMessage.chat ++
    (request.history.flatMap ConversationGroup.wire_messages ++ trailing_user.map WireMessage.chat)

namespace ProvisionedDeepSeekTokenEstimator

variable (tokens : ProvisionedDeepSeekTokenEstimator) (python : Python φ)

/-- What a message of the body counts for: a private turn for its weight, a tool result for its content. -/
def message_tokens : WireMessage → ℕ
  | .chat message => tokens.count (python.canonical_json message.to_json).toList
  | .assistant ref => ref.token_weight
  | .tool _ _ content => tokens.count content.toList

def encoded_tokens (request : ModelRequest φ) : ℕ :=
  ((encode_messages request).map (tokens.message_tokens python)).sum +
    (request.tools.map fun tool => tokens.count (python.canonical_json (tool_json python tool)).toList).sum

/-- The tokens of the tool results in the history. -/
def result_tokens (history : List ConversationGroup) : ℕ :=
  (history.map fun group => (group.results.map fun result => tokens.count result.content_json.toList).sum).sum

/-- The tokens of the JSON around that many messages and tools. -/
def frame_tokens (messages tools : ℕ) : ℕ :=
  tokens.count "\x7b\"messages\":[],\"tools\":[]\x7d".toList + ((messages - 1) + (tools - 1)) * tokens.count [',']

/-! ## Counts -/

theorem count_append {ys : List Char} (h : tokens.chars.Breaks ys) (xs : List Char) :
    tokens.count (xs ++ ys) = tokens.count xs + tokens.count ys := by
  unfold count
  rw [WordChars.findall_append h, List.map_append, List.sum_append]

theorem breaks_ascii {c : Char} (hc : c.toNat < 128) (hmark : (c.isAlphanum || c = '_') = false) (r : List Char) :
    tokens.chars.Breaks (c :: r) := by
  intro d hd
  cases Option.some.inj hd
  rw [tokens.chars.ascii c hc, hmark]

theorem count_cons {c : Char} {r : List Char} (h : tokens.chars.isWord c = false) :
    tokens.count (c :: r) = tokens.count [c] + tokens.count r := by
  unfold count
  rw [WordChars.findall_mark h, WordChars.findall_mark h, List.map_append, List.sum_append]
  simp [WordChars.findall, WordChars.findFrom, endWord]

theorem count_writeItems (floats : FloatText φ) (xs : List (JsonValue φ)) (r : List Char) :
    tokens.count (JsonValue.writeItems floats 0 xs ++ r) =
      (xs.map fun x => tokens.count (JsonValue.write floats 0 x)).sum + xs.length * tokens.count [','] +
        tokens.count (']' :: r) := by
  have hcomma : tokens.chars.isWord ',' = false := tokens.chars.ascii ',' (by decide)
  induction xs with
  | nil => simp [JsonValue.writeItems]
  | cons x xs ih =>
    have hbreaks : tokens.chars.Breaks (JsonValue.writeItems floats 0 xs ++ r) := by
      cases xs with
      | nil => exact tokens.breaks_ascii (by decide) (by decide) _
      | cons y ys => exact tokens.breaks_ascii (by decide) (by decide) _
    simp only [JsonValue.writeItems, JsonValue.gap, List.replicate_zero, List.nil_append, List.cons_append,
      List.append_assoc]
    rw [tokens.count_cons hcomma, tokens.count_append hbreaks, ih]
    simp only [List.map_cons, List.sum_cons, List.length_cons]
    ring

theorem count_array (floats : FloatText φ) (xs : List (JsonValue φ)) (r : List Char) :
    tokens.count (JsonValue.write floats 0 (.arr xs) ++ r) =
      (xs.map fun x => tokens.count (JsonValue.write floats 0 x)).sum + (xs.length - 1) * tokens.count [','] +
        tokens.count ('[' :: ']' :: r) := by
  have hbracket : tokens.chars.isWord '[' = false := tokens.chars.ascii '[' (by decide)
  cases xs with
  | nil => simp [JsonValue.write]
  | cons x xs =>
    have hbreaks : tokens.chars.Breaks (JsonValue.writeItems floats 0 xs ++ r) := by
      cases xs with
      | nil => exact tokens.breaks_ascii (by decide) (by decide) _
      | cons y ys => exact tokens.breaks_ascii (by decide) (by decide) _
    simp only [JsonValue.write, List.cons_append, List.append_assoc]
    rw [tokens.count_cons hbracket, tokens.count_append hbreaks, tokens.count_writeItems,
      tokens.count_cons hbracket (r := _ :: _)]
    simp only [List.map_cons, List.sum_cons, List.length_cons, Nat.add_sub_cancel]
    ring

theorem canonical_wire (request : ModelRequest φ) :
    (python.canonical_json (wire python request)).toList =
      "\x7b\"messages\":".toList ++ (JsonValue.write python.floats 0
          (.arr ((request.messages.map ChatMessage.to_json).map JsonValue.sortKeys)) ++
        (",\"tools\":".toList ++ (JsonValue.write python.floats 0
          (.arr ((request.tools.map (tool_json python)).map JsonValue.sortKeys)) ++ ['}']))) := by
  have hle : JsonValue.key_le ("messages", .arr ((request.messages.map ChatMessage.to_json).map JsonValue.sortKeys))
      ("tools", .arr ((request.tools.map (tool_json python)).map JsonValue.sortKeys)) :=
    (by decide : "messages" ≤ "tools")
  unfold Python.canonical_json JsonValue.dumps wire
  rw [String.toList_ofList, JsonValue.sortKeys]
  simp only [JsonValue.sortFields, sortedItems_map, List.insertionSort_cons, List.insertionSort_nil, List.orderedInsert,
    if_pos hle, JsonValue.write, JsonValue.writeFields, JsonValue.gap, List.replicate_zero, List.nil_append]
  have hmessages : Json.quote "messages" = "\"messages\"".toList := by decide
  have htools : Json.quote "tools" = "\"tools\"".toList := by decide
  rw [hmessages, htools]
  simp

theorem breaks_array (floats : FloatText φ) (xs : List (JsonValue φ)) (r : List Char) :
    tokens.chars.Breaks (JsonValue.write floats 0 (.arr xs) ++ r) := by
  cases xs with
  | nil => exact tokens.breaks_ascii (by decide) (by decide) _
  | cons x xs => exact tokens.breaks_ascii (by decide) (by decide) _

theorem estimate_parts (request : ModelRequest φ) :
    (tokens.estimate python request).input_tokens =
      (request.messages.map fun message => tokens.count (python.canonical_json message.to_json).toList).sum +
        (request.tools.map fun tool => tokens.count (python.canonical_json (tool_json python tool)).toList).sum +
        tokens.frame_tokens request.messages.length request.tools.length + private_count request := by
  have hframe : tokens.count "\x7b\"messages\":[],\"tools\":[]\x7d".toList =
      tokens.count "\x7b\"messages\":".toList + (tokens.count ('[' :: ']' :: ",\"tools\":".toList) +
        tokens.count ['[', ']', '}']) := by
    have hbracket (r : List Char) : tokens.chars.Breaks ('[' :: r) := tokens.breaks_ascii (by decide) (by decide) r
    rw [← tokens.count_append (hbracket _), List.cons_append, ← tokens.count_append (hbracket _)]
    rfl
  unfold estimate frame_tokens
  rw [canonical_wire, tokens.count_append (tokens.breaks_array _ _ _), tokens.count_array, ← List.cons_append,
    ← List.cons_append, tokens.count_append (tokens.breaks_array _ _ _), tokens.count_array, hframe]
  simp only [List.map_map, List.length_map, Function.comp_def, Python.canonical_json, JsonValue.dumps,
    String.toList_ofList]
  ring

/-! ## What is sent -/

theorem trailing_user_append (messages : List ChatMessage) :
    (trailing_user messages).1 ++ (trailing_user messages).2 = messages := by
  unfold trailing_user
  split
  · rename_i message hlast
    split_ifs
    · exact List.dropLast_append_getLast? message hlast
    · exact List.append_nil _
  · exact List.append_nil _

theorem wire_messages_tokens (group : ConversationGroup) :
    (group.wire_messages.map (tokens.message_tokens python)).sum =
      group.ref.token_weight + (group.results.map fun result => tokens.count result.content_json.toList).sum := by
  unfold ConversationGroup.wire_messages
  rw [List.map_cons, List.sum_cons, List.map_map]
  rfl

theorem history_tokens (history : List ConversationGroup) :
    ((history.flatMap ConversationGroup.wire_messages).map (tokens.message_tokens python)).sum =
      (history.map fun group => group.ref.token_weight).sum + tokens.result_tokens history := by
  unfold result_tokens
  induction history with
  | nil => rfl
  | cons group history ih =>
    rw [List.flatMap_cons, List.map_append, List.sum_append, tokens.wire_messages_tokens, ih]
    simp only [List.map_cons, List.sum_cons]
    omega

/-- What is sent counts for the estimate without its frame, and for the tool results. -/
theorem encoded_parts (request : ModelRequest φ) :
    tokens.encoded_tokens python request + tokens.frame_tokens request.messages.length request.tools.length =
      (tokens.estimate python request).input_tokens + tokens.result_tokens request.history := by
  have hmessages : (request.messages.map fun message =>
    tokens.count (python.canonical_json message.to_json).toList).sum =
      ((trailing_user request.messages).1.map fun message =>
        tokens.count (python.canonical_json message.to_json).toList).sum +
      ((trailing_user request.messages).2.map fun message =>
        tokens.count (python.canonical_json message.to_json).toList).sum := by
    rw [← List.sum_append, ← List.map_append, trailing_user_append]
  rw [estimate_parts, hmessages]
  unfold encoded_tokens encode_messages private_count
  dsimp only
  rw [List.map_append, List.map_append, List.sum_append, List.sum_append, tokens.history_tokens, List.map_map,
    List.map_map]
  simp only [Function.comp_def, message_tokens]
  omega

/-! ## Summaries -/

/-- A raw result of a history and the history with the summary in its place. -/
inductive Summarizes (builder : ContextBuilder φ) : ToolResult → List ConversationGroup → List ConversationGroup → Prop
  | intro (front back : List ConversationGroup) (exchange : ToolExchangeGroup) (before after : List ToolResult)
    (result : ToolResult) (hraw : result.raw = true) :
    Summarizes builder result
      (front ++ .tool_exchange { exchange with tool_results := before ++ result :: after } :: back)
      (front ++ .tool_exchange { exchange with tool_results := before ++ builder.summarize_result result :: after } ::
        back)

theorem summarizes_of_mem {history : List ConversationGroup} {group : ConversationGroup} (hgroup : group ∈ history)
    {result : ToolResult} (hresult : result ∈ group.results) (hraw : result.raw = true) (builder : ContextBuilder φ) :
    ∃ summarized, Summarizes builder result history summarized := by
  obtain ⟨front, back, rfl⟩ := List.append_of_mem hgroup
  cases group with
  | assistant ref => exact absurd hresult List.not_mem_nil
  | tool_exchange exchange =>
    obtain ⟨before, after, hresults⟩ := List.append_of_mem hresult
    have hexchange : exchange = { exchange with tool_results := before ++ result :: after } := by
      rw [← hresults]
      rfl
    rw [hexchange]
    exact ⟨_, Summarizes.intro front back exchange before after result hraw⟩

theorem Summarizes.mem {builder : ContextBuilder φ} {result : ToolResult} {history summarized : List ConversationGroup}
    (h : Summarizes builder result history summarized) :
    result.raw = true ∧ ∃ group ∈ history, result ∈ group.results := by
  cases h with
  | intro front back exchange before after result hraw =>
    exact ⟨hraw, _, List.mem_append_right _ List.mem_cons_self, List.mem_append_right _ List.mem_cons_self⟩

theorem Summarizes.weights {builder : ContextBuilder φ} {result : ToolResult}
    {history summarized : List ConversationGroup} (h : Summarizes builder result history summarized) :
    (summarized.map fun group => group.ref.token_weight) = history.map fun group => group.ref.token_weight := by
  cases h
  simp only [List.map_append, List.map_cons, ConversationGroup.ref]

theorem Summarizes.estimate {builder : ContextBuilder φ} {result : ToolResult} {request : ModelRequest φ}
    {summarized : List ConversationGroup} (h : Summarizes builder result request.history summarized) :
    tokens.estimate python { request with history := summarized } = tokens.estimate python request := by
  unfold ProvisionedDeepSeekTokenEstimator.estimate wire private_count
  dsimp only
  rw [h.weights]

/-! ## What the estimate covers -/

/-- The builder with this estimator. -/
def builds (builder : ContextBuilder φ) : ContextBuilder φ :=
    { builder with estimator := tokens.estimator builder.python }

/-- The count of a result. -/
def content_tokens (result : ToolResult) : ℕ := tokens.count result.content_json.toList

/-- The estimate of a request covers what is sent of it. -/
structure Covers (builder : ContextBuilder φ) (request : ModelRequest φ) : Prop where
  covered : tokens.encoded_tokens builder.python request ≤ (tokens.estimate builder.python request).input_tokens
  within : ∀ context bundle, (tokens.builds builder).build context = .ok bundle → bundle.model_request = request →
    tokens.encoded_tokens builder.python request ≤ (builder.registry.profiles context.profile.key).input_token_limit
  lowered : ∀ result summarized, Summarizes builder result request.history summarized →
    tokens.content_tokens (builder.summarize_result result) < tokens.content_tokens result →
      (tokens.estimate builder.python { request with history := summarized }).input_tokens <
        (tokens.estimate builder.python request).input_tokens

/-- The results of a request are as small as what the estimate counts beyond its messages and tools, and none has a
smaller summary. -/
structure SmallResults (builder : ContextBuilder φ) (request : ModelRequest φ) : Prop where
  framed : tokens.result_tokens request.history ≤ tokens.frame_tokens request.messages.length request.tools.length
  least : ∀ group ∈ request.history, ∀ result ∈ group.results, result.raw = true →
    tokens.content_tokens result ≤ tokens.content_tokens (builder.summarize_result result)

theorem build_within {builder : ContextBuilder φ} {context : ContextRequest φ} {bundle : PromptBundle φ}
    (h : (tokens.builds builder).build context = .ok bundle) :
    (tokens.estimate builder.python bundle.model_request).input_tokens ≤
      (builder.registry.profiles context.profile.key).input_token_limit := by
  obtain ⟨profile, rule, draft, hbundled⟩ := build_bundles h
  have hestimated := hbundled.estimated
  have hwithin := hbundled.within
  rw [hbundled.registered] at hwithin
  exact hestimated.trans_le hwithin

theorem covers_iff (builder : ContextBuilder φ) (request : ModelRequest φ) :
    tokens.Covers builder request ↔ tokens.SmallResults builder request := by
  have hparts := tokens.encoded_parts builder.python request
  constructor
  · intro h
    refine ⟨?_, fun group hgroup result hresult hraw => ?_⟩
    · have := h.covered
      omega
    · by_contra hless
      obtain ⟨summarized, hsummarizes⟩ := summarizes_of_mem hgroup hresult hraw builder
      have hlowered := h.lowered result summarized hsummarizes (Nat.not_le.mp hless)
      rw [hsummarizes.estimate] at hlowered
      exact lt_irrefl _ hlowered
  · intro h
    have hcovered : tokens.encoded_tokens builder.python request ≤
      (tokens.estimate builder.python request).input_tokens := by
      have := h.framed
      omega
    refine ⟨hcovered, ?_, fun result summarized hsummarizes hless => ?_⟩
    · rintro context bundle hbuild rfl
      exact hcovered.trans (tokens.build_within hbuild)
    · obtain ⟨hraw, group, hgroup, hresult⟩ := hsummarizes.mem
      exact absurd hless (Nat.not_lt.mpr (h.least group hgroup result hresult hraw))

end ProvisionedDeepSeekTokenEstimator

/-! ## A request with the result of a query -/

def sampleTokens : ProvisionedDeepSeekTokenEstimator := ⟨"v1", fun _ => false, .plain⟩

def queryGroup : ConversationGroup :=
  .tool_exchange ⟨queryTurn, [queryCall], [queryResult]⟩

def queryRequest : ModelRequest Unit where
  run_scope := sampleScope .a bird_a
  attempt_id := 1
  sequence := 1
  inference := .non_thinking () 4096
  messages := [⟨.user, ⟨"how many", by decide⟩⟩]
  history := [queryGroup]
  tools := []
  timeout_seconds := 60
  capability_revision := sampleText
  provider_user_id := "00000000000000000000000000000000"
  hashes := ⟨zero_hash, zero_hash, zero_hash, zero_hash, zero_hash⟩

/-- Ten numbers are sent that the estimate leaves out. -/
theorem query_uncovered : queryGroup.valid samplePython = true ∧ ¬ sampleTokens.Covers sampleBuilder queryRequest := by
  refine ⟨by decide +kernel, fun h => ?_⟩
  have hparts := sampleTokens.encoded_parts sampleBuilder.python queryRequest
  have hcovered := h.covered
  have hlarge : sampleTokens.frame_tokens queryRequest.messages.length queryRequest.tools.length <
      sampleTokens.result_tokens queryRequest.history := by decide +kernel
  omega

end CommerceAgent.Context
