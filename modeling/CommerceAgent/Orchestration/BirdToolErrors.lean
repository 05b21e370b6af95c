import CommerceAgent.Orchestration.BirdToolsHttp

/-!
# Errors of the Bird tools

Which replies leave the tool port, and the session port around it, with a result or an error that the graph expects.
-/

open CommerceAgent.Lib
open CommerceAgent.Lib.Flow (onOk)
open CommerceAgent.Operations (Text Code HexDigest Checked)

namespace CommerceAgent.Orchestration

variable {φ : Type}

/-- A result, or an error that the graph expects. -/
def Closed : Except Raised ToolResult → Prop
  | .ok _ => True
  | .error (.tool_contract _) => True
  | .error (.tool_infrastructure _) => True
  | .error _ => False

/-! ## Texts -/

mutual

theorem is_finite_of_value : (body : Body φ) → body.value?.isSome = true → body.is_finite = true
  | .null, _ => rfl
  | .bool _, _ => rfl
  | .int _, _ => rfl
  | .float _, _ => rfl
  | .nonfinite _, h => by cases h
  | .str _, _ => rfl
  | .arr items, h => finite_of_items items (by unfold Body.value? at h; rwa [Option.isSome_map] at h)
  | .obj fields, h => finite_of_fields fields (by unfold Body.value? at h; rwa [Option.isSome_map] at h)

theorem finite_of_items : (items : List (Body φ)) → (Body.items? items).isSome = true → Body.finite_items items = true
  | [], _ => rfl
  | x :: xs, h => by
    unfold Body.items? at h
    cases hx : x.value? with
    | none => rw [hx] at h; cases h
    | some value =>
      cases hxs : Body.items? xs with
      | none => rw [hx, hxs] at h; cases h
      | some values =>
        exact (Bool.and_eq_true _ _).mpr ⟨is_finite_of_value x (hx ▸ rfl), finite_of_items xs (hxs ▸ rfl)⟩

theorem finite_of_fields : (fields : List (PyText × Body φ)) → (Body.fields? fields).isSome = true →
    Body.finite_fields fields = true
  | [], _ => rfl
  | (k, v) :: kvs, h => by
    unfold Body.fields? at h
    cases hk : PyText.encode k with
    | none => rw [hk] at h; cases h
    | some key =>
      cases hv : v.value? with
      | none => rw [hk, hv] at h; cases h
      | some value =>
        cases hkvs : Body.fields? kvs with
        | none => rw [hk, hv, hkvs] at h; cases h
        | some values =>
          exact (Bool.and_eq_true _ _).mpr ⟨is_finite_of_value v (hv ▸ rfl), finite_of_fields kvs (hkvs ▸ rfl)⟩

end

theorem escape_length (c : Char) : (Json.escape c).length ≤ 6 := by
  unfold Json.escape
  split_ifs
  all_goals simp [Json.hexDigits]

theorem quote_length (s : String) : (Json.quote s).length ≤ 6 * s.length + 2 := by
  have hescape (cs : List Char) : (cs.flatMap Json.escape).length ≤ 6 * cs.length := by
    induction cs with
    | nil => exact Nat.le_refl _
    | cons c cs ih =>
      have hc := escape_length c
      rw [List.flatMap_cons, List.length_append, List.length_cons]
      omega
  have h := hescape s.toList
  rw [String.length_toList] at h
  unfold Json.quote
  rw [List.length_cons, List.length_append, List.length_singleton]
  omega

section Results

variable {library : HttpLibrary φ} {port : HttpBirdToolPort φ} {call : ToolCall} {endpoint : BirdEndpointContract}

variable (library) in
theorem text_length (key text : String) :
    (library.canonical_json (.obj [(key, .str text)])).length ≤ 6 * key.length + 6 * text.length + 7 := by
  have hkey := quote_length key
  have htext := quote_length text
  have hwrite : library.canonical_json (.obj [(key, .str text)]) =
      String.ofList (JsonValue.dumps library.floats 0 (.obj [(key, .str text)])) :=
    library.canonical_json_eq (.obj [(key, .str text)])
  rw [hwrite, String.length_ofList]
  change ('{' :: (Json.quote key ++ ':' :: (JsonValue.gap 0 ++ (Json.quote text ++ ['}'])))).length ≤ _
  simp only [List.length_cons, List.length_append, List.length_nil, JsonValue.gap, List.length_replicate]
  omega

variable (library) in
theorem summary_length (digest : HexDigest) (source_ref : String) :
    (library.canonical_json
      (.obj [("content_sha256", .str digest.text), ("source_refs", .arr [.str source_ref])])).length
      ≤ 6 * source_ref.length + 700 := by
  have hdigest := quote_length digest.text
  have hlength : digest.text.length = 64 := by
    have hpasses := digest.passes
    rw [Operations.isHexDigest, Bool.and_eq_true, beq_iff_eq] at hpasses
    exact hpasses.1
  have hsource := quote_length source_ref
  have hcontent := quote_length "content_sha256"
  have hrefs := quote_length "source_refs"
  let value : JsonValue φ := .obj [("content_sha256", .str digest.text), ("source_refs", .arr [.str source_ref])]
  have hwrite : library.canonical_json
      (.obj [("content_sha256", .str digest.text), ("source_refs", .arr [.str source_ref])]) =
      String.ofList (JsonValue.dumps library.floats 0 value) := library.canonical_json_eq value
  have hsorted : value.sortKeys = value := by
    refine congrArg JsonValue.obj (List.Pairwise.insertionSort_eq ?_)
    have hkeys : ["content_sha256", "source_refs"].Pairwise (· ≤ ·) := by decide
    unfold JsonValue.key_le
    rw [← List.pairwise_map]
    exact hkeys
  rw [hwrite, String.length_ofList, JsonValue.dumps, hsorted]
  change ('{' :: (Json.quote "content_sha256" ++ ':' :: (JsonValue.gap 0 ++ (Json.quote digest.text ++
    ',' :: (JsonValue.gap 0 ++ (Json.quote "source_refs" ++ ':' :: (JsonValue.gap 0 ++
      (('[' :: (Json.quote source_ref ++ [']'])) ++ ['}'])))))))).length ≤ _
  simp only [List.length_cons, List.length_append, List.length_nil, JsonValue.gap, List.length_replicate]
  have hcontent_sha256 : ("content_sha256" : String).length = 14 := by decide
  have hsource_refs : ("source_refs" : String).length = 11 := by decide
  omega

variable (library) in
theorem canonical_json_pos (value : JsonValue φ) :
    1 ≤ (library.canonical_json (Value.of library.number value)).length := by
  rw [library.canonical_json_eq, String.length_ofList]
  exact JsonValue.write_ne_nil library.floats 0 _

theorem validated_length (lo hi : ℕ) {text : String} (hlo : lo ≤ text.length) :
    (∃ checked : Text lo hi, validated text = .ok checked) ∧ text.length ≤ hi ∨
      (validated text : Except Raised (Text lo hi)) = .error ValidationError ∧ hi < text.length := by
  unfold validated Checked.parse
  by_cases hhi : text.length ≤ hi
  · have hfits : (lo ≤ text.length && text.length ≤ hi : Bool) = true := by
      rw [Bool.and_eq_true]
      exact ⟨decide_eq_true hlo, decide_eq_true hhi⟩
    rw [dif_pos hfits]
    exact Or.inl ⟨⟨_, rfl⟩, hhi⟩
  · have hfits : ¬ (lo ≤ text.length && text.length ≤ hi : Bool) = true := by
      rw [Bool.and_eq_true]
      exact fun h => hhi (of_decide_eq_true h.2)
    rw [dif_neg hfits]
    exact Or.inr ⟨rfl, Nat.lt_of_not_le hhi⟩

variable (library) in
theorem summary_ok (digest : HexDigest) {source_ref : String} (hsource : source_ref.length ≤ 64) :
    ∃ summary : Text 1 16384, validated (library.canonical_json
      (.obj [("content_sha256", .str digest.text), ("source_refs", .arr [.str source_ref])])) = .ok summary := by
  have hlength := summary_length library digest source_ref
  have hpos : 1 ≤ (library.canonical_json
      (.obj [("content_sha256", .str digest.text), ("source_refs", .arr [.str source_ref])])).length :=
    canonical_json_pos _ (.obj [("content_sha256", .str digest.text), ("source_refs", .arr [.str source_ref])])
  obtain ⟨h, -⟩ | ⟨-, hlong⟩ := validated_length 1 16384 hpos
  · exact h
  · omega

open HttpBirdToolPort

theorem primary_mem {name : String} (h : primary name = some endpoint) : endpoint ∈ outbound_endpoints :=
  List.mem_of_mem_filter (List.mem_of_find?_eq_some h)

theorem source_ref_length (h : endpoint ∈ outbound_endpoints) : (source_ref endpoint).length ≤ 64 := by
  have hall : ∀ entry ∈ outbound_endpoints, (source_ref entry).length ≤ 64 := by decide
  exact hall endpoint h

variable (port call) in
theorem tool_result_cases (hendpoint : endpoint ∈ outbound_endpoints) (status : ToolStatus) {text : String}
    (hpos : 1 ≤ text.length) :
    (∃ result, port.tool_result call endpoint status text = .ok result) ∧ text.length ≤ 262144 ∨
      port.tool_result call endpoint status text = .error ValidationError ∧ 262144 < text.length := by
  unfold tool_result
  dsimp only
  obtain ⟨⟨content, hcontent⟩, hlength⟩ | ⟨herror, hlength⟩ := validated_length 1 262144 hpos
  · obtain ⟨summary, hsummary⟩ :=
      summary_ok port.library (port.library.sha256 text) (source_ref_length hendpoint)
    rw [hcontent, ok_bind, hsummary, ok_bind]
    exact Or.inl ⟨⟨_, rfl⟩, hlength⟩
  · rw [herror]
    exact Or.inr ⟨rfl, hlength⟩

theorem text_result_ok {text key source_ref : String} (hkey : key.length ≤ 64) (htext : text.length ≤ 40000)
    (hsource : source_ref.length ≤ 64) :
    ∃ result, BirdSessionStatePort.text_result port.library.toLibrary call text key source_ref = .ok result := by
  have hlength := text_length port.library key text
  have hpos : 1 ≤ (port.library.canonical_json (.obj [(key, .str text)])).length :=
    canonical_json_pos _ (.obj [(key, .str text)])
  unfold BirdSessionStatePort.text_result
  dsimp only
  obtain ⟨⟨content, hcontent⟩, -⟩ | ⟨-, hlong⟩ := validated_length 1 262144 hpos
  · obtain ⟨summary, hsummary⟩ := summary_ok port.library
      (port.library.sha256 (port.library.canonical_json (.obj [(key, .str text)]))) hsource
    rw [hcontent, ok_bind, hsummary, ok_bind]
    exact ⟨_, rfl⟩
  · omega

/-! ## Gates -/

theorem budget_text (fixed : String) (h : fixed.length ≤ 312) :
    ("Budget exhausted (" ++ fixed ++ " remaining). You MUST call submit_sql now with your best SQL.").length ≤
      40000 := by
  have hbefore : ("Budget exhausted (" : String).length = 18 := by decide
  have hafter : (" remaining). You MUST call submit_sql now with your best SQL." : String).length = 61 := by decide
  rw [String.length_append, String.length_append]
  omega

theorem clarification_text {used max_turn : ℕ} (hused : (toString used).length ≤ 4300) (hle : max_turn ≤ used) :
    (s!"Clarification budget exhausted ({used} of {max_turn} ask_user turns " ++
      "used). You MUST call submit_sql with your best query now.").length ≤ 40000 := by
  have hmax : (toString max_turn).length ≤ (toString used).length :=
    (Nat.length_repr_le_iff Nat.length_repr_pos).mpr
      (hle.trans_lt ((Nat.length_repr_le_iff Nat.length_repr_pos).mp (Nat.le_refl _)))
  have hbefore : (toString "Clarification budget exhausted (").length = 32 := by decide
  have hof : (toString " of ").length = 4 := by decide
  have hturns : (toString " ask_user turns ").length = 16 := by decide
  have hafter : ("used). You MUST call submit_sql with your best query now." : String).length = 57 := by decide
  simp only [String.length_append]
  omega

theorem gate_ok {mode : Mode} {s : SessionState} (hturns : (toString s.ask_user_turns).length ≤ 4300)
    {gated : Except Raised ToolResult}
    (h : (BirdSessionStatePort.gate port.library.toLibrary mode call s).1 = some gated) :
    ∃ result, gated = .ok result := by
  unfold BirdSessionStatePort.gate at h
  split at h
  case h_1 =>
    unfold BirdSessionStatePort.gate_budget at h
    split at h
    case h_1 => cases h
    case h_2 cost hcost =>
      split_ifs at h
      obtain rfl := Option.some.inj h
      exact text_result_ok (by decide) (budget_text _ (port.library.fixed_short _)) (by decide)
  case h_2 =>
    split_ifs at h
    unfold BirdSessionStatePort.gate_clarification_budget at h
    split at h
    case h_1 => cases h
    case h_2 max_turn hmax =>
      split_ifs at h with hbelow
      obtain rfl := Option.some.inj h
      exact text_result_ok (by decide) (clarification_text hturns (Nat.not_lt.mp hbelow)) (by decide)
  case h_3 => cases h

/-! ## Replies -/

/-- A reply that leads to a result or to an error that the graph expects, when what it says `fits`. -/
def Accepted (port : HttpBirdToolPort φ) (endpoint : BirdEndpointContract) (fits : JsonValue φ → Prop) :
    HttpReply → Prop
  | .error _ => True
  | .ok response =>
    if 200 ≤ response.status_code ∧ response.status_code < 300 then
      match port.library.decode response.body with
      | .undecodable => True
      | .raises _ => False
      | .body body _ => ∃ value, body.value? = some value ∧ fits value
    else endpoint.is_stateful = true → (port.library.canonical_json
      (.obj [("path", .str endpoint.path), ("status_code", .int response.status_code)])).length ≤ 262144

def text_of (port : HttpBirdToolPort φ) (value : JsonValue φ) : String :=
  port.library.canonical_json (Value.of port.library.number value)

variable (port) in
theorem content_json_cases (body : Body φ) :
    (∃ value, body.value? = some value ∧ port.content_json body = .ok (text_of port value)) ∨
      body.value? = none ∧ ∃ name, port.content_json body = .error (.exception name) := by
  unfold content_json text_of
  cases hvalue : body.value? with
  | some value =>
    rw [if_neg (not_not.mpr (is_finite_of_value body (hvalue ▸ rfl)))]
    exact Or.inl ⟨value, rfl, rfl⟩
  | none =>
    refine Or.inr ⟨rfl, ?_⟩
    split_ifs
    · exact ⟨_, rfl⟩
    · exact ⟨_, rfl⟩

theorem accepted_iff (hendpoint : endpoint ∈ outbound_endpoints) {next : ToolResult → Except Raised ToolResult}
    {fits : JsonValue φ → Prop} (hfits : ∀ value, fits value → (text_of port value).length ≤ 262144)
    (hsuccess : ∀ value result, value.Distinct → (text_of port value).length ≤ 262144 → result.status = .success →
      result.content_json.text = text_of port value → (Closed (next result) ↔ fits value))
    (herror : ∀ result, result.status = .error → Closed (next result)) (reply : HttpReply) :
    Closed (port.outcome call endpoint reply >>= next) ↔ Accepted port endpoint fits reply := by
  unfold outcome Accepted
  cases reply with
  | error name => exact iff_of_true trivial trivial
  | ok response =>
    dsimp only
    split_ifs with hstatus hstateful hretryable
    · cases port.library.decode response.body with
      | undecodable => exact iff_of_true trivial trivial
      | raises name => exact iff_of_false id id
      | body body hdistinct =>
        dsimp only
        unfold result
        obtain ⟨value, hvalue, hcontent⟩ | ⟨hvalue, name, hcontent⟩ := content_json_cases port body
        · rw [hcontent, ok_bind]
          simp only [hvalue, Option.some.injEq, exists_eq_left']
          obtain ⟨⟨result, hresult⟩, hlength⟩ | ⟨hresult, hlong⟩ := tool_result_cases port call
            hendpoint .success (canonical_json_pos port.library value)
          · have hresult' : port.tool_result call endpoint .success (text_of port value) = .ok result := hresult
            rw [hresult', ok_bind]
            exact hsuccess value result (hdistinct value hvalue) hlength (tool_result_ok hresult').1
              (tool_result_ok hresult').2
          · have hresult' : port.tool_result call endpoint .success (text_of port value) = .error ValidationError :=
              hresult
            rw [hresult', error_bind]
            exact iff_of_false id fun h => Nat.not_lt.mpr (hfits value h) hlong
        · rw [hcontent, error_bind, error_bind, hvalue]
          exact iff_of_false id fun ⟨_, h, _⟩ => by cases h
    · unfold rejected_result
      obtain ⟨⟨result, hresult⟩, hlength⟩ | ⟨hresult, hlong⟩ := tool_result_cases port call
        hendpoint .error (canonical_json_pos port.library
          (.obj [("path", .str endpoint.path), ("status_code", .int response.status_code)]))
      · have hresult' : port.tool_result call endpoint .error (port.library.canonical_json
            (.obj [("path", .str endpoint.path), ("status_code", .int response.status_code)])) = .ok result := hresult
        rw [hresult', ok_bind]
        exact iff_of_true (herror result (tool_result_ok hresult').1) fun _ => hlength
      · have hresult' : port.tool_result call endpoint .error (port.library.canonical_json
            (.obj [("path", .str endpoint.path), ("status_code", .int response.status_code)])) =
              .error ValidationError := hresult
        rw [hresult', error_bind]
        exact iff_of_false id fun h => Nat.not_lt.mpr (h hstateful) hlong
    · exact iff_of_true trivial fun h => absurd h hstateful
    · exact iff_of_true trivial fun h => absurd h hstateful

theorem unsettled_accepted {fits : JsonValue φ → Prop} {reply : HttpReply} (hstateless : endpoint.is_stateful = false)
    (h : port.Unsettled reply) : Accepted port endpoint fits reply := by
  unfold Unsettled at h
  unfold Accepted
  cases reply with
  | error name => trivial
  | ok response =>
    dsimp only at h ⊢
    split_ifs at h ⊢
    · split at h
      case h_1 hdecode =>
        rw [hdecode]
        trivial
      case h_2 => exact h.elim
    · rw [hstateless]
      exact Bool.noConfusion

theorem payload_error {e : Raised} (h : port.payload call = .error e) :
    e = ToolContractError "invalid_action_arguments" := by
  unfold payload invalid_action_arguments at h
  repeat' split at h
  all_goals
    cases h
    try rfl

/-- The replies that the endpoint of the action gave. -/
def replies (port : HttpBirdToolPort φ) (call : ToolCall) (env : Env HttpOp HttpAns) : List HttpReply :=
  match primary call.name.text, port.payload call with
  | some endpoint, .ok payload => (posts ((port.request call endpoint payload).play env []).2).map Prod.snd
  | _, _ => []

/-- Each reply of the endpoint is accepted. -/
def AllAccepted (port : HttpBirdToolPort φ) (call : ToolCall) (fits : JsonValue φ → Prop) (env : Env HttpOp HttpAns) :
    Prop :=
  ∀ endpoint ∈ primary call.name.text, ∀ reply ∈ replies port call env, Accepted port endpoint fits reply

/-- What a submission of success goes on to. -/
def next_phase (port : HttpBirdToolPort φ) (call : ToolCall) (result : ToolResult) : Except Raised ToolResult :=
  if call.name.text = "submit_sql" ∧ result.status = .success then
    match port.library.loads result.content_json.text with
    | none => .error (.exception "JSONDecodeError")
    | some (.obj _) => .ok result
    | some _ => .error (.exception "AttributeError")
  else .ok result

theorem play_next_phase (r : Except Raised ToolResult) (env : Env HttpOp HttpAns) (log : Log HttpOp HttpAns) :
    ((onOk (fun result => if call.name.text = "submit_sql" then port.maybe_phase_transition result
      else .done (.ok result)) r).play env log).1 = r >>= next_phase port call := by
  cases r with
  | error e => rfl
  | ok result =>
    rw [Flow.onOk_ok, ok_bind]
    unfold next_phase
    by_cases hsubmit : call.name.text = "submit_sql"
    · rw [if_pos hsubmit]
      unfold maybe_phase_transition
      cases hstatus : result.status with
      | error =>
        rw [if_neg (by simp)]
        rfl
      | success =>
        rw [if_pos ⟨hsubmit, rfl⟩]
        have htransition : phase_transition = some ⟨"submit_sql", .user_sim, "/phase_transition", 120⟩ := by decide
        rw [htransition]
        dsimp only
        cases port.library.loads result.content_json.text with
        | none => rfl
        | some content =>
          cases content with
          | obj fields =>
            dsimp only
            split_ifs
            · rfl
            · rfl
          | null | bool | int | float | str | arr => rfl
    · rw [if_neg hsubmit, if_neg fun h => hsubmit h.1]
      rfl

variable (port call) in
theorem execute_closed_iff (next : ToolResult → Except Raised ToolResult) (fits : JsonValue φ → Prop)
    (hfits : ∀ value, fits value → (text_of port value).length ≤ 262144)
    (hsuccess : ∀ payload value result, port.payload call = .ok payload → value.Distinct →
      (text_of port value).length ≤ 262144 → result.status = .success → result.content_json.text = text_of port value →
      (Closed (next_phase port call result >>= next) ↔ fits value))
    (herror : ∀ result, result.status = .error → Closed (next result)) (env : Env HttpOp HttpAns) :
    Closed (((port.execute call).play env []).1 >>= next) ↔ AllAccepted port call fits env := by
  unfold AllAccepted
  cases hendpoint : primary call.name.text with
  | none =>
    unfold execute
    rw [hendpoint]
    exact iff_of_true trivial fun _ h => absurd h (Option.not_mem_none _)
  | some endpoint =>
    cases hpayload : port.payload call with
    | error e =>
      unfold execute replies
      rw [hendpoint]
      dsimp only
      rw [hpayload]
      obtain rfl := payload_error hpayload
      exact iff_of_true trivial fun _ _ _ h => absurd h List.not_mem_nil
    | ok payload =>
      obtain ⟨sent, last, htried, hrequest, hplay⟩ := execute_play hendpoint hpayload env
      obtain ⟨earlier, hposts, -, hearlier, hstateful⟩ := htried.posts
      have hreplies : replies port call env = earlier ++ [last] := by
        unfold replies
        rw [hendpoint, hpayload]
        dsimp only
        rw [hrequest, hposts, List.map_map]
        exact List.map_id _
      rw [hplay, play_next_phase, bind_assoc, accepted_iff (primary_mem hendpoint) hfits
        (fun value result => hsuccess payload value result hpayload) ?_, hreplies]
      · constructor
        · rintro hlast endpoint ⟨⟩ reply hreply
          rcases List.mem_append.mp hreply with hreply | hreply
          · cases hstateless : endpoint.is_stateful with
            | true =>
              rw [hstateful hstateless] at hreply
              exact absurd hreply List.not_mem_nil
            | false => exact unsettled_accepted hstateless (hearlier reply hreply)
          · exact List.mem_singleton.mp hreply ▸ hlast
        · intro h
          exact h endpoint rfl last (List.mem_append_right _ (List.mem_singleton_self _))
      · intro result hstatus
        have hnext : next_phase port call result = .ok result := if_neg fun h => by rw [hstatus] at h; cases h.2
        rw [hnext]
        exact herror result hstatus

/-! ## Bodies -/

/-- The value as it is read back from a result. -/
def read_back (port : HttpBirdToolPort φ) (value : JsonValue φ) : Value := Value.of port.library.number value.sortKeys

/-- What the port needs of the body of a successful reply. -/
structure Fits (port : HttpBirdToolPort φ) (name : String) (value : JsonValue φ) : Prop where
  short : (text_of port value).length ≤ 262144
  submitted : name = "submit_sql" → ∃ fields, value = .obj fields

structure SessionFits (port : HttpBirdToolPort φ) (name : String) (value : JsonValue φ) : Prop
    extends Fits port name value where
  asked : name = "ask_user" → ∃ fields, value = .obj fields
  reward : name = "submit_sql" → is_true ((read_back port value).get? "passed") = true →
    ∃ reward, port.library.float (((read_back port value).get? "reward").getD (.float 0)) = .ok reward

variable (port) in
theorem read_back_obj (value : JsonValue φ) :
    (∃ fields, value = .obj fields) ↔ ∃ fields, read_back port value = .obj fields := by
  cases value with
  | obj fields => exact iff_of_true ⟨fields, rfl⟩ ⟨_, rfl⟩
  | null | bool | int | float | str | arr =>
    exact iff_of_false (by rintro ⟨_, h⟩; cases h) (by rintro ⟨_, h⟩; cases h)

variable {value : JsonValue φ} {result : ToolResult}

theorem loads_result (h : value.Distinct) (hcontent : result.content_json.text = text_of port value) :
    port.library.loads result.content_json.text = some (read_back port value) := by
  rw [hcontent]
  exact loads_content value h

variable (call) in
theorem next_phase_cases (h : value.Distinct) (hcontent : result.content_json.text = text_of port value)
    (hsuccess : result.status = .success) :
    (call.name.text = "submit_sql" → ∃ fields, value = .obj fields) ∧ next_phase port call result = .ok result ∨
      (call.name.text = "submit_sql" ∧ ¬ ∃ fields, value = .obj fields) ∧
        next_phase port call result = .error (.exception "AttributeError") := by
  unfold next_phase
  by_cases hsubmit : call.name.text = "submit_sql"
  · rw [if_pos ⟨hsubmit, hsuccess⟩, loads_result h hcontent, read_back_obj port]
    cases read_back port value with
    | obj fields => exact Or.inl ⟨fun _ => ⟨fields, rfl⟩, rfl⟩
    | null | bool | int | float | str | arr => exact Or.inr ⟨⟨hsubmit, by rintro ⟨_, h⟩; cases h⟩, rfl⟩
  · rw [if_neg fun h => hsubmit h.1]
    exact Or.inl ⟨fun h => absurd h hsubmit, rfl⟩

theorem payload_arguments {payload : Value} (h : port.payload call = .ok payload) :
    ∃ arguments, BirdSessionStatePort.arguments_of port.library.toLibrary call = .obj arguments := by
  unfold HttpBirdToolPort.payload at h
  unfold BirdSessionStatePort.arguments_of
  split at h
  case h_1 arguments harguments =>
    rw [harguments]
    exact ⟨arguments, rfl⟩
  case h_2 => cases h

/-- What the session makes of a result. -/
def noted (port : HttpBirdToolPort φ) (mode : Mode) (call : ToolCall) (s : SessionState) (result : ToolResult) :
    Except Raised ToolResult :=
  (BirdSessionStatePort.after_tool port.library.toLibrary mode call result s).1.map fun _ => result

theorem noted_submit {mode : Mode} {s : SessionState} (hname : call.name.text = "submit_sql") :
    noted port mode call s result = (BirdSessionStatePort.apply_submit_state port.library.toLibrary result
      (BirdSessionStatePort.note_trajectory call (BirdSessionStatePort.arguments_of port.library.toLibrary call)
        result s)).1.map fun _ => result := by
  have hask : ¬ (call.name.text = "ask_user" ∧ result.status = .success) := by
    rw [hname]
    exact fun h => absurd h.1 (by decide)
  unfold noted BirdSessionStatePort.after_tool
  rw [if_neg hask, if_pos hname]
  split
  case h_1 heq => rw [heq]
  case h_2 heq => rw [heq]

theorem noted_other {mode : Mode} {s : SessionState} (hask : ¬ (call.name.text = "ask_user" ∧ result.status = .success))
    (hsubmit : call.name.text ≠ "submit_sql") : noted port mode call s result = .ok result := by
  unfold noted BirdSessionStatePort.after_tool
  rw [if_neg hask, if_neg hsubmit]
  rfl

theorem noted_error {mode : Mode} {s : SessionState} (herror : result.status = .error) :
    Closed (noted port mode call s result) := by
  have hsuccess : result.status ≠ .success := by
    rw [herror]
    exact ToolStatus.noConfusion
  by_cases hname : call.name.text = "submit_sql"
  · rw [noted_submit hname]
    unfold BirdSessionStatePort.apply_submit_state
    rw [if_pos hsuccess]
    trivial
  · rw [noted_other (fun h => hsuccess h.2) hname]
    trivial

theorem noted_ask_user {mode : Mode} {s : SessionState} (hname : call.name.text = "ask_user") (h : value.Distinct)
    (hcontent : result.content_json.text = text_of port value) (hsuccess : result.status = .success)
    {arguments : List (String × Value)}
    (harguments : BirdSessionStatePort.arguments_of port.library.toLibrary call = .obj arguments) :
    Closed (noted port mode call s result) ↔ ∃ fields, value = .obj fields := by
  unfold noted BirdSessionStatePort.after_tool
  rw [if_pos ⟨hname, hsuccess⟩, harguments, read_back_obj port]
  unfold BirdSessionStatePort.note_ask_user
  have hloads : port.library.toLibrary.loads result.content_json.text = _ := loads_result h hcontent
  rw [hloads]
  cases read_back port value with
  | obj fields => exact iff_of_true trivial ⟨fields, rfl⟩
  | null | bool | int | float | str | arr => exact iff_of_false id (by rintro ⟨_, h⟩; cases h)

theorem noted_submit_sql {mode : Mode} {s : SessionState} (hname : call.name.text = "submit_sql") (h : value.Distinct)
    (hcontent : result.content_json.text = text_of port value) (hsuccess : result.status = .success) :
    Closed (noted port mode call s result) ↔ (is_true ((read_back port value).get? "passed") = true →
      ∃ reward, port.library.float (((read_back port value).get? "reward").getD (.float 0)) = .ok reward) := by
  have hloads : port.library.toLibrary.loads result.content_json.text = _ := loads_result h hcontent
  rw [noted_submit hname]
  unfold BirdSessionStatePort.apply_submit_state
  rw [if_neg (not_not.mpr hsuccess), hloads]
  cases read_back port value with
  | null | bool | int | float | str | arr => exact iff_of_true trivial fun hpassed => by cases hpassed
  | obj fields =>
    dsimp only
    split
    case h_1 hpassed =>
      rw [hpassed]
      cases hreward : port.library.float ((Value.get? (.obj fields) "reward").getD (.float 0)) with
      | error e =>
        obtain ⟨name, rfl⟩ := port.library.float_raises _ _ hreward
        exact iff_of_false id fun h => by
          obtain ⟨_, h⟩ := h rfl
          cases h
      | ok reward => exact iff_of_true trivial fun _ => ⟨reward, rfl⟩
    case h_2 hother =>
      refine iff_of_true trivial fun hpassed => ?_
      unfold is_true at hpassed
      split at hpassed
      case h_1 hfield => exact absurd hfield hother
      case h_2 => cases hpassed

theorem session_fits_iff {mode : Mode} {s : SessionState} {payload : Value} (hpayload : port.payload call = .ok payload)
    (h : value.Distinct) (hshort : (text_of port value).length ≤ 262144) (hsuccess : result.status = .success)
    (hcontent : result.content_json.text = text_of port value) :
    Closed (next_phase port call result >>= noted port mode call s) ↔ SessionFits port call.name.text value := by
  obtain ⟨hdict, hnext⟩ | ⟨hother, hnext⟩ := next_phase_cases call h hcontent hsuccess
  case inr =>
    rw [hnext, error_bind]
    exact iff_of_false id fun hfits => hother.2 (hfits.submitted hother.1)
  rw [hnext, ok_bind]
  by_cases hask : call.name.text = "ask_user"
  · have hsubmit : call.name.text ≠ "submit_sql" := by
      rw [hask]
      decide
    obtain ⟨arguments, harguments⟩ := payload_arguments hpayload
    rw [noted_ask_user hask h hcontent hsuccess harguments]
    exact ⟨fun hobj => ⟨⟨hshort, hdict⟩, fun _ => hobj, fun hname => absurd hname hsubmit⟩, fun hfits =>
      hfits.asked hask⟩
  · by_cases hsubmit : call.name.text = "submit_sql"
    · rw [noted_submit_sql hsubmit h hcontent hsuccess]
      exact ⟨fun hreward => ⟨⟨hshort, hdict⟩, fun hname => absurd hname hask, fun _ => hreward⟩,
        fun hfits => hfits.reward hsubmit⟩
    · rw [noted_other (fun h => hask h.1) hsubmit]
      exact iff_of_true trivial
        ⟨⟨hshort, hdict⟩, fun hname => absurd hname hask, fun hname => absurd hname hsubmit⟩

end Results

/-! ## Closure -/

open HttpBirdToolPort

theorem port_closed_iff (port : HttpBirdToolPort φ) (call : ToolCall) (env : Env HttpOp HttpAns) :
    Closed ((port.execute call).play env []).1 ↔ AllAccepted port call (Fits port call.name.text) env := by
  have hclosed := execute_closed_iff port call Except.ok (Fits port call.name.text)
     (fun value h => h.short) ?_ (fun _ _ => trivial) env
  · have hsame : ((port.execute call).play env []).1 >>= Except.ok = ((port.execute call).play env []).1 := bind_pure _
    rwa [hsame] at hclosed
  · intro payload value result _ hdistinct hshort hsuccess hcontent
    obtain ⟨hdict, hnext⟩ | ⟨hother, hnext⟩ := next_phase_cases call hdistinct hcontent hsuccess
    · rw [hnext]
      exact iff_of_true trivial ⟨hshort, hdict⟩
    · rw [hnext]
      exact iff_of_false id fun h => hother.2 (h.submitted hother.1)

theorem session_closed_iff (port : HttpBirdToolPort φ) (call : ToolCall) (mode : Mode) (s : SessionState)
    (hturns : (toString s.ask_user_turns).length ≤ 4300) (env : Env HttpOp HttpAns) :
    Closed ((BirdSessionStatePort.execute port.library.toLibrary port.execute mode call s).play env []).1.1 ↔
      ((BirdSessionStatePort.gate port.library.toLibrary mode call s).1 = none →
        AllAccepted port call (SessionFits port call.name.text) env) := by
  unfold BirdSessionStatePort.execute
  cases hgate : BirdSessionStatePort.gate port.library.toLibrary mode call s with
  | mk gated s' =>
    cases gated with
    | some gated =>
      obtain ⟨result, rfl⟩ := gate_ok hturns (congrArg Prod.fst hgate)
      exact iff_of_true trivial fun h => by cases h
    | none =>
      dsimp only
      have hforward : ((BirdSessionStatePort.forward port.library.toLibrary port.execute mode call s').play env
        []).1.1 =
          ((port.execute call).play env []).1 >>= noted port mode call s' := by
        unfold BirdSessionStatePort.forward
        rw [Flow.play_bind]
        cases ((port.execute call).play env []).1 with
        | error e => rfl
        | ok result => rfl
      rw [hforward, execute_closed_iff _ _ _ (SessionFits port call.name.text) (fun value h => h.short) ?_
        (fun _ herror => noted_error herror)]
      · exact ⟨fun h _ => h, fun h => h rfl⟩
      · intro payload value result hpayload hdistinct hshort hsuccess hcontent
        exact session_fits_iff hpayload hdistinct hshort hsuccess hcontent

/-- The tool port, and the session port around it, end with a result or with an error that the graph expects exactly
when every successful reply of the endpoint has a body that fits. -/
theorem errors_closed_iff (port : HttpBirdToolPort φ) (call : ToolCall) (mode : Mode) (s : SessionState)
    (hturns : (toString s.ask_user_turns).length ≤ 4300) (env : Env HttpOp HttpAns) :
    (Closed ((port.execute call).play env []).1 ↔ AllAccepted port call (Fits port call.name.text) env) ∧
    (Closed ((BirdSessionStatePort.execute port.library.toLibrary port.execute mode call s).play env []).1.1 ↔
      ((BirdSessionStatePort.gate port.library.toLibrary mode call s).1 = none →
        AllAccepted port call (SessionFits port call.name.text) env)) :=
  ⟨port_closed_iff port call env, session_closed_iff port call mode s hturns env⟩

/-! ## A submission that is answered with a list -/

/-- A service that answers each request with `[]`. -/
def listAnswer : Env HttpOp HttpAns
  | _, .post _ _ _ => (.ok ⟨200, [], [91, 93]⟩ : HttpReply)
  | _, .sleep _ => ()

theorem replies_settled {port : HttpBirdToolPort φ} {call : ToolCall} {endpoint : BirdEndpointContract}
    {payload : Value}
    (reply : HttpReply) (hendpoint : primary call.name.text = some endpoint)
      (hpayload : port.payload call = .ok payload)
    {env : Env HttpOp HttpAns} (hreply : env [] (port.request_op endpoint payload) = reply)
    {r : Except Raised ToolResult} (hdone : ∀ again, port.after_reply call endpoint 1 (some again) reply = .done r) :
    replies port call env = [reply] := by
  have hplay : (port.request call endpoint payload).play env [] = (r, [⟨port.request_op endpoint payload, reply⟩]) := by
    change (port.after_reply call endpoint 1 (some _) (env [] (port.request_op endpoint payload))).play env
      [⟨port.request_op endpoint payload, env [] (port.request_op endpoint payload)⟩] = _
    rw [hreply, hdone]
    rfl
  unfold replies
  rw [hendpoint, hpayload]
  dsimp only
  rw [hplay]
  rfl

theorem listAnswer_replies : replies sampleHttpPort submitCall listAnswer = [.ok ⟨200, [], [91, 93]⟩] := by
  obtain ⟨hdistinct, hdecode⟩ := sampleDecode_list
  have hdecode' : sampleHttpPort.library.decode [91, 93] = .body (.arr []) hdistinct := hdecode
  refine replies_settled (.ok ⟨200, [], [91, 93]⟩) submit_endpoint submit_payload rfl
    (r := sampleHttpPort.result submitCall submitEndpoint (.arr [])) fun again => ?_
  unfold after_reply
  dsimp only
  rw [if_pos (by decide), hdecode']

theorem list_not_accepted : ¬ AllAccepted sampleHttpPort submitCall
    (Fits sampleHttpPort submitCall.name.text) listAnswer := by
  intro h
  have hreply := h submitEndpoint submit_endpoint (.ok ⟨200, [], [91, 93]⟩)
    (listAnswer_replies ▸ List.mem_singleton_self _)
  obtain ⟨hdistinct, hdecode⟩ := sampleDecode_list
  have hdecode' : sampleHttpPort.library.decode [91, 93] = .body (.arr []) hdistinct := hdecode
  unfold Accepted at hreply
  dsimp only at hreply
  rw [if_pos (by decide), hdecode'] at hreply
  obtain ⟨value, hvalue, hfits⟩ := hreply
  obtain rfl := Option.some.inj hvalue
  obtain ⟨fields, hfields⟩ := hfits.submitted rfl
  cases hfields

theorem list_escapes : ¬ Closed ((sampleHttpPort.execute submitCall).play listAnswer []).1 := by
  rw [port_closed_iff]
  exact list_not_accepted

/-! ## A submission without an answer -/

theorem no_answer_replies : replies sampleHttpPort submitCall noAnswer = [.error "ConnectError"] := by
  have hstateful : submitEndpoint.is_stateful = true := by decide
  refine replies_settled (.error "ConnectError") submit_endpoint submit_payload rfl
    (r := .error (ToolInfrastructureError "ambiguous_delivery")) fun again => ?_
  unfold after_reply unserved
  dsimp only
  rw [if_pos hstateful]

theorem no_answer_accepted (fits : JsonValue Unit → Prop) : AllAccepted sampleHttpPort submitCall fits noAnswer := by
  intro endpoint _ reply hreply
  rw [no_answer_replies] at hreply
  obtain rfl := List.mem_singleton.mp hreply
  exact True.intro

theorem no_answer_closed : Closed ((BirdSessionStatePort.execute sampleHttpPort.library.toLibrary
    sampleHttpPort.execute Mode.a submitCall sampleState).play noAnswer []).1.1 := by
  have hturns : (toString sampleState.ask_user_turns).length ≤ 4300 := by decide
  rw [(errors_closed_iff sampleHttpPort submitCall .a sampleState hturns noAnswer).2]
  exact fun _ => no_answer_accepted _

end CommerceAgent.Orchestration
