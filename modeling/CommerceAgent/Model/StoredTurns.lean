import CommerceAgent.Model.History
import CommerceAgent.Model.TurnLifeCycle

/-!
# The gateway's turns in the store

The gateway and the store have a record of a private turn each. What the in-memory store resolves is what the gateway
relies on, and says what the provider said.
-/

open CommerceAgent.Lib
open CommerceAgent.Operations (UUID HexDigest Checked Datetime)
open CommerceAgent.Orchestration
open CommerceAgent.TurnStore (InMemoryProviderTurnStore)
open CommerceAgent.TurnStore.InMemoryProviderTurnStore (run)

namespace CommerceAgent.Model

/-- The record that the store has of a turn of the gateway; only its times are the store's own. -/
structure Records (turn : PrivateProviderTurn) (stored : TurnStore.PrivateProviderTurn) : Prop where
  scope_digest : stored.scope_digest = turn.scope_digest
  attempt_id : stored.attempt_id = turn.attempt_id
  sequence : stored.sequence = turn.sequence
  model : stored.model = turn.model.text
  content : stored.content = turn.content.map Checked.text
  reasoning_content : stored.reasoning_content = turn.reasoning_content.map Checked.text
  tool_calls_json : stored.tool_calls_json = turn.tool_calls_json.text
  payload_sha256 : stored.payload_sha256 = turn.payload_sha256
  expected_tool_call_ids : stored.expected_tool_call_ids = turn.expected_tool_call_ids.map Checked.text
  token_weight : stored.token_weight = turn.token_weight

/-- The part of a reference that the gateway compares. -/
structure Names (ref : ProviderTurnRef) (full : Context.ProviderTurnRef) : Prop where
  turn_id : full.turn_id = ref.turn_id
  scope_digest : full.scope_digest = ref.scope_digest
  attempt_id : full.attempt_id = ref.attempt_id
  sequence : full.sequence = ref.sequence
  expected_tool_call_ids : full.expected_tool_call_ids = ref.expected_tool_call_ids.map Checked.text

/-! ## Tool calls in both readings of JSON -/

theorem ofItems_eq (calls : List (JsonValue ℚ)) : Value.ofItems calls = calls.map Value.ofJson := by
  induction calls with
  | nil => rfl
  | cons call calls ih => rw [Value.ofItems, ih, List.map_cons]

theorem lookup_ofFields (kvs : List (String × JsonValue ℚ)) (key : String) :
    (Value.ofFields kvs).lookup key = (kvs.lookup key).map Value.ofJson := by
  induction kvs with
  | nil => rfl
  | cons kv kvs ih =>
    obtain ⟨k, v⟩ := kv
    rw [Value.ofFields, List.lookup_cons, List.lookup_cons, ih]
    split <;> rfl

theorem raw_id_ofJson {call : JsonValue ℚ} {id : String} (h : TurnStore.call_id call = some id) :
    Gateway.raw_id (Value.ofJson call) = some id := by
  unfold TurnStore.call_id at h
  split at h
  case h_2 => cases h
  case h_1 kvs =>
    split at h
    case h_2 => cases h
    case h_1 text hlookup =>
      have hget : (Value.ofJson (.obj kvs)).get? "id" = some (.str text) := by
        rw [Value.ofJson]
        refine (lookup_ofFields kvs "id").trans ?_
        rw [hlookup]
        rfl
      unfold Gateway.raw_id
      rw [hget]
      exact h

variable {gateway : Gateway} {floats : FloatText ℚ} {python : Context.Python ℚ} {turn kept : PrivateProviderTurn}
  {stored : TurnStore.PrivateProviderTurn}

theorem calls_of_valid (h : stored.valid python = true) : ∃ calls,
    JsonValue.loads python.floats stored.tool_calls_json.toList = some (.arr calls) ∧
      stored.tool_calls_json = python.canonical_json (.arr calls) ∧
      calls.mapM TurnStore.call_id = some stored.expected_tool_call_ids := by
  unfold TurnStore.PrivateProviderTurn.valid TurnStore.PrivateProviderTurn.tool_calls at h
  rw [Bool.and_eq_true] at h
  obtain ⟨-, h⟩ := h
  split at h
  case h_2 => cases h
  case h_1 calls htool_calls =>
    rw [Bool.and_eq_true, decide_eq_true_eq, decide_eq_true_eq] at h
    split at htool_calls
    case h_2 => cases htool_calls
    case h_1 parsed hloads =>
      obtain rfl := Option.some.inj htool_calls
      exact ⟨parsed, hloads, h⟩

/-- What the store's contract accepts has the calls that the gateway's asks for. -/
theorem Records.valid (hjson : ReadsJson gateway.library floats) (hfloats : python.floats = floats)
    (h : Records turn stored) (hvalid : stored.valid python = true) : turn.Valid gateway := by
  obtain ⟨calls, hloads, hcanonical, hids⟩ := calls_of_valid hvalid
  rw [h.tool_calls_json, hfloats] at hloads
  have hread : gateway.library.loads turn.tool_calls_json.text = some (.arr (Value.ofItems calls)) := by
    rw [hjson.loads, hloads]
    rfl
  have hwritten : turn.tool_calls_json.text = gateway.library.canonical_json (.arr (Value.ofItems calls)) := by
    have hback : (Value.arr (Value.ofItems calls)).toJson = .arr calls := Value.toJson_ofJson (.arr calls)
    rw [hjson.canonical_json, hback, ← h.tool_calls_json, hcanonical]
    unfold Context.Python.canonical_json
    rw [hfloats]
  have hnames : (Value.ofItems calls).mapM Gateway.raw_id = some (turn.expected_tool_call_ids.map Checked.text) := by
    rw [← h.expected_tool_call_ids, mapM_eq_some, ofItems_eq, List.forall₂_map_left_iff]
    exact (mapM_eq_some.mp hids).imp fun _ _ hid => raw_id_ofJson hid
  unfold PrivateProviderTurn.Valid Gateway.canonical_calls
  rw [hread]
  dsimp only
  rw [Bool.and_eq_true, decide_eq_true_eq, decide_eq_true_eq]
  exact ⟨hwritten, hnames⟩

theorem Records.bound {ref : ProviderTurnRef} {full : Context.ProviderTurnRef} (h : Records turn stored)
    (hnames : Names ref full) (hbound : stored.Bound full) : turn.Bound ref where
  scope := hnames.scope_digest.symm.trans (hbound.scope.trans h.scope_digest)
  attempt := hnames.attempt_id.symm.trans (hbound.attempt.trans h.attempt_id)
  sequence := hnames.sequence.symm.trans (hbound.sequence.trans h.sequence)
  expected_tool_calls := by
    have hids := hnames.expected_tool_call_ids.symm.trans (hbound.expected_tool_calls.trans h.expected_tool_call_ids)
    exact (List.map_injective_iff.mpr fun _ _ => Checked.ext) hids

/-! ## What the store resolves -/

theorem saved_valid {event : TurnStore.Event ℚ python} {turn_id : UUID}
    (h : event.saved = some (turn_id, stored)) : stored.valid python = true := by
  unfold TurnStore.Event.saved at h
  split at h
  case h_1 saved id _ _ _ =>
    cases h
    exact saved.2
  case h_2 => cases h

/-- A turn that is resolved was saved, and is bound to the reference. -/
theorem resolved_saved (calls : List (TurnStore.Call ℚ python)) {full : Context.ProviderTurnRef} {now : Datetime}
    (h : ((run calls).1.resolve full now).1 = .ok (.resolved stored)) :
    ∃ saved : TurnStore.PrivateProviderTurn, saved.valid python = true ∧ saved.Bound full ∧ stored = saved.renew now := by
  by_cases husable : ∃ saved, TurnStore.Usable (run calls).2 full now saved
  case neg =>
    obtain ⟨error, herror⟩ := InMemoryProviderTurnStore.refused calls husable
    rw [herror] at h
    cases h
  case pos =>
    obtain ⟨saved, hsaved⟩ := husable
    rw [InMemoryProviderTurnStore.resolved calls hsaved] at h
    obtain ⟨since, ⟨⟨before, event, -, hevent, -⟩, -⟩, hbound, -⟩ := hsaved
    cases h
    exact ⟨saved, saved_valid hevent, hbound, rfl⟩

theorem Records.renew (h : Records turn stored) (now : Datetime) : Records turn (stored.renew now) :=
  ⟨h.scope_digest, h.attempt_id, h.sequence, h.model, h.content, h.reasoning_content, h.tool_calls_json,
    h.payload_sha256, h.expected_tool_call_ids, h.token_weight⟩

/-- **The gateway may rely on the store**: after any calls, what a reference is resolved to is valid and bound. -/
theorem resolved_answers (hjson : ReadsJson gateway.library floats) (hfloats : python.floats = floats)
    (calls : List (TurnStore.Call ℚ python)) {ref : ProviderTurnRef} {full : Context.ProviderTurnRef}
    (hnames : Names ref full) {now : Datetime}
    (hresolve : ((run calls).1.resolve full now).1 = .ok (.resolved stored)) (hrecords : Records turn stored) :
    Answers gateway ⟨.resolve ref, .ok turn⟩ := by
  obtain ⟨saved, hvalid, hbound, rfl⟩ := resolved_saved calls hresolve
  have hsaved : Records turn saved := hrecords.renew saved.last_used_at
  exact ⟨hsaved.valid hjson hfloats hvalid, hsaved.bound hnames hbound⟩

theorem Records.same_payload (h : Records turn stored) (hkept : Records kept stored) : turn.SamePayload kept := by
  have hinjective {ok : String → Bool} : Function.Injective (Option.map (@Checked.text ok)) :=
    Option.map_injective fun _ _ => Checked.ext
  exact ⟨hinjective (hkept.content.symm.trans h.content),
    hinjective (hkept.reasoning_content.symm.trans h.reasoning_content),
    Checked.ext (hkept.tool_calls_json.symm.trans h.tool_calls_json)⟩

/-- **What was answered is said again**: where the saved turn of an accepted answer is usable, the store resolves it to
a turn that reproduces the provider's message. -/
theorem resolved_reproduces {request : CompletionRequest} {response : Completion} {log : Log Op Ans}
    (h : EncodesHistory gateway request (.ok response) log) : ∃ status retry_after payload message turn turn_id,
      (answers log).getLast? = some (.response status retry_after (.json payload)) ∧
      message_of payload = some message ∧ ⟨.save turn, .ok turn_id⟩ ∈ log ∧
      ∀ (calls : List (TurnStore.Call ℚ python)) (saved : TurnStore.PrivateProviderTurn) full now,
        Records turn saved → TurnStore.Usable (run calls).2 full now saved → ∃ stored,
          ((run calls).1.resolve full now).1 = .ok (.resolved stored) ∧
          ∀ kept, Records kept stored → Reproduces message (gateway.assistant_json kept) := by
  obtain ⟨status, retry_after, payload, message, turn, turn_id, hlast, hmessage, hsaved, -, hreproduces⟩ :=
    h.reproduces response rfl
  refine ⟨status, retry_after, payload, message, turn, turn_id, hlast, hmessage, hsaved, ?_⟩
  intro calls saved full now hrecords husable
  exact ⟨_, InMemoryProviderTurnStore.resolved calls husable, fun kept hkept =>
    hreproduces kept ((hrecords.renew now).same_payload hkept)⟩

end CommerceAgent.Model
