import CommerceAgent.Context.Contracts
import CommerceAgent.Lib.Dict

/-!
# Private turns

`PrivateProviderTurn` and the in-memory store. A turn is kept as it was handed in: `valid` is what its contract
checks, since the store renews a turn without checking it again.
-/

open CommerceAgent.Lib
open CommerceAgent.Operations (UUID HexDigest Datetime second)
open CommerceAgent.Context (Python ProviderTurnRef or_null)

namespace CommerceAgent.TurnStore

variable {φ : Type}

/-! ## Turns -/

def IDLE_TTL : ℕ := 24 * 3600 * second
def ABSOLUTE_TTL : ℕ := 7 * 24 * 3600 * second

structure AttemptRef where
  scope_digest : HexDigest
  attempt_id : UUID

structure PrivateProviderTurn where
  scope_digest : HexDigest
  attempt_id : UUID
  sequence : ℕ
  model : String
  content : Option String
  reasoning_content : Option String
  tool_calls_json : String
  payload_sha256 : HexDigest
  expected_tool_call_ids : List String
  token_weight : ℕ
  created_at : Datetime
  last_used_at : Datetime
  absolute_expires_at : Datetime

/-- `call["id"]`, of a dict that has a string there. -/
def call_id : JsonValue φ → Option String
  | .obj kvs =>
    match kvs.lookup "id" with
    | some (.str id) => some id
    | _ => none
  | _ => none

namespace PrivateProviderTurn

variable (python : Python φ) (turn : PrivateProviderTurn)

/-- `json.loads(turn.tool_calls_json)`, of a list. -/
def tool_calls : Option (List (JsonValue φ)) :=
  match JsonValue.loads python.floats turn.tool_calls_json.toList with
  | some (.arr calls) => some calls
  | _ => none

/-- What `PrivateProviderTurn` checks. -/
def valid : Bool :=
  (1 ≤ turn.model.length && turn.model.length ≤ 256) && turn.content.all (fun text => text.length ≤ 262144) &&
    turn.reasoning_content.all (fun text => text.length ≤ 1048576) && turn.tool_calls_json.length ≤ 262144 &&
    turn.expected_tool_call_ids.length ≤ 8 && decide turn.expected_tool_call_ids.Nodup &&
    (turn.created_at.instant ≤ turn.last_used_at.instant &&
      turn.absolute_expires_at.instant = turn.created_at.instant + ABSOLUTE_TTL) &&
    match turn.tool_calls python with
    | some calls =>
      turn.tool_calls_json = python.canonical_json (.arr calls) && calls.mapM call_id = some turn.expected_tool_call_ids
    | none => false

/-- The payload of a turn whose tool calls are parsed. -/
def payload : JsonValue φ :=
  .obj [("content", or_null .str turn.content), ("reasoning_content", or_null .str turn.reasoning_content),
    ("tool_calls", .arr ((turn.tool_calls python).getD []))]

/-- `_payload_sha256(turn)`. -/
def compute_sha256 : HexDigest := python.sha256_canonical (turn.payload python)

/-- The reference that a store returns for a turn. -/
def ref (turn_id : UUID) : ProviderTurnRef where
  turn_id := turn_id
  scope_digest := turn.scope_digest
  attempt_id := turn.attempt_id
  sequence := turn.sequence
  payload_sha256 := turn.payload_sha256
  expected_tool_call_ids := turn.expected_tool_call_ids
  token_weight := turn.token_weight
  expires_at := turn.absolute_expires_at

/-- `state_sequence_duplicate` tells apart turns by these fields. -/
def key : HexDigest × UUID × ℕ := (turn.scope_digest, turn.attempt_id, turn.sequence)

/-- The turn is one of the attempt. -/
def Of (attempt : AttemptRef) : Prop :=
  turn.scope_digest = attempt.scope_digest ∧ turn.attempt_id = attempt.attempt_id

instance (attempt : AttemptRef) : Decidable (turn.Of attempt) := inferInstanceAs (Decidable (_ ∧ _))

/-- No field of a reference differs from the one that is bound to the turn. -/
structure Bound (ref : ProviderTurnRef) : Prop where
  scope : ref.scope_digest = turn.scope_digest
  attempt : ref.attempt_id = turn.attempt_id
  sequence : ref.sequence = turn.sequence
  payload_digest : ref.payload_sha256 = turn.payload_sha256
  expected_tool_calls : ref.expected_tool_call_ids = turn.expected_tool_call_ids
  token_weight : ref.token_weight = turn.token_weight
  expiry : ref.expires_at.instant = turn.absolute_expires_at.instant

instance (ref : ProviderTurnRef) : Decidable (turn.Bound ref) :=
  decidable_of_iff (_ ∧ _ ∧ _ ∧ _ ∧ _ ∧ _ ∧ _)
    ⟨fun h => ⟨h.1, h.2.1, h.2.2.1, h.2.2.2.1, h.2.2.2.2.1, h.2.2.2.2.2.1, h.2.2.2.2.2.2⟩,
      fun h => ⟨h.scope, h.attempt, h.sequence, h.payload_digest, h.expected_tool_calls, h.token_weight, h.expiry⟩⟩

/-- `now >= turn.absolute_expires_at or now - turn.last_used_at > _IDLE_TTL`. -/
def Expired (now : Datetime) : Prop :=
  turn.absolute_expires_at.instant ≤ now.instant ∨ turn.last_used_at.instant + IDLE_TTL < now.instant

instance (now : Datetime) : Decidable (turn.Expired now) := inferInstanceAs (Decidable (_ ∨ _))

/-- `turn.model_copy(update={"last_used_at": now})`. -/
def renew (now : Datetime) : PrivateProviderTurn := { turn with last_used_at := now }

end PrivateProviderTurn

/-! ## Calls -/

/-- A `ModelStateError` or a `ModelTransportError`. -/
inductive ModelError where
  | state (reason_code : String)
  | transport (reason_code : String)
  deriving DecidableEq

def ModelError.reason_code : ModelError → String
  | .state reason_code => reason_code
  | .transport reason_code => reason_code

/-- A call of a store. A save draws its `uuid4`, and the clock stands at `now`. -/
inductive Call (φ : Type) (python : Python φ) where
  | save (turn : {turn : PrivateProviderTurn // turn.valid python = true}) (turn_id : UUID)
  | resolve (ref : ProviderTurnRef) (now : Datetime)
  | delete_attempt (attempt : AttemptRef) (now : Datetime)

/-- The name that a save draws. -/
def Call.drawn {python : Python φ} : Call φ python → Option UUID
  | .save _ turn_id => some turn_id
  | _ => none

inductive Answer where
  | saved (ref : ProviderTurnRef)
  | resolved (turn : PrivateProviderTurn)
  | deleted

/-! ## The in-memory store -/

structure InMemoryProviderTurnStore where
  turns : Dict UUID PrivateProviderTurn

namespace InMemoryProviderTurnStore

def empty : InMemoryProviderTurnStore := ⟨Dict.empty⟩

variable (python : Python φ) (store : InMemoryProviderTurnStore)

def save (turn : PrivateProviderTurn) (turn_id : UUID) : Except ModelError Answer × InMemoryProviderTurnStore :=
  if turn.compute_sha256 python ≠ turn.payload_sha256 then (.error (.state "state_digest_mismatch"), store)
  else if ∃ stored ∈ store.turns.values, stored.key = turn.key then
    (.error (.state "state_sequence_duplicate"), store)
  else (.ok (.saved (turn.ref turn_id)), ⟨store.turns.set turn_id turn⟩)

def resolve (ref : ProviderTurnRef) (now : Datetime) : Except ModelError Answer × InMemoryProviderTurnStore :=
  match store.turns.get? ref.turn_id with
  | none => (.error (.state "state_not_found"), store)
  | some turn =>
    if ¬ turn.Bound ref then (.error (.state "state_binding_mismatch"), store)
    else if turn.Expired now then (.error (.state "state_expired"), store)
    else (.ok (.resolved (turn.renew now)), ⟨store.turns.set ref.turn_id (turn.renew now)⟩)

def delete_attempt (attempt : AttemptRef) : Except ModelError Answer × InMemoryProviderTurnStore :=
  (.ok .deleted, ⟨store.turns.filter fun item => ¬ item.2.Of attempt⟩)

def step : Call φ python → Except ModelError Answer × InMemoryProviderTurnStore
  | .save turn turn_id => store.save python turn turn_id
  | .resolve ref now => store.resolve ref now
  | .delete_attempt attempt _ => store.delete_attempt attempt

end InMemoryProviderTurnStore

end CommerceAgent.TurnStore
