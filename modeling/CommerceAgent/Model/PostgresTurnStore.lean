import CommerceAgent.Lib.Table
import CommerceAgent.Model.TurnStore

/-!
# Private turns in PostgreSQL

The table `model_state.provider_turn` with its constraints, and the store on it. A deleted turn stays as a row
without its payload. The session's time zone is UTC.
-/

open CommerceAgent.Lib
open CommerceAgent.Operations (UUID HexDigest Datetime)
open CommerceAgent.Context (Python ProviderTurnRef)

namespace CommerceAgent.TurnStore

variable {φ : Type}

/-! ## JSONB -/

/-- What JSONB keeps of a float: a numeric, which `json.loads` reads again. -/
structure Database (φ : Type) where
  numeric : φ → JsonValue φ

namespace Database

variable (database : Database φ)

mutual

/-- What a JSONB column gives back for a value. -/
def jsonb : JsonValue φ → JsonValue φ
  | .float x => database.numeric x
  | .arr xs => .arr (jsonbItems xs)
  | .obj kvs => .obj (jsonbFields kvs)
  | .null => .null
  | .bool b => .bool b
  | .int n => .int n
  | .str s => .str s

def jsonbItems : List (JsonValue φ) → List (JsonValue φ)
  | [] => []
  | x :: xs => jsonb x :: jsonbItems xs

def jsonbFields : List (String × JsonValue φ) → List (String × JsonValue φ)
  | [] => []
  | (k, v) :: kvs => (k, jsonb v) :: jsonbFields kvs

end

end Database

/-- A text that PostgreSQL can hold. -/
def holds (text : String) : Bool := !text.toList.contains (Char.ofNat 0)

/-! ## The table -/

structure TurnRow (φ : Type) where
  turn_id : UUID
  scope_digest : HexDigest
  attempt_id : UUID
  sequence : ℕ
  model : String
  payload : Option (JsonValue φ)
  payload_sha256 : HexDigest
  expected_tool_call_ids : List String
  token_weight : ℕ
  created_at : Datetime
  last_used_at : Datetime
  absolute_expires_at : Datetime
  terminal_at : Option Datetime

def timestamptz (value : Datetime) : Datetime := .utc value.instant value.inRange

namespace TurnRow

def key (row : TurnRow φ) : HexDigest × UUID × ℕ := (row.scope_digest, row.attempt_id, row.sequence)

def live (row : TurnRow φ) : Bool := row.terminal_at.isNone

def checks (row : TurnRow φ) : Bool :=
  0 < row.model.length && row.created_at.instant ≤ row.last_used_at.instant &&
    row.absolute_expires_at.instant = row.created_at.instant + ABSOLUTE_TTL &&
    match row.terminal_at, row.payload with
    | none, some _ => true
    | some terminal_at, none => row.created_at.instant ≤ terminal_at.instant
    | _, _ => false

end TurnRow

/-- The two columns of type `integer`, the texts, and the JSON can be held. -/
def storable (python : Python φ) (turn : PrivateProviderTurn) : Bool :=
  turn.sequence ≤ 2147483647 && turn.token_weight ≤ 2147483647 && holds turn.model &&
    turn.expected_tool_call_ids.all holds && (turn.payload python).strings.all fun text => holds text.2

/-- What a statement raises: a violated unique constraint (`23505`), or another error. -/
inductive SqlError where
  | unique_violation
  | other

def TurnRow.new (python : Python φ) (database : Database φ) (turn : PrivateProviderTurn) (turn_id : UUID) :
    TurnRow φ where
  turn_id := turn_id
  scope_digest := turn.scope_digest
  attempt_id := turn.attempt_id
  sequence := turn.sequence
  model := turn.model
  payload := some (database.jsonb (turn.payload python))
  payload_sha256 := turn.payload_sha256
  expected_tool_call_ids := turn.expected_tool_call_ids
  token_weight := turn.token_weight
  created_at := timestamptz turn.created_at
  last_used_at := timestamptz turn.last_used_at
  absolute_expires_at := timestamptz turn.absolute_expires_at
  terminal_at := none

def insert_turn (python : Python φ) (database : Database φ) (turn : PrivateProviderTurn) (turn_id : UUID)
    (rows : List (TurnRow φ)) : Except SqlError (List (TurnRow φ)) :=
  let row := TurnRow.new python database turn turn_id
  if ¬ storable python turn ∨ ¬ row.checks then .error .other
  else if ∃ other ∈ rows, other.turn_id = turn_id ∨ other.key = row.key then .error .unique_violation
  else .ok (Table.insert row rows)

/-- `UPDATE … WHERE`: it fails as a whole when a row breaks a check. -/
def update_turns (p : TurnRow φ → Bool) (f : TurnRow φ → TurnRow φ) (rows : List (TurnRow φ)) :
    Except SqlError (List (TurnRow φ)) :=
  if ∃ row ∈ rows, p row ∧ ¬ (f row).checks then .error .other else .ok (Table.update p f rows)

/-- Where `_RENEW_TURN` renews. -/
def TurnRow.renews (ref : ProviderTurnRef) (row : TurnRow φ) : Bool :=
  row.turn_id = ref.turn_id && row.scope_digest = ref.scope_digest && row.attempt_id = ref.attempt_id && row.live &&
    row.payload.isSome

def TurnRow.renew (now : Datetime) (row : TurnRow φ) : TurnRow φ := { row with last_used_at := timestamptz now }

@[simp] theorem TurnRow.renew_turn_id (now : Datetime) (row : TurnRow φ) : (row.renew now).turn_id = row.turn_id := rfl
@[simp] theorem TurnRow.renew_live (now : Datetime) (row : TurnRow φ) : (row.renew now).live = row.live := rfl

def renew_turn (ref : ProviderTurnRef) (now : Datetime) : List (TurnRow φ) → Except SqlError (List (TurnRow φ)) :=
  update_turns (TurnRow.renews ref) (TurnRow.renew now)

/-- Where `_DELETE_ATTEMPT` deletes. -/
def TurnRow.deletes (attempt : AttemptRef) (row : TurnRow φ) : Bool :=
  row.scope_digest = attempt.scope_digest && row.attempt_id = attempt.attempt_id && row.live

def TurnRow.delete (now : Datetime) (row : TurnRow φ) : TurnRow φ :=
  { row with terminal_at := some (timestamptz now), payload := none }

@[simp] theorem TurnRow.delete_turn_id (now : Datetime) (row : TurnRow φ) :
  (row.delete now).turn_id = row.turn_id := rfl
@[simp] theorem TurnRow.delete_live (now : Datetime) (row : TurnRow φ) : (row.delete now).live = false := rfl

/-- `_DELETE_ATTEMPT`. -/
def delete_turns (attempt : AttemptRef) (now : Datetime) : List (TurnRow φ) → Except SqlError (List (TurnRow φ)) :=
  update_turns (TurnRow.deletes attempt) (TurnRow.delete now)

/-! ## The store -/

structure PostgresProviderTurnStore (φ : Type) where
  provider_turn : List (TurnRow φ)

def text_or_null : JsonValue φ → Option (Option String)
  | .str text => some (some text)
  | .null => some none
  | _ => none

/-- The turn that a payload and the other columns of a row make. -/
def TurnRow.turn (python : Python φ) (row : TurnRow φ) (payload : JsonValue φ) : Option PrivateProviderTurn :=
  match payload with
  | .obj fields => do
    let content ← fields.lookup "content"
    let reasoning_content ← fields.lookup "reasoning_content"
    let tool_calls ← fields.lookup "tool_calls"
    let turn : PrivateProviderTurn := {
      scope_digest := row.scope_digest
      attempt_id := row.attempt_id
      sequence := row.sequence
      model := row.model
      content := ← text_or_null content
      reasoning_content := ← text_or_null reasoning_content
      tool_calls_json := python.canonical_json tool_calls
      payload_sha256 := row.payload_sha256
      expected_tool_call_ids := row.expected_tool_call_ids
      token_weight := row.token_weight
      created_at := row.created_at
      last_used_at := row.last_used_at
      absolute_expires_at := row.absolute_expires_at }
    if fields.length = 3 ∧ turn.valid python then some turn else none
  | _ => none

namespace PostgresProviderTurnStore

variable (python : Python φ) (database : Database φ) (store : PostgresProviderTurnStore φ)

def empty : PostgresProviderTurnStore φ := ⟨[]⟩

def save (turn : PrivateProviderTurn) (turn_id : UUID) : Except ModelError Answer × PostgresProviderTurnStore φ :=
  if turn.compute_sha256 python ≠ turn.payload_sha256 then (.error (.state "state_digest_mismatch"), store)
  else match insert_turn python database turn turn_id store.provider_turn with
    | .error .unique_violation => (.error (.state "state_sequence_duplicate"), store)
    | .error .other => (.error (.transport "state_write_failed"), store)
    | .ok rows => (.ok (.saved (turn.ref turn_id)), ⟨rows⟩)

def resolve (ref : ProviderTurnRef) (now : Datetime) : Except ModelError Answer × PostgresProviderTurnStore φ :=
  match Table.select TurnRow.turn_id ref.turn_id store.provider_turn with
  | none => (.error (.state "state_not_found"), store)
  | some row =>
    match row.terminal_at, row.payload with
    | none, some payload =>
      match row.turn python payload with
      | none => (.error (.state "state_corrupt"), store)
      | some turn =>
        if turn.compute_sha256 python ≠ turn.payload_sha256 then (.error (.state "state_digest_mismatch"), store)
        else if ¬ turn.Bound ref then (.error (.state "state_binding_mismatch"), store)
        else if turn.Expired now then (.error (.state "state_expired"), store)
        else match renew_turn ref now store.provider_turn with
          | .error _ => (.error (.transport "state_read_failed"), store)
          | .ok rows => (.ok (.resolved (turn.renew now)), ⟨rows⟩)
    | _, _ => (.error (.state "state_not_found"), store)

def delete_attempt (attempt : AttemptRef) (now : Datetime) :
    Except ModelError Answer × PostgresProviderTurnStore φ :=
  match delete_turns attempt now store.provider_turn with
  | .error _ => (.error (.transport "state_delete_failed"), store)
  | .ok rows => (.ok .deleted, ⟨rows⟩)

def step : Call φ python → Except ModelError Answer × PostgresProviderTurnStore φ
  | .save turn turn_id => store.save python database turn turn_id
  | .resolve ref now => store.resolve python ref now
  | .delete_attempt attempt now => store.delete_attempt attempt now

end PostgresProviderTurnStore

end CommerceAgent.TurnStore
