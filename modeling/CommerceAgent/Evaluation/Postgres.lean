import CommerceAgent.Evaluation.Contracts
import Mathlib.Data.Nat.Log
import Mathlib.Tactic.Tauto

/-!
# The PostgreSQL evaluation store

The table `eval.task_attempt`, with the telemetry of an attempt in a JSONB column that only reading validates.
-/

open CommerceAgent.Lib
open CommerceAgent.Operations (UUID)
open CommerceAgent.Orchestration (Value)

namespace CommerceAgent.Evaluation

/-! ## JSONB -/

/-- An integer that Python writes and reads: it has 4300 digits at most. -/
def writable (n : ℤ) : Bool := Nat.log 10 n.natAbs < 4300

/-- A text that PostgreSQL can hold. -/
def storable_text (text : String) : Bool := !text.toList.contains (Char.ofNat 0)

mutual

/-- A value that psycopg sends and a JSONB column takes. -/
def storable : Value → Bool
  | .null => true
  | .bool _ => true
  | .int n => writable n
  | .float _ => true
  | .str s => storable_text s
  | .arr items => storable_items items
  | .obj fields => storable_fields fields

def storable_items : List Value → Bool
  | [] => true
  | item :: items => storable item && storable_items items

def storable_fields : List (String × Value) → Bool
  | [] => true
  | (key, value) :: fields => storable_text key && storable value && storable_fields fields

end

theorem storable_fields_iff {fields : List (String × Value)} : storable_fields fields = true ↔
    (fields.map Prod.fst).all storable_text = true ∧ ∀ value ∈ fields.map Prod.snd, storable value = true := by
  induction fields with
  | nil => exact ⟨fun _ => ⟨rfl, fun _ h => absurd h List.not_mem_nil⟩, fun _ => rfl⟩
  | cons field fields ih =>
    rw [storable_fields, Bool.and_eq_true, Bool.and_eq_true, ih, List.map_cons, List.map_cons, List.all_cons,
      Bool.and_eq_true, List.forall_mem_cons]
    tauto

/-! ## The store -/

inductive PostgresError where
  /-- `EvalStateConflict(reason_code)`. -/
  | conflict (reason_code : String)
  /-- What psycopg or the database raises. -/
  | raised
  deriving DecidableEq

structure PostgresEvaluationStore where
  task_attempt : Dict UUID (AttemptRecord (Dict String Value))

def AttemptRecord.with_telemetry {σ τ : Type} (record : AttemptRecord σ) (telemetry : τ) : AttemptRecord τ :=
  ⟨record.attempt_id, record.run_id, record.experiment_id, record.task_id, record.mode, record.attempt_seq,
    record.status, record.error_class, record.started_at, record.finished_at, telemetry⟩

/-- `_record_from_row(row)`, or nothing where the telemetry is not valid. -/
def record_from_row {τ : Type} (contract : TelemetryContract τ) (row : AttemptRecord (Dict String Value)) :
    Option (AttemptRecord τ) := (contract.model_validate row.telemetry).map row.with_telemetry

namespace PostgresEvaluationStore

/-- What is read of an attempt, if anything can be. -/
def read {τ : Type} (contract : TelemetryContract τ) (store : PostgresEvaluationStore) (attempt_id : UUID) :
    Option (AttemptRecord τ) := (store.task_attempt.get? attempt_id).bind (record_from_row contract)

/-- `UPDATE eval.task_attempt SET telemetry = telemetry || patch WHERE attempt_id = ...`. -/
def merge_telemetry (attempt_id : UUID) (patch : Dict String Value) (store : PostgresEvaluationStore) :
    Except PostgresError PostgresEvaluationStore :=
  if ¬ storable_fields patch.items then .error .raised
  else
    match store.task_attempt.get? attempt_id with
    | none => .error (.conflict "attempt_not_found")
    | some row => .ok { store with
        task_attempt := store.task_attempt.set attempt_id (row.with_telemetry (row.telemetry.union patch)) }

end PostgresEvaluationStore

end CommerceAgent.Evaluation
