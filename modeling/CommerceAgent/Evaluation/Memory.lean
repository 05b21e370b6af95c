import CommerceAgent.Evaluation.Contracts
import Mathlib.Data.Finset.Dedup
import Mathlib.Data.List.Sort

/-!
# The in-memory evaluation store

Every operation returns its answer and the store that it leaves behind.
-/

open CommerceAgent.Lib
open CommerceAgent.Operations (UUID Text)
open CommerceAgent.Orchestration (Value)

namespace CommerceAgent.Evaluation

/-- `a <= b`, for tuples of a task and a mode. -/
def key_le (a b : TaskKey) : Prop :=
  a.1.text < b.1.text ∨ (a.1.text = b.1.text ∧ a.2.value ≤ b.2.value)

instance : DecidableRel key_le := fun _ _ => inferInstanceAs (Decidable (_ ∨ _))

structure InMemoryEvaluationStore (τ : Type) where
  experiments : Dict String (String × String)
  attempts : Dict UUID (AttemptRecord τ)
  results : Dict UUID EpisodeResult

namespace InMemoryEvaluationStore

variable {τ : Type}

def empty : InMemoryEvaluationStore τ := ⟨Dict.empty, Dict.empty, Dict.empty⟩

def conflict (store : InMemoryEvaluationStore τ) (reason_code : String) :
    Except EvalError Unit × InMemoryEvaluationStore τ := (.error (.conflict reason_code), store)

def put_attempt (store : InMemoryEvaluationStore τ) (attempt_id : UUID) (record : AttemptRecord τ) :
    InMemoryEvaluationStore τ := { store with attempts := store.attempts.set attempt_id record }

def put_result (store : InMemoryEvaluationStore τ) (attempt_id : UUID) (result : EpisodeResult) :
    InMemoryEvaluationStore τ := { store with results := store.results.set attempt_id result }

def register_experiment (experiment_id purpose config_hash : String) (store : InMemoryEvaluationStore τ) :
    Except EvalError Unit × InMemoryEvaluationStore τ :=
  match store.experiments.get? experiment_id with
  | some existing =>
    if existing ≠ (purpose, config_hash) then store.conflict "experiment_identity_conflict" else (.ok (), store)
  | none => (.ok (), { store with experiments := store.experiments.set experiment_id (purpose, config_hash) })

/-- Two attempts of one run take the same place in the sequence of a task. -/
def SameSequence (existing record : AttemptRecord τ) : Prop :=
  existing.run_id = record.run_id ∧ existing.task_id = record.task_id ∧ existing.mode = record.mode ∧
    existing.attempt_seq = record.attempt_seq

instance (existing record : AttemptRecord τ) : Decidable (SameSequence existing record) :=
  inferInstanceAs (Decidable (_ ∧ _ ∧ _ ∧ _))

def register_attempt (record : AttemptRecord τ) (store : InMemoryEvaluationStore τ) :
    Except EvalError Unit × InMemoryEvaluationStore τ :=
  if record.attempt_id ∈ store.attempts.keys then store.conflict "attempt_identity_conflict"
  else if ∃ existing ∈ store.attempts.values, SameSequence existing record then
    store.conflict "attempt_sequence_conflict"
  else (.ok (), store.put_attempt record.attempt_id record)

def mark_running (attempt_id : UUID) (expected_status : EvalTaskStatus) (store : InMemoryEvaluationStore τ) :
    Except EvalError Unit × InMemoryEvaluationStore τ :=
  match store.attempts.get? attempt_id with
  | none => store.conflict "status_transition_conflict"
  | some record =>
    if record.status ≠ .pending ∨ expected_status ≠ .pending then store.conflict "status_transition_conflict"
    else (.ok (), store.put_attempt record.attempt_id { record with status := .running })

/-- `finish_attempt`, at the time `now` of the store's clock. -/
def finish_attempt (attempt_id : UUID) (status : EvalTaskStatus) (error_class : Option (Text 1 128)) (telemetry : τ)
    (result : Option EpisodeResult) (now : Instant) (store : InMemoryEvaluationStore τ) :
    Except EvalError Unit × InMemoryEvaluationStore τ :=
  match store.attempts.get? attempt_id with
  | none => store.conflict "status_transition_conflict"
  | some record =>
    if record.status ≠ .running then store.conflict "status_transition_conflict"
    else if error_class.isSome ∧ status = .succeeded then store.conflict "succeeded_requires_no_error_class"
    else if result.isSome ∧ status ≠ .succeeded then store.conflict "result_requires_succeeded_attempt"
    else if result.isSome ∧ attempt_id ∈ store.results.keys then store.conflict "result_already_recorded"
    else
      let finished := store.put_attempt record.attempt_id
        { record with status := status, error_class := error_class, finished_at := some now, telemetry := telemetry }
      match result with
      | some result => (.ok (), finished.put_result attempt_id result)
      | none => (.ok (), finished)

def completed_tasks (experiment_id : String) (store : InMemoryEvaluationStore τ) : Finset TaskKey :=
  ((store.attempts.values.filter fun record =>
    record.experiment_id.text = experiment_id ∧ record.status ∈ TERMINAL_STATUSES).map AttemptRecord.key).toFinset

def merge_telemetry (contract : TelemetryContract τ) (attempt_id : UUID) (patch : Dict String Value)
    (store : InMemoryEvaluationStore τ) : Except EvalError Unit × InMemoryEvaluationStore τ :=
  match store.attempts.get? attempt_id with
  | none => store.conflict "attempt_not_found"
  | some record =>
    match contract.model_validate ((contract.model_dump record.telemetry).union patch) with
    | none => (.error .validation, store)
    | some telemetry => (.ok (), store.put_attempt attempt_id { record with telemetry := telemetry })

/-- `if key not in latest or record.attempt_seq > latest[key].attempt_seq: latest[key] = record`. -/
def newest (latest : Dict TaskKey (AttemptRecord τ)) (record : AttemptRecord τ) : Dict TaskKey (AttemptRecord τ) :=
  match latest.get? record.key with
  | none => latest.set record.key record
  | some other => if record.attempt_seq > other.attempt_seq then latest.set record.key record else latest

/-- The latest attempt of each task, as far as its experiment has none that is terminal. -/
def latest (experiment_id : String) (store : InMemoryEvaluationStore τ) : Dict TaskKey (AttemptRecord τ) :=
  store.attempts.values.foldl (fun latest record =>
    if record.experiment_id.text ≠ experiment_id then latest
    else if record.key ∈ store.completed_tasks experiment_id then latest
    else newest latest record) Dict.empty

def unfinished_attempts (experiment_id : String) (store : InMemoryEvaluationStore τ) : List (AttemptRecord τ) :=
  (store.latest experiment_id).values.insertionSort fun a b => key_le a.key b.key

def record_result (attempt_id : UUID) (result : EpisodeResult) (store : InMemoryEvaluationStore τ) :
    Except EvalError Unit × InMemoryEvaluationStore τ :=
  match store.attempts.get? attempt_id with
  | none => store.conflict "result_requires_succeeded_attempt"
  | some record =>
    if record.status ≠ .succeeded then store.conflict "result_requires_succeeded_attempt"
    else if attempt_id ∈ store.results.keys then store.conflict "result_already_recorded"
    else (.ok (), store.put_result attempt_id result)

def result (attempt_id : UUID) (store : InMemoryEvaluationStore τ) :
    Option EpisodeResult := store.results.get? attempt_id

end InMemoryEvaluationStore

end CommerceAgent.Evaluation
