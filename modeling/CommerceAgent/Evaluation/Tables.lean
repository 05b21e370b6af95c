import CommerceAgent.Evaluation.Memory
import CommerceAgent.Evaluation.Postgres
import CommerceAgent.Evaluation.StateMachine
import CommerceAgent.Lib.Selection

/-!
# The tables of the evaluation

`PostgresEvaluationStore` on the three tables of the schema `eval`. A call that raises leaves the tables as they are.
-/

open CommerceAgent.Lib
open CommerceAgent.Operations (UUID Text)
open CommerceAgent.Orchestration (Value)

namespace CommerceAgent.Evaluation

/-! ## Columns -/

/-- `CHECK (purpose IN (...))`. -/
def PURPOSES : List String := ["pilot", "full", "ablation_repair", "rag_ab", "product"]

/-- What a `char(64)` column keeps of a text: it pads with blanks, and takes no more than blanks too many. -/
def char64 (text : String) : Option String :=
  if text.length ≤ 64 then some (String.ofList (text.toList ++ List.replicate (64 - text.length) ' '))
  else if (text.toList.drop 64).all fun c => c = ' ' then some (String.ofList (text.toList.take 64))
  else none

/-- A value of an `integer` column. -/
def fits_integer (n : ℕ) : Bool := n < 2 ^ 31

/-- A value that a `numeric` column keeps as it is. -/
def fits_numeric (r : ℚ) : Bool := Nat.log 10 (r.num.natAbs / r.den) < 131072 && 10 ^ 16383 % r.den = 0

def fits_result (result : EpisodeResult) : Bool :=
  result.reward.all fits_numeric && result.rounds.all fits_integer && result.tool_calls.all fits_integer &&
    result.submit_count.all fits_integer

def storable_class (error_class : Option (Text 1 128)) : Bool := error_class.all fun text => storable_text text.text

/-! ## The tables -/

/-- A row of `eval.task_attempt`. -/
abbrev AttemptColumns := AttemptRecord (Dict String Value)

structure EvalTables where
  experiment : Dict String (String × String)
  task_attempt : Dict UUID AttemptColumns
  task_result : Dict UUID EpisodeResult

namespace EvalTables

variable {τ : Type} (contract : TelemetryContract τ)

def empty : EvalTables := ⟨Dict.empty, Dict.empty, Dict.empty⟩

def conflict (tables : EvalTables) (reason_code : String) : Except PostgresError Unit × EvalTables :=
  (.error (.conflict reason_code), tables)

/-- What psycopg or the database raises. -/
def raised (tables : EvalTables) : Except PostgresError Unit × EvalTables := (.error .raised, tables)

def register_experiment (experiment_id purpose config_hash : String) (tables : EvalTables) :
    Except PostgresError Unit × EvalTables :=
  if ¬ (storable_text experiment_id ∧ storable_text purpose ∧ storable_text config_hash) then tables.raised
  else
    match char64 config_hash with
    | none => tables.raised
    | some stored =>
      if purpose ∉ PURPOSES then tables.raised
      else
        match tables.experiment.get? experiment_id with
        | some existing =>
          if existing ≠ (purpose, config_hash) then tables.conflict "experiment_identity_conflict" else (.ok (), tables)
        | none => (.ok (), { tables with experiment := tables.experiment.set experiment_id (purpose, stored) })

/-- The row of a new attempt: `finished_at` is not among its columns. -/
def row_of (record : AttemptRecord τ) : AttemptColumns :=
  { record.with_telemetry (contract.model_dump record.telemetry) with finished_at := none }

/-- The parameters of the insertion can be sent. -/
def sendable (record : AttemptRecord τ) : Bool :=
  storable_text record.experiment_id.text && storable_text record.task_id.text && storable_class record.error_class &&
    fits_integer record.attempt_seq.1 && storable_fields (contract.model_dump record.telemetry).items

open InMemoryEvaluationStore in
def register_attempt (record : AttemptRecord τ) (tables : EvalTables) : Except PostgresError Unit × EvalTables :=
  if ¬ sendable contract record then tables.raised
  else if record.attempt_id ∈ tables.task_attempt.keys ∨
      ∃ existing ∈ tables.task_attempt.values, SameSequence existing (row_of contract record) then
    tables.conflict "attempt_identity_conflict"
  else if record.experiment_id.text ∉ tables.experiment.keys then tables.raised
  else (.ok (), { tables with task_attempt := tables.task_attempt.set record.attempt_id (row_of contract record) })

def mark_running (attempt_id : UUID) (expected_status : EvalTaskStatus) (tables : EvalTables) :
    Except PostgresError Unit × EvalTables :=
  if expected_status ≠ .pending then tables.conflict "status_transition_conflict"
  else
    match tables.task_attempt.get? attempt_id with
    | none => tables.conflict "status_transition_conflict"
    | some row =>
      if row.status ≠ .pending then tables.conflict "status_transition_conflict"
      else (.ok (), { tables with task_attempt := tables.task_attempt.set attempt_id { row with status := .running } })

/-- `INSERT INTO eval.task_result ... SELECT ... WHERE status = 'succeeded' ON CONFLICT DO NOTHING`, whose values are
cast when it is planned. -/
def insert_result (attempt_id : UUID) (result : EpisodeResult) (tables : EvalTables) :
    Except PostgresError EvalTables :=
  if ¬ fits_result result then .error .raised
  else
    match tables.task_attempt.get? attempt_id with
    | none => .error (.conflict "result_requires_succeeded_attempt")
    | some row =>
      if row.status ≠ .succeeded ∨ attempt_id ∈ tables.task_result.keys then
        .error (.conflict "result_requires_succeeded_attempt")
      else .ok { tables with task_result := tables.task_result.set attempt_id result }

/-- A statement that raises is rolled back. -/
def committed (tables : EvalTables) : Except PostgresError EvalTables → Except PostgresError Unit × EvalTables
  | .ok after => (.ok (), after)
  | .error e => (.error e, tables)

/-- `finish_attempt`, at the time `now` of the transaction. -/
def finish_attempt (attempt_id : UUID) (status : EvalTaskStatus) (error_class : Option (Text 1 128)) (telemetry : τ)
    (result : Option EpisodeResult) (now : Instant) (tables : EvalTables) : Except PostgresError Unit × EvalTables :=
  if ¬ (storable_class error_class ∧ storable_fields (contract.model_dump telemetry).items) then tables.raised
  else
    match tables.task_attempt.get? attempt_id with
    | none => tables.conflict "status_transition_conflict"
    | some row =>
      if row.status ≠ .running then tables.conflict "status_transition_conflict"
      else
        let finished : EvalTables := { tables with
          task_attempt := tables.task_attempt.set attempt_id
            { row with
              status := status
              error_class := error_class
              finished_at := some now
              telemetry := contract.model_dump telemetry } }
        match result with
        | none => (.ok (), finished)
        | some result => tables.committed (finished.insert_result attempt_id result)

def merge_telemetry (attempt_id : UUID) (patch : Dict String Value) (tables : EvalTables) :
    Except PostgresError Unit × EvalTables :=
  tables.committed <| (PostgresEvaluationStore.merge_telemetry attempt_id patch ⟨tables.task_attempt⟩).map
    fun store => { tables with task_attempt := store.task_attempt }

def record_result (attempt_id : UUID) (result : EpisodeResult) (tables : EvalTables) :
    Except PostgresError Unit × EvalTables := tables.committed (tables.insert_result attempt_id result)

/-! ## Reading -/

def completed_tasks (experiment_id : String) (tables : EvalTables) : Except PostgresError (Finset TaskKey) :=
  if ¬ storable_text experiment_id then .error .raised
  else .ok ((tables.task_attempt.values.filter fun row =>
    row.experiment_id.text = experiment_id ∧ row.status ∈ TERMINAL_STATUSES).map AttemptRecord.key).toFinset

/-- What the `WHERE` of `unfinished_attempts` lets through. -/
structure Unfinished (experiment_id : String) (tables : EvalTables) (row : AttemptColumns) : Prop where
  stored : row ∈ tables.task_attempt.values
  experiment : row.experiment_id.text = experiment_id
  retryable : row.status ∈ RETRYABLE_STATUSES
  unfinished : ∀ terminal ∈ tables.task_attempt.values, terminal.experiment_id = row.experiment_id →
    terminal.key = row.key → terminal.status ∉ TERMINAL_STATUSES

/-- What `SELECT DISTINCT ON (task_id, mode) ... ORDER BY task_id, mode, attempt_seq DESC` may return. -/
abbrev SelectsLatest (collate : TaskKey → TaskKey → Prop) (candidate : AttemptRecord τ → Prop)
    (rows : List (AttemptRecord τ)) : Prop := Selects AttemptRecord.key AttemptRecord.attempt_seq collate candidate rows

/-- What `unfinished_attempts` may answer, where `collate` is the order of the database. -/
def AnswersUnfinished (collate : TaskKey → TaskKey → Prop) (experiment_id : String) (tables : EvalTables)
    (answer : Option (List (AttemptRecord τ))) : Prop :=
  if ¬ storable_text experiment_id then answer = none
  else ∃ rows, SelectsLatest collate (Unfinished experiment_id tables) rows ∧
    answer = rows.mapM (record_from_row contract)

def result (attempt_id : UUID) (tables : EvalTables) : Option EpisodeResult := tables.task_result.get? attempt_id

end EvalTables

/-- The operations that write, as they are sent to the database. -/
def Operation.send {τ : Type} (contract : TelemetryContract τ) : Operation τ → EvalTables →
    Except PostgresError Unit × EvalTables
  | .register_experiment experiment_id purpose config_hash, tables =>
    tables.register_experiment experiment_id purpose config_hash
  | .register_attempt record, tables => tables.register_attempt contract record
  | .mark_running attempt_id expected_status, tables => tables.mark_running attempt_id expected_status
  | .finish_attempt attempt_id status error_class telemetry result now, tables =>
    tables.finish_attempt contract attempt_id status error_class telemetry result now
  | .merge_telemetry attempt_id patch, tables => tables.merge_telemetry attempt_id patch
  | .record_result attempt_id result, tables => tables.record_result attempt_id result

end CommerceAgent.Evaluation
