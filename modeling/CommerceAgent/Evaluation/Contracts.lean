import CommerceAgent.Lib.Dict
import CommerceAgent.Orchestration.Contracts

/-!
# Contracts of the evaluation

Attempts, their statuses and their results, as the evaluation stores keep them.
-/

open CommerceAgent.Lib
open CommerceAgent.Operations (UUID Text)
open CommerceAgent.Orchestration (Value)

namespace CommerceAgent.Evaluation

/-- An aware datetime, in microseconds. -/
abbrev Instant := ℤ

/-- A `timedelta`, in microseconds. -/
abbrev Timedelta := ℤ

inductive EvalTaskStatus where
  | pending
  | running
  | succeeded
  | failed
  | infrastructure_error
  | interrupted
  deriving DecidableEq, Repr

def TERMINAL_STATUSES : List EvalTaskStatus := [.succeeded, .failed]
def RETRYABLE_STATUSES : List EvalTaskStatus := [.pending, .running, .infrastructure_error, .interrupted]

inductive EvalMode where
  | c
  | a
  deriving DecidableEq, Repr

def EvalMode.value : EvalMode → String
  | .c => "c"
  | .a => "a"

abbrev TaskKey := Text 1 128 × EvalMode

/-- What a store raises: `EvalStateConflict(reason_code)`, or pydantic's `ValidationError`. -/
inductive EvalError where
  | conflict (reason_code : String)
  | validation
  deriving DecidableEq

/-- The telemetry contract: how pydantic dumps and validates its models. -/
structure TelemetryContract (τ : Type) where
  /-- `AttemptTelemetry()`. -/
  blank : τ
  model_dump : τ → Dict String Value
  model_validate : Dict String Value → Option τ

/-- The place of an attempt in the sequence of its task. -/
abbrev Sequence := {n : ℕ // 1 ≤ n}

namespace Sequence

def first : Sequence := ⟨1, le_refl 1⟩

def next (sequence : Sequence) : Sequence := ⟨sequence.1 + 1, Nat.le_add_left 1 sequence.1⟩

end Sequence

structure AttemptRecord (τ : Type) where
  attempt_id : UUID
  run_id : UUID
  experiment_id : Text 1 128
  task_id : Text 1 128
  mode : EvalMode
  attempt_seq : Sequence
  status : EvalTaskStatus
  error_class : Option (Text 1 128)
  started_at : Instant
  finished_at : Option Instant
  telemetry : τ

def AttemptRecord.key {τ : Type} (record : AttemptRecord τ) : TaskKey := (record.task_id, record.mode)

structure EpisodeResult where
  reward : Option ℚ
  phase1_passed : Option Bool
  phase2_passed : Option Bool
  rounds : Option ℕ
  tool_calls : Option ℕ
  submit_count : Option ℕ
  reward_nonneg : ∀ r ∈ reward, 0 ≤ r
  deriving DecidableEq

/-! ## Episodes -/

structure EpisodeTask where
  task_id : Text 1 128
  mode : EvalMode
  deriving DecidableEq

def EpisodeTask.key (task : EpisodeTask) : TaskKey := (task.task_id, task.mode)

structure EpisodeOutcome (τ : Type) where
  status : EvalTaskStatus
  error_class : Option (Text 1 128)
  result : Option EpisodeResult
  telemetry : τ

end CommerceAgent.Evaluation
