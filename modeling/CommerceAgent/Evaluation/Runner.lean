import CommerceAgent.Evaluation.StateMachine

/-!
# The evaluation runner

Runs of one experiment over one store. Between two awaits a task of the event loop runs alone, so a step
is what one task does until it awaits again.
-/

open CommerceAgent.Lib
open CommerceAgent.Operations (UUID Text HexDigest)

namespace CommerceAgent.Evaluation

/-! ## Configuration -/

structure RunnerConfig where
  experiment_id : Text 1 128
  purpose : String
  config_hash : HexDigest
  task_list : List EpisodeTask
  concurrency : ℕ
  task_order_seed : ℤ
  tasks : 1 ≤ task_list.length
  bound : 1 ≤ concurrency ∧ concurrency ≤ 4
  /-- `validate_same_task_serial`. -/
  same_task_serial : 1 < concurrency → ∀ task ∈ task_list, ∀ task' ∈ task_list,
    task.task_id = task'.task_id → task.mode = task'.mode

/-- `random.Random(seed).shuffle`. -/
structure Shuffle where
  shuffle : ℤ → List EpisodeTask → List EpisodeTask
  perm : ∀ seed tasks, (shuffle seed tasks).Perm tasks

/-- The tasks of a run that are not excluded. -/
def RunnerConfig.remaining (config : RunnerConfig) (exclude : Finset TaskKey) : List EpisodeTask :=
  config.task_list.filter fun task => task.key ∉ exclude

/-- `_ordered_queue(exclude=...)`. -/
def ordered_queue (random : Shuffle) (config : RunnerConfig) (exclude : Finset TaskKey) : List EpisodeTask :=
  let ordered := (config.remaining exclude).insertionSort fun a b => key_le a.key b.key
  if config.task_order_seed ≠ 0 then random.shuffle config.task_order_seed ordered else ordered

/-! ## Episodes of the event loop -/

inductive Phase where
  /-- Not yet past the semaphore. -/
  | queued
  | executing
  /-- Its attempt is finished, or it was cancelled while it executed. -/
  | ended
  /-- It never started. -/
  | dropped
  /-- The store refused one of its calls. -/
  | raised
  deriving DecidableEq, Repr

/-- An `asyncio` task in flight, with its attempt. -/
structure Episode (τ : Type) where
  task : EpisodeTask
  attempt : AttemptRecord τ
  phase : Phase
  cancelled : Bool

variable {τ : Type}

def Episode.id (episode : Episode τ) : UUID := episode.attempt.attempt_id

def Episode.done (episode : Episode τ) : Bool := episode.phase ≠ .queued ∧ episode.phase ≠ .executing

structure Run (τ : Type) where
  config : RunnerConfig
  stop : Bool
  abandoned : Bool
  episodes : List (Episode τ)
  status_counts : Dict EvalTaskStatus ℕ

/-- The episodes that hold the semaphore. -/
def Run.holding (run : Run τ) : ℕ := run.episodes.countP fun episode => episode.phase = .executing

/-- `status_counts.get(status, 0)`. -/
def count_of (status_counts : Dict EvalTaskStatus ℕ) (status : EvalTaskStatus) : ℕ := (status_counts.get? status).getD 0

def count (status_counts : Dict EvalTaskStatus ℕ) (status : EvalTaskStatus) : Dict EvalTaskStatus ℕ :=
  status_counts.set status (count_of status_counts status + 1)

structure System (τ : Type) where
  store : InMemoryEvaluationStore τ
  run : Option (Run τ)

/-! ## What the code does between two awaits -/

/-- The number after the latest attempt, for each unfinished task. -/
def next_sequence (unfinished : List (AttemptRecord τ)) : Dict TaskKey Sequence :=
  unfinished.foldl (fun next record => next.set record.key record.attempt_seq.next) Dict.empty

/-- The tasks of a queue as episodes. A ticket is a fresh attempt id and the time. -/
def create_episodes (contract : TelemetryContract τ) (experiment_id : Text 1 128) (run_id : UUID) :
    Dict TaskKey Sequence → List EpisodeTask → List (UUID × Instant) → List (Episode τ)
  | next, task :: queue, ticket :: tickets =>
    let sequence := (next.get? task.key).getD Sequence.first
    let attempt : AttemptRecord τ :=
      { attempt_id := ticket.1, run_id := run_id, experiment_id := experiment_id, task_id := task.task_id,
        mode := task.mode,
        attempt_seq := sequence, status := .pending, error_class := none, started_at := ticket.2, finished_at := none,
        telemetry := contract.blank }
    { task := task, attempt := attempt, phase := .queued, cancelled := false } ::
      create_episodes contract experiment_id run_id (next.set task.key sequence.next) queue tickets
  | _, _, _ => []

/-- `run`, as far as its first await. -/
def begin_run (contract : TelemetryContract τ) (random : Shuffle) (config : RunnerConfig) (run_id : UUID) (stop : Bool)
    (tickets : List (UUID × Instant)) (store : InMemoryEvaluationStore τ) : System τ :=
  match store.register_experiment config.experiment_id.text config.purpose config.config_hash.text with
  | (.error _, store) => { store := store, run := none }
  | (.ok _, store) =>
    let completed := store.completed_tasks config.experiment_id.text
    let next := next_sequence (store.unfinished_attempts config.experiment_id.text)
    let queue := ordered_queue random config completed
    let episodes := if stop then [] else create_episodes contract config.experiment_id run_id next queue tickets
    { store := store, run := some ⟨config, stop, false, episodes, Dict.empty⟩ }

/-- `_run_one`, from the semaphore to the executor. -/
def start_episode (stop : Bool) (episode : Episode τ) (store : InMemoryEvaluationStore τ) :
    InMemoryEvaluationStore τ × Episode τ :=
  if stop then (store, { episode with phase := .dropped })
  else
    match store.register_attempt episode.attempt with
    | (.error _, store) => (store, { episode with phase := .raised })
    | (.ok _, store) =>
      match store.mark_running episode.id .pending with
      | (.error _, store) => (store, { episode with phase := .raised })
      | (.ok _, store) => (store, { episode with phase := .executing })

def executor_exception : Text 1 128 := ⟨"executor_exception", by decide⟩

def infrastructure_outcome (contract : TelemetryContract τ) : EpisodeOutcome τ where
  status := .infrastructure_error
  error_class := some executor_exception
  result := none
  telemetry := contract.blank

/-- `_run_one`, from the executor's answer to the end. Without an outcome the executor raised an `Exception`. -/
def finish_episode (contract : TelemetryContract τ) (outcome : Option (EpisodeOutcome τ)) (now : Instant)
    (episode : Episode τ) (store : InMemoryEvaluationStore τ) (status_counts : Dict EvalTaskStatus ℕ) :
    InMemoryEvaluationStore τ × Dict EvalTaskStatus ℕ × Episode τ :=
  let outcome := outcome.getD (infrastructure_outcome contract)
  match store.finish_attempt episode.id outcome.status outcome.error_class outcome.telemetry outcome.result now with
  | (.error _, store) => (store, status_counts, { episode with phase := .raised })
  | (.ok _, store) => (store, count status_counts outcome.status, { episode with phase := .ended })

def mark_abandoned (contract : TelemetryContract τ) (now : Instant) : List (Episode τ) → InMemoryEvaluationStore τ →
    Dict EvalTaskStatus ℕ → InMemoryEvaluationStore τ × Dict EvalTaskStatus ℕ × List (Episode τ)
  | [], store, status_counts => (store, status_counts, [])
  | episode :: episodes, store, status_counts =>
    if episode.done then
      let (store, status_counts, episodes) := mark_abandoned contract now episodes store status_counts
      (store, status_counts, episode :: episodes)
    else
      let (store, status_counts) :=
        match store.finish_attempt episode.id .interrupted none contract.blank none now with
        | (.error _, store) => (store, status_counts)
        | (.ok _, store) => (store, count status_counts .interrupted)
      let (store, status_counts, episodes) := mark_abandoned contract now episodes store status_counts
      (store, status_counts, { episode with cancelled := true } :: episodes)

/-- What a cancelled task has become when it is done. -/
def Episode.cancel (episode : Episode τ) : Episode τ :=
  { episode with phase := if episode.phase = .executing then .ended else .dropped }

/-! ## Steps -/

/-- An outcome whose final status fits its error class and its result. -/
structure EpisodeOutcome.Consistent (outcome : EpisodeOutcome τ) : Prop where
  final : outcome.status.final
  error_class : outcome.error_class.isSome → outcome.status ≠ .succeeded
  result : outcome.result.isSome → outcome.status = .succeeded

/-- `uuid4` made ids that no attempt has. -/
structure FreshTickets (tickets : List (UUID × Instant)) (store : InMemoryEvaluationStore τ) : Prop where
  nodup : (tickets.map Prod.fst).Nodup
  fresh : ∀ ticket ∈ tickets, store.attempts.get? ticket.1 = none

/-- The steps of the event loop, and the runs of an experiment one after the other. The semaphore lets the
tasks through in the order in which they came, and an executor ends when it is cancelled. -/
inductive System.Step (contract : TelemetryContract τ) (random : Shuffle) (experiment_id : Text 1 128) :
    System τ → System τ → Prop
  | begins (store : InMemoryEvaluationStore τ) (config : RunnerConfig) (run_id : UUID) (stop : Bool)
    (tickets : List (UUID × Instant)) (hexperiment : config.experiment_id = experiment_id)
    (hlength : tickets.length = config.task_list.length) (hfresh : FreshTickets tickets store) :
    Step contract random experiment_id ⟨store, none⟩ (begin_run contract random config run_id stop tickets store)
  | stops (store : InMemoryEvaluationStore τ) (run : Run τ) :
    Step contract random experiment_id ⟨store, some run⟩ ⟨store, some { run with stop := true }⟩
  | acquires (store : InMemoryEvaluationStore τ) (run : Run τ) (before after : List (Episode τ)) (episode : Episode τ)
    (hepisodes : run.episodes = before ++ episode :: after) (hfirst : ∀ other ∈ before, other.phase ≠ .queued)
    (hphase : episode.phase = .queued) (hcancelled : episode.cancelled = false)
    (hslot : run.holding < run.config.concurrency) :
    Step contract random experiment_id ⟨store, some run⟩ ⟨(start_episode run.stop episode store).1,
      some { run with episodes := before ++ (start_episode run.stop episode store).2 :: after }⟩
  | finishes (store : InMemoryEvaluationStore τ) (run : Run τ) (before after : List (Episode τ)) (episode : Episode τ)
    (hepisodes : run.episodes = before ++ episode :: after) (hphase : episode.phase = .executing)
    (hcancelled : episode.cancelled = false) (outcome : Option (EpisodeOutcome τ)) (now : Instant)
    (hconsistent : ∀ o ∈ outcome, o.Consistent) :
    Step contract random experiment_id ⟨store, some run⟩
      ⟨(finish_episode contract outcome now episode store run.status_counts).1, some { run with
        episodes := before ++ (finish_episode contract outcome now episode store run.status_counts).2.2 :: after
        status_counts := (finish_episode contract outcome now episode store run.status_counts).2.1 }⟩
  | abandons (store : InMemoryEvaluationStore τ) (run : Run τ) (now : Instant) (hstop : run.stop = true)
    (hfirst : run.abandoned = false) :
    Step contract random experiment_id ⟨store, some run⟩
      ⟨(mark_abandoned contract now run.episodes store run.status_counts).1, some { run with
        abandoned := true
        episodes := (mark_abandoned contract now run.episodes store run.status_counts).2.2
        status_counts := (mark_abandoned contract now run.episodes store run.status_counts).2.1 }⟩
  | cancels (store : InMemoryEvaluationStore τ) (run : Run τ) (before after : List (Episode τ)) (episode : Episode τ)
    (hepisodes : run.episodes = before ++ episode :: after) (hcancelled : episode.cancelled = true)
    (hdone : episode.done = false) :
    Step contract random experiment_id ⟨store, some run⟩
      ⟨store, some { run with episodes := before ++ episode.cancel :: after }⟩
  | returns (store : InMemoryEvaluationStore τ) (run : Run τ) (hdone : ∀ episode ∈ run.episodes, episode.done) :
    Step contract random experiment_id ⟨store, some run⟩ ⟨store, none⟩

end CommerceAgent.Evaluation
