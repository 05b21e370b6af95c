import CommerceAgent.Evaluation.RunnerLaws

/-!
# No re-run, and one episode of a task at a time

Both hold of the runs that begin without a repeated task, and a repeated task breaks both.
-/

open CommerceAgent.Lib
open CommerceAgent.Operations (UUID Text HexDigest)

namespace CommerceAgent.Evaluation

open InMemoryEvaluationStore

variable {τ : Type}

/-! ## What is promised -/

/-- No two episodes of a task execute at the same time. -/
def Serial (system : System τ) : Prop :=
  ∀ run, system.run = some run → ∀ episode ∈ run.episodes, ∀ other ∈ run.episodes, episode.phase = .executing →
    other.phase = .executing → episode.task.task_id = other.task.task_id → episode.id = other.id

/-- An episode that begins to execute has no completed task. -/
def NoRerun (experiment_id : Text 1 128) (system after : System τ) : Prop :=
  ∀ run', after.run = some run' → ∀ episode ∈ run'.episodes, episode.phase = .executing →
    (∃ run, system.run = some run ∧ ∃ before ∈ run.episodes, before.id = episode.id ∧ before.phase = .executing) ∨
      episode.task.key ∉ system.store.completed_tasks experiment_id.text

/-- A step that does not begin a run in which a task is left twice. -/
def CarefulStep (contract : TelemetryContract τ) (random : Shuffle) (experiment_id : Text 1 128)
    (system after : System τ) : Prop :=
  system.Step contract random experiment_id after ∧ ∀ run, system.run = none → after.run = some run →
    ((run.config.remaining (system.store.completed_tasks experiment_id.text)).map EpisodeTask.key).Nodup

/-- The states of runs that all begin without a repeated task. -/
def System.CarefullyReachable (contract : TelemetryContract τ) (random : Shuffle) (experiment_id : Text 1 128)
    (system : System τ) : Prop :=
  Relation.ReflTransGen (CarefulStep contract random experiment_id) ⟨InMemoryEvaluationStore.empty, none⟩ system

/-! ## Completed tasks -/

section Completed

variable {experiment_id : String} {store after : InMemoryEvaluationStore τ} {key : TaskKey} {attempt_id : UUID}

theorem completed_of_changed
    (hsame : ∀ other, other ≠ attempt_id → after.attempts.get? other = store.attempts.get? other)
    (hkey : key ∈ after.completed_tasks experiment_id) : key ∈ store.completed_tasks experiment_id ∨
      ∃ record, after.attempts.get? attempt_id = some record ∧ record.status ∈ TERMINAL_STATUSES ∧
        record.key = key := by
  obtain ⟨other, record, hget, hexperiment, hterminal, hrecord⟩ := mem_completed_tasks.mp hkey
  by_cases hother : other = attempt_id
  · exact Or.inr ⟨record, hother ▸ hget, hterminal, hrecord⟩
  · rw [hsame other hother] at hget
    exact Or.inl (mem_completed_tasks.mpr ⟨other, record, hget, hexperiment, hterminal, hrecord⟩)

theorem completed_put_attempt {record : AttemptRecord τ} (hstatus : record.status ∉ TERMINAL_STATUSES) :
    (store.put_attempt attempt_id record).completed_tasks experiment_id ⊆ store.completed_tasks experiment_id := by
  intro key hkey
  have hsame (other : UUID) (hother : other ≠ attempt_id) :
      (store.put_attempt attempt_id record).attempts.get? other = store.attempts.get? other := by
    rw [get?_put_attempt, if_neg hother]
  rcases completed_of_changed hsame hkey with hbefore | ⟨found, hget, hterminal, -⟩
  · exact hbefore
  · rw [get?_put_attempt, if_pos rfl] at hget
    cases hget
    exact absurd hterminal hstatus

theorem completed_interrupted (experiment_id : String) (store : InMemoryEvaluationStore τ) (attempt_id : UUID)
    (telemetry : τ) (now : Instant) :
    (store.finish_attempt attempt_id .interrupted none telemetry none now).2.completed_tasks experiment_id ⊆
      store.completed_tasks experiment_id := by
  unfold InMemoryEvaluationStore.finish_attempt
  split
  · exact Finset.Subset.refl _
  · split_ifs
    · exact Finset.Subset.refl _
    · exact Finset.Subset.refl _
    · exact Finset.Subset.refl _
    · exact Finset.Subset.refl _
    · exact completed_put_attempt (show EvalTaskStatus.interrupted ∉ TERMINAL_STATUSES by decide)

theorem completed_mark_abandoned (contract : TelemetryContract τ) (now : Instant) (episodes : List (Episode τ))
    (status_counts : Dict EvalTaskStatus ℕ) :
    (mark_abandoned contract now episodes store status_counts).1.completed_tasks experiment_id ⊆
      store.completed_tasks experiment_id := by
  induction episodes generalizing store status_counts with
  | nil =>
    unfold mark_abandoned
    exact Finset.Subset.refl _
  | cons episode episodes ih =>
    unfold mark_abandoned
    split_ifs
    · exact ih status_counts
    · have hfinish := completed_interrupted experiment_id store episode.id contract.blank now
      cases hfinished : store.finish_attempt episode.id .interrupted none contract.blank none now with
      | mk answer after =>
        rw [hfinished] at hfinish
        cases answer with
        | error error => exact (ih status_counts).trans hfinish
        | ok answer => exact (ih (count status_counts .interrupted)).trans hfinish

end Completed

/-! ## The invariant -/

structure RunSerial (experiment_id : Text 1 128) (store : InMemoryEvaluationStore τ) (run : Run τ) : Prop where
  keys : (run.episodes.map fun episode => episode.task.key).Nodup
  uncompleted : ∀ episode ∈ run.episodes, episode.phase = .queued →
    episode.task.key ∉ store.completed_tasks experiment_id.text
  tasks : ∀ episode ∈ run.episodes, episode.task ∈ run.config.task_list

section Invariant

variable {contract : TelemetryContract τ} {random : Shuffle} {experiment_id : Text 1 128}
  {store after : InMemoryEvaluationStore τ} {run : Run τ} {episode : Episode τ} {front back : List (Episode τ)}

/-- One episode goes on, and completes no task but its own. -/
theorem RunSerial.replace (h : RunSerial experiment_id store run) (hepisodes : run.episodes = front ++ episode :: back)
    (changed : Episode τ) (htask : changed.task = episode.task) (hphase : changed.phase ≠ .queued)
    (status_counts : Dict EvalTaskStatus ℕ) (hcompleted : ∀ key ∈ after.completed_tasks experiment_id.text,
      key ∈ store.completed_tasks experiment_id.text ∨ key = episode.task.key) :
    RunSerial experiment_id after
      { run with episodes := front ++ changed :: back, status_counts := status_counts } := by
  have hkeys := h.keys
  rw [hepisodes, List.map_append, List.map_cons] at hkeys
  have hin : ∀ other ∈ front ++ back, other ∈ run.episodes ∧ other.task.key ≠ episode.task.key := by
    intro other hother
    constructor
    · rw [hepisodes]
      rcases List.mem_append.mp hother with hother | hother
      · exact List.mem_append_left _ hother
      · exact List.mem_append_right _ (List.mem_cons_of_mem _ hother)
    · have hnot := (List.nodup_middle.mp hkeys).notMem
      rw [← List.map_append] at hnot
      exact fun heq => hnot (heq ▸ List.mem_map_of_mem hother)
  have hmem : episode ∈ run.episodes := hepisodes ▸ List.mem_append_right _ List.mem_cons_self
  refine ⟨?_, fun other hother hqueued hdone => ?_, fun other hother => ?_⟩
  · dsimp only
    rwa [List.map_append, List.map_cons, htask]
  · have hother : other ∈ front ++ back := by
      rcases List.mem_append.mp hother with hother | hother
      · exact List.mem_append_left _ hother
      · rcases List.mem_cons.mp hother with rfl | hother
        · exact absurd hqueued hphase
        · exact List.mem_append_right _ hother
    obtain ⟨hbefore, hne⟩ := hin other hother
    rcases hcompleted _ hdone with hdone | heq
    · exact h.uncompleted other hbefore hqueued hdone
    · exact hne heq
  · rcases List.mem_append.mp hother with hother | hother
    · exact h.tasks other (hin other (List.mem_append_left _ hother)).1
    · rcases List.mem_cons.mp hother with rfl | hother
      · rw [htask]
        exact h.tasks episode hmem
      · exact h.tasks other (hin other (List.mem_append_right _ hother)).1

theorem RunSerial.acquires (h : RunSerial experiment_id store run) (hsound : RunSound experiment_id store run)
    (hepisodes : run.episodes = front ++ episode :: back) (hfirst : ∀ other ∈ front, other.phase ≠ .queued)
    (hphase : episode.phase = .queued) :
    RunSerial experiment_id (start_episode run.stop episode store).1
      { run with episodes := front ++ (start_episode run.stop episode store).2 :: back } := by
  by_cases hstop : run.stop = true
  · have heq : start_episode run.stop episode store = (store, { episode with phase := .dropped }) := by
      unfold start_episode
      rw [if_pos hstop]
    rw [heq]
    exact h.replace hepisodes { episode with phase := .dropped } rfl nofun _ fun _ hkey => Or.inl hkey
  · rw [Bool.not_eq_true] at hstop
    have heq := hsound.start_episode hepisodes hfirst hphase hstop
    rw [← hstop] at heq
    rw [heq]
    refine h.replace hepisodes { episode with phase := .executing } rfl nofun _ fun key hkey => Or.inl ?_
    exact completed_put_attempt (show EvalTaskStatus.running ∉ TERMINAL_STATUSES by decide) hkey

theorem RunSerial.finishes (h : RunSerial experiment_id store run) (hsound : RunSound experiment_id store run)
    (hepisodes : run.episodes = front ++ episode :: back) (hphase : episode.phase = .executing)
    (hcancelled : episode.cancelled = false) (outcome : Option (EpisodeOutcome τ)) (now : Instant)
    (hconsistent : ∀ o ∈ outcome, o.Consistent) :
    RunSerial experiment_id (finish_episode contract outcome now episode store run.status_counts).1 { run with
      episodes := front ++ (finish_episode contract outcome now episode store run.status_counts).2.2 :: back
      status_counts := (finish_episode contract outcome now episode store run.status_counts).2.1 } := by
  have hmem : episode ∈ run.episodes := hepisodes ▸ List.mem_append_right _ List.mem_cons_self
  obtain ⟨after, status, heq, -, hfinished⟩ :=
    hsound.finish_episode hmem hphase hcancelled contract outcome now hconsistent
  rw [heq]
  refine h.replace hepisodes { episode with phase := .ended } rfl nofun _ fun key hkey => ?_
  rcases completed_of_changed hfinished.others hkey with hbefore | ⟨record, hget, -, rfl⟩
  · exact Or.inl hbefore
  · obtain ⟨own, hown, hsame, -⟩ := hfinished.own
    obtain rfl := Option.some.inj (hown.symm.trans hget)
    exact Or.inr hsame

theorem mark_abandoned_tasks (contract : TelemetryContract τ) (now : Instant) (episodes : List (Episode τ))
    (store : InMemoryEvaluationStore τ) (status_counts : Dict EvalTaskStatus ℕ) :
    (mark_abandoned contract now episodes store status_counts).2.2.map Episode.task = episodes.map Episode.task := by
  induction episodes generalizing store status_counts with
  | nil =>
    unfold mark_abandoned
    rfl
  | cons episode episodes ih =>
    unfold mark_abandoned
    split_ifs
    · exact congrArg (episode.task :: ·) (ih _ _)
    · exact congrArg (episode.task :: ·) (ih _ _)

theorem keys_of_tasks (episodes : List (Episode τ)) :
    (episodes.map fun episode => episode.task.key) = (episodes.map Episode.task).map EpisodeTask.key := by
  rw [List.map_map]
  rfl

theorem RunSerial.abandons (h : RunSerial experiment_id store run) (contract : TelemetryContract τ) (now : Instant) :
    RunSerial experiment_id (mark_abandoned contract now run.episodes store run.status_counts).1 { run with
      abandoned := true
      episodes := (mark_abandoned contract now run.episodes store run.status_counts).2.2
      status_counts := (mark_abandoned contract now run.episodes store run.status_counts).2.1 } := by
  refine ⟨?_, fun episode hepisode hqueued hdone => ?_, fun episode hepisode => ?_⟩
  · dsimp only
    rw [keys_of_tasks, mark_abandoned_tasks, ← keys_of_tasks]
    exact h.keys
  · obtain ⟨before, hbefore, -, hphase, htask⟩ := mem_mark_abandoned hepisode
    refine h.uncompleted before hbefore (hphase.trans hqueued) ?_
    rw [htask]
    exact completed_mark_abandoned contract now run.episodes run.status_counts hdone
  · obtain ⟨before, hbefore, -, -, htask⟩ := mem_mark_abandoned hepisode
    rw [← htask]
    exact h.tasks before hbefore

theorem begin_run_serial {config : RunnerConfig} (hexperiment : config.experiment_id = experiment_id) {run_id : UUID}
    {stop : Bool} {tickets : List (UUID × Instant)}
    (hrun : (begin_run contract random config run_id stop tickets store).run = some run)
    (hdistinct : ((run.config.remaining (store.completed_tasks experiment_id.text)).map EpisodeTask.key).Nodup) :
    RunSerial experiment_id (begin_run contract random config run_id stop tickets store).store run := by
  obtain ⟨experiments, hregister⟩ :=
    register_experiment_spec config.experiment_id.text config.purpose config.config_hash.text store
  unfold begin_run at hrun ⊢
  split at hrun
  · cases hrun
  · rename_i registered heq
    rw [heq] at hregister
    dsimp only at hregister hrun ⊢
    subst hregister hexperiment
    cases hrun
    have hqueue := ordered_queue_perm random config (store.completed_tasks config.experiment_id.text)
    cases stop with
    | true => exact ⟨List.nodup_nil, fun _ h => absurd h List.not_mem_nil, fun _ h => absurd h List.not_mem_nil⟩
    | false =>
      refine ⟨?_, fun episode hepisode _ => ?_, fun episode hepisode => ?_⟩
      · dsimp only
        rw [if_neg Bool.false_ne_true, keys_of_tasks]
        exact (create_episodes_tasks.map _).nodup ((hqueue.map _).nodup_iff.mpr hdistinct)
      · exact (mem_remaining.mp (hqueue.mem_iff.mp (mem_create_episodes hepisode).2.2.2.1)).2
      · exact (mem_remaining.mp (hqueue.mem_iff.mp (mem_create_episodes hepisode).2.2.2.1)).1

theorem start_episode_task (stop : Bool) (episode : Episode τ) (store : InMemoryEvaluationStore τ) :
    (start_episode stop episode store).2.task = episode.task := by
  unfold start_episode
  split_ifs
  · rfl
  · split
    · rfl
    · split
      · rfl
      · rfl

/-! ## What follows from it -/

theorem RunSerial.apart (h : RunSerial experiment_id store run) (hsound : RunSound experiment_id store run)
    {other : Episode τ} (hepisode : episode ∈ run.episodes) (hother : other ∈ run.episodes)
    (hphase : episode.phase = .executing) (hphase' : other.phase = .executing)
    (htask : episode.task.task_id = other.task.task_id) : episode = other := by
  by_cases hserial : 1 < run.config.concurrency
  · -- the tasks of the run have one mode each
    have hmode := run.config.same_task_serial hserial episode.task (h.tasks episode hepisode) other.task
      (h.tasks other hother) htask
    exact List.inj_on_of_nodup_map h.keys hepisode hother (Prod.ext htask hmode)
  · have hholding := hsound.holding
    unfold Run.holding at hholding
    rw [List.countP_eq_length_filter] at hholding
    have hin : episode ∈ run.episodes.filter fun episode => episode.phase = .executing :=
      List.mem_filter.mpr ⟨hepisode, decide_eq_true hphase⟩
    have hin' : other ∈ run.episodes.filter fun episode => episode.phase = .executing :=
      List.mem_filter.mpr ⟨hother, decide_eq_true hphase'⟩
    have hone : (run.episodes.filter fun episode => episode.phase = .executing).length ≤ 1 := by omega
    match hfilter : run.episodes.filter fun episode => episode.phase = .executing with
    | [] => exact absurd (hfilter ▸ hin) List.not_mem_nil
    | [only] =>
      rw [hfilter, List.mem_singleton] at hin hin'
      rw [hin, hin']
    | _ :: _ :: _ => simp [hfilter] at hone

def System.KeepsSerial (experiment_id : Text 1 128) (system : System τ) : Prop :=
  system.Sound experiment_id ∧ ∀ run, system.run = some run → RunSerial experiment_id system.store run

theorem System.KeepsSerial.step {system after : System τ} (h : system.KeepsSerial experiment_id)
    (hstep : CarefulStep contract random experiment_id system after) : after.KeepsSerial experiment_id := by
  obtain ⟨hstep, hcareful⟩ := hstep
  refine ⟨h.1.step hstep, fun run' hrun' => ?_⟩
  obtain ⟨hsound, hserial⟩ := h
  cases hstep with
  | begins store config run_id stop tickets hexperiment hlength hfresh =>
    exact begin_run_serial hexperiment hrun' (hcareful run' rfl hrun')
  | stops store run =>
    cases hrun'
    have hbefore := hserial run rfl
    exact ⟨hbefore.keys, hbefore.uncompleted, hbefore.tasks⟩
  | acquires store run front back episode hepisodes hfirst hphase hcancelled hslot =>
    cases hrun'
    exact (hserial run rfl).acquires hsound hepisodes hfirst hphase
  | finishes store run front back episode hepisodes hphase hcancelled outcome now hconsistent =>
    cases hrun'
    exact (hserial run rfl).finishes hsound hepisodes hphase hcancelled outcome now hconsistent
  | abandons store run now hstop hfirst =>
    cases hrun'
    exact (hserial run rfl).abandons contract now
  | cancels store run front back episode hepisodes hcancelled hdone =>
    cases hrun'
    exact (hserial run rfl).replace hepisodes episode.cancel rfl (cancel_phase episode).2 _ fun _ hkey => Or.inl hkey
  | returns => cases hrun'

theorem System.CarefullyReachable.keeps {system : System τ}
    (h : system.CarefullyReachable contract random experiment_id) :
    system.KeepsSerial experiment_id := by
  induction h with
  | refl => exact ⟨System.Sound.start experiment_id, nofun⟩
  | tail _ hstep ih => exact ih.step hstep

theorem begin_run_queued {config : RunnerConfig} {run_id : UUID} {stop : Bool} {tickets : List (UUID × Instant)}
    (hrun : (begin_run contract random config run_id stop tickets store).run = some run)
      (hepisode : episode ∈ run.episodes) :
    episode.phase = .queued := by
  unfold begin_run at hrun
  split at hrun
  · cases hrun
  · cases hrun
    cases stop with
    | true => exact absurd hepisode List.not_mem_nil
    | false => exact (mem_create_episodes hepisode).1

theorem System.KeepsSerial.no_rerun {system after : System τ} (h : system.KeepsSerial experiment_id)
    (hstep : system.Step contract random experiment_id after) : NoRerun experiment_id system after := by
  obtain ⟨hsound, hserial⟩ := h
  intro run' hrun' episode hepisode hphase
  cases hstep with
  | begins store config run_id stop tickets hexperiment hlength hfresh =>
    exact absurd (hphase.symm.trans (begin_run_queued hrun' hepisode)) nofun
  | stops store run =>
    cases hrun'
    exact Or.inl ⟨run, rfl, episode, hepisode, rfl, hphase⟩
  | acquires store run front back first hepisodes hfirst hqueued hcancelled hslot =>
    cases hrun'
    rcases executing_before first hepisode hphase with rfl | hbefore
    · have hmem : first ∈ run.episodes := hepisodes ▸ List.mem_append_right _ List.mem_cons_self
      refine Or.inr ?_
      rw [start_episode_task]
      exact (hserial run rfl).uncompleted first hmem hqueued
    · exact Or.inl ⟨run, rfl, hepisodes ▸ hbefore⟩
  | finishes store run front back first hepisodes hexecuting hcancelled outcome now hconsistent =>
    cases hrun'
    rcases executing_before first hepisode hphase with rfl | hbefore
    · exact absurd hphase finish_episode_phase
    · exact Or.inl ⟨run, rfl, hepisodes ▸ hbefore⟩
  | abandons store run now hstop hfirst =>
    cases hrun'
    obtain ⟨before, hbefore, hid, hsame, -⟩ := mem_mark_abandoned hepisode
    exact Or.inl ⟨run, rfl, before, hbefore, hid, hsame.trans hphase⟩
  | cancels store run front back first hepisodes hcancelled hdone =>
    cases hrun'
    rcases executing_before first hepisode hphase with rfl | hbefore
    · exact absurd hphase (cancel_phase first).1
    · exact Or.inl ⟨run, rfl, hepisodes ▸ hbefore⟩
  | returns => cases hrun'

theorem System.KeepsSerial.serial {system : System τ} (h : system.KeepsSerial experiment_id) : Serial system := by
  obtain ⟨store, current⟩ := system
  intro run hrun episode hepisode other hother hphase hphase' htask
  cases hrun
  have hsound : RunSound experiment_id store run := h.1
  rw [(h.2 run rfl).apart hsound hepisode hother hphase hphase' htask]

end Invariant

/-- **Runs without a repeated task re-run nothing, and execute one episode of a task at a time.** -/
theorem serial_without_repeats (contract : TelemetryContract τ) (random : Shuffle) (experiment_id : Text 1 128)
    (system : System τ) (h : system.CarefullyReachable contract random experiment_id) :
    Serial system ∧ ∀ after, CarefulStep contract random experiment_id system after →
      NoRerun experiment_id system after :=
  ⟨h.keeps.serial, fun _ hstep => h.keeps.no_rerun hstep.1⟩

/-! ## A run that is stopped, and the next one -/

section Careful

variable {contract : TelemetryContract τ} {random : Shuffle} {experiment_id : Text 1 128}

theorem System.CarefullyReachable.next {store : InMemoryEvaluationStore τ} {run : Run τ} {after : System τ}
    (h : System.CarefullyReachable contract random experiment_id ⟨store, some run⟩)
    (hstep : System.Step contract random experiment_id ⟨store, some run⟩ after) :
    after.CarefullyReachable contract random experiment_id := h.tail ⟨hstep, nofun⟩

end Careful

def secondTask : Text 1 128 := ⟨"evaluation-task-2", by decide⟩
def thirdTask : Text 1 128 := ⟨"evaluation-task-3", by decide⟩

theorem two_slots : 1 ≤ 2 ∧ 2 ≤ 4 := by decide

/-- Three tasks and two slots. -/
def pilotConfig : RunnerConfig where
  experiment_id := sampleExperiment
  purpose := "pilot"
  config_hash := HexDigest.ofNat 0
  task_list := [⟨sampleTask, .a⟩, ⟨secondTask, .a⟩, ⟨thirdTask, .a⟩]
  concurrency := 2
  task_order_seed := 0
  tasks := by decide
  bound := two_slots
  same_task_serial := fun _ => by decide

def pilotRun (stop : Bool) (episodes : List (Episode Unit)) (status_counts : Dict EvalTaskStatus ℕ) : Run Unit :=
  ⟨pilotConfig, stop, false, episodes, status_counts⟩

def pilotEpisode (task_id : Text 1 128) (attempt_id run_id : UUID) (attempt_seq : Sequence) (started_at : Instant) :
    Episode Unit where
  task := ⟨task_id, .a⟩
  attempt := { pendingAttempt with
    attempt_id := attempt_id
    run_id := run_id
    task_id := task_id
    attempt_seq := attempt_seq
    started_at := started_at }
  phase := .queued
  cancelled := false

section Pilot

variable {system : System Unit} {store : InMemoryEvaluationStore Unit} {stop : Bool} (front : List (Episode Unit))
  {back : List (Episode Unit)} {episode : Episode Unit} {status_counts : Dict EvalTaskStatus ℕ}

theorem pilot_acquires (h : System.CarefullyReachable sampleContract stillShuffle sampleExperiment
      ⟨store, some (pilotRun stop (front ++ episode :: back) status_counts)⟩)
    (hfirst : ∀ other ∈ front, other.phase ≠ .queued) (hphase : episode.phase = .queued)
    (hcancelled : episode.cancelled = false)
    (hslot : (pilotRun stop (front ++ episode :: back) status_counts).holding < 2) :
    System.CarefullyReachable sampleContract stillShuffle sampleExperiment ⟨(start_episode stop episode store).1,
      some (pilotRun stop (front ++ (start_episode stop episode store).2 :: back) status_counts)⟩ :=
  h.next (.acquires store _ front back episode rfl hfirst hphase hcancelled hslot)

theorem pilot_finishes (h : System.CarefullyReachable sampleContract stillShuffle sampleExperiment
      ⟨store, some (pilotRun stop (front ++ episode :: back) status_counts)⟩)
    (hphase : episode.phase = .executing) (hcancelled : episode.cancelled = false)
    (outcome : Option (EpisodeOutcome Unit)) (now : Instant) (hconsistent : ∀ o ∈ outcome, o.Consistent) :
    System.CarefullyReachable sampleContract stillShuffle sampleExperiment
      ⟨(finish_episode sampleContract outcome now episode store status_counts).1,
        some (pilotRun stop (front ++ (finish_episode sampleContract outcome now episode store status_counts).2.2 :: back)
          (finish_episode sampleContract outcome now episode store status_counts).2.1)⟩ :=
  h.next (.finishes store _ front back episode rfl hphase hcancelled outcome now hconsistent)

end Pilot

/-- The first run, before its first await. -/
def pilotBegin : System Unit :=
  begin_run sampleContract stillShuffle pilotConfig 7 false [(1, 0), (2, 0), (3, 0)] InMemoryEvaluationStore.empty

theorem pilot_begin : pilotBegin = ⟨pilotBegin.store, some (pilotRun false
    [pilotEpisode sampleTask 1 7 .first 0, pilotEpisode secondTask 2 7 .first 0, pilotEpisode thirdTask 3 7 .first 0]
    Dict.empty)⟩ := by
  rfl

def pilotFirst : InMemoryEvaluationStore Unit × Episode Unit :=
  start_episode false (pilotEpisode sampleTask 1 7 .first 0) pilotBegin.store

def pilotSecond : InMemoryEvaluationStore Unit × Episode Unit :=
  start_episode false (pilotEpisode secondTask 2 7 .first 0) pilotFirst.1

def pilotOutcome : EpisodeOutcome Unit := ⟨.succeeded, none, none, ()⟩

/-- The first task succeeds, and the executor raises on the second. -/
def pilotSucceeded : InMemoryEvaluationStore Unit × Dict EvalTaskStatus ℕ × Episode Unit :=
  finish_episode sampleContract (some pilotOutcome) 10 pilotFirst.2 pilotSecond.1 Dict.empty

def pilotRaised : InMemoryEvaluationStore Unit × Dict EvalTaskStatus ℕ × Episode Unit :=
  finish_episode sampleContract none 11 pilotSecond.2 pilotSucceeded.1 pilotSucceeded.2.1

theorem pilot_stopped : System.CarefullyReachable sampleContract stillShuffle sampleExperiment ⟨pilotRaised.1, none⟩ := by
  have hbegin : CarefulStep sampleContract stillShuffle sampleExperiment ⟨InMemoryEvaluationStore.empty, none⟩
      pilotBegin := by
    have hfresh : FreshTickets [(1, 0), (2, 0), (3, 0)] (InMemoryEvaluationStore.empty : InMemoryEvaluationStore Unit) :=
      ⟨by decide, fun _ _ => rfl⟩
    refine ⟨System.Step.begins InMemoryEvaluationStore.empty pilotConfig 7 false _ rfl rfl hfresh, ?_⟩
    intro run _ hrun
    rw [pilot_begin] at hrun
    obtain rfl := Option.some.inj hrun
    decide
  have hbegin := Relation.ReflTransGen.single hbegin
  rw [pilot_begin] at hbegin
  have hfirst := pilot_acquires [] hbegin (by decide) rfl rfl (by decide)
  have hsecond := pilot_acquires [pilotFirst.2] hfirst (by decide) rfl rfl (by decide)
  have hstopped : System.CarefullyReachable sampleContract stillShuffle sampleExperiment ⟨pilotSecond.1,
      some (pilotRun true [pilotFirst.2, pilotSecond.2, pilotEpisode thirdTask 3 7 .first 0] Dict.empty)⟩ :=
    hsecond.next (.stops _ _)
  have hconsistent : ∀ outcome ∈ some pilotOutcome, outcome.Consistent := by
    intro outcome houtcome
    obtain rfl := Option.some.inj houtcome
    exact ⟨by decide, nofun, nofun⟩
  have hsucceeded := pilot_finishes [] hstopped (by decide) (by decide) (some pilotOutcome) 10 hconsistent
  have hraised := pilot_finishes [pilotSucceeded.2.2] hsucceeded (by decide) (by decide) none 11
    fun outcome houtcome => absurd houtcome (Option.not_mem_none outcome)
  have hdropped := pilot_acquires [pilotSucceeded.2.2, pilotRaised.2.2] hraised (by decide) rfl rfl
    (by decide)
  exact hdropped.next (.returns _ _ (by decide))

/-- The next run. -/
def resumedBegin : System Unit :=
  begin_run sampleContract stillShuffle pilotConfig 8 false [(4, 20), (5, 20), (6, 20)] pilotRaised.1

theorem resumed_begin : resumedBegin = ⟨resumedBegin.store, some (pilotRun false
    [pilotEpisode secondTask 4 8 Sequence.first.next 20, pilotEpisode thirdTask 5 8 .first 20] Dict.empty)⟩ := by
  rfl

def resumedSecond : InMemoryEvaluationStore Unit × Episode Unit :=
  start_episode false (pilotEpisode secondTask 4 8 Sequence.first.next 20) resumedBegin.store

def resumedThird : InMemoryEvaluationStore Unit × Episode Unit :=
  start_episode false (pilotEpisode thirdTask 5 8 .first 20) resumedSecond.1

/-- The next run executes the two tasks that are left. -/
def resumedSystem : System Unit := ⟨resumedThird.1, some (pilotRun false [resumedSecond.2, resumedThird.2] Dict.empty)⟩

theorem resumed_reachable : resumedSystem.CarefullyReachable sampleContract stillShuffle sampleExperiment := by
  have hbegin : CarefulStep sampleContract stillShuffle sampleExperiment ⟨pilotRaised.1, none⟩ resumedBegin := by
    refine ⟨.begins _ pilotConfig 8 false [(4, 20), (5, 20), (6, 20)] rfl rfl ⟨by decide, by decide⟩, ?_⟩
    intro run _ hrun
    rw [resumed_begin] at hrun
    obtain rfl := Option.some.inj hrun
    decide
  have hbegin := Relation.ReflTransGen.tail pilot_stopped hbegin
  rw [resumed_begin] at hbegin
  have hsecond := pilot_acquires [] hbegin (by decide) rfl rfl (by decide)
  exact pilot_acquires [resumedSecond.2] hsecond (by decide) rfl rfl (by decide)

/-- Two episodes execute, and the task of the first run is completed. -/
theorem serial_resumed :
    (EpisodeTask.key ⟨sampleTask, .a⟩ ∈ resumedSystem.store.completed_tasks sampleExperiment.text ∧
      resumedSecond.2.phase = .executing ∧ resumedThird.2.phase = .executing) ∧
    Serial resumedSystem ∧ ∀ after, CarefulStep sampleContract stillShuffle sampleExperiment resumedSystem after →
      NoRerun sampleExperiment resumedSystem after :=
  ⟨⟨by decide, by decide, by decide⟩,
    serial_without_repeats sampleContract stillShuffle sampleExperiment resumedSystem resumed_reachable⟩

/-- A task that is listed twice executes twice at once. -/
theorem twice_at_once : ¬ ∀ system : System Unit, system.Reachable sampleContract stillShuffle sampleExperiment →
    Serial system ∧ ∀ after, system.Step sampleContract stillShuffle sampleExperiment after →
      NoRerun sampleExperiment system after := by
  intro h
  have hserial := (h doubledSystem doubled_reachable).1
  have hsame := hserial _ rfl startedFirst.2 List.mem_cons_self startedSecond.2
    (List.mem_cons_of_mem _ (List.mem_singleton.mpr rfl)) (by decide) (by decide) (by decide)
  exact absurd hsame (by decide)

end CommerceAgent.Evaluation
