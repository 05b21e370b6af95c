import CommerceAgent.Evaluation.Runner
import Mathlib.Data.List.Induction
import Mathlib.Logic.Relation

/-!
# The life-cycle of the runner's attempts

What holds of the store and of the run in every state that the event loop can reach.
-/

open CommerceAgent.Lib
open CommerceAgent.Operations (UUID Text HexDigest)

namespace CommerceAgent.Evaluation

variable {τ : Type}

/-! ## The calls of the runner -/

def AttemptRecord.started (record : AttemptRecord τ) : AttemptRecord τ := { record with status := .running }

namespace InMemoryEvaluationStore

variable {store : InMemoryEvaluationStore τ}

theorem register_attempt_eq {record : AttemptRecord τ} (hnew : store.attempts.get? record.attempt_id = none)
    (hsequence : ∀ existing ∈ store.attempts.values, ¬ SameSequence existing record) :
    store.register_attempt record = (.ok (), store.put_attempt record.attempt_id record) := by
  unfold register_attempt
  rw [if_neg (Dict.get?_eq_none.mp hnew), if_neg]
  rintro ⟨existing, hexisting, hsame⟩
  exact hsequence existing hexisting hsame

theorem mark_running_eq (store : InMemoryEvaluationStore τ) {record : AttemptRecord τ}
    (hget : store.attempts.get? record.attempt_id = some record)
    (hpending : record.status = .pending) :
    store.mark_running record.attempt_id .pending =
      (.ok (), store.put_attempt record.attempt_id record.started) := by
  unfold mark_running AttemptRecord.started
  rw [hget]
  simp [hpending]

/-- The numbers that the attempts of a task have, in the order in which they were registered. -/
def sequences (store : InMemoryEvaluationStore τ) (key : TaskKey) : List ℕ :=
  store.attempts.values.filterMap fun record => if record.key = key then some record.attempt_seq.1 else none

theorem sequences_register (record : AttemptRecord τ) (hnew : store.attempts.get? record.attempt_id = none)
    (key : TaskKey) : (store.put_attempt record.attempt_id record).sequences key =
      store.sequences key ++ if record.key = key then [record.attempt_seq.1] else [] := by
  unfold sequences put_attempt
  dsimp only
  rw [Dict.values_set (Dict.get?_eq_none.mp hnew), List.filterMap_append, List.filterMap_cons, List.filterMap_nil]
  split_ifs <;> rfl

theorem sequences_update {record changed : AttemptRecord τ} {attempt_id : UUID}
    (hget : store.attempts.get? attempt_id = some record) (hkey : changed.key = record.key)
    (hseq : changed.attempt_seq = record.attempt_seq) (key : TaskKey) :
    (store.put_attempt attempt_id changed).sequences key = store.sequences key := by
  unfold sequences put_attempt
  refine Dict.filterMap_values_set hget ?_
  rw [hkey, hseq]

/-- One attempt moved to another status, and nothing else of note changed. -/
structure Moved (store after : InMemoryEvaluationStore τ) (attempt_id : UUID) (record changed : AttemptRecord τ) :
    Prop where
  before : store.attempts.get? attempt_id = some record
  get? : ∀ other, after.attempts.get? other = if other = attempt_id then some changed else store.attempts.get? other
  key : changed.key = record.key
  experiment : changed.experiment_id = record.experiment_id
  sequences : ∀ key, after.sequences key = store.sequences key

theorem finish_attempt_eq {record : AttemptRecord τ} (h : Coherent store)
    (hget : store.attempts.get? record.attempt_id = some record) (hrunning : record.status = .running)
    {outcome : EpisodeOutcome τ} (hconsistent : outcome.Consistent) (now : Instant) :
    ∃ after, store.finish_attempt record.attempt_id outcome.status outcome.error_class outcome.telemetry
      outcome.result now =
      (.ok (), after) ∧ ∃ changed : AttemptRecord τ, changed.status = outcome.status ∧
        Moved store after record.attempt_id record changed := by
  have hnone : record.attempt_id ∉ store.results.keys := by
    intro hmem
    obtain ⟨result, hresult⟩ := Dict.mem_keys.mp hmem
    have hsucceeded := h.succeeded _ _ hresult
    rw [status?_eq hget, hrunning] at hsucceeded
    cases hsucceeded
  let changed : AttemptRecord τ := { record with
    status := outcome.status, error_class := outcome.error_class, finished_at := some now, telemetry :=
      outcome.telemetry }
  have hmoved : Moved store (store.put_attempt record.attempt_id changed) record.attempt_id record changed :=
    ⟨hget, fun other => get?_put_attempt _ _ _, rfl, rfl, sequences_update hget rfl rfl⟩
  unfold finish_attempt
  rw [hget]
  dsimp only
  rw [if_neg (not_ne_iff.mpr hrunning), if_neg fun herror => hconsistent.error_class herror.1 herror.2,
    if_neg fun hresult => hresult.2 (hconsistent.result hresult.1), if_neg fun hknown => hnone hknown.2]
  cases outcome.result with
  | none => exact ⟨_, rfl, changed, rfl, hmoved⟩
  | some result => exact ⟨_, rfl, changed, rfl, hmoved.before, hmoved.get?, rfl, rfl, hmoved.sequences⟩

end InMemoryEvaluationStore

open InMemoryEvaluationStore

instance (status : EvalTaskStatus) : Decidable status.final := inferInstanceAs (Decidable (_ ∧ _))

/-! ## Numbers without a gap -/

/-- `1, 2, 3, ...`. -/
def Contiguous (numbers : List ℕ) : Prop := ∃ n, numbers = List.range' 1 n

theorem Contiguous.left {numbers more : List ℕ} (h : Contiguous (numbers ++ more)) : Contiguous numbers := by
  induction more using List.reverseRecOn with
  | nil => rwa [List.append_nil] at h
  | append_singleton more number ih =>
    refine ih ?_
    obtain ⟨n, hn⟩ := h
    rw [← List.append_assoc] at hn
    cases n with
    | zero => exact absurd (congrArg List.length hn) (by simp)
    | succ n =>
      rw [List.range'_concat] at hn
      exact ⟨n, (List.append_inj' hn rfl).1⟩

theorem Contiguous.nodup {numbers : List ℕ} (h : Contiguous numbers) : numbers.Nodup := by
  obtain ⟨n, rfl⟩ := h
  exact List.nodup_range'

/-! ## What holds of a store and of a run -/

/-- What the store says about the attempt of an episode. -/
def Episode.Agrees (store : InMemoryEvaluationStore τ) (episode : Episode τ) : Prop :=
  match episode.phase with
  | .queued => store.attempts.get? episode.id = none
  | .executing => ∃ record, store.attempts.get? episode.id = some record ∧ record.key = episode.task.key ∧
      record.status = if episode.cancelled then .interrupted else .running
  | .ended => ∃ record, store.attempts.get? episode.id = some record ∧ record.key = episode.task.key ∧
    record.status.final
  | .dropped => store.attempts.get? episode.id = none
  | .raised => False

/-- The attempt with which an episode was made. -/
structure Episode.Made (experiment_id : Text 1 128) (episode : Episode τ) : Prop where
  pending : episode.attempt.status = .pending
  key : episode.attempt.key = episode.task.key
  experiment : episode.attempt.experiment_id = experiment_id

/-- The numbers of the episodes of a task that wait. -/
def waiting (key : TaskKey) (episodes : List (Episode τ)) : List ℕ :=
  episodes.filterMap fun episode =>
    if episode.phase = .queued ∧ episode.task.key = key then some episode.attempt.attempt_seq.1 else none

structure StoreSound (experiment_id : Text 1 128) (store : InMemoryEvaluationStore τ) : Prop where
  coherent : Coherent store
  experiment : ∀ attempt_id record, store.attempts.get? attempt_id = some record → record.experiment_id = experiment_id
  contiguous : ∀ key, Contiguous (store.sequences key)

structure RunSound (experiment_id : Text 1 128) (store : InMemoryEvaluationStore τ) (run : Run τ) : Prop
    extends StoreSound experiment_id store where
  settled : ∀ attempt_id record, store.attempts.get? attempt_id = some record →
    record.status.final ∨ attempt_id ∈ run.episodes.map Episode.id
  ids : (run.episodes.map Episode.id).Nodup
  made : ∀ episode ∈ run.episodes, episode.Made experiment_id
  agrees : ∀ episode ∈ run.episodes, episode.Agrees store
  holding : run.holding ≤ run.config.concurrency
  waiting : run.stop = false → ∀ key, Contiguous (store.sequences key ++ waiting key run.episodes)
  counts : ∀ status, count_of run.status_counts status =
    if status.final then (run.episodes.map Episode.id).countP fun attempt_id =>
      store.status? attempt_id = some status else 0
  calm : run.abandoned = false → ∀ episode ∈ run.episodes, episode.cancelled = false
  stopped : run.abandoned = true → run.stop = true

/-- Between two runs every attempt has a final status. -/
structure IdleSound (experiment_id : Text 1 128) (store : InMemoryEvaluationStore τ) : Prop
    extends StoreSound experiment_id store where
  settled : ∀ attempt_id record, store.attempts.get? attempt_id = some record → record.status.final

def System.Sound (experiment_id : Text 1 128) (system : System τ) : Prop :=
  match system.run with
  | none => IdleSound experiment_id system.store
  | some run => RunSound experiment_id system.store run

section Steps

variable {contract : TelemetryContract τ} {experiment_id : Text 1 128} {store after : InMemoryEvaluationStore τ}
  {run : Run τ} {episode : Episode τ} {front back : List (Episode τ)}

theorem Episode.Agrees.congr (h : episode.Agrees store)
    (hsame : after.attempts.get? episode.id = store.attempts.get? episode.id) : episode.Agrees after := by
  unfold Episode.Agrees at h ⊢
  rw [hsame]
  exact h

theorem status?_congr {attempt_id : UUID} (h : after.attempts.get? attempt_id = store.attempts.get? attempt_id) :
    after.status? attempt_id = store.status? attempt_id := by
  unfold status?
  rw [h]

theorem RunSound.others (h : RunSound experiment_id store run) (hepisodes : run.episodes = front ++ episode :: back)
    (hsame : ∀ other, other ≠ episode.id → after.attempts.get? other = store.attempts.get? other) :
    ∀ other ∈ front ++ back, other.Agrees after := by
  intro other hother
  have hmem : other ∈ run.episodes := by
    rw [hepisodes]
    rcases List.mem_append.mp hother with hother | hother
    · exact List.mem_append_left _ hother
    · exact List.mem_append_right _ (List.mem_cons_of_mem _ hother)
  refine (h.agrees other hmem).congr (hsame _ ?_)
  have hids := h.ids
  rw [hepisodes, List.map_append, List.map_cons] at hids
  intro heq
  have hnot := (List.nodup_middle.mp hids).notMem
  rw [← List.map_append] at hnot
  exact hnot (heq ▸ List.mem_map_of_mem hother)

theorem RunSound.replace (h : RunSound experiment_id store run) (hepisodes : run.episodes = front ++ episode :: back)
    (changed : Episode τ) (hattempt : changed.attempt = episode.attempt) (htask : changed.task = episode.task)
    (hcancelled : run.abandoned = false → changed.cancelled = episode.cancelled)
    (hsame : ∀ other, other ≠ episode.id → after.attempts.get? other = store.attempts.get? other)
    (hstore : StoreSound experiment_id after) (hagrees : changed.Agrees after) {status_counts : Dict EvalTaskStatus ℕ}
    (hholding : (front ++ changed :: back).countP (fun episode => episode.phase = .executing) ≤ run.config.concurrency)
    (hwaiting : run.stop = false → ∀ key,
      Contiguous (after.sequences key ++ Evaluation.waiting key (front ++ changed :: back)))
    (hcounts : ∀ status, count_of status_counts status = if status.final then
      (run.episodes.map Episode.id).countP fun attempt_id => after.status? attempt_id = some status else 0) :
    RunSound experiment_id after { run with episodes := front ++ changed :: back, status_counts := status_counts } := by
  have hid : changed.id = episode.id := by
    unfold Episode.id
    rw [hattempt]
  have hids : (front ++ changed :: back).map Episode.id = run.episodes.map Episode.id := by
    rw [hepisodes, List.map_append, List.map_append, List.map_cons, List.map_cons, hid]
  have hmem : episode ∈ run.episodes := hepisodes ▸ List.mem_append_right _ List.mem_cons_self
  have hold {P : Episode τ → Prop} (hothers : ∀ other ∈ front ++ back, P other) (hchanged : P changed) :
      ∀ other ∈ front ++ changed :: back, P other := by
    intro other hother
    rcases List.mem_append.mp hother with hother | hother
    · exact hothers other (List.mem_append_left _ hother)
    · rcases List.mem_cons.mp hother with rfl | hother
      · exact hchanged
      · exact hothers other (List.mem_append_right _ hother)
  have hsub : ∀ other ∈ front ++ back, other ∈ run.episodes := by
    intro other hother
    rw [hepisodes]
    rcases List.mem_append.mp hother with hother | hother
    · exact List.mem_append_left _ hother
    · exact List.mem_append_right _ (List.mem_cons_of_mem _ hother)
  refine ⟨hstore, ?_, ?_, ?_, ?_, hholding, hwaiting, ?_, ?_, h.stopped⟩
  · intro attempt_id record hget
    dsimp only
    rw [hids]
    by_cases heq : attempt_id = episode.id
    · exact Or.inr (heq ▸ List.mem_map_of_mem hmem)
    · rw [hsame attempt_id heq] at hget
      exact h.settled attempt_id record hget
  · dsimp only
    rw [hids]
    exact h.ids
  · refine hold (fun other hother => h.made other (hsub other hother)) ?_
    obtain ⟨hpending, hkey, hexperiment⟩ := h.made episode hmem
    exact ⟨by rwa [hattempt], by rwa [hattempt, htask], by rwa [hattempt]⟩
  · exact hold (h.others hepisodes hsame) hagrees
  · intro status
    dsimp only
    rw [hids]
    exact hcounts status
  · intro habandoned
    refine hold (fun other hother => h.calm habandoned other (hsub other hother)) ?_
    rw [hcancelled habandoned]
    exact h.calm habandoned episode hmem

theorem RunSound.drop (h : RunSound experiment_id store run) (hepisodes : run.episodes = front ++ episode :: back)
    (phase : Phase) (hphase : phase ≠ .executing) (hstop : run.stop = true)
    (hagrees : ({ episode with phase := phase } : Episode τ).Agrees store) :
    RunSound experiment_id store { run with episodes := front ++ { episode with phase := phase } :: back } := by
  refine h.replace hepisodes { episode with phase := phase } rfl rfl (fun _ => rfl)
    (fun _ _ => rfl) h.toStoreSound hagrees ?_ ?_
    h.counts
  · refine le_trans ?_ h.holding
    unfold Run.holding
    rw [hepisodes, List.countP_append, List.countP_append, List.countP_cons, List.countP_cons]
    simp [hphase]
  · exact fun hgoing => absurd (hstop.symm.trans hgoing) nofun

theorem waiting_append (key : TaskKey) (front back : List (Episode τ)) :
    waiting key (front ++ back) = waiting key front ++ waiting key back := List.filterMap_append

theorem waiting_front {key : TaskKey} (h : ∀ other ∈ front, other.phase ≠ .queued) : waiting key front = [] := by
  unfold waiting
  rw [List.filterMap_eq_nil_iff]
  intro other hother
  rw [if_neg]
  exact fun hqueued => h other hother hqueued.1

theorem waiting_queued {key : TaskKey} (h : episode.phase = .queued) :
    waiting key (episode :: back) =
      (if episode.task.key = key then [episode.attempt.attempt_seq.1] else []) ++ waiting key back := by
  unfold waiting
  rw [List.filterMap_cons]
  by_cases hkey : episode.task.key = key <;> simp [h, hkey]

theorem waiting_started {key : TaskKey} (h : episode.phase ≠ .queued) :
    waiting key (episode :: back) = waiting key back := by
  unfold waiting
  rw [List.filterMap_cons]
  simp [h]

theorem mem_sequences {record : AttemptRecord τ} (h : record ∈ store.attempts.values) :
    record.attempt_seq.1 ∈ store.sequences record.key := by
  unfold InMemoryEvaluationStore.sequences
  exact List.mem_filterMap.mpr ⟨record, h, if_pos rfl⟩

theorem RunSound.start_episode (h : RunSound experiment_id store run)
    (hepisodes : run.episodes = front ++ episode :: back)
    (hfirst : ∀ other ∈ front, other.phase ≠ .queued) (hphase : episode.phase = .queued) (hgoing : run.stop = false) :
    start_episode false episode store = (store.put_attempt episode.id episode.attempt.started,
      { episode with phase := .executing }) := by
  have hmem : episode ∈ run.episodes := hepisodes ▸ List.mem_append_right _ List.mem_cons_self
  have hmade := h.made episode hmem
  have hnew : store.attempts.get? episode.id = none := by
    have hagrees := h.agrees episode hmem
    unfold Episode.Agrees at hagrees
    rwa [hphase] at hagrees
  have hsequence : ∀ existing ∈ store.attempts.values, ¬ SameSequence existing episode.attempt := by
    rintro existing hexisting ⟨-, htask, hmode, hseq⟩
    have hkey : existing.key = episode.task.key := by
      rw [← hmade.key]
      exact Prod.ext htask hmode
    have hnodup := (h.waiting hgoing episode.task.key).nodup
    rw [hepisodes, waiting_append, waiting_front hfirst, waiting_queued hphase, if_pos rfl] at hnodup
    have hin := mem_sequences hexisting
    rw [hkey] at hin
    refine (List.nodup_append.mp hnodup).2.2 _ hin _ List.mem_cons_self ?_
    rw [hseq]
  unfold Evaluation.start_episode
  rw [if_neg Bool.false_ne_true, register_attempt_eq hnew hsequence]
  dsimp only
  have hget : (store.put_attempt episode.id episode.attempt).attempts.get? episode.id = some episode.attempt := by
    rw [get?_put_attempt, if_pos rfl]
  have hmark := mark_running_eq (store.put_attempt episode.id episode.attempt) hget hmade.pending
  unfold Episode.id at hmark ⊢
  rw [hmark]
  dsimp only
  unfold put_attempt
  rw [Dict.set_set]

theorem RunSound.acquires (h : RunSound experiment_id store run) (hepisodes : run.episodes = front ++ episode :: back)
    (hfirst : ∀ other ∈ front, other.phase ≠ .queued) (hphase : episode.phase = .queued)
    (hcancelled : episode.cancelled = false) (hslot : run.holding < run.config.concurrency) :
    RunSound experiment_id (Evaluation.start_episode run.stop episode store).1
      { run with episodes := front ++ (Evaluation.start_episode run.stop episode store).2 :: back } := by
  have hmem : episode ∈ run.episodes := hepisodes ▸ List.mem_append_right _ List.mem_cons_self
  have hagrees := h.agrees episode hmem
  have hmade := h.made episode hmem
  unfold Episode.Agrees at hagrees
  rw [hphase] at hagrees
  dsimp only at hagrees
  by_cases hstop : run.stop = true
  · have heq : Evaluation.start_episode run.stop episode store = (store, { episode with phase := .dropped }) := by
      unfold Evaluation.start_episode
      rw [if_pos hstop]
    rw [heq]
    exact h.drop hepisodes .dropped (by decide) hstop hagrees
  rw [Bool.not_eq_true] at hstop
  have heq := h.start_episode hepisodes hfirst hphase hstop
  rw [← hstop] at heq
  rw [heq]
  -- the attempt's number moves from the queue into the store
  have hnumbers (key : TaskKey) : store.sequences key ++ Evaluation.waiting key run.episodes =
      (store.put_attempt episode.id episode.attempt.started).sequences key ++ Evaluation.waiting key back := by
    have hregister := sequences_register episode.attempt.started hagrees key
    refine Eq.trans ?_ (congrArg (· ++ Evaluation.waiting key back) hregister).symm
    rw [hepisodes, waiting_append, waiting_front hfirst, List.nil_append, waiting_queued hphase, ← List.append_assoc,
      ← hmade.key]
    rfl
  have hput : StoreSound experiment_id (store.put_attempt episode.id episode.attempt.started) := by
    refine ⟨h.coherent.put_attempt episode.attempt.started rfl fun hsucceeded => ?_, ?_, fun key => ?_⟩
    · simp [status?, hagrees] at hsucceeded
    · intro attempt_id record hget
      rw [get?_put_attempt] at hget
      split_ifs at hget
      · cases hget
        exact hmade.experiment
      · exact h.experiment attempt_id record hget
    · exact (hnumbers key ▸ h.waiting hstop key).left
  refine h.replace hepisodes { episode with phase := .executing } rfl rfl (fun _ => rfl) ?_ hput ?_ ?_ ?_ ?_
  · intro other hother
    rw [get?_put_attempt, if_neg hother]
  · refine ⟨episode.attempt.started, ?_, hmade.key, ?_⟩
    · rw [get?_put_attempt]
      exact if_pos rfl
    · rw [hcancelled]
      rfl
  · refine le_trans ?_ hslot
    unfold Run.holding
    rw [hepisodes, List.countP_append, List.countP_append, List.countP_cons, List.countP_cons]
    simp [hphase]
    omega
  · intro _ key
    rw [waiting_append, waiting_front hfirst, List.nil_append, waiting_started Phase.noConfusion]
    exact hnumbers key ▸ h.waiting hstop key
  · intro status
    rw [h.counts status]
    split_ifs with hfinal
    · refine List.countP_congr fun attempt_id _ => ?_
      rw [status?_put_attempt]
      split_ifs with hid
      · subst hid
        have hnone : store.status? episode.id = none := by
          unfold status?
          rw [hagrees]
          rfl
        have hne : status ≠ .running := hfinal.2
        simp [hnone, AttemptRecord.started, Ne.symm hne]
      · rfl
    · rfl

theorem countP_one_more {ids : List UUID} (hids : ids.Nodup) {id : UUID} (hmem : id ∈ ids) {p q : UUID → Bool}
    (hother : ∀ other, other ≠ id → q other = p other) (hp : p id = false) (hq : q id = true) :
    ids.countP q = ids.countP p + 1 := by
  induction ids with
  | nil => exact absurd hmem List.not_mem_nil
  | cons first ids ih =>
    obtain ⟨hfirst, hids⟩ := List.nodup_cons.mp hids
    rw [List.countP_cons, List.countP_cons]
    rcases List.mem_cons.mp hmem with rfl | hmem
    · have hrest : ids.countP q = ids.countP p := by
        refine List.countP_congr fun other hin => ?_
        rw [hother other fun heq => hfirst (heq ▸ hin)]
      simp [hp, hq, hrest]
    · have hne : first ≠ id := fun heq => hfirst (heq ▸ hmem)
      rw [ih hids hmem, hother first hne]
      omega

/-- What the end of an attempt makes of the store and of the counts. -/
structure Finished (experiment_id : Text 1 128) (store after : InMemoryEvaluationStore τ) (run : Run τ)
    (episode : Episode τ)
    (status : EvalTaskStatus) : Prop where
  sound : StoreSound experiment_id after
  others : ∀ other, other ≠ episode.id → after.attempts.get? other = store.attempts.get? other
  own : ∃ record, after.attempts.get? episode.id = some record ∧ record.key = episode.task.key ∧ record.status = status
  sequences : ∀ key, after.sequences key = store.sequences key
  counts : ∀ other, count_of (count run.status_counts status) other = if other.final then
    (run.episodes.map Episode.id).countP fun attempt_id => after.status? attempt_id = some other else 0

theorem count_of_count (status_counts : Dict EvalTaskStatus ℕ) (status other : EvalTaskStatus) :
    count_of (count status_counts status) other = count_of status_counts other + if other = status then 1 else 0 := by
  unfold count count_of
  rw [Dict.get?_set]
  split_ifs with heq
  · subst heq
    rfl
  · rfl

theorem RunSound.finish_attempt (h : RunSound experiment_id store run) (hmem : episode ∈ run.episodes)
    (hphase : episode.phase = .executing) (hcancelled : episode.cancelled = false) {outcome : EpisodeOutcome τ}
    (hconsistent : outcome.Consistent) (now : Instant) :
    ∃ after, store.finish_attempt episode.id outcome.status outcome.error_class outcome.telemetry outcome.result now =
      (.ok (), after) ∧ Finished experiment_id store after run episode outcome.status := by
  have hagrees := h.agrees episode hmem
  unfold Episode.Agrees at hagrees
  rw [hphase, hcancelled] at hagrees
  obtain ⟨record, hget, hkey, hrunning⟩ := hagrees
  have hid := h.coherent.keyed _ _ hget
  rw [← hid] at hget
  obtain ⟨after, hfinish, changed, hstatus, hmoved⟩ := finish_attempt_eq h.coherent hget hrunning hconsistent now
  rw [hid] at hfinish hget hmoved
  have hothers (other : UUID) (hne : other ≠ episode.id) : after.attempts.get? other = store.attempts.get? other := by
    rw [hmoved.get?, if_neg hne]
  have hown : after.attempts.get? episode.id = some changed := by
    rw [hmoved.get?, if_pos rfl]
  have hcoherent : Coherent after := by
    have happly := h.coherent.apply ⟨outcome.telemetry, fun _ => Dict.empty, fun _ => none⟩
      (.finish_attempt episode.id outcome.status outcome.error_class outcome.telemetry outcome.result now)
    simp only [Operation.apply, hfinish] at happly
    exact happly
  refine ⟨after, hfinish, ⟨hcoherent, ?_, ?_⟩, hothers, ⟨changed, hown, hmoved.key.trans hkey, hstatus⟩,
    hmoved.sequences, ?_⟩
  · intro attempt_id found hfound
    by_cases heq : attempt_id = episode.id
    · subst heq
      obtain rfl := Option.some.inj (hown.symm.trans hfound)
      rw [hmoved.experiment]
      exact h.experiment _ _ hget
    · rw [hothers attempt_id heq] at hfound
      exact h.experiment attempt_id found hfound
  · intro key
    rw [hmoved.sequences]
    exact h.contiguous key
  · intro other
    have hbefore : store.status? episode.id = some .running := by
      unfold status?
      rw [hget, Option.map_some]
      exact congrArg some hrunning
    have hafter : after.status? episode.id = some outcome.status := by
      unfold status?
      rw [hown, Option.map_some, hstatus]
    rw [count_of_count, h.counts other]
    by_cases heq : other = outcome.status
    · subst heq
      rw [if_pos hconsistent.final, if_pos hconsistent.final, if_pos rfl]
      refine (countP_one_more h.ids (List.mem_map_of_mem hmem) ?_ ?_ ?_).symm
      · intro id hne
        rw [status?_congr (hothers id hne)]
      · rw [hbefore]
        simpa using Ne.symm hconsistent.final.2
      · rw [hafter]
        simp
    · rw [if_neg heq, Nat.add_zero]
      split_ifs with hfinal
      · refine List.countP_congr fun id _ => ?_
        by_cases hid : id = episode.id
        · subst hid
          rw [hbefore, hafter]
          simp [Ne.symm heq, Ne.symm hfinal.2]
        · rw [status?_congr (hothers id hid)]
      · rfl

theorem RunSound.finish_episode (h : RunSound experiment_id store run) (hmem : episode ∈ run.episodes)
    (hphase : episode.phase = .executing) (hcancelled : episode.cancelled = false) (contract : TelemetryContract τ)
    (outcome : Option (EpisodeOutcome τ)) (now : Instant) (hconsistent : ∀ o ∈ outcome, o.Consistent) :
    ∃ after status, finish_episode contract outcome now episode store run.status_counts =
      (after, count run.status_counts status, { episode with phase := .ended }) ∧ status.final ∧
      Finished experiment_id store after run episode status := by
  have houtcome : (outcome.getD (infrastructure_outcome contract)).Consistent := by
    cases outcome with
    | none => exact ⟨⟨nofun, nofun⟩, fun _ => nofun, nofun⟩
    | some outcome => exact hconsistent outcome rfl
  obtain ⟨after, hfinish, hfinished⟩ := h.finish_attempt hmem hphase hcancelled houtcome now
  refine ⟨after, _, ?_, houtcome.final, hfinished⟩
  unfold Evaluation.finish_episode
  dsimp only
  rw [hfinish]

theorem RunSound.finishes (h : RunSound experiment_id store run) (hepisodes : run.episodes = front ++ episode :: back)
    (hphase : episode.phase = .executing) (hcancelled : episode.cancelled = false)
    (outcome : Option (EpisodeOutcome τ)) (now : Instant) (hconsistent : ∀ o ∈ outcome, o.Consistent) :
    RunSound experiment_id (Evaluation.finish_episode contract outcome now episode store run.status_counts).1 { run with
      episodes := front ++ (Evaluation.finish_episode contract outcome now episode store run.status_counts).2.2 :: back
      status_counts := (Evaluation.finish_episode contract outcome now episode store run.status_counts).2.1 } := by
  have hmem : episode ∈ run.episodes := hepisodes ▸ List.mem_append_right _ List.mem_cons_self
  obtain ⟨after, status, heq, hfinal, hfinished⟩ :=
    h.finish_episode hmem hphase hcancelled contract outcome now hconsistent
  rw [heq]
  refine h.replace hepisodes { episode with phase := .ended } rfl rfl
    (fun _ => rfl) hfinished.others hfinished.sound ?_ ?_ ?_
    hfinished.counts
  · obtain ⟨record, hget, hkey, hstatus⟩ := hfinished.own
    exact ⟨record, hget, hkey, hstatus ▸ hfinal⟩
  · refine le_trans ?_ h.holding
    unfold Run.holding
    rw [hepisodes, List.countP_append, List.countP_append, List.countP_cons, List.countP_cons]
    simp
  · intro hgoing key
    have hwaiting := h.waiting hgoing key
    rw [hepisodes, waiting_append, waiting_started (by rw [hphase]; exact nofun)] at hwaiting
    rw [hfinished.sequences, waiting_append, waiting_started (by exact nofun)]
    exact hwaiting

/-! ### Abandoned episodes -/

theorem finish_attempt_unknown {attempt_id : UUID} (h : store.attempts.get? attempt_id = none) (status : EvalTaskStatus)
    (telemetry : τ) (now : Instant) : store.finish_attempt attempt_id status none telemetry none now =
      (.error (.conflict "status_transition_conflict"), store) := by
  unfold InMemoryEvaluationStore.finish_attempt
  rw [h]
  rfl

theorem RunSound.mark_abandoned (contract : TelemetryContract τ) (now : Instant) (front episodes : List (Episode τ))
    (hcalm : ∀ episode ∈ episodes, episode.cancelled = false)
    (h : RunSound experiment_id store run) (hepisodes : run.episodes = front ++ episodes)
    (hstop : run.stop = true) (habandoned : run.abandoned = true) :
    RunSound experiment_id (mark_abandoned contract now episodes store run.status_counts).1 { run with
      episodes := front ++ (mark_abandoned contract now episodes store run.status_counts).2.2
      status_counts := (mark_abandoned contract now episodes store run.status_counts).2.1 } := by
  induction episodes generalizing front store run with
  | nil =>
    unfold Evaluation.mark_abandoned
    dsimp only
    rw [← hepisodes]
    exact h
  | cons episode episodes ih =>
    obtain ⟨hepisode, hrest⟩ := List.forall_mem_cons.mp hcalm
    have hmem : episode ∈ run.episodes := hepisodes ▸ List.mem_append_right _ List.mem_cons_self
    have hmove (moved : Episode τ) : front ++ moved :: episodes = front ++ [moved] ++ episodes := by simp
    unfold Evaluation.mark_abandoned
    split_ifs with hdone
    · rw [hmove] at hepisodes
      have hnext := ih _ hrest h hepisodes hstop habandoned
      rw [List.append_assoc] at hnext
      exact hnext
    · have hholding : (front ++ { episode with cancelled := true } :: episodes).countP
        (fun episode => episode.phase = .executing) ≤
            run.config.concurrency := by
        refine le_trans ?_ h.holding
        unfold Run.holding
        rw [hepisodes, List.countP_append, List.countP_append, List.countP_cons, List.countP_cons]
      have hagrees := h.agrees episode hmem
      have hphase : episode.phase = .queued ∨ episode.phase = .executing := by
        unfold Episode.done at hdone
        rw [decide_eq_true_eq, not_and_or, not_ne_iff, not_ne_iff] at hdone
        exact hdone
      rcases hphase with hphase | hphase
      · unfold Episode.Agrees at hagrees
        rw [hphase] at hagrees
        rw [finish_attempt_unknown hagrees]
        have hcancel : RunSound experiment_id store
          { run with episodes := front ++ { episode with cancelled := true } :: episodes } := by
          refine h.replace hepisodes { episode with cancelled := true } rfl rfl ?_ (fun _ _ => rfl) h.toStoreSound ?_
            hholding ?_ h.counts
          · exact fun hfalse => absurd (habandoned.symm.trans hfalse) Bool.noConfusion
          · unfold Episode.Agrees
            simp only [hphase]
            exact hagrees
          · exact fun hfalse => absurd (hstop.symm.trans hfalse) Bool.noConfusion
        have hnext := ih _ hrest hcancel (hmove _) hstop habandoned
        rw [List.append_assoc] at hnext
        exact hnext
      · have hconsistent : (⟨.interrupted, none, none, contract.blank⟩ : EpisodeOutcome τ).Consistent := by
          refine ⟨⟨EvalTaskStatus.noConfusion, EvalTaskStatus.noConfusion⟩, ?_, ?_⟩
          · exact fun hsome => absurd hsome Bool.noConfusion
          · exact fun hsome => absurd hsome Bool.noConfusion
        obtain ⟨after, hfinish, hfinished⟩ := h.finish_attempt hmem hphase hepisode hconsistent now
        dsimp only at hfinish hfinished
        rw [hfinish]
        have hcancel : RunSound experiment_id after { run with
            episodes := front ++ { episode with cancelled := true } :: episodes
            status_counts := count run.status_counts .interrupted } := by
          refine h.replace hepisodes { episode with cancelled := true } rfl rfl ?_ hfinished.others hfinished.sound ?_
            hholding ?_ hfinished.counts
          · exact fun hfalse => absurd (habandoned.symm.trans hfalse) Bool.noConfusion
          · obtain ⟨record, hget, hkey, hstatus⟩ := hfinished.own
            unfold Episode.Agrees
            simp only [hphase]
            exact ⟨record, hget, hkey, hstatus⟩
          · exact fun hfalse => absurd (hstop.symm.trans hfalse) Bool.noConfusion
        have hnext := ih _ hrest hcancel (hmove _) hstop habandoned
        rw [List.append_assoc] at hnext
        exact hnext

theorem RunSound.abandons (contract : TelemetryContract τ) (now : Instant) (h : RunSound experiment_id store run)
    (hstop : run.stop = true) (hfirst : run.abandoned = false) :
    RunSound experiment_id (Evaluation.mark_abandoned contract now run.episodes store run.status_counts).1 { run with
      abandoned := true
      episodes := (Evaluation.mark_abandoned contract now run.episodes store run.status_counts).2.2
      status_counts := (Evaluation.mark_abandoned contract now run.episodes store run.status_counts).2.1 } := by
  have habandoned : RunSound experiment_id store { run with abandoned := true } :=
    { h with calm := nofun, stopped := fun _ => hstop }
  exact habandoned.mark_abandoned contract now [] run.episodes (h.calm hfirst) rfl hstop rfl

theorem RunSound.cancels (h : RunSound experiment_id store run) (hepisodes : run.episodes = front ++ episode :: back)
    (hcancelled : episode.cancelled = true) (hdone : episode.done = false) :
    RunSound experiment_id store { run with episodes := front ++ episode.cancel :: back } := by
  have hmem : episode ∈ run.episodes := hepisodes ▸ List.mem_append_right _ List.mem_cons_self
  have hstop : run.stop = true := by
    refine h.stopped ?_
    rw [← Bool.not_eq_false]
    intro hfirst
    exact absurd (hcancelled.symm.trans (h.calm hfirst episode hmem)) nofun
  have hagrees := h.agrees episode hmem
  unfold Episode.cancel
  split_ifs with hphase
  · refine h.drop hepisodes .ended nofun hstop ?_
    unfold Episode.Agrees at hagrees
    rw [hphase, hcancelled] at hagrees
    obtain ⟨record, hget, hkey, hstatus⟩ := hagrees
    refine ⟨record, hget, hkey, ?_⟩
    rw [hstatus]
    exact ⟨nofun, nofun⟩
  · refine h.drop hepisodes .dropped nofun hstop ?_
    have hqueued : episode.phase = .queued := by
      unfold Episode.done at hdone
      simpa [hphase] using hdone
    unfold Episode.Agrees at hagrees
    rwa [hqueued] at hagrees

theorem RunSound.returns (h : RunSound experiment_id store run) (hdone : ∀ episode ∈ run.episodes, episode.done) :
    IdleSound experiment_id store := by
  refine ⟨h.toStoreSound, fun attempt_id record hget => ?_⟩
  rcases h.settled attempt_id record hget with hfinal | hmem
  · exact hfinal
  obtain ⟨episode, hin, rfl⟩ := List.mem_map.mp hmem
  have hagrees := h.agrees episode hin
  have hepisode := hdone episode hin
  unfold Episode.Agrees at hagrees
  unfold Episode.done at hepisode
  cases hphase : episode.phase with
  | ended =>
    rw [hphase] at hagrees
    obtain ⟨found, hfound, -, hfinal⟩ := hagrees
    obtain rfl := Option.some.inj (hfound.symm.trans hget)
    exact hfinal
  | dropped =>
    rw [hphase] at hagrees
    exact absurd (hagrees.symm.trans hget) nofun
  | raised =>
    rw [hphase] at hagrees
    exact hagrees.elim
  | _ => simp [hphase] at hepisode

end Steps

/-! ## The first numbers of a run -/

section Begin

variable {store : InMemoryEvaluationStore τ} {experiment_id : Text 1 128} {key : TaskKey}

theorem newest_none {latest : Dict TaskKey (AttemptRecord τ)} {record : AttemptRecord τ}
    (h : latest.get? record.key = none) : newest latest record = latest.set record.key record := by
  unfold newest
  rw [h]

theorem newest_some {latest : Dict TaskKey (AttemptRecord τ)} {record other : AttemptRecord τ}
    (h : latest.get? record.key = some other) : newest latest record =
      if record.attempt_seq > other.attempt_seq then latest.set record.key record else latest := by
  unfold newest
  rw [h]

theorem newest_other {latest : Dict TaskKey (AttemptRecord τ)} {record : AttemptRecord τ} (h : record.key ≠ key) :
    (newest latest record).get? key = latest.get? key := by
  cases hget : latest.get? record.key with
  | none => rw [newest_none hget, Dict.get?_set_of_ne (Ne.symm h)]
  | some other =>
    rw [newest_some hget]
    split_ifs
    · rw [Dict.get?_set_of_ne (Ne.symm h)]
    · rfl

theorem latest_number (key : TaskKey) (records : List (AttemptRecord τ)) (skip : AttemptRecord τ → Prop)
    [DecidablePred skip]
    (hskip : ∀ record ∈ records, record.key = key → ¬ skip record) {n : ℕ}
    (hnumbers : records.filterMap (fun record => if record.key = key then some record.attempt_seq.1 else none) =
      List.range' 1 n) :
    ((records.foldl (fun latest record => if skip record then latest else newest latest record) Dict.empty).get?
      key).map
      (fun record => record.attempt_seq.1) = if n = 0 then none else some n := by
  induction records using List.reverseRecOn generalizing n with
  | nil =>
    obtain rfl : n = 0 := by
      have hlength := congrArg List.length hnumbers
      simpa using hlength.symm
    rfl
  | append_singleton records record ih =>
    have hbefore := fun other hother => hskip other (List.mem_append_left _ hother)
    have hlast := hskip record (List.mem_append_right _ List.mem_cons_self)
    rw [List.filterMap_append, List.filterMap_cons, List.filterMap_nil] at hnumbers
    rw [List.foldl_append, List.foldl_cons, List.foldl_nil]
    by_cases hkey : record.key = key
    · subst hkey
      rw [if_pos rfl] at hnumbers
      cases n with
      | zero => exact absurd (congrArg List.length hnumbers) (by simp)
      | succ n =>
        rw [List.range'_concat] at hnumbers
        obtain ⟨hrest, hnumber⟩ := List.append_inj' hnumbers rfl
        have hget := ih hbefore hrest
        have hseq : record.attempt_seq.1 = n + 1 := by
          have hhead := List.singleton_inj.mp hnumber
          omega
        rw [if_neg (hlast rfl), if_neg (Nat.succ_ne_zero n)]
        cases hother : (records.foldl (fun latest record =>
            if skip record then latest else newest latest record) Dict.empty).get? record.key with
        | none => rw [newest_none hother, Dict.get?_set_self, Option.map_some, hseq]
        | some other =>
          rw [hother, Option.map_some] at hget
          rw [newest_some hother]
          have hless : record.attempt_seq > other.attempt_seq := by
            split_ifs at hget
            · have hn := Option.some.inj hget
              show other.attempt_seq.1 < record.attempt_seq.1
              omega
          rw [if_pos hless, Dict.get?_set_self, Option.map_some, hseq]
    · rw [if_neg hkey, List.append_nil] at hnumbers
      rw [← ih hbefore hnumbers]
      split_ifs
      · rfl
      · rw [newest_other hkey]

theorem latest_eq (store : InMemoryEvaluationStore τ) (experiment_id : String) :
    store.latest experiment_id = store.attempts.values.foldl (fun latest record =>
      if record.experiment_id.text ≠ experiment_id ∨ record.key ∈ store.completed_tasks experiment_id then latest
      else newest latest record) Dict.empty := by
  unfold latest
  congr 1
  refine funext fun latest => funext fun record => ?_
  by_cases hexperiment : record.experiment_id.text ≠ experiment_id <;> simp [hexperiment]

theorem newest_keyed (records : List (AttemptRecord τ)) (skip : AttemptRecord τ → Prop) [DecidablePred skip]
    {record : AttemptRecord τ} (h : (records.foldl (fun latest record =>
      if skip record then latest else newest latest record) Dict.empty).get? key = some record) : record.key = key := by
  induction records using List.reverseRecOn with
  | nil => cases h
  | append_singleton records last ih =>
    rw [List.foldl_append, List.foldl_cons, List.foldl_nil] at h
    split_ifs at h
    · exact ih h
    · by_cases hkey : last.key = key
      · subst hkey
        cases hother : (records.foldl (fun latest record =>
            if skip record then latest else newest latest record) Dict.empty).get? last.key with
        | none =>
          rw [newest_none hother, Dict.get?_set_self] at h
          cases h
          rfl
        | some other =>
          rw [newest_some hother] at h
          split_ifs at h
          · rw [Dict.get?_set_self] at h
            cases h
            rfl
          · exact ih h
      · rw [newest_other hkey] at h
        exact ih h

theorem next_sequence_get? {unfinished : List (AttemptRecord τ)} (hkeys : (unfinished.map AttemptRecord.key).Nodup)
    (key : TaskKey) : (next_sequence unfinished).get? key =
      (unfinished.find? fun record => record.key = key).map fun record => record.attempt_seq.next := by
  unfold next_sequence
  induction unfinished using List.reverseRecOn with
  | nil => rfl
  | append_singleton unfinished record ih =>
    rw [List.map_append, List.nodup_append] at hkeys
    rw [List.foldl_append, List.foldl_cons, List.foldl_nil, Dict.get?_set, List.find?_append]
    split_ifs with heq
    · subst heq
      have hnone : (unfinished.find? fun other => other.key = record.key) = none := by
        refine List.find?_eq_none.mpr fun other hother => ?_
        have hne := hkeys.2.2 other.key (List.mem_map_of_mem hother) record.key List.mem_cons_self
        simpa using hne
      simp [hnone]
    · rw [ih hkeys.1]
      simp [Ne.symm heq]

theorem latest_keyed {record : AttemptRecord τ} (h : (store.latest experiment_id.text).get? key = some record) :
    record.key = key := by
  rw [latest_eq] at h
  exact newest_keyed _ _ h

theorem unfinished_perm (store : InMemoryEvaluationStore τ) (experiment_id : String) :
    (store.unfinished_attempts experiment_id).Perm (store.latest experiment_id).values := List.perm_insertionSort _ _

theorem unfinished_keys (store : InMemoryEvaluationStore τ) (experiment_id : Text 1 128) :
    ((store.unfinished_attempts experiment_id.text).map AttemptRecord.key).Nodup := by
  rw [((unfinished_perm store experiment_id.text).map _).nodup_iff]
  have hkeys : (store.latest experiment_id.text).values.map AttemptRecord.key =
      (store.latest experiment_id.text).items.map Prod.fst := by
    unfold Dict.values
    rw [List.map_map]
    exact List.map_congr_left fun item hitem => latest_keyed (Dict.get?_eq_some.mpr hitem)
  rw [hkeys]
  exact (store.latest experiment_id.text).nodup

theorem find_unfinished (store : InMemoryEvaluationStore τ) (experiment_id : Text 1 128) (key : TaskKey) :
    (store.unfinished_attempts experiment_id.text).find? (fun record => record.key = key) =
      (store.latest experiment_id.text).get? key := by
  have hmem (record : AttemptRecord τ) : record ∈ store.unfinished_attempts experiment_id.text ↔
      (store.latest experiment_id.text).get? record.key = some record := by
    rw [(unfinished_perm store experiment_id.text).mem_iff]
    unfold Dict.values
    constructor
    · intro h
      obtain ⟨item, hitem, rfl⟩ := List.mem_map.mp h
      have hget := Dict.get?_eq_some.mpr hitem
      rwa [latest_keyed hget]
    · intro h
      exact List.mem_map.mpr ⟨_, Dict.get?_eq_some.mp h, rfl⟩
  cases hget : (store.latest experiment_id.text).get? key with
  | none =>
    refine List.find?_eq_none.mpr fun record hrecord => ?_
    rw [hmem] at hrecord
    rw [decide_eq_true_eq]
    rintro rfl
    exact absurd (hget.symm.trans hrecord) nofun
  | some record =>
    cases hfind : (store.unfinished_attempts experiment_id.text).find? fun record => record.key = key with
    | none =>
      have hkey := latest_keyed hget
      have hin := (hmem record).mpr (hkey.symm ▸ hget)
      exact absurd (List.find?_eq_none.mp hfind record hin) (by simp [hkey])
    | some found =>
      have hkey : found.key = key := by simpa using List.find?_some hfind
      have hin := (hmem found).mp (List.mem_of_find?_eq_some hfind)
      rw [hkey, hget] at hin
      exact hin.symm

/-- A run numbers the attempts of a task on where its last attempt left off. -/
theorem StoreSound.next_sequence (h : StoreSound experiment_id store)
    (hkey : key ∉ store.completed_tasks experiment_id.text)
    {n : ℕ} (hnumbers : store.sequences key = List.range' 1 n) :
    (((next_sequence (store.unfinished_attempts experiment_id.text)).get? key).getD Sequence.first).1 = n + 1 := by
  have hlatest := latest_number key store.attempts.values
    (fun record => record.experiment_id.text ≠ experiment_id.text ∨
      record.key ∈ store.completed_tasks experiment_id.text)
    ?_ hnumbers
  · rw [← latest_eq] at hlatest
    rw [next_sequence_get? (unfinished_keys store experiment_id), find_unfinished]
    cases hget : (store.latest experiment_id.text).get? key with
    | none =>
      rw [hget] at hlatest
      split_ifs at hlatest with hn
      · rw [hn]
        rfl
      · cases hlatest
    | some record =>
      rw [hget] at hlatest
      split_ifs at hlatest with hn
      · cases hlatest
      · have hseq := Option.some.inj hlatest
        exact congrArg (· + 1) hseq
  · intro record hrecord hsame hskip
    obtain ⟨item, hitem, rfl⟩ := List.mem_map.mp hrecord
    rcases hskip with hskip | hskip
    · exact hskip (congrArg _ (h.experiment item.1 item.2 (Dict.get?_eq_some.mpr hitem)))
    · exact hkey (hsame ▸ hskip)

section Create

variable {contract : TelemetryContract τ} {run_id : UUID} {next : Dict TaskKey Sequence} {queue : List EpisodeTask}
  {tickets : List (UUID × Instant)}

theorem mem_create_episodes {episode : Episode τ}
    (h : episode ∈ create_episodes contract experiment_id run_id next queue tickets) :
    episode.phase = .queued ∧ episode.cancelled = false ∧ episode.Made experiment_id ∧ episode.task ∈ queue ∧
      ∃ ticket ∈ tickets, episode.id = ticket.1 := by
  induction queue generalizing next tickets with
  | nil =>
    unfold create_episodes at h
    cases h
  | cons task queue ih =>
    cases tickets with
    | nil =>
      unfold create_episodes at h
      cases h
    | cons ticket tickets =>
      unfold create_episodes at h
      rcases List.mem_cons.mp h with rfl | h
      · exact ⟨rfl, rfl, ⟨rfl, rfl, rfl⟩, List.mem_cons_self, ticket, List.mem_cons_self, rfl⟩
      · obtain ⟨hphase, hcancelled, hmade, htask, other, hother, hid⟩ := ih h
        exact ⟨hphase, hcancelled, hmade, List.mem_cons_of_mem _ htask, other, List.mem_cons_of_mem _ hother, hid⟩

theorem create_episodes_ids :
    ((create_episodes contract experiment_id run_id next queue tickets).map Episode.id).Sublist
    (tickets.map Prod.fst) := by
  induction queue generalizing next tickets with
  | nil =>
    unfold create_episodes
    exact List.nil_sublist _
  | cons task queue ih =>
    cases tickets with
    | nil =>
      unfold create_episodes
      exact List.nil_sublist _
    | cons ticket tickets =>
      unfold create_episodes
      exact ih.cons_cons _

theorem create_episodes_tasks :
    ((create_episodes contract experiment_id run_id next queue tickets).map Episode.task).Sublist
    queue := by
  induction queue generalizing next tickets with
  | nil =>
    unfold create_episodes
    exact List.nil_sublist _
  | cons task queue ih =>
    cases tickets with
    | nil =>
      unfold create_episodes
      exact List.nil_sublist _
    | cons ticket tickets =>
      unfold create_episodes
      exact ih.cons_cons _

theorem create_episodes_waiting (contract : TelemetryContract τ) (experiment_id : Text 1 128) (run_id : UUID)
    (next : Dict TaskKey Sequence) (queue : List EpisodeTask) (tickets : List (UUID × Instant)) (key : TaskKey) :
    ∃ m, waiting key (create_episodes contract experiment_id run_id next queue tickets) =
      List.range' ((next.get? key).getD Sequence.first).1 m := by
  induction queue generalizing next tickets with
  | nil =>
    unfold create_episodes
    exact ⟨0, rfl⟩
  | cons task queue ih =>
    cases tickets with
    | nil =>
      unfold create_episodes
      exact ⟨0, rfl⟩
    | cons ticket tickets =>
      unfold create_episodes
      dsimp only
      obtain ⟨m, hm⟩ := ih (next.set task.key ((next.get? task.key).getD Sequence.first).next) tickets
      rw [waiting_queued rfl]
      dsimp only
      rw [hm, Dict.get?_set]
      by_cases hkey : task.key = key
      · subst hkey
        rw [if_pos rfl, if_pos rfl]
        exact ⟨m + 1, rfl⟩
      · rw [if_neg hkey, if_neg (Ne.symm hkey)]
        exact ⟨m, rfl⟩

end Create

theorem register_experiment_spec (experiment_id purpose config_hash : String) (store : InMemoryEvaluationStore τ) :
    ∃ experiments, (store.register_experiment experiment_id purpose config_hash).2 =
      { store with experiments := experiments } := by
  unfold register_experiment
  split
  · split_ifs
    · exact ⟨store.experiments, rfl⟩
    · exact ⟨store.experiments, rfl⟩
  · exact ⟨_, rfl⟩

theorem ordered_queue_perm (random : Shuffle) (config : RunnerConfig) (exclude : Finset TaskKey) :
    (ordered_queue random config exclude).Perm (config.remaining exclude) := by
  unfold ordered_queue
  split_ifs
  · exact (random.perm _ _).trans (List.perm_insertionSort _ _)
  · exact List.perm_insertionSort _ _

theorem mem_remaining {config : RunnerConfig} {exclude : Finset TaskKey} {task : EpisodeTask} :
    task ∈ config.remaining exclude ↔ task ∈ config.task_list ∧ task.key ∉ exclude := by
  unfold RunnerConfig.remaining
  rw [List.mem_filter, decide_eq_true_eq]

theorem StoreSound.experiments (h : StoreSound experiment_id store) (experiments : Dict String (String × String)) :
    StoreSound experiment_id { store with experiments := experiments } :=
  ⟨⟨h.coherent.keyed, h.coherent.succeeded⟩, h.experiment, h.contiguous⟩

theorem IdleSound.begins (h : IdleSound experiment_id store) (contract : TelemetryContract τ) (random : Shuffle)
    {config : RunnerConfig} (hexperiment : config.experiment_id = experiment_id) (run_id : UUID) (stop : Bool)
    {tickets : List (UUID × Instant)} (hfresh : FreshTickets tickets store) :
    (begin_run contract random config run_id stop tickets store).Sound experiment_id := by
  obtain ⟨experiments, hregister⟩ :=
    register_experiment_spec config.experiment_id.text config.purpose config.config_hash.text store
  have hstore := h.toStoreSound.experiments experiments
  unfold begin_run
  split
  · rename_i registered heq
    rw [heq] at hregister
    dsimp only at hregister
    subst hregister
    exact ⟨hstore, h.settled⟩
  rename_i registered heq
  rw [heq] at hregister
  dsimp only at hregister ⊢
  subst hregister hexperiment
  have hempty : ∀ status, count_of Dict.empty status = 0 := fun _ => rfl
  have hgone : (run : Run τ) → run.episodes = [] → run.stop = true → run.status_counts = Dict.empty →
      RunSound config.experiment_id { store with experiments := experiments } run := by
    intro run hepisodes hstop hcounts
    refine ⟨hstore, fun attempt_id record hget => Or.inl (h.settled attempt_id record hget), ?_, ?_, ?_, ?_, ?_, ?_,
      ?_, ?_⟩
    · simp [hepisodes]
    · simp [hepisodes]
    · simp [hepisodes]
    · simp [Run.holding, hepisodes]
    · exact fun hgoing => absurd (hstop.symm.trans hgoing) nofun
    · simp [hepisodes, hcounts, hempty]
    · simp [hepisodes]
    · exact fun _ => hstop
  unfold System.Sound
  dsimp only
  cases stop with
  | true => exact hgone _ rfl rfl rfl
  | false =>
    rw [if_neg Bool.false_ne_true]
    refine ⟨hstore, fun attempt_id record hget => Or.inl (h.settled attempt_id record hget), ?_, ?_, ?_, ?_, ?_, ?_, ?_,
      nofun⟩
    · exact create_episodes_ids.nodup hfresh.nodup
    · exact fun episode hepisode => (mem_create_episodes hepisode).2.2.1
    · intro episode hepisode
      obtain ⟨hphase, -, -, -, ticket, hticket, hid⟩ := mem_create_episodes hepisode
      unfold Episode.Agrees
      rw [hphase, hid]
      exact hfresh.fresh ticket hticket
    · refine (Nat.le_of_eq (List.countP_eq_zero.mpr fun episode hepisode => ?_)).trans (Nat.zero_le _)
      rw [(mem_create_episodes hepisode).1]
      exact nofun
    · intro _ key
      obtain ⟨n, hn⟩ := h.contiguous key
      dsimp only
      by_cases hkey : key ∈ store.completed_tasks config.experiment_id.text
      · have hnone : waiting key (create_episodes contract config.experiment_id run_id
            (next_sequence (unfinished_attempts config.experiment_id.text { store with experiments := experiments }))
            (ordered_queue random config
              (completed_tasks config.experiment_id.text { store with experiments := experiments }))
            tickets) = [] := by
          refine List.filterMap_eq_nil_iff.mpr fun episode hepisode => if_neg ?_
          rintro ⟨-, rfl⟩
          have htask := (ordered_queue_perm _ _ _).mem_iff.mp (mem_create_episodes hepisode).2.2.2.1
          exact absurd hkey (mem_remaining.mp htask).2
        rw [hnone, List.append_nil]
        exact h.contiguous key
      · obtain ⟨m, hm⟩ := create_episodes_waiting contract config.experiment_id run_id
          (next_sequence (unfinished_attempts config.experiment_id.text { store with experiments := experiments }))
          (ordered_queue random config
            (completed_tasks config.experiment_id.text { store with experiments := experiments }))
          tickets key
        rw [hstore.next_sequence hkey hn] at hm
        refine ⟨n + m, ?_⟩
        rw [hm]
        refine (congrArg (· ++ List.range' (n + 1) m) hn).trans ?_
        rw [Nat.add_comm n 1, List.range'_append_1]
    · intro status
      rw [hempty]
      split_ifs
      · refine (List.countP_eq_zero.mpr fun id hid => ?_).symm
        obtain ⟨episode, hepisode, rfl⟩ := List.mem_map.mp hid
        obtain ⟨-, -, -, -, ticket, hticket, heq⟩ := mem_create_episodes hepisode
        have hnone : status? { store with experiments := experiments } episode.id = none := by
          unfold status?
          rw [heq]
          exact congrArg (Option.map AttemptRecord.status) (hfresh.fresh ticket hticket)
        rw [hnone]
        exact nofun
      · rfl
    · exact fun _ episode hepisode => (mem_create_episodes hepisode).2.1

end Begin

/-! ## Every state that the event loop reaches -/

/-- The states of the runs of an experiment, over a store that begins empty. -/
def System.Reachable (contract : TelemetryContract τ) (random : Shuffle) (experiment_id : Text 1 128)
    (system : System τ) :
    Prop :=
  Relation.ReflTransGen (System.Step contract random experiment_id) ⟨InMemoryEvaluationStore.empty, none⟩ system

section Reachable

variable {contract : TelemetryContract τ} {random : Shuffle} {experiment_id : Text 1 128} {system after : System τ}

theorem System.Sound.step (h : system.Sound experiment_id) (hstep : system.Step contract random experiment_id after) :
    after.Sound experiment_id := by
  cases hstep with
  | begins store config run_id stop tickets hexperiment hlength hfresh =>
    exact IdleSound.begins h contract random hexperiment run_id stop hfresh
  | stops store run =>
    have hrun : RunSound experiment_id store run := h
    exact { hrun with waiting := nofun, stopped := fun _ => rfl }
  | acquires store run before back episode hepisodes hfirst hphase hcancelled hslot =>
    exact RunSound.acquires h hepisodes hfirst hphase hcancelled hslot
  | finishes store run before back episode hepisodes hphase hcancelled outcome now hconsistent =>
    exact RunSound.finishes h hepisodes hphase hcancelled outcome now hconsistent
  | abandons store run now hstop hfirst => exact RunSound.abandons contract now h hstop hfirst
  | cancels store run before back episode hepisodes hcancelled hdone =>
    exact RunSound.cancels h hepisodes hcancelled hdone
  | returns store run hdone => exact RunSound.returns h hdone

theorem System.Sound.start (experiment_id : Text 1 128) :
    System.Sound experiment_id (⟨InMemoryEvaluationStore.empty, none⟩ : System τ) := by
  refine ⟨⟨Coherent.empty, fun _ _ hget => ?_, fun _ => ⟨0, rfl⟩⟩, fun _ _ hget => ?_⟩
  · cases hget
  · cases hget

theorem System.Reachable.sound (h : system.Reachable contract random experiment_id) : system.Sound experiment_id := by
  induction h with
  | refl => exact System.Sound.start experiment_id
  | tail _ hstep ih => exact ih.step hstep

end Reachable

/-! ## Final statuses stay -/

/-- No final status was taken back between two stores. -/
structure Later (store after : InMemoryEvaluationStore τ) : Prop where
  coherent : Coherent after
  final : ∀ attempt_id record, store.attempts.get? attempt_id = some record → record.status.final →
    ∃ record', after.attempts.get? attempt_id = some record' ∧ record'.experiment_id = record.experiment_id ∧
      record'.status = record.status ∧ record'.key = record.key

section Later

variable {contract : TelemetryContract τ} {store after last : InMemoryEvaluationStore τ}

theorem Later.refl (h : Coherent store) : Later store store :=
  ⟨h, fun _ record hget _ => ⟨record, hget, rfl, rfl, rfl⟩⟩

theorem Later.trans (h : Later store after) (h' : Later after last) : Later store last := by
  refine ⟨h'.coherent, fun attempt_id record hget hfinal => ?_⟩
  obtain ⟨record', hget', hexperiment, hstatus, hkey⟩ := h.final attempt_id record hget hfinal
  obtain ⟨record'', hget'', hexperiment', hstatus', hkey'⟩ := h'.final attempt_id record' hget' (hstatus ▸ hfinal)
  exact ⟨record'', hget'', hexperiment'.trans hexperiment, hstatus'.trans hstatus, hkey'.trans hkey⟩

theorem Later.apply (h : Coherent store) (contract : TelemetryContract τ) (operation : Operation τ) :
    Later store (operation.apply contract store).2 :=
  ⟨h.apply contract operation, fun _ _ hget hfinal => (h.effect contract operation).final hget hfinal⟩

theorem start_episode_later (contract : TelemetryContract τ) (h : Coherent store) (stop : Bool) (episode : Episode τ) :
    Later store (start_episode stop episode store).1 := by
  have hregister := Later.apply h contract (.register_attempt episode.attempt)
  unfold start_episode
  split_ifs
  · exact Later.refl h
  · simp only [Operation.apply] at hregister
    split
    · rename_i registered heq
      rwa [heq] at hregister
    · rename_i registered heq
      rw [heq] at hregister
      dsimp only at hregister
      have hmark := Later.apply hregister.coherent contract (.mark_running episode.id .pending)
      simp only [Operation.apply] at hmark
      split
      · rename_i marked hmarked
        rw [hmarked] at hmark
        exact hregister.trans hmark
      · rename_i marked hmarked
        rw [hmarked] at hmark
        exact hregister.trans hmark

theorem finish_episode_later (h : Coherent store) (outcome : Option (EpisodeOutcome τ)) (now : Instant)
    (episode : Episode τ)
    (status_counts : Dict EvalTaskStatus ℕ) :
    Later store (finish_episode contract outcome now episode store status_counts).1 := by
  have hfinish := Later.apply h contract
    (.finish_attempt episode.id (outcome.getD (infrastructure_outcome contract)).status
    (outcome.getD (infrastructure_outcome contract)).error_class
      (outcome.getD (infrastructure_outcome contract)).telemetry
    (outcome.getD (infrastructure_outcome contract)).result now)
  simp only [Operation.apply] at hfinish
  unfold finish_episode
  dsimp only
  split
  · rename_i finished heq
    rwa [heq] at hfinish
  · rename_i finished heq
    rwa [heq] at hfinish

theorem mark_abandoned_later (h : Coherent store) (now : Instant) (episodes : List (Episode τ))
    (status_counts : Dict EvalTaskStatus ℕ) :
      Later store (mark_abandoned contract now episodes store status_counts).1 := by
  induction episodes generalizing store status_counts with
  | nil =>
    unfold mark_abandoned
    exact Later.refl h
  | cons episode episodes ih =>
    unfold mark_abandoned
    split_ifs
    · exact ih h status_counts
    · have hfinish := Later.apply h contract (.finish_attempt episode.id .interrupted none contract.blank none now)
      simp only [Operation.apply] at hfinish
      cases hfinished : store.finish_attempt episode.id .interrupted none contract.blank none now with
      | mk answer after =>
        rw [hfinished] at hfinish
        cases answer with
        | error error => exact hfinish.trans (ih hfinish.coherent status_counts)
        | ok answer => exact hfinish.trans (ih hfinish.coherent (count status_counts .interrupted))

end Later

/-! ## The life-cycle -/

def running_count (store : InMemoryEvaluationStore τ) : ℕ :=
  store.attempts.values.countP fun record => record.status = .running

/-- **The life-cycle of the attempts, in one state.** -/
structure LifeCycle (system : System τ) : Prop where
  bounded : ∀ run, system.run = some run → running_count system.store ≤ run.config.concurrency
  /-- The numbers of the attempts of a task are `1, 2, 3, ...`, in the order in which they are registered. -/
  numbered : ∀ key, Contiguous (system.store.sequences key)
  /-- What never started is not registered. -/
  unstarted : ∀ run, system.run = some run → ∀ episode ∈ run.episodes, episode.phase = .queued ∨
    episode.phase = .dropped →
    system.store.attempts.get? episode.id = none
  /-- Every attempt of the run is counted once, under its final status, and nothing else is counted. -/
  counted : ∀ run, system.run = some run → (run.episodes.map Episode.id).Nodup ∧
    ∀ status, count_of run.status_counts status = if status.final then
      (run.episodes.map Episode.id).countP fun attempt_id => system.store.status? attempt_id = some status else 0
  /-- When the episodes of the run are done, every attempt has a final status. -/
  settled : (∀ run, system.run = some run → ∀ episode ∈ run.episodes, episode.done) →
    ∀ attempt_id record, system.store.attempts.get? attempt_id = some record → record.status.final

/-- **And from one state to the next.** -/
structure LifeStep (system after : System τ) : Prop where
  /-- After the stop no episode starts to execute. -/
  stopped : ∀ run run', system.run = some run → run.stop = true → after.run = some run' →
    ∀ episode ∈ run'.episodes, episode.phase = .executing →
      ∃ before ∈ run.episodes, before.id = episode.id ∧ before.phase = .executing
  /-- A final status is the last one. -/
  kept : ∀ attempt_id status, system.store.status? attempt_id = some status → status.final →
    after.store.status? attempt_id = some status

section Life

variable {contract : TelemetryContract τ} {random : Shuffle} {experiment_id : Text 1 128} {system after : System τ}
  {store : InMemoryEvaluationStore τ} {run : Run τ}

theorem RunSound.running (h : RunSound experiment_id store run) : running_count store ≤ run.holding := by
  unfold running_count Run.holding Dict.values
  rw [List.countP_map, List.countP_eq_length_filter, List.countP_eq_length_filter]
  have hnodup : ((store.attempts.items.filter fun item => item.2.status = .running).map Prod.fst).Nodup :=
    store.attempts.nodup.sublist (List.filter_sublist.map _)
  have hsub : (store.attempts.items.filter fun item => item.2.status = .running).map Prod.fst ⊆
      (run.episodes.filter fun episode => episode.phase = .executing).map Episode.id := by
    intro attempt_id hid
    obtain ⟨⟨_, record⟩, hitem, rfl⟩ := List.mem_map.mp hid
    obtain ⟨hin, hrunning⟩ := List.mem_filter.mp hitem
    have hget := Dict.get?_eq_some.mpr hin
    rw [decide_eq_true_eq] at hrunning
    dsimp only at hrunning hget ⊢
    rcases h.settled _ _ hget with hfinal | hmem
    · exact absurd hrunning hfinal.2
    obtain ⟨episode, hepisode, rfl⟩ := List.mem_map.mp hmem
    refine List.mem_map_of_mem (List.mem_filter.mpr ⟨hepisode, ?_⟩)
    have hagrees := h.agrees episode hepisode
    unfold Episode.Agrees at hagrees
    cases hphase : episode.phase with
    | executing => rfl
    | ended =>
      rw [hphase] at hagrees
      obtain ⟨found, hfound, -, hfinal⟩ := hagrees
      obtain rfl := Option.some.inj (hfound.symm.trans hget)
      exact absurd hrunning hfinal.2
    | raised =>
      rw [hphase] at hagrees
      exact hagrees.elim
    | _ =>
      rw [hphase] at hagrees
      exact absurd (hagrees.symm.trans hget) nofun
  have hlength := (hnodup.subperm hsub).length_le
  rwa [List.length_map, List.length_map] at hlength

theorem System.Sound.coherent (h : system.Sound experiment_id) : Coherent system.store := by
  obtain ⟨store, run⟩ := system
  cases run with
  | none =>
    have hidle : IdleSound experiment_id store := h
    exact hidle.coherent
  | some run =>
    have hrun : RunSound experiment_id store run := h
    exact hrun.coherent

theorem System.Sound.later (h : system.Sound experiment_id) (hstep : system.Step contract random experiment_id after) :
    Later system.store after.store := by
  have hcoherent := h.coherent
  cases hstep with
  | begins store config run_id stop tickets =>
    have hregister := Later.apply hcoherent contract
      (.register_experiment config.experiment_id.text config.purpose config.config_hash.text)
    simp only [Operation.apply] at hregister
    unfold begin_run
    split
    · rename_i registered heq
      rwa [heq] at hregister
    · rename_i registered heq
      rwa [heq] at hregister
  | acquires => exact start_episode_later contract hcoherent _ _
  | finishes => exact finish_episode_later hcoherent _ _ _ _
  | abandons => exact mark_abandoned_later hcoherent _ _ _
  | _ => exact Later.refl hcoherent

theorem mem_mark_abandoned {now : Instant} {episodes : List (Episode τ)} {status_counts : Dict EvalTaskStatus ℕ}
    {episode : Episode τ} (h : episode ∈ (mark_abandoned contract now episodes store status_counts).2.2) :
    ∃ before ∈ episodes, before.id = episode.id ∧ before.phase = episode.phase ∧ before.task = episode.task := by
  induction episodes generalizing store status_counts with
  | nil =>
    unfold mark_abandoned at h
    cases h
  | cons first episodes ih =>
    unfold mark_abandoned at h
    split_ifs at h
    · rcases List.mem_cons.mp h with rfl | h
      · exact ⟨episode, List.mem_cons_self, rfl, rfl, rfl⟩
      · obtain ⟨before, hbefore, hsame⟩ := ih h
        exact ⟨before, List.mem_cons_of_mem _ hbefore, hsame⟩
    · rcases List.mem_cons.mp h with rfl | h
      · exact ⟨first, List.mem_cons_self, rfl, rfl, rfl⟩
      · obtain ⟨before, hbefore, hsame⟩ := ih h
        exact ⟨before, List.mem_cons_of_mem _ hbefore, hsame⟩

/-- An episode among others that executes is the one that was put in, or it executed before. -/
theorem executing_before {front back : List (Episode τ)} {changed other : Episode τ} (episode : Episode τ)
    (hmem : other ∈ front ++ changed :: back) (hphase : other.phase = .executing) : other = changed ∨
      ∃ before ∈ front ++ episode :: back, before.id = other.id ∧ before.phase = .executing := by
  rcases List.mem_append.mp hmem with hmem | hmem
  · exact Or.inr ⟨other, List.mem_append_left _ hmem, rfl, hphase⟩
  · rcases List.mem_cons.mp hmem with rfl | hmem
    · exact Or.inl rfl
    · exact Or.inr ⟨other, List.mem_append_right _ (List.mem_cons_of_mem _ hmem), rfl, hphase⟩

theorem finish_episode_phase {outcome : Option (EpisodeOutcome τ)} {now : Instant} {episode : Episode τ}
    {status_counts : Dict EvalTaskStatus ℕ} :
    (finish_episode contract outcome now episode store status_counts).2.2.phase ≠ .executing := by
  unfold finish_episode
  dsimp only
  split
  all_goals exact nofun

theorem cancel_phase (episode : Episode τ) : episode.cancel.phase ≠ .executing ∧ episode.cancel.phase ≠ .queued := by
  unfold Episode.cancel
  dsimp only
  split_ifs
  all_goals exact ⟨nofun, nofun⟩

theorem System.Step.stopped (hstep : system.Step contract random experiment_id after) {run' : Run τ}
    (hrun : system.run = some run) (hstop : run.stop = true) (hafter : after.run = some run') {episode : Episode τ}
    (hepisode : episode ∈ run'.episodes) (hphase : episode.phase = .executing) :
    ∃ before ∈ run.episodes, before.id = episode.id ∧ before.phase = .executing := by
  cases hstep with
  | begins => cases hrun
  | stops =>
    cases hrun
    cases hafter
    exact ⟨episode, hepisode, rfl, hphase⟩
  | acquires store run front back first hepisodes hfirst hqueued hcancelled hslot =>
    cases hrun
    cases hafter
    rw [hepisodes]
    rcases executing_before first hepisode hphase with rfl | hbefore
    · unfold start_episode at hphase
      rw [if_pos hstop] at hphase
      cases hphase
    · exact hbefore
  | finishes store run front back first hepisodes hexecuting hcancelled outcome now hconsistent =>
    cases hrun
    cases hafter
    rw [hepisodes]
    rcases executing_before first hepisode hphase with rfl | hbefore
    · exact absurd hphase finish_episode_phase
    · exact hbefore
  | abandons =>
    cases hrun
    cases hafter
    obtain ⟨before, hbefore, hid, hsame, -⟩ := mem_mark_abandoned hepisode
    exact ⟨before, hbefore, hid, hsame.trans hphase⟩
  | cancels store run front back first hepisodes hcancelled hdone =>
    cases hrun
    cases hafter
    rw [hepisodes]
    rcases executing_before first hepisode hphase with rfl | hbefore
    · exact absurd hphase (cancel_phase first).1
    · exact hbefore
  | returns => cases hafter

end Life

/-! ## A run of one task that is listed twice -/

def stillShuffle : Shuffle := ⟨fun _ tasks => tasks, fun _ tasks => List.Perm.refl tasks⟩

def sampleEpisodeTask : EpisodeTask := ⟨sampleTask, .a⟩

/-- Two slots, and as many entries of one task as one likes. -/
def repeatedConfig (entries : ℕ) : RunnerConfig where
  experiment_id := sampleExperiment
  purpose := "pilot"
  config_hash := HexDigest.ofNat 0
  task_list := List.replicate (entries + 1) sampleEpisodeTask
  concurrency := 2
  task_order_seed := 0
  tasks := (List.length_replicate).symm ▸ Nat.le_add_left 1 entries
  bound := ⟨Nat.le_succ 1, Nat.le_add_left 2 2⟩
  same_task_serial := fun _ _ htask _ htask' _ => by
    rw [List.eq_of_mem_replicate htask, List.eq_of_mem_replicate htask']

def doubledRun (episodes : List (Episode Unit)) : Run Unit := ⟨repeatedConfig 1, false, false, episodes, Dict.empty⟩

def doubledEpisode (attempt_id : UUID) (attempt_seq : Sequence) : Episode Unit where
  task := sampleEpisodeTask
  attempt := { pendingAttempt with attempt_id := attempt_id, run_id := 7, attempt_seq := attempt_seq }
  phase := .queued
  cancelled := false

def doubledBegin : System Unit :=
  begin_run sampleContract stillShuffle (repeatedConfig 1) 7 false [(1, 0), (2, 0)] InMemoryEvaluationStore.empty

theorem doubled_begin : doubledBegin = ⟨doubledBegin.store,
    some (doubledRun [doubledEpisode 1 Sequence.first, doubledEpisode 2 Sequence.first.next])⟩ := by
  rfl

theorem two_acquire {store : InMemoryEvaluationStore Unit} {first second : Episode Unit}
    (hfirst : first.phase = .queued)
    (hsecond : second.phase = .queued) (hcancelled : first.cancelled = false) (hcancelled' : second.cancelled = false)
    (hreachable : System.Reachable sampleContract stillShuffle sampleExperiment
      ⟨store, some (doubledRun [first, second])⟩)
    (hexecuting : (start_episode false first store).2.phase = .executing) :
    System.Reachable sampleContract stillShuffle sampleExperiment
      ⟨(start_episode false second (start_episode false first store).1).1,
        some (doubledRun [(start_episode false first store).2,
          (start_episode false second (start_episode false first store).1).2])⟩ := by
  have hone := @System.Step.acquires _ sampleContract stillShuffle sampleExperiment store (doubledRun [first, second])
    [] [second] first rfl
    (fun _ h => absurd h List.not_mem_nil) hfirst hcancelled
    (by simp [Run.holding, doubledRun, hfirst, hsecond, repeatedConfig])
  have htwo := @System.Step.acquires _ sampleContract stillShuffle sampleExperiment
    (start_episode false first store).1
    (doubledRun [(start_episode false first store).2, second]) [(start_episode false first store).2] [] second rfl
    (fun other hother => by
      rw [List.mem_singleton.mp hother, hexecuting]
      exact nofun) hsecond hcancelled' (by simp [Run.holding, doubledRun, hexecuting, hsecond, repeatedConfig])
  exact (hreachable.tail hone).tail htwo

def startedFirst : InMemoryEvaluationStore Unit × Episode Unit :=
  start_episode false (doubledEpisode 1 Sequence.first) doubledBegin.store

def startedSecond : InMemoryEvaluationStore Unit × Episode Unit :=
  start_episode false (doubledEpisode 2 Sequence.first.next) startedFirst.1

/-- Both entries of the task execute. -/
def doubledSystem : System Unit := ⟨startedSecond.1, some (doubledRun [startedFirst.2, startedSecond.2])⟩

theorem doubled_reachable : doubledSystem.Reachable sampleContract stillShuffle sampleExperiment := by
  have hbegin : doubledBegin.Reachable sampleContract stillShuffle sampleExperiment :=
    Relation.ReflTransGen.single
      (System.Step.begins _ (repeatedConfig 1) 7 false [(1, 0), (2, 0)] rfl rfl ⟨by decide, by decide⟩)
  rw [doubled_begin] at hbegin
  exact two_acquire rfl rfl rfl rfl hbegin (by decide)

end CommerceAgent.Evaluation
