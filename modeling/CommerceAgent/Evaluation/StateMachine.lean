import CommerceAgent.Evaluation.Memory

/-!
# The life of an attempt

Runs of operations on the in-memory store, and exactly when the status of every attempt moves forward only.
-/

open CommerceAgent.Lib
open CommerceAgent.Operations (UUID Text)
open CommerceAgent.Orchestration (Value)

namespace CommerceAgent.Evaluation

/-! ## Runs -/

inductive Operation (τ : Type) where
  | register_experiment (experiment_id purpose config_hash : String)
  | register_attempt (record : AttemptRecord τ)
  | mark_running (attempt_id : UUID) (expected_status : EvalTaskStatus)
  | finish_attempt (attempt_id : UUID) (status : EvalTaskStatus) (error_class : Option (Text 1 128)) (telemetry : τ)
    (result : Option EpisodeResult) (now : Instant)
  | merge_telemetry (attempt_id : UUID) (patch : Dict String Value)
  | record_result (attempt_id : UUID) (result : EpisodeResult)

variable {τ : Type}

/-- The operations that write. The others return and leave the store as it is. -/
def Operation.apply (contract : TelemetryContract τ) : Operation τ → InMemoryEvaluationStore τ →
    Except EvalError Unit × InMemoryEvaluationStore τ
  | .register_experiment experiment_id purpose config_hash, store =>
    store.register_experiment experiment_id purpose config_hash
  | .register_attempt record, store => store.register_attempt record
  | .mark_running attempt_id expected_status, store => store.mark_running attempt_id expected_status
  | .finish_attempt attempt_id status error_class telemetry result now, store =>
    store.finish_attempt attempt_id status error_class telemetry result now
  | .merge_telemetry attempt_id patch, store => store.merge_telemetry contract attempt_id patch
  | .record_result attempt_id result, store => store.record_result attempt_id result

/-- The result that an operation brings along for an attempt. -/
def Operation.brings : Operation τ → Option (UUID × EpisodeResult)
  | .finish_attempt attempt_id _ _ _ result _ => result.map fun result => (attempt_id, result)
  | .record_result attempt_id result => some (attempt_id, result)
  | _ => none

/-- An operation between the stores before and after it. -/
structure StoreStep (τ : Type) where
  before : InMemoryEvaluationStore τ
  operation : Operation τ
  answer : Except EvalError Unit
  after : InMemoryEvaluationStore τ

def steps (contract : TelemetryContract τ) : InMemoryEvaluationStore τ → List (Operation τ) → List (StoreStep τ)
  | _, [] => []
  | store, operation :: operations =>
    let applied := operation.apply contract store
    ⟨store, operation, applied.1, applied.2⟩ :: steps contract applied.2 operations

def InMemoryEvaluationStore.status? (store : InMemoryEvaluationStore τ) (attempt_id : UUID) : Option EvalTaskStatus :=
  (store.attempts.get? attempt_id).map AttemptRecord.status

/-! ## The laws -/

def EvalTaskStatus.final (status : EvalTaskStatus) : Prop := status ≠ .pending ∧ status ≠ .running

/-- `pending`, then `running`, then one final status. -/
inductive EvalTaskStatus.Moves : EvalTaskStatus → EvalTaskStatus → Prop
  | stays (status : EvalTaskStatus) : Moves status status
  | starts : Moves .pending .running
  | finishes {status : EvalTaskStatus} (h : status.final) : Moves .running status

structure StepLaws (step : StoreStep τ) : Prop where
  /-- A status moves forward only. -/
  moves : ∀ attempt_id status, step.before.status? attempt_id = some status →
    ∃ status', step.after.status? attempt_id = some status' ∧ status.Moves status'
  /-- A result is recorded where there is none. -/
  once : ∀ attempt_id result, step.operation.brings = some (attempt_id, result) → step.answer = .ok () →
    step.before.results.get? attempt_id = none ∧ step.after.results.get? attempt_id = some result
  /-- And never replaced. -/
  kept : ∀ attempt_id result, step.before.results.get? attempt_id = some result →
    step.after.results.get? attempt_id = some result
  /-- Only a succeeded attempt has one. -/
  succeeded : ∀ attempt_id result, step.after.results.get? attempt_id = some result →
    step.after.status? attempt_id = some .succeeded
  grows : ∀ experiment_id, step.before.completed_tasks experiment_id ⊆ step.after.completed_tasks experiment_id
  /-- What raises changes nothing. -/
  raised : ∀ error, step.answer = .error error → step.after = step.before

/-- An attempt begins to run. -/
def Enters (attempt_id : UUID) (step : StoreStep τ) : Prop :=
  step.before.status? attempt_id ≠ some .running ∧ step.after.status? attempt_id = some .running

instance (attempt_id : UUID) (step : StoreStep τ) : Decidable (Enters attempt_id step) :=
  inferInstanceAs (Decidable (_ ∧ _))

/-- **The laws of a run.** -/
structure Lawful (contract : TelemetryContract τ) (operations : List (Operation τ)) : Prop where
  each : ∀ step ∈ steps contract InMemoryEvaluationStore.empty operations, StepLaws step
  /-- No attempt is executed twice. -/
  executed_once : ∀ attempt_id, (steps contract InMemoryEvaluationStore.empty operations).countP
    (fun step => Enters attempt_id step) ≤ 1

/-- A running attempt is finished as `pending`. -/
def Reopens (step : StoreStep τ) : Prop :=
  ∃ attempt_id error_class telemetry now,
    step.operation = .finish_attempt attempt_id .pending error_class telemetry none now ∧
    step.before.status? attempt_id = some .running

/-! ## What an operation can do -/

inductive Effect (operation : Operation τ) (store : InMemoryEvaluationStore τ) : InMemoryEvaluationStore τ → Prop
  | nothing (experiments : Dict String (String × String)) :
    Effect operation store { store with experiments := experiments }
  | registered (record : AttemptRecord τ) (h : store.attempts.get? record.attempt_id = none) :
    Effect operation store (store.put_attempt record.attempt_id record)
  | started (record : AttemptRecord τ) (h : store.attempts.get? record.attempt_id = some record)
    (hpending : record.status = .pending) :
    Effect operation store (store.put_attempt record.attempt_id { record with status := .running })
  | finished (record : AttemptRecord τ) (h : store.attempts.get? record.attempt_id = some record)
    (hrunning : record.status = .running) (status : EvalTaskStatus) (error_class : Option (Text 1 128)) (telemetry : τ)
    (now : Instant) (hop : operation = .finish_attempt record.attempt_id status error_class telemetry none now) :
    Effect operation store (store.put_attempt record.attempt_id
      { record with status := status, error_class := error_class, finished_at := some now, telemetry := telemetry })
  | succeeded (record : AttemptRecord τ) (h : store.attempts.get? record.attempt_id = some record)
    (hrunning : record.status = .running) (telemetry : τ) (now : Instant) (result : EpisodeResult)
    (hop : operation.brings = some (record.attempt_id, result)) (hnew : store.results.get? record.attempt_id = none) :
    Effect operation store ((store.put_attempt record.attempt_id
      { record with status := .succeeded, error_class := none, finished_at := some now, telemetry :=
        telemetry }).put_result
        record.attempt_id result)
  | merged (record : AttemptRecord τ) (h : store.attempts.get? record.attempt_id = some record) (telemetry : τ) :
    Effect operation store (store.put_attempt record.attempt_id { record with telemetry := telemetry })
  | recorded (record : AttemptRecord τ) (h : store.attempts.get? record.attempt_id = some record)
    (hsucceeded : record.status = .succeeded) (result : EpisodeResult)
    (hop : operation.brings = some (record.attempt_id, result)) (hnew : store.results.get? record.attempt_id = none) :
    Effect operation store (store.put_result record.attempt_id result)

/-- Every attempt is filed under its own id, and only succeeded ones have a result. -/
structure Coherent (store : InMemoryEvaluationStore τ) : Prop where
  keyed : ∀ attempt_id record, store.attempts.get? attempt_id = some record → record.attempt_id = attempt_id
  succeeded : ∀ attempt_id result, store.results.get? attempt_id = some result →
    store.status? attempt_id = some .succeeded

open InMemoryEvaluationStore

variable {contract : TelemetryContract τ} {store : InMemoryEvaluationStore τ} {operation : Operation τ}

theorem apply_raised {error : EvalError} (h : (operation.apply contract store).1 = .error error) :
    (operation.apply contract store).2 = store := by
  cases operation with
  | register_experiment experiment_id purpose config_hash =>
    simp only [Operation.apply, register_experiment] at h ⊢
    split at h
    · split_ifs at h ⊢ with hsame
      rfl
    · cases h
  | register_attempt record =>
    simp only [Operation.apply, register_attempt] at h ⊢
    split_ifs at h ⊢
    all_goals rfl
  | mark_running attempt_id expected_status =>
    simp only [Operation.apply, mark_running] at h ⊢
    split at h
    · rfl
    · split_ifs at h ⊢
      rfl
  | finish_attempt attempt_id status error_class telemetry result now =>
    simp only [Operation.apply, finish_attempt] at h ⊢
    split at h
    · rfl
    · split_ifs at h ⊢
      · rfl
      · rfl
      · rfl
      · rfl
      · split at h
        all_goals cases h
  | merge_telemetry attempt_id patch =>
    simp only [Operation.apply, merge_telemetry] at h ⊢
    split at h
    · rfl
    · split at h
      · rfl
      · cases h
  | record_result attempt_id result =>
    simp only [Operation.apply, record_result] at h ⊢
    split at h
    · rfl
    · split_ifs at h ⊢
      · rfl
      · rfl

theorem Coherent.effect (h : Coherent store) (contract : TelemetryContract τ) (operation : Operation τ) :
    Effect operation store (operation.apply contract store).2 := by
  have hsame (operation : Operation τ) : Effect operation store store := Effect.nothing store.experiments
  cases operation with
  | register_experiment experiment_id purpose config_hash =>
    simp only [Operation.apply, register_experiment]
    split
    · split_ifs
      · exact hsame _
      · exact hsame _
    · exact Effect.nothing _
  | register_attempt record =>
    simp only [Operation.apply, register_attempt]
    split_ifs with hknown
    · exact hsame _
    · exact hsame _
    · exact Effect.registered record (Dict.get?_eq_none.mpr hknown)
  | mark_running attempt_id expected_status =>
    simp only [Operation.apply, mark_running]
    split
    · exact hsame _
    · rename_i record hget
      obtain rfl := h.keyed attempt_id record hget
      split_ifs with hguard
      · exact hsame _
      · rw [not_or, not_ne_iff] at hguard
        exact Effect.started record hget hguard.1
  | finish_attempt attempt_id status error_class telemetry result now =>
    simp only [Operation.apply, finish_attempt]
    split
    · exact hsame _
    · rename_i record hget
      obtain rfl := h.keyed attempt_id record hget
      split_ifs with hrunning herror hstatus hknown
      · exact hsame _
      · exact hsame _
      · exact hsame _
      · exact hsame _
      · rw [not_ne_iff] at hrunning
        cases result with
        | none => exact Effect.finished record hget hrunning status error_class telemetry now rfl
        | some result =>
          obtain rfl : status = .succeeded := by simpa using hstatus
          obtain rfl : error_class = none := by simpa using herror
          exact Effect.succeeded record hget hrunning telemetry now result rfl
            (Dict.get?_eq_none.mpr (by simpa using hknown))
  | merge_telemetry attempt_id patch =>
    simp only [Operation.apply, merge_telemetry]
    split
    · exact hsame _
    · rename_i record hget
      obtain rfl := h.keyed attempt_id record hget
      split
      · exact hsame _
      · exact Effect.merged record hget _
  | record_result attempt_id result =>
    simp only [Operation.apply, record_result]
    split
    · exact hsame _
    · rename_i record hget
      obtain rfl := h.keyed attempt_id record hget
      split_ifs with hstatus hknown
      · exact hsame _
      · exact hsame _
      · exact Effect.recorded record hget (not_ne_iff.mp hstatus) result rfl (Dict.get?_eq_none.mpr hknown)

/-! ## What every step keeps -/

theorem get?_put_attempt (attempt_id : UUID) (record : AttemptRecord τ) (other : UUID) :
    (store.put_attempt attempt_id record).attempts.get? other =
      if other = attempt_id then some record else store.attempts.get? other := Dict.get?_set _ _ _ _

theorem status?_put_attempt (attempt_id : UUID) (record : AttemptRecord τ) (other : UUID) :
    (store.put_attempt attempt_id record).status? other =
      if other = attempt_id then some record.status else store.status? other := by
  unfold status?
  rw [get?_put_attempt]
  split_ifs <;> rfl

theorem get?_put_result (attempt_id : UUID) (result : EpisodeResult) (other : UUID) :
    (store.put_result attempt_id result).results.get? other =
      if other = attempt_id then some result else store.results.get? other := Dict.get?_set _ _ _ _

theorem status?_eq {record : AttemptRecord τ} (h : store.attempts.get? record.attempt_id = some record) :
    store.status? record.attempt_id = some record.status := by
  unfold status?
  rw [h, Option.map_some]

theorem Coherent.put_attempt (h : Coherent store) {attempt_id : UUID} (record : AttemptRecord τ)
    (hid : record.attempt_id = attempt_id)
    (hstatus : store.status? attempt_id = some .succeeded → record.status = .succeeded) :
    Coherent (store.put_attempt attempt_id record) := by
  subst hid
  constructor
  · intro attempt_id other hget
    rw [get?_put_attempt] at hget
    split_ifs at hget with heq
    · cases hget
      exact heq.symm
    · exact h.keyed attempt_id other hget
  · intro attempt_id result hget
    have hbefore := h.succeeded attempt_id result hget
    rw [status?_put_attempt]
    split_ifs with heq
    · rw [hstatus (heq ▸ hbefore)]
    · exact hbefore

theorem Coherent.put_result (h : Coherent store) {attempt_id : UUID} {result : EpisodeResult}
    (hstatus : store.status? attempt_id = some .succeeded) : Coherent (store.put_result attempt_id result) := by
  refine ⟨h.keyed, fun other found hget => ?_⟩
  rw [get?_put_result] at hget
  split_ifs at hget with heq
  · exact heq ▸ hstatus
  · exact h.succeeded other found hget

theorem Coherent.after (h : Coherent store) {after : InMemoryEvaluationStore τ}
    (heffect : Effect operation store after) :
    Coherent after := by
  cases heffect with
  | nothing experiments => exact ⟨h.keyed, h.succeeded⟩
  | registered record hnew =>
    refine h.put_attempt _ rfl fun hsucceeded => ?_
    simp [status?, hnew] at hsucceeded
  | started record hget hpending =>
    refine h.put_attempt _ rfl fun hsucceeded => ?_
    rw [status?_eq hget, hpending] at hsucceeded
    cases hsucceeded
  | finished record hget hrunning status error_class telemetry now hop =>
    refine h.put_attempt _ rfl fun hsucceeded => ?_
    rw [status?_eq hget, hrunning] at hsucceeded
    cases hsucceeded
  | succeeded record hget hrunning telemetry now result hop hnew =>
    refine (h.put_attempt { record with
      status := .succeeded, error_class := none, finished_at := some now, telemetry := telemetry } rfl fun _ =>
        rfl).put_result ?_
    rw [status?_put_attempt, if_pos rfl]
  | merged record hget telemetry =>
    refine h.put_attempt _ rfl fun hsucceeded => ?_
    rw [status?_eq hget] at hsucceeded
    exact Option.some.inj hsucceeded
  | recorded record hget hsucceeded result hop hnew =>
    refine h.put_result ?_
    rw [status?_eq hget, hsucceeded]

theorem Effect.kept {after : InMemoryEvaluationStore τ} (heffect : Effect operation store after)
    {attempt_id : UUID} {result : EpisodeResult} (hget : store.results.get? attempt_id = some result) :
    after.results.get? attempt_id = some result := by
  cases heffect with
  | succeeded record _ hrunning telemetry now other hop hnew =>
    rw [get?_put_result, if_neg]
    · exact hget
    · rintro rfl
      exact absurd (hnew.symm.trans hget) nofun
  | recorded record _ hsucceeded other hop hnew =>
    rw [get?_put_result, if_neg]
    · exact hget
    · rintro rfl
      exact absurd (hnew.symm.trans hget) nofun
  | _ => exact hget

theorem mem_completed_tasks {experiment_id : String} {key : TaskKey} :
    key ∈ store.completed_tasks experiment_id ↔ ∃ attempt_id record, store.attempts.get? attempt_id = some record ∧
      record.experiment_id.text = experiment_id ∧ record.status ∈ TERMINAL_STATUSES ∧ record.key = key := by
  unfold completed_tasks Dict.values
  simp only [List.mem_toFinset, List.mem_map, List.mem_filter, decide_eq_true_eq, Prod.exists, exists_eq_right]
  constructor
  · rintro ⟨record, ⟨⟨attempt_id, hmem⟩, hexperiment, hstatus⟩, hkey⟩
    exact ⟨attempt_id, record, Dict.get?_eq_some.mpr hmem, hexperiment, hstatus, hkey⟩
  · rintro ⟨attempt_id, record, hget, hexperiment, hstatus, hkey⟩
    exact ⟨record, ⟨⟨attempt_id, Dict.get?_eq_some.mp hget⟩, hexperiment, hstatus⟩, hkey⟩

theorem final_of_terminal {status : EvalTaskStatus} (h : status ∈ TERMINAL_STATUSES) : status.final := by
  cases status with
  | succeeded => exact ⟨nofun, nofun⟩
  | failed => exact ⟨nofun, nofun⟩
  | _ => simp [TERMINAL_STATUSES] at h

theorem Effect.final {after : InMemoryEvaluationStore τ} (heffect : Effect operation store after) {attempt_id : UUID}
    {record : AttemptRecord τ} (hget : store.attempts.get? attempt_id = some record)
    (hfinal : record.status.final) :
    ∃ record', after.attempts.get? attempt_id = some record' ∧ record'.experiment_id = record.experiment_id ∧
      record'.status = record.status ∧ record'.key = record.key := by
  have hkeeps {other changed : AttemptRecord τ} (hother : store.attempts.get? other.attempt_id = some other)
      (hsame : other.status.final →
        changed.experiment_id = other.experiment_id ∧ changed.status = other.status ∧ changed.key = other.key) :
      ∃ record', (store.put_attempt other.attempt_id changed).attempts.get? attempt_id = some record' ∧
        record'.experiment_id = record.experiment_id ∧ record'.status = record.status ∧ record'.key = record.key := by
    rw [get?_put_attempt]
    split_ifs with heq
    · subst heq
      obtain rfl := Option.some.inj (hother.symm.trans hget)
      exact ⟨changed, rfl, hsame hfinal⟩
    · exact ⟨record, hget, rfl, rfl, rfl⟩
  cases heffect with
  | nothing experiments => exact ⟨record, hget, rfl, rfl, rfl⟩
  | registered other hnew =>
    refine ⟨record, ?_, rfl, rfl, rfl⟩
    rw [get?_put_attempt, if_neg]
    · exact hget
    · rintro rfl
      exact absurd (hnew.symm.trans hget) (Option.some_ne_none _).symm
  | started other hother hpending => exact hkeeps hother fun h => absurd hpending h.1
  | finished other hother hrunning => exact hkeeps hother fun h => absurd hrunning h.2
  | succeeded other hother hrunning => exact hkeeps hother fun h => absurd hrunning h.2
  | merged other hother telemetry => exact hkeeps hother fun _ => ⟨rfl, rfl, rfl⟩
  | recorded other hother => exact ⟨record, hget, rfl, rfl, rfl⟩

theorem Effect.grows {after : InMemoryEvaluationStore τ} (heffect : Effect operation store after)
    (experiment_id : String) :
    store.completed_tasks experiment_id ⊆ after.completed_tasks experiment_id := by
  intro key hkey
  obtain ⟨attempt_id, record, hget, hexperiment, hterminal, rfl⟩ := mem_completed_tasks.mp hkey
  obtain ⟨record', hget', hexperiment', hstatus, hkey⟩ := heffect.final hget (final_of_terminal hterminal)
  exact mem_completed_tasks.mpr ⟨attempt_id, record', hget', hexperiment' ▸ hexperiment, hstatus ▸ hterminal, hkey⟩

theorem apply_once {attempt_id : UUID} {result : EpisodeResult} (hbrings : operation.brings = some (attempt_id, result))
    (hok : (operation.apply contract store).1 = .ok ()) :
    store.results.get? attempt_id = none ∧
      (operation.apply contract store).2.results.get? attempt_id = some result := by
  cases operation with
  | finish_attempt id status error_class telemetry brought now =>
    obtain ⟨found, rfl, hpair⟩ := Option.map_eq_some_iff.mp hbrings
    cases hpair
    simp only [Operation.apply, finish_attempt] at hok ⊢
    split at hok
    · cases hok
    · split_ifs at hok ⊢ with hrunning herror hstatus hknown
      · cases hok
      · cases hok
      · cases hok
      · cases hok
      · refine ⟨Dict.get?_eq_none.mpr (by simpa using hknown), ?_⟩
        rw [get?_put_result, if_pos rfl]
  | record_result id brought =>
    cases hbrings
    simp only [Operation.apply, record_result] at hok ⊢
    split at hok
    · cases hok
    · split_ifs at hok ⊢ with hstatus hknown
      · cases hok
      · cases hok
      · refine ⟨Dict.get?_eq_none.mpr hknown, ?_⟩
        rw [get?_put_result, if_pos rfl]
  | _ => cases hbrings

/-- Statuses move forward, unless the step finishes a running attempt as `pending`. -/
theorem Effect.moves {after : InMemoryEvaluationStore τ} (heffect : Effect operation store after)
    (hkeep : ∀ attempt_id error_class telemetry now,
      operation = .finish_attempt attempt_id .pending error_class telemetry none now →
      store.status? attempt_id ≠ some .running) {attempt_id : UUID} {status : EvalTaskStatus}
    (hstatus : store.status? attempt_id = some status) :
    ∃ status', after.status? attempt_id = some status' ∧ status.Moves status' := by
  have hput {other changed : AttemptRecord τ} (hother : store.attempts.get? other.attempt_id = some other)
      (hmoves : other.status.Moves changed.status) :
      ∃ status', (store.put_attempt other.attempt_id changed).status? attempt_id = some status' ∧
        status.Moves status' := by
    rw [status?_put_attempt]
    split_ifs with heq
    · subst heq
      obtain rfl := Option.some.inj ((status?_eq hother).symm.trans hstatus)
      exact ⟨changed.status, rfl, hmoves⟩
    · exact ⟨status, hstatus, .stays status⟩
  cases heffect with
  | nothing experiments => exact ⟨status, hstatus, .stays status⟩
  | registered other hnew =>
    refine ⟨status, ?_, .stays status⟩
    rw [status?_put_attempt, if_neg]
    · exact hstatus
    · rintro rfl
      simp [status?, hnew] at hstatus
  | started other hother hpending => exact hput hother (hpending ▸ .starts)
  | finished other hother hrunning status' error_class telemetry now hop =>
    refine hput hother ?_
    rw [hrunning]
    by_cases hrunning' : status' = .running
    · exact hrunning' ▸ .stays .running
    · refine .finishes ⟨?_, hrunning'⟩
      rintro rfl
      exact hkeep _ _ _ _ hop ((status?_eq hother).trans (congrArg some hrunning))
  | succeeded other hother hrunning =>
    refine hput hother ?_
    rw [hrunning]
    exact .finishes ⟨EvalTaskStatus.noConfusion, EvalTaskStatus.noConfusion⟩
  | merged other hother telemetry => exact hput hother (.stays _)
  | recorded other hother => exact ⟨status, hstatus, .stays status⟩

/-! ## Runs -/

theorem Coherent.empty : Coherent (InMemoryEvaluationStore.empty : InMemoryEvaluationStore τ) :=
  ⟨fun _ _ h => (nomatch h), fun _ _ h => (nomatch h)⟩

theorem Coherent.apply (h : Coherent store) (contract : TelemetryContract τ) (operation : Operation τ) :
    Coherent (operation.apply contract store).2 :=
  h.after (h.effect contract operation)

theorem Coherent.laws (h : Coherent store) (hkeep : ¬ Reopens ⟨store, operation, (operation.apply contract store).1,
    (operation.apply contract store).2⟩) :
    StepLaws ⟨store, operation, (operation.apply contract store).1, (operation.apply contract store).2⟩ where
  moves := by
    intro attempt_id status hstatus
    refine (h.effect contract operation).moves ?_ hstatus
    rintro other error_class telemetry now hop hrunning
    exact hkeep ⟨other, error_class, telemetry, now, hop, hrunning⟩
  once := fun _ _ hbrings hok => apply_once hbrings hok
  kept := fun _ _ hget => (h.effect contract operation).kept hget
  succeeded := (h.apply contract operation).succeeded
  grows := (h.effect contract operation).grows
  raised := fun _ herror => apply_raised herror

theorem Reopens.not_laws (h : Coherent store) (hreopens : Reopens ⟨store, operation,
    (operation.apply contract store).1, (operation.apply contract store).2⟩) :
    ¬ StepLaws ⟨store, operation, (operation.apply contract store).1, (operation.apply contract store).2⟩ := by
  intro hlaws
  obtain ⟨attempt_id, error_class, telemetry, now, rfl, hrunning⟩ := hreopens
  obtain ⟨record, hget, hstatus⟩ := Option.map_eq_some_iff.mp hrunning
  obtain rfl := h.keyed attempt_id record hget
  obtain ⟨status', hafter, hmoves⟩ := hlaws.moves _ _ hrunning
  simp only [Operation.apply, finish_attempt, hget, hstatus, not_true_eq_false, ne_eq, if_false, reduceCtorEq,
    and_false,
    Option.isSome_none, Bool.false_eq_true, false_and, status?_put_attempt, if_true, Option.some.injEq] at hafter
  rw [← hafter] at hmoves
  cases hmoves with
  | finishes hfinal => exact hfinal.1 rfl

theorem Coherent.steps (h : Coherent store) (operations : List (Operation τ)) :
    (∀ step ∈ steps contract store operations, StepLaws step) ↔
      ∀ step ∈ Evaluation.steps contract store operations, ¬ Reopens step := by
  induction operations generalizing store with
  | nil => simp [Evaluation.steps]
  | cons operation operations ih =>
    unfold Evaluation.steps
    simp only [List.forall_mem_cons, ih (h.apply contract operation)]
    refine and_congr_left fun _ => ⟨?_, h.laws⟩
    intro hlaws hreopens
    exact hreopens.not_laws h hlaws

/-- An attempt has not started yet. -/
def InMemoryEvaluationStore.Unstarted (store : InMemoryEvaluationStore τ) (attempt_id : UUID) : Prop :=
  ∀ status, store.status? attempt_id = some status → status = .pending

instance (store : InMemoryEvaluationStore τ) (attempt_id : UUID) : Decidable (store.Unstarted attempt_id) :=
  inferInstanceAs (Decidable (∀ status ∈ store.status? attempt_id, status = .pending))

theorem StepLaws.unstarted {step : StoreStep τ} (h : StepLaws step) (attempt_id : UUID)
    (hafter : step.after.Unstarted attempt_id) : step.before.Unstarted attempt_id := by
  intro status hstatus
  obtain ⟨status', hstatus', hmoves⟩ := h.moves attempt_id status hstatus
  obtain rfl := hafter status' hstatus'
  cases hmoves with
  | stays => rfl
  | finishes hfinal => exact absurd rfl hfinal.1

theorem StepLaws.enters {step : StoreStep τ} (h : StepLaws step) (attempt_id : UUID)
    (henters : Enters attempt_id step) :
    step.before.Unstarted attempt_id ∧ ¬ step.after.Unstarted attempt_id := by
  constructor
  · intro status hstatus
    obtain ⟨status', hstatus', hmoves⟩ := h.moves attempt_id status hstatus
    obtain rfl := Option.some.inj (hstatus'.symm.trans henters.2)
    cases hmoves with
    | stays => exact absurd hstatus henters.1
    | starts => rfl
    | finishes hfinal => exact absurd rfl hfinal.2
  · intro hafter
    exact absurd (hafter _ henters.2) nofun

theorem count_enters (attempt_id : UUID) (operations : List (Operation τ))
    (h : ∀ step ∈ steps contract store operations, StepLaws step) :
    (steps contract store operations).countP (fun step => Enters attempt_id step) ≤
      if store.Unstarted attempt_id then 1 else 0 := by
  induction operations generalizing store with
  | nil => exact Nat.zero_le _
  | cons operation operations ih =>
    unfold steps at h ⊢
    obtain ⟨hstep, hrest⟩ := List.forall_mem_cons.mp h
    have hcount := ih hrest
    have hback := hstep.unstarted attempt_id
    have henters := hstep.enters attempt_id
    rw [List.countP_cons]
    simp only [decide_eq_true_eq]
    dsimp only at hback henters
    split_ifs at hcount ⊢
    all_goals first | omega | tauto

/-- **The laws of a run hold exactly when no step finishes a running attempt as `pending`.** -/
theorem lawful_iff (contract : TelemetryContract τ) (operations : List (Operation τ)) :
    Lawful contract operations ↔
      ∀ step ∈ steps contract InMemoryEvaluationStore.empty operations, ¬ Reopens step := by
  rw [← Coherent.empty.steps operations]
  constructor
  · exact fun h => h.each
  · intro h
    refine ⟨h, fun attempt_id => (count_enters attempt_id operations h).trans ?_⟩
    split_ifs <;> omega

/-! ## An attempt that is executed twice -/

def sampleContract : TelemetryContract Unit := ⟨(), fun _ => Dict.empty, fun _ => some ()⟩

def sampleExperiment : Text 1 128 := ⟨"evaluation-1", by decide⟩
def sampleTask : Text 1 128 := ⟨"evaluation-task-1", by decide⟩

def pendingAttempt : AttemptRecord Unit where
  attempt_id := 1
  run_id := 2
  experiment_id := sampleExperiment
  task_id := sampleTask
  mode := .a
  attempt_seq := Sequence.first
  status := .pending
  error_class := none
  started_at := 0
  finished_at := none
  telemetry := ()

/-- A running attempt is finished as `pending`, and runs again. -/
theorem reopened_attempt :
    ¬ Lawful sampleContract [.register_attempt pendingAttempt, .mark_running 1 .pending,
      .finish_attempt 1 .pending none () none 10, .mark_running 1 .pending] := by
  intro h
  have honce := h.executed_once 1
  revert honce
  decide

end CommerceAgent.Evaluation
