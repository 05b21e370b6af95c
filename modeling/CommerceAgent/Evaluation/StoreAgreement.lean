import CommerceAgent.Evaluation.RunnerLaws
import CommerceAgent.Evaluation.Tables
import CommerceAgent.Evaluation.Telemetry

/-!
# Agreement of the evaluation stores

The tables hold what the in-memory store holds, as long as every call is one that both take alike.
-/

open CommerceAgent.Lib
open CommerceAgent.Operations (UUID Text)
open CommerceAgent.Orchestration (Value)

namespace CommerceAgent.Evaluation

variable {pydantic : Pydantic}

/-! ## What a row is read as -/

/-- A row, and the attempt that it is read as. -/
def ReadsAs (pydantic : Pydantic) (attempt_id : UUID) (row : AttemptColumns) (record : AttemptRecord AttemptTelemetry) :
    Prop :=
  record.attempt_id = attempt_id ∧ record_from_row (AttemptTelemetry.contract pydantic) row = some record

/-- The tables mirror the store. -/
structure Mirrors (pydantic : Pydantic) (store : InMemoryEvaluationStore AttemptTelemetry) (tables : EvalTables) :
    Prop where
  experiments : ∀ experiment_id, tables.experiment.get? experiment_id = store.experiments.get? experiment_id
  attempts : ∀ attempt_id, Option.Rel (ReadsAs pydantic attempt_id) (tables.task_attempt.get? attempt_id)
    (store.attempts.get? attempt_id)
  results : ∀ attempt_id, tables.task_result.get? attempt_id = store.results.get? attempt_id

section Rows

variable {attempt_id : UUID} {row : AttemptColumns} {record : AttemptRecord AttemptTelemetry}

theorem readsAs_iff : ReadsAs pydantic attempt_id row record ↔
    record.attempt_id = attempt_id ∧ AttemptTelemetry.Reads pydantic row.telemetry record.telemetry ∧
      record = row.with_telemetry record.telemetry := by
  unfold ReadsAs record_from_row
  rw [Option.map_eq_some_iff]
  constructor
  · rintro ⟨hid, telemetry, hvalid, rfl⟩
    exact ⟨hid, AttemptTelemetry.model_validate_eq_some.mp hvalid, rfl⟩
  · rintro ⟨hid, hreads, hrecord⟩
    exact ⟨hid, record.telemetry, AttemptTelemetry.model_validate_eq_some.mpr hreads, hrecord.symm⟩

theorem ReadsAs.columns (h : ReadsAs pydantic attempt_id row record) :
    row.run_id = record.run_id ∧ row.experiment_id = record.experiment_id ∧ row.task_id = record.task_id ∧
      row.mode = record.mode ∧ row.attempt_seq = record.attempt_seq ∧ row.status = record.status := by
  obtain ⟨-, -, hrecord⟩ := readsAs_iff.mp h
  rw [hrecord]
  exact ⟨rfl, rfl, rfl, rfl, rfl, rfl⟩

theorem ReadsAs.status (h : ReadsAs pydantic attempt_id row record) : row.status = record.status := by
  obtain ⟨-, -, -, -, -, hstatus⟩ := h.columns
  exact hstatus

theorem ReadsAs.key (h : ReadsAs pydantic attempt_id row record) : row.key = record.key := by
  obtain ⟨-, -, htask, hmode, -, -⟩ := h.columns
  exact Prod.ext htask hmode

end Rows

section Mirrors

variable {store : InMemoryEvaluationStore AttemptTelemetry} {tables : EvalTables} {attempt_id : UUID}

theorem Mirrors.row (h : Mirrors pydantic store tables) {record : AttemptRecord AttemptTelemetry}
    (hget : store.attempts.get? attempt_id = some record) :
    ∃ row, tables.task_attempt.get? attempt_id = some row ∧ ReadsAs pydantic attempt_id row record := by
  have hrel := h.attempts attempt_id
  rw [hget] at hrel
  generalize tables.task_attempt.get? attempt_id = row at hrel ⊢
  cases hrel with
  | some hreads => exact ⟨_, rfl, hreads⟩

theorem Mirrors.record (h : Mirrors pydantic store tables) {row : AttemptColumns}
    (hget : tables.task_attempt.get? attempt_id = some row) :
    ∃ record, store.attempts.get? attempt_id = some record ∧ ReadsAs pydantic attempt_id row record := by
  have hrel := h.attempts attempt_id
  rw [hget] at hrel
  generalize store.attempts.get? attempt_id = record at hrel ⊢
  cases hrel with
  | some hreads => exact ⟨_, rfl, hreads⟩

theorem Mirrors.no_row (h : Mirrors pydantic store tables) (hget : store.attempts.get? attempt_id = none) :
    tables.task_attempt.get? attempt_id = none := by
  have hrel := h.attempts attempt_id
  rw [hget] at hrel
  generalize tables.task_attempt.get? attempt_id = row at hrel ⊢
  cases hrel
  rfl

theorem mem_values {κ α : Type} [DecidableEq κ] {d : Dict κ α} {a : α} : a ∈ d.values ↔ ∃ k, d.get? k = some a := by
  unfold Dict.values
  rw [List.mem_map]
  constructor
  · rintro ⟨⟨k, a⟩, hitem, rfl⟩
    exact ⟨k, Dict.get?_eq_some.mpr hitem⟩
  · rintro ⟨k, hget⟩
    exact ⟨(k, a), Dict.get?_eq_some.mp hget, rfl⟩

theorem Mirrors.values (h : Mirrors pydantic store tables) :
    (∀ row ∈ tables.task_attempt.values, ∃ record ∈ store.attempts.values,
      ReadsAs pydantic record.attempt_id row record) ∧
    ∀ record ∈ store.attempts.values, ∃ row ∈ tables.task_attempt.values,
      ReadsAs pydantic record.attempt_id row record := by
  constructor
  · intro row hrow
    obtain ⟨attempt_id, hget⟩ := mem_values.mp hrow
    obtain ⟨record, hrecord, hreads⟩ := h.record hget
    exact ⟨record, mem_values.mpr ⟨attempt_id, hrecord⟩, hreads.1 ▸ hreads⟩
  · intro record hrecord
    obtain ⟨attempt_id, hget⟩ := mem_values.mp hrecord
    obtain ⟨row, hrow, hreads⟩ := h.row hget
    exact ⟨row, mem_values.mpr ⟨attempt_id, hrow⟩, hreads.1 ▸ hreads⟩

theorem mirrors_empty : Mirrors pydantic InMemoryEvaluationStore.empty EvalTables.empty :=
  ⟨fun _ => rfl, fun _ => .none, fun _ => rfl⟩

theorem Mirrors.put (h : Mirrors pydantic store tables) {row : AttemptColumns} {record : AttemptRecord AttemptTelemetry}
    (hreads : ReadsAs pydantic attempt_id row record) :
    Mirrors pydantic (store.put_attempt attempt_id record)
      { tables with task_attempt := tables.task_attempt.set attempt_id row } where
  experiments := h.experiments
  results := h.results
  attempts id := by
    show Option.Rel _ ((tables.task_attempt.set attempt_id row).get? id)
      ((store.attempts.set attempt_id record).get? id)
    rw [Dict.get?_set, Dict.get?_set]
    split_ifs with hid
    · subst hid
      exact .some hreads
    · exact h.attempts id

theorem Mirrors.put_result (h : Mirrors pydantic store tables) (result : EpisodeResult) :
    Mirrors pydantic (store.put_result attempt_id result)
      { tables with task_result := tables.task_result.set attempt_id result } where
  experiments := h.experiments
  attempts := h.attempts
  results id := by
    show (tables.task_result.set attempt_id result).get? id = (store.results.set attempt_id result).get? id
    rw [Dict.get?_set, Dict.get?_set, h.results]

theorem Mirrors.mem_results (h : Mirrors pydantic store tables) :
    attempt_id ∈ tables.task_result.keys ↔ attempt_id ∈ store.results.keys := by
  rw [Dict.mem_keys, Dict.mem_keys, h.results]

theorem Mirrors.mem_attempts (h : Mirrors pydantic store tables) :
    attempt_id ∈ tables.task_attempt.keys ↔ attempt_id ∈ store.attempts.keys := by
  rw [Dict.mem_keys, Dict.mem_keys]
  constructor
  · rintro ⟨row, hrow⟩
    obtain ⟨record, hrecord, -⟩ := h.record hrow
    exact ⟨record, hrecord⟩
  · rintro ⟨record, hrecord⟩
    obtain ⟨row, hrow, -⟩ := h.row hrecord
    exact ⟨row, hrow⟩

end Mirrors

/-! ## Merging a telemetry -/

section Merge

variable {τ : Type} {kind : Kind τ} {fields fields' patch : Dict String Value}

theorem optional_union {key : String} (h : kind.optional fields key = kind.optional fields' key) :
    kind.optional (fields.union patch) key = kind.optional (fields'.union patch) key := by
  cases hpatch : patch.get? key with
  | none =>
    have hkept (d : Dict String Value) : (d.union patch).get? key = d.get? key := by
      rw [Dict.get?_union, hpatch, Option.none_or]
    unfold Kind.optional at h ⊢
    rw [hkept, hkept]
    exact h
  | some value =>
    unfold Kind.optional
    rw [Dict.get?_union, Dict.get?_union, hpatch, Option.some_or, Option.some_or]

theorem known_union (hknown : ∀ key ∈ fields.keys, key ∈ AttemptTelemetry.FIELDS)
    (h : ∀ key ∈ (fields'.union patch).keys, key ∈ AttemptTelemetry.FIELDS) :
    ∀ key ∈ (fields.union patch).keys, key ∈ AttemptTelemetry.FIELDS := by
  intro key hkey
  rcases Dict.mem_keys_union.mp hkey with hkey | hkey
  · exact hknown key hkey
  · exact h key (Dict.mem_keys_union.mpr (.inr hkey))

theorem reads_union {telemetry merged : AttemptTelemetry} (h : AttemptTelemetry.Reads pydantic fields telemetry)
    (h' : AttemptTelemetry.Reads pydantic fields' telemetry)
    (hmerged : AttemptTelemetry.Reads pydantic (fields'.union patch) merged) :
    AttemptTelemetry.Reads pydantic (fields.union patch) merged where
  known := known_union h.known hmerged.known
  agent_usage := (optional_union (h.agent_usage.trans h'.agent_usage.symm)).trans hmerged.agent_usage
  simulator_usage := (optional_union (h.simulator_usage.trans h'.simulator_usage.symm)).trans hmerged.simulator_usage
  agent_cost := (optional_union (h.agent_cost.trans h'.agent_cost.symm)).trans hmerged.agent_cost
  simulator_cost := (optional_union (h.simulator_cost.trans h'.simulator_cost.symm)).trans hmerged.simulator_cost
  retry_cost := (optional_union (h.retry_cost.trans h'.retry_cost.symm)).trans hmerged.retry_cost
  wall_clock_ms := (optional_union (h.wall_clock_ms.trans h'.wall_clock_ms.symm)).trans hmerged.wall_clock_ms
  rounds := (optional_union (h.rounds.trans h'.rounds.symm)).trans hmerged.rounds
  tool_calls := (optional_union (h.tool_calls.trans h'.tool_calls.symm)).trans hmerged.tool_calls
  submit_count := (optional_union (h.submit_count.trans h'.submit_count.symm)).trans hmerged.submit_count
  cache_hit_ratio := (optional_union (h.cache_hit_ratio.trans h'.cache_hit_ratio.symm)).trans hmerged.cache_hit_ratio
  spool_path := (optional_union (h.spool_path.trans h'.spool_path.symm)).trans hmerged.spool_path
  spool_sha256 := (optional_union (h.spool_sha256.trans h'.spool_sha256.symm)).trans hmerged.spool_sha256
  agent_turns := (optional_union (h.agent_turns.trans h'.agent_turns.symm)).trans hmerged.agent_turns
  agent_session_id :=
    (optional_union (h.agent_session_id.trans h'.agent_session_id.symm)).trans hmerged.agent_session_id

end Merge

/-! ## The writing calls -/

/-- Both stores accept, or both refuse with a conflict. -/
inductive SameOutcome : Except EvalError Unit → Except PostgresError Unit → Prop
  | accepted : SameOutcome (.ok ()) (.ok ())
  | refused (reason_code reason_code' : String) :
      SameOutcome (.error (.conflict reason_code)) (.error (.conflict reason_code'))

/-- A call has the same outcome on both, and the tables still mirror the store. -/
def Agrees (pydantic : Pydantic)
    (applied : Except EvalError Unit × InMemoryEvaluationStore AttemptTelemetry)
    (sent : Except PostgresError Unit × EvalTables) : Prop :=
  SameOutcome applied.1 sent.1 ∧ Mirrors pydantic applied.2 sent.2

/-- The calls that both stores take alike. The texts and numbers fit their columns. An experiment has one of the
purposes and a digest. A new attempt belongs to an experiment, and is not finished. No attempt succeeds with an error.
And a patch leaves a valid telemetry. -/
def Portable (pydantic : Pydantic) (store : InMemoryEvaluationStore AttemptTelemetry) :
    Operation AttemptTelemetry → Prop
  | .register_experiment experiment_id purpose config_hash =>
    storable_text experiment_id ∧ purpose ∈ PURPOSES ∧ storable_text config_hash ∧ config_hash.length = 64
  | .register_attempt record =>
    EvalTables.sendable (AttemptTelemetry.contract pydantic) record ∧
      (record.attempt_id ∉ store.attempts.keys →
        (¬ ∃ existing ∈ store.attempts.values, InMemoryEvaluationStore.SameSequence existing record) →
        record.experiment_id.text ∈ store.experiments.keys ∧ record.finished_at = none)
  | .mark_running _ _ => True
  | .finish_attempt attempt_id status error_class telemetry result _ =>
    storable_class error_class ∧ storable_fields (AttemptTelemetry.model_dump pydantic telemetry).items ∧
      (store.status? attempt_id = some .running →
        ¬ (error_class.isSome ∧ status = .succeeded) ∧ ∀ r ∈ result, fits_result r)
  | .merge_telemetry attempt_id patch =>
    storable_fields patch.items ∧ ∀ record, store.attempts.get? attempt_id = some record →
      (AttemptTelemetry.model_validate pydantic
        ((AttemptTelemetry.model_dump pydantic record.telemetry).union patch)).isSome
  | .record_result _ result => fits_result result

section Writes

variable {store : InMemoryEvaluationStore AttemptTelemetry} {tables : EvalTables}

theorem agrees_conflict (h : Mirrors pydantic store tables) (reason_code reason_code' : String) :
    Agrees pydantic (store.conflict reason_code) (tables.conflict reason_code') := ⟨.refused _ _, h⟩

theorem char64_digest {text : String} (h : text.length = 64) : char64 text = some text := by
  unfold char64
  rw [if_pos h.le, h]
  simp

theorem purposes_storable {purpose : String} (h : purpose ∈ PURPOSES) : storable_text purpose = true := by
  have hall : ∀ purpose ∈ PURPOSES, storable_text purpose = true := by decide
  exact hall purpose h

theorem register_experiment_agrees (h : Mirrors pydantic store tables) {experiment_id purpose config_hash : String}
    (hportable : Portable pydantic store (.register_experiment experiment_id purpose config_hash)) :
    Agrees pydantic (store.register_experiment experiment_id purpose config_hash)
      (tables.register_experiment experiment_id purpose config_hash) := by
  obtain ⟨hid, hpurpose, hhash, hlength⟩ := hportable
  unfold InMemoryEvaluationStore.register_experiment EvalTables.register_experiment
  rw [if_neg (not_not.mpr ⟨hid, purposes_storable hpurpose, hhash⟩), char64_digest hlength]
  dsimp only
  rw [if_neg (not_not.mpr hpurpose), h.experiments]
  cases store.experiments.get? experiment_id with
  | some existing =>
    dsimp only
    split_ifs
    · exact agrees_conflict h _ _
    · exact ⟨.accepted, h⟩
  | none =>
    refine ⟨.accepted, ?_, h.attempts, h.results⟩
    intro id
    dsimp only
    rw [Dict.get?_set, Dict.get?_set, h.experiments]

theorem row_of_reads {record : AttemptRecord AttemptTelemetry} (hfinished : record.finished_at = none) :
    ReadsAs pydantic record.attempt_id (EvalTables.row_of (AttemptTelemetry.contract pydantic) record) record := by
  refine readsAs_iff.mpr ⟨rfl, AttemptTelemetry.reads_model_dump record.telemetry, ?_⟩
  unfold EvalTables.row_of AttemptRecord.with_telemetry
  rw [← hfinished]

theorem same_sequence_agrees (h : Mirrors pydantic store tables) (record : AttemptRecord AttemptTelemetry) :
    (∃ existing ∈ tables.task_attempt.values, InMemoryEvaluationStore.SameSequence existing
      (EvalTables.row_of (AttemptTelemetry.contract pydantic) record)) ↔
      ∃ existing ∈ store.attempts.values, InMemoryEvaluationStore.SameSequence existing record := by
  constructor
  · rintro ⟨row, hrow, hrun, htask, hmode, hseq⟩
    obtain ⟨existing, hexisting, hreads⟩ := h.values.1 row hrow
    obtain ⟨hrun', -, htask', hmode', hseq', -⟩ := hreads.columns
    exact ⟨existing, hexisting, hrun'.symm.trans hrun, htask'.symm.trans htask, hmode'.symm.trans hmode,
      hseq'.symm.trans hseq⟩
  · rintro ⟨existing, hexisting, hrun, htask, hmode, hseq⟩
    obtain ⟨row, hrow, hreads⟩ := h.values.2 existing hexisting
    obtain ⟨hrun', -, htask', hmode', hseq', -⟩ := hreads.columns
    exact ⟨row, hrow, hrun'.trans hrun, htask'.trans htask, hmode'.trans hmode, hseq'.trans hseq⟩

theorem register_attempt_agrees (h : Mirrors pydantic store tables) {record : AttemptRecord AttemptTelemetry}
    (hportable : Portable pydantic store (.register_attempt record)) :
    Agrees pydantic (store.register_attempt record)
      (tables.register_attempt (AttemptTelemetry.contract pydantic) record) := by
  obtain ⟨hsendable, hnew⟩ := hportable
  unfold InMemoryEvaluationStore.register_attempt EvalTables.register_attempt
  rw [if_neg (not_not.mpr hsendable)]
  simp only [h.mem_attempts, same_sequence_agrees h]
  by_cases hknown : record.attempt_id ∈ store.attempts.keys
  · rw [if_pos hknown, if_pos (.inl hknown)]
    exact agrees_conflict h _ _
  by_cases hsame : ∃ existing ∈ store.attempts.values, InMemoryEvaluationStore.SameSequence existing record
  · rw [if_neg hknown, if_pos hsame, if_pos (.inr hsame)]
    exact agrees_conflict h _ _
  obtain ⟨hexperiment, hfinished⟩ := hnew hknown hsame
  have hregistered : record.experiment_id.text ∈ tables.experiment.keys := by
    rw [Dict.mem_keys] at hexperiment ⊢
    rwa [h.experiments]
  rw [if_neg hknown, if_neg hsame, if_neg (not_or.mpr ⟨hknown, hsame⟩), if_neg (not_not.mpr hregistered)]
  exact ⟨.accepted, h.put (row_of_reads hfinished)⟩

theorem ReadsAs.with_status {attempt_id : UUID} {row : AttemptColumns} {record : AttemptRecord AttemptTelemetry}
    (h : ReadsAs pydantic attempt_id row record) (status : EvalTaskStatus) :
    ReadsAs pydantic attempt_id { row with status := status } { record with status := status } := by
  obtain ⟨hid, hreads, hrecord⟩ := readsAs_iff.mp h
  refine readsAs_iff.mpr ⟨hid, hreads, ?_⟩
  rw [hrecord]
  rfl

theorem mark_running_agrees (h : Mirrors pydantic store tables) (attempt_id : UUID) (expected_status : EvalTaskStatus) :
    Agrees pydantic (store.mark_running attempt_id expected_status)
      (tables.mark_running attempt_id expected_status) := by
  unfold InMemoryEvaluationStore.mark_running EvalTables.mark_running
  cases hget : store.attempts.get? attempt_id with
  | none =>
    rw [h.no_row hget]
    dsimp only
    split_ifs <;> exact agrees_conflict h _ _
  | some record =>
    obtain ⟨row, hrow, hreads⟩ := h.row hget
    obtain rfl := hreads.1
    rw [hrow]
    dsimp only
    rw [hreads.status]
    by_cases hexpected : expected_status = .pending
    · by_cases hpending : record.status = .pending
      · rw [if_neg (by simp [hexpected, hpending]), if_neg (not_not.mpr hexpected), if_neg (not_not.mpr hpending)]
        exact ⟨.accepted, h.put (hreads.with_status .running)⟩
      · rw [if_pos (.inl hpending), if_neg (not_not.mpr hexpected), if_pos hpending]
        exact agrees_conflict h _ _
    · rw [if_pos (.inr hexpected), if_pos hexpected]
      exact agrees_conflict h _ _

theorem insert_result_ok (h : Mirrors pydantic store tables) {attempt_id : UUID} {result : EpisodeResult}
    {row : AttemptColumns} (hfits : fits_result result = true) (hrow : tables.task_attempt.get? attempt_id = some row) :
    tables.insert_result attempt_id result =
      if row.status ≠ .succeeded ∨ attempt_id ∈ store.results.keys then
        .error (.conflict "result_requires_succeeded_attempt")
      else .ok { tables with task_result := tables.task_result.set attempt_id result } := by
  unfold EvalTables.insert_result
  rw [if_neg (not_not.mpr hfits), hrow]
  simp only [h.mem_results]

theorem record_result_agrees (h : Mirrors pydantic store tables) {attempt_id : UUID} {result : EpisodeResult}
    (hfits : fits_result result = true) :
    Agrees pydantic (store.record_result attempt_id result) (tables.record_result attempt_id result) := by
  unfold InMemoryEvaluationStore.record_result EvalTables.record_result
  cases hget : store.attempts.get? attempt_id with
  | none =>
    unfold EvalTables.insert_result
    rw [if_neg (not_not.mpr hfits), h.no_row hget]
    exact agrees_conflict h _ _
  | some record =>
    obtain ⟨row, hrow, hreads⟩ := h.row hget
    rw [insert_result_ok h hfits hrow, hreads.status]
    dsimp only
    by_cases hstatus : record.status = .succeeded
    · by_cases hrecorded : attempt_id ∈ store.results.keys
      · rw [if_neg (not_not.mpr hstatus), if_pos hrecorded, if_pos (.inr hrecorded)]
        exact agrees_conflict h _ _
      · rw [if_neg (not_not.mpr hstatus), if_neg hrecorded, if_neg (not_or.mpr ⟨not_not.mpr hstatus, hrecorded⟩)]
        exact ⟨.accepted, h.put_result result⟩
    · rw [if_pos hstatus, if_pos (.inl hstatus)]
      exact agrees_conflict h _ _

theorem finish_attempt_agrees (h : Mirrors pydantic store tables) {attempt_id : UUID} {status : EvalTaskStatus}
    {error_class : Option (Text 1 128)} {telemetry : AttemptTelemetry} {result : Option EpisodeResult} {now : Instant}
    (hportable : Portable pydantic store (.finish_attempt attempt_id status error_class telemetry result now)) :
    Agrees pydantic (store.finish_attempt attempt_id status error_class telemetry result now)
      (tables.finish_attempt (AttemptTelemetry.contract pydantic) attempt_id status error_class telemetry result
        now) := by
  obtain ⟨hclass, htelemetry, hrunning⟩ := hportable
  unfold InMemoryEvaluationStore.finish_attempt EvalTables.finish_attempt
  rw [if_neg (not_not.mpr ⟨hclass, htelemetry⟩)]
  cases hget : store.attempts.get? attempt_id with
  | none =>
    rw [h.no_row hget]
    exact agrees_conflict h _ _
  | some record =>
    obtain ⟨row, hrow, hreads⟩ := h.row hget
    obtain rfl := hreads.1
    rw [hrow]
    dsimp only
    rw [hreads.status]
    by_cases hstatus : record.status = .running
    · obtain ⟨hclean, hfits⟩ := hrunning (by rw [InMemoryEvaluationStore.status?, hget, Option.map_some, hstatus])
      rw [if_neg (not_not.mpr hstatus), if_neg (not_not.mpr hstatus), if_neg hclean]
      have hfinished : ReadsAs pydantic record.attempt_id
          { row with
            status := status
            error_class := error_class
            finished_at := some now
            telemetry := (AttemptTelemetry.contract pydantic).model_dump telemetry }
          { record with status := status, error_class := error_class, finished_at := some now, telemetry :=
            telemetry } := by
        obtain ⟨hid, -, hrecord⟩ := readsAs_iff.mp hreads
        refine readsAs_iff.mpr ⟨hid, AttemptTelemetry.reads_model_dump telemetry, ?_⟩
        rw [hrecord]
        rfl
      have hput := h.put hfinished
      cases result with
      | none =>
        rw [if_neg (by simp), if_neg (by simp)]
        exact ⟨.accepted, hput⟩
      | some result =>
        dsimp only
        rw [insert_result_ok hput (hfits result rfl) (Dict.get?_set_self _ _ _)]
        by_cases hsucceeded : status = .succeeded
        · by_cases hrecorded : record.attempt_id ∈ store.results.keys
          · rw [if_neg (by simp [hsucceeded]), if_pos ⟨rfl, hrecorded⟩, if_pos (.inr hrecorded)]
            exact agrees_conflict h _ _
          · have hfree : ¬(status ≠ .succeeded ∨ record.attempt_id ∈ store.results.keys) :=
              not_or.mpr ⟨not_not.mpr hsucceeded, hrecorded⟩
            rw [if_neg (by simp [hsucceeded]), if_neg (by simp [hrecorded])]
            erw [if_neg hfree]
            exact ⟨.accepted, hput.put_result result⟩
        · rw [if_pos ⟨rfl, hsucceeded⟩, if_pos (.inl hsucceeded)]
          exact agrees_conflict h _ _
    · rw [if_pos hstatus, if_pos hstatus]
      exact agrees_conflict h _ _

theorem merge_telemetry_agrees (h : Mirrors pydantic store tables) {attempt_id : UUID} {patch : Dict String Value}
    (hportable : Portable pydantic store (.merge_telemetry attempt_id patch)) :
    Agrees pydantic (store.merge_telemetry (AttemptTelemetry.contract pydantic) attempt_id patch)
      (tables.merge_telemetry attempt_id patch) := by
  obtain ⟨hstorable, hvalid⟩ := hportable
  unfold InMemoryEvaluationStore.merge_telemetry EvalTables.merge_telemetry PostgresEvaluationStore.merge_telemetry
  rw [if_neg (not_not.mpr hstorable)]
  cases hget : store.attempts.get? attempt_id with
  | none =>
    rw [h.no_row hget]
    exact agrees_conflict h _ _
  | some record =>
    obtain ⟨row, hrow, hreads⟩ := h.row hget
    obtain ⟨merged, hmerged⟩ := Option.isSome_iff_exists.mp (hvalid record hget)
    have hmodel : (AttemptTelemetry.contract pydantic).model_validate
        (((AttemptTelemetry.contract pydantic).model_dump record.telemetry).union patch) = some merged := hmerged
    rw [hrow]
    dsimp only
    rw [hmodel]
    obtain ⟨hid, htelemetry, hrecord⟩ := readsAs_iff.mp hreads
    refine ⟨.accepted, h.put (readsAs_iff.mpr ⟨hid, ?_, ?_⟩)⟩
    · exact reads_union htelemetry (AttemptTelemetry.reads_model_dump record.telemetry)
        (AttemptTelemetry.model_validate_eq_some.mp hmerged)
    · rw [hrecord]
      rfl

theorem operation_agrees (h : Mirrors pydantic store tables) {operation : Operation AttemptTelemetry}
    (hportable : Portable pydantic store operation) :
    Agrees pydantic (operation.apply (AttemptTelemetry.contract pydantic) store)
      (operation.send (AttemptTelemetry.contract pydantic) tables) := by
  cases operation with
  | register_experiment experiment_id purpose config_hash => exact register_experiment_agrees h hportable
  | register_attempt record => exact register_attempt_agrees h hportable
  | mark_running attempt_id expected_status => exact mark_running_agrees h attempt_id expected_status
  | finish_attempt attempt_id status error_class telemetry result now => exact finish_attempt_agrees h hportable
  | merge_telemetry attempt_id patch => exact merge_telemetry_agrees h hportable
  | record_result attempt_id result => exact record_result_agrees h hportable

end Writes

end CommerceAgent.Evaluation
