import CommerceAgent.Evaluation.StoreAgreement

/-!
# Runs of the two evaluation stores

What the tables answer to a query is what the in-memory store answers. So whole runs are answered alike.
-/

open CommerceAgent.Lib
open CommerceAgent.Operations (UUID Text)

namespace CommerceAgent.Evaluation

variable {pydantic : Pydantic}

/-! ## The order of the tasks -/

theorem key_le_total (a b : TaskKey) : key_le a b ∨ key_le b a := by
  rcases lt_trichotomy a.1.text b.1.text with hlt | heq | hlt
  · exact .inl (.inl hlt)
  · rcases le_total a.2.value b.2.value with hle | hle
    · exact .inl (.inr ⟨heq, hle⟩)
    · exact .inr (.inr ⟨heq.symm, hle⟩)
  · exact .inr (.inl hlt)

theorem key_le_trans {a b c : TaskKey} (hab : key_le a b) (hbc : key_le b c) : key_le a c := by
  rcases hab with hab | ⟨htask, hmode⟩
  · rcases hbc with hbc | ⟨htask', -⟩
    · exact .inl (hab.trans hbc)
    · exact .inl (htask' ▸ hab)
  · rcases hbc with hbc | ⟨htask', hmode'⟩
    · exact .inl (htask ▸ hbc)
    · exact .inr ⟨htask.trans htask', hmode.trans hmode'⟩

theorem mode_value_injective {mode mode' : EvalMode} (h : mode.value = mode'.value) : mode = mode' := by
  cases mode <;> cases mode' <;> first | rfl | exact absurd h (by decide)

theorem key_le_antisymm {a b : TaskKey} (hab : key_le a b) (hba : key_le b a) : a = b := by
  rcases hab with hab | ⟨htask, hmode⟩
  · rcases hba with hba | ⟨htask, -⟩
    · exact absurd hab hba.asymm
    · exact absurd hab (htask ▸ lt_irrefl _)
  · rcases hba with hba | ⟨-, hmode'⟩
    · exact absurd hba (htask ▸ lt_irrefl _)
    · exact Prod.ext (Operations.Checked.ext htask) (mode_value_injective (le_antisymm hmode hmode'))

/-! ## The latest attempts -/

section Latest

variable {τ : Type} {key : TaskKey}

open InMemoryEvaluationStore

/-- The record that is filed for a task, among the candidates. -/
def Latest (candidate : AttemptRecord τ → Prop) (key : TaskKey) : Option (AttemptRecord τ) → Prop
  | none => ∀ record, candidate record → record.key ≠ key
  | some latest => latest.key = key ∧ candidate latest ∧
    ∀ record, candidate record → record.key = key → record.attempt_seq ≤ latest.attempt_seq

theorem Latest.congr {candidate candidate' : AttemptRecord τ → Prop} {filed : Option (AttemptRecord τ)}
    (h : Latest candidate key filed) (hsame : ∀ record, record.key = key → (candidate' record ↔ candidate record)) :
    Latest candidate' key filed := by
  cases filed with
  | none =>
    intro record hcandidate hkey
    exact h record ((hsame record hkey).mp hcandidate) hkey
  | some latest =>
    obtain ⟨hkey, hcandidate, hnewest⟩ := h
    refine ⟨hkey, (hsame latest hkey).mpr hcandidate, ?_⟩
    intro record hrecord hother
    exact hnewest record ((hsame record hother).mp hrecord) hother

theorem newest_latest {records : List (AttemptRecord τ)} {skip : AttemptRecord τ → Prop} {record : AttemptRecord τ}
    {latest : Dict TaskKey (AttemptRecord τ)} (hskip : ¬ skip record)
    (h : Latest (fun r => r ∈ records ∧ ¬ skip r) record.key (latest.get? record.key)) :
    Latest (fun r => r ∈ records ++ [record] ∧ ¬ skip r) record.key ((newest latest record).get? record.key) := by
  have hlast : record ∈ records ++ [record] ∧ ¬ skip record := ⟨List.mem_append_right _ List.mem_cons_self, hskip⟩
  cases hget : latest.get? record.key with
  | none =>
    rw [hget] at h
    rw [newest_none hget, Dict.get?_set_self]
    refine ⟨rfl, hlast, ?_⟩
    rintro r ⟨hmem, hr⟩ hkey
    rcases List.mem_append.mp hmem with hmem | hmem
    · exact absurd hkey (h r ⟨hmem, hr⟩)
    · rw [List.mem_singleton.mp hmem]
  | some other =>
    rw [hget] at h
    obtain ⟨hkey, ⟨hother, hnot⟩, hnewest⟩ := h
    rw [newest_some hget]
    split_ifs with hgreater
    · rw [Dict.get?_set_self]
      refine ⟨rfl, hlast, ?_⟩
      rintro r ⟨hmem, hr⟩ hsame
      rcases List.mem_append.mp hmem with hmem | hmem
      · exact (hnewest r ⟨hmem, hr⟩ hsame).trans hgreater.le
      · rw [List.mem_singleton.mp hmem]
    · rw [hget]
      refine ⟨hkey, ⟨List.mem_append_left _ hother, hnot⟩, ?_⟩
      rintro r ⟨hmem, hr⟩ hsame
      rcases List.mem_append.mp hmem with hmem | hmem
      · exact hnewest r ⟨hmem, hr⟩ hsame
      · rw [List.mem_singleton.mp hmem]
        exact not_lt.mp hgreater

theorem fold_latest (key : TaskKey) (records : List (AttemptRecord τ)) (skip : AttemptRecord τ → Prop)
    [DecidablePred skip] : Latest (fun r => r ∈ records ∧ ¬ skip r) key
      ((records.foldl (fun latest record => if skip record then latest else newest latest record) Dict.empty).get?
        key) := by
  induction records using List.reverseRecOn with
  | nil => exact fun record h => absurd h.1 List.not_mem_nil
  | append_singleton records record ih =>
    rw [List.foldl_append, List.foldl_cons, List.foldl_nil]
    by_cases hskip : skip record
    · rw [if_pos hskip]
      refine ih.congr fun r _ => ?_
      constructor
      · rintro ⟨hmem, hr⟩
        rcases List.mem_append.mp hmem with hmem | hmem
        · exact ⟨hmem, hr⟩
        · exact absurd (List.mem_singleton.mp hmem ▸ hskip) hr
      · exact fun ⟨hmem, hr⟩ => ⟨List.mem_append_left _ hmem, hr⟩
    · rw [if_neg hskip]
      by_cases hkey : record.key = key
      · subst hkey
        exact newest_latest hskip ih
      · rw [newest_other hkey]
        refine ih.congr fun r hr => ?_
        constructor
        · rintro ⟨hmem, hnot⟩
          rcases List.mem_append.mp hmem with hmem | hmem
          · exact ⟨hmem, hnot⟩
          · exact absurd (List.mem_singleton.mp hmem ▸ hr) hkey
        · exact fun ⟨hmem, hnot⟩ => ⟨List.mem_append_left _ hmem, hnot⟩

/-- An attempt of a task of the experiment that is not completed. -/
def Open (store : InMemoryEvaluationStore τ) (experiment_id : String) (record : AttemptRecord τ) : Prop :=
  record ∈ store.attempts.values ∧ record.experiment_id.text = experiment_id ∧
    record.key ∉ store.completed_tasks experiment_id

theorem latest_of_open (store : InMemoryEvaluationStore τ) (experiment_id : String) (key : TaskKey) :
    Latest (Open store experiment_id) key ((store.latest experiment_id).get? key) := by
  rw [latest_eq]
  refine (fold_latest key _ _).congr fun record _ => ?_
  unfold Open
  rw [not_or, not_not]

/-- The in-memory store lists what the query selects, in the order of Python. -/
theorem unfinished_selects (store : InMemoryEvaluationStore τ) (experiment_id : String) :
    EvalTables.SelectsLatest key_le (Open store experiment_id) (store.unfinished_attempts experiment_id) := by
  have hperm := unfinished_perm store experiment_id
  have hlatest (key : TaskKey) := latest_of_open store experiment_id key
  have hkeys : (store.latest experiment_id).values.map AttemptRecord.key =
      (store.latest experiment_id).items.map Prod.fst := by
    unfold Dict.values
    rw [List.map_map]
    refine List.map_congr_left fun item hitem => ?_
    have hfiled := hlatest item.1
    rw [Dict.get?_eq_some.mpr hitem] at hfiled
    exact hfiled.1
  constructor
  · have : Std.Total fun a b : AttemptRecord τ => key_le a.key b.key := ⟨fun a b => key_le_total a.key b.key⟩
    have : IsTrans (AttemptRecord τ) fun a b => key_le a.key b.key := ⟨fun _ _ _ => key_le_trans⟩
    exact List.pairwise_map.mpr (List.pairwise_insertionSort _ _)
  · rw [(hperm.map _).nodup_iff, hkeys]
    exact (store.latest experiment_id).nodup
  · intro record hrecord
    obtain ⟨key, hget⟩ := mem_values.mp (hperm.mem_iff.mp hrecord)
    have hfiled := hlatest key
    rw [hget] at hfiled
    obtain ⟨rfl, hopen, hnewest⟩ := hfiled
    exact ⟨hopen, hnewest⟩
  · intro record hopen
    have hfiled := hlatest record.key
    cases hget : (store.latest experiment_id).get? record.key with
    | none =>
      rw [hget] at hfiled
      exact absurd rfl (hfiled record hopen)
    | some latest =>
      rw [hget] at hfiled
      rw [← hfiled.1]
      exact List.mem_map_of_mem (hperm.mem_iff.mpr (mem_values.mpr ⟨_, hget⟩))

end Latest

/-! ## What the query reads -/

/-- The query has one answer, and Python sorts it as the database does. -/
structure Orderly {τ : Type} (collate : TaskKey → TaskKey → Prop) (store : InMemoryEvaluationStore τ)
    (experiment_id : String) : Prop where
  collated : ∀ a b, Open store experiment_id a → Open store experiment_id b →
    (collate a.key b.key ↔ key_le a.key b.key)
  untied : ∀ a b, Open store experiment_id a → Open store experiment_id b → a.key = b.key →
    a.attempt_seq = b.attempt_seq → a = b

section Reads

variable {store : InMemoryEvaluationStore AttemptTelemetry} {tables : EvalTables} {experiment_id : String}
  {collate : TaskKey → TaskKey → Prop}

open InMemoryEvaluationStore

theorem mem_completed {key : TaskKey} : key ∈ store.completed_tasks experiment_id ↔
    ∃ record ∈ store.attempts.values, record.experiment_id.text = experiment_id ∧ record.status ∈ TERMINAL_STATUSES ∧
      record.key = key := by
  unfold completed_tasks
  simp only [List.mem_toFinset, List.mem_map, List.mem_filter, decide_eq_true_eq, and_assoc]

theorem completed_tasks_agrees (h : Mirrors pydantic store tables) (hstorable : storable_text experiment_id) :
    tables.completed_tasks experiment_id = .ok (store.completed_tasks experiment_id) := by
  unfold EvalTables.completed_tasks
  rw [if_neg (not_not.mpr hstorable)]
  refine congrArg Except.ok (Finset.ext fun key => ?_)
  rw [mem_completed]
  simp only [List.mem_toFinset, List.mem_map, List.mem_filter, decide_eq_true_eq, and_assoc]
  obtain ⟨hrecords, hrows⟩ := h.values
  constructor
  · rintro ⟨row, hrow, hexperiment, hstatus, hkey⟩
    obtain ⟨record, hrecord, hreads⟩ := hrecords row hrow
    obtain ⟨-, hid, -, -, -, hsame⟩ := hreads.columns
    exact ⟨record, hrecord, hid ▸ hexperiment, hsame ▸ hstatus, hreads.key ▸ hkey⟩
  · rintro ⟨record, hrecord, hexperiment, hstatus, hkey⟩
    obtain ⟨row, hrow, hreads⟩ := hrows record hrecord
    obtain ⟨-, hid, -, -, -, hsame⟩ := hreads.columns
    exact ⟨row, hrow, hid.symm ▸ hexperiment, hsame.symm ▸ hstatus, hreads.key.trans hkey⟩

theorem retryable_or_terminal (status : EvalTaskStatus) :
    status ∈ RETRYABLE_STATUSES ↔ status ∉ TERMINAL_STATUSES := by
  cases status <;> decide

theorem unfinished_iff_open (h : Mirrors pydantic store tables) {row : AttemptColumns}
    {record : AttemptRecord AttemptTelemetry} (hrow : row ∈ tables.task_attempt.values)
    (hrecord : record ∈ store.attempts.values) (hreads : ReadsAs pydantic record.attempt_id row record) :
    EvalTables.Unfinished experiment_id tables row ↔ Open store experiment_id record := by
  obtain ⟨hrecords, hrows⟩ := h.values
  obtain ⟨-, hid, -, -, -, hstatus⟩ := hreads.columns
  constructor
  · intro hunfinished
    refine ⟨hrecord, hid ▸ hunfinished.experiment, fun hcompleted => ?_⟩
    obtain ⟨other, hother, hexperiment, hterminal, hkey⟩ := mem_completed.mp hcompleted
    obtain ⟨terminal, hstored, hreads'⟩ := hrows other hother
    obtain ⟨-, hid', -, -, -, hstatus'⟩ := hreads'.columns
    refine hunfinished.unfinished terminal hstored ?_ ?_ (hstatus'.symm ▸ hterminal)
    · exact Operations.Checked.ext ((hid' ▸ hexperiment).trans hunfinished.experiment.symm)
    · exact (hreads'.key.trans hkey).trans hreads.key.symm
  · rintro ⟨-, hexperiment, hopen⟩
    refine ⟨hrow, hid.symm ▸ hexperiment, ?_, ?_⟩
    · rw [retryable_or_terminal, hstatus]
      exact fun hterminal => hopen (mem_completed.mpr ⟨record, hrecord, hexperiment, hterminal, rfl⟩)
    · intro terminal hstored hsame hkey hterminal
      obtain ⟨other, hother, hreads'⟩ := hrecords terminal hstored
      obtain ⟨-, hid', -, -, -, hstatus'⟩ := hreads'.columns
      refine hopen (mem_completed.mpr ⟨other, hother, ?_, hstatus' ▸ hterminal, ?_⟩)
      · rw [← hid', hsame, hid, hexperiment]
      · rw [← hreads'.key, hkey, hreads.key]

/-- A row of the table, and its attempt in the store. -/
def Row (pydantic : Pydantic) (tables : EvalTables) (store : InMemoryEvaluationStore AttemptTelemetry)
    (row : AttemptColumns) (record : AttemptRecord AttemptTelemetry) : Prop :=
  row ∈ tables.task_attempt.values ∧ record ∈ store.attempts.values ∧ ReadsAs pydantic record.attempt_id row record

theorem selects_iff (h : Mirrors pydantic store tables) {rows : List AttemptColumns}
    {records : List (AttemptRecord AttemptTelemetry)} (hall : List.Forall₂ (Row pydantic tables store) rows records)
    {order : TaskKey → TaskKey → Prop} :
    EvalTables.SelectsLatest order (EvalTables.Unfinished experiment_id tables) rows ↔
      EvalTables.SelectsLatest order (Open store experiment_id) records := by
  obtain ⟨hrecords, hrows⟩ := h.values
  constructor
  · refine Selects.transfer ?_ ?_ hall
    · rintro row record ⟨hrow, hrecord, hreads⟩
      obtain ⟨-, -, -, -, hseq, -⟩ := hreads.columns
      exact ⟨hreads.key, hseq, (unfinished_iff_open h hrow hrecord hreads).mp⟩
    · intro record hopen
      obtain ⟨row, hrow, hreads⟩ := hrows record hopen.1
      exact ⟨row, ⟨hrow, hopen.1, hreads⟩, (unfinished_iff_open h hrow hopen.1 hreads).mpr hopen⟩
  · refine Selects.transfer (R := fun record row => Row pydantic tables store row record) ?_ ?_ hall.flip
    · rintro record row ⟨hrow, hrecord, hreads⟩
      obtain ⟨-, -, -, -, hseq, -⟩ := hreads.columns
      exact ⟨hreads.key.symm, hseq.symm, (unfinished_iff_open h hrow hrecord hreads).mpr⟩
    · intro row hunfinished
      obtain ⟨record, hrecord, hreads⟩ := hrecords row hunfinished.stored
      exact ⟨record, ⟨hunfinished.stored, hrecord, hreads⟩,
        (unfinished_iff_open h hunfinished.stored hrecord hreads).mp hunfinished⟩

theorem mapM_rows {rows : List AttemptColumns} {records : List (AttemptRecord AttemptTelemetry)}
    (hall : List.Forall₂ (Row pydantic tables store) rows records) :
    rows.mapM (record_from_row (AttemptTelemetry.contract pydantic)) = some records :=
  mapM_eq_some.mpr (hall.imp fun _ _ hrow => hrow.2.2.2)

/-- The query answers with the list of the in-memory store, and with no other. -/
theorem unfinished_attempts_agrees (h : Mirrors pydantic store tables) (hstorable : storable_text experiment_id)
    (horderly : Orderly collate store experiment_id) (answer : Option (List (AttemptRecord AttemptTelemetry))) :
    EvalTables.AnswersUnfinished (AttemptTelemetry.contract pydantic) collate experiment_id tables answer ↔
      answer = some (store.unfinished_attempts experiment_id) := by
  obtain ⟨hrecords, hrows⟩ := h.values
  have hlisted := unfinished_selects store experiment_id
  unfold EvalTables.AnswersUnfinished
  rw [if_neg (not_not.mpr hstorable)]
  constructor
  · rintro ⟨rows, hselects, rfl⟩
    obtain ⟨records, hall⟩ : ∃ records, List.Forall₂ (Row pydantic tables store) rows records := by
      refine exists_forall₂ fun row hrow => ?_
      have hstored := (hselects.highest row hrow).1.stored
      obtain ⟨record, hrecord, hreads⟩ := hrecords row hstored
      exact ⟨record, hstored, hrecord, hreads⟩
    have hrecorded := ((selects_iff h hall).mp hselects).reorder fun a b ha hb => (horderly.collated a b ha hb).mp
    have hsame := hrecorded.unique hlisted (fun _ _ => key_le_antisymm) horderly.untied
    rw [mapM_rows hall, hsame]
  · rintro rfl
    obtain ⟨rows, hall⟩ : ∃ rows, List.Forall₂ (fun record row => Row pydantic tables store row record)
        (store.unfinished_attempts experiment_id) rows := by
      refine exists_forall₂ fun record hrecord => ?_
      have hstored := (hlisted.highest record hrecord).1.1
      obtain ⟨row, hrow, hreads⟩ := hrows record hstored
      exact ⟨row, hrow, hstored, hreads⟩
    have hordered := hlisted.reorder fun a b ha hb => (horderly.collated a b ha hb).mpr
    exact ⟨rows, (selects_iff h hall.flip).mpr hordered, (mapM_rows hall.flip).symm⟩

end Reads

/-! ## Whole runs -/

/-- A call of either store. -/
inductive Call where
  | write (operation : Operation AttemptTelemetry)
  | completed_tasks (experiment_id : String)
  | unfinished_attempts (experiment_id : String)
  | result (attempt_id : UUID)

namespace Call

variable (pydantic) (collate : TaskKey → TaskKey → Prop)

/-- The in-memory store after a call. -/
def applied (store : InMemoryEvaluationStore AttemptTelemetry) : Call → InMemoryEvaluationStore AttemptTelemetry
  | .write operation => (operation.apply (AttemptTelemetry.contract pydantic) store).2
  | _ => store

/-- The tables after a call. -/
def sent (tables : EvalTables) : Call → EvalTables
  | .write operation => (operation.send (AttemptTelemetry.contract pydantic) tables).2
  | _ => tables

/-- Both stores accept or both conflict, and they answer alike. -/
def Agrees (store : InMemoryEvaluationStore AttemptTelemetry) (tables : EvalTables) : Call → Prop
  | .write operation => SameOutcome (operation.apply (AttemptTelemetry.contract pydantic) store).1
      (operation.send (AttemptTelemetry.contract pydantic) tables).1
  | .completed_tasks experiment_id => tables.completed_tasks experiment_id = .ok (store.completed_tasks experiment_id)
  | .unfinished_attempts experiment_id => ∀ answer,
      EvalTables.AnswersUnfinished (AttemptTelemetry.contract pydantic) collate experiment_id tables answer ↔
        answer = some (store.unfinished_attempts experiment_id)
  | .result attempt_id => tables.result attempt_id = store.result attempt_id

/-- The calls that both stores take alike. -/
def Portable (store : InMemoryEvaluationStore AttemptTelemetry) : Call → Prop
  | .write operation => CommerceAgent.Evaluation.Portable pydantic store operation
  | .completed_tasks experiment_id => storable_text experiment_id
  | .unfinished_attempts experiment_id => storable_text experiment_id ∧ Orderly collate store experiment_id
  | .result _ => True

end Call

/-- Every call of a run is one that both stores take alike, where it is made. -/
def PortableRun (pydantic : Pydantic) (collate : TaskKey → TaskKey → Prop) :
    InMemoryEvaluationStore AttemptTelemetry → List Call → Prop
  | _, [] => True
  | store, call :: calls => call.Portable pydantic collate store ∧
      PortableRun pydantic collate (call.applied pydantic store) calls

/-- The two stores agree on every call of a run. -/
def AgreeAlong (pydantic : Pydantic) (collate : TaskKey → TaskKey → Prop) :
    InMemoryEvaluationStore AttemptTelemetry → EvalTables → List Call → Prop
  | _, _, [] => True
  | store, tables, call :: calls => call.Agrees pydantic collate store tables ∧
      AgreeAlong pydantic collate (call.applied pydantic store) (call.sent pydantic tables) calls

section Runs

variable {store : InMemoryEvaluationStore AttemptTelemetry} {tables : EvalTables} {collate : TaskKey → TaskKey → Prop}

theorem Mirrors.call (h : Mirrors pydantic store tables) {call : Call}
    (hportable : call.Portable pydantic collate store) :
    call.Agrees pydantic collate store tables ∧
      Mirrors pydantic (call.applied pydantic store) (call.sent pydantic tables) := by
  cases call with
  | write operation => exact operation_agrees h hportable
  | completed_tasks experiment_id => exact ⟨completed_tasks_agrees h hportable, h⟩
  | unfinished_attempts experiment_id => exact ⟨unfinished_attempts_agrees h hportable.1 hportable.2, h⟩
  | result attempt_id => exact ⟨h.results attempt_id, h⟩

theorem Mirrors.run {calls : List Call} (h : Mirrors pydantic store tables)
    (hportable : PortableRun pydantic collate store calls) : AgreeAlong pydantic collate store tables calls := by
  induction calls generalizing store tables with
  | nil => trivial
  | cons call calls ih =>
    obtain ⟨hcall, hrest⟩ := hportable
    obtain ⟨hagrees, hmirrors⟩ := h.call hcall
    exact ⟨hagrees, ih hmirrors hrest⟩

end Runs

/-- Runs of calls that both stores take alike are answered alike, from the empty stores on. -/
theorem evaluation_stores_agree (pydantic : Pydantic) (collate : TaskKey → TaskKey → Prop) (calls : List Call)
    (hportable : PortableRun pydantic collate InMemoryEvaluationStore.empty calls) :
    AgreeAlong pydantic collate InMemoryEvaluationStore.empty EvalTables.empty calls := mirrors_empty.run hportable

/-! ## An attempt that succeeds with an error -/

def timedOut : Text 1 128 := ⟨"episode_timeout", by decide⟩

/-- An attempt is registered, runs, is listed, and is finished with the error class of a timeout. -/
def timedOutRun (status : EvalTaskStatus) : List Call :=
  [.write (.register_experiment sampleExperiment.text "pilot" (String.ofList (List.replicate 64 '0'))),
    .write (.register_attempt (pendingAttempt.with_telemetry AttemptTelemetry.blank)),
      .write (.mark_running 1 .pending),
    .unfinished_attempts sampleExperiment.text,
    .write (.finish_attempt 1 status (some timedOut) AttemptTelemetry.blank none 10),
    .completed_tasks sampleExperiment.text, .result 1]

theorem failed_run_agrees :
    AgreeAlong strictPydantic key_le InMemoryEvaluationStore.empty EvalTables.empty (timedOutRun .failed) := by
  refine evaluation_stores_agree strictPydantic key_le (timedOutRun .failed)
    ⟨⟨by decide, by decide, by decide, by decide⟩, ⟨by decide +kernel, fun _ _ => ⟨by decide, rfl⟩⟩, trivial,
      ⟨by decide, fun _ _ _ _ => Iff.rfl, ?_⟩, ⟨by decide, by decide +kernel, fun _ => ⟨by decide, nofun⟩⟩,
      (by decide : storable_text sampleExperiment.text = true), trivial, trivial⟩
  intro a b ha hb _ _
  exact (List.mem_singleton.mp ha.1).trans (List.mem_singleton.mp hb.1).symm

/-- The in-memory store refuses a success with an error class, and the tables take it. -/
theorem succeeded_run_differs :
    ¬ AgreeAlong strictPydantic key_le InMemoryEvaluationStore.empty EvalTables.empty (timedOutRun .succeeded) := by
  intro h
  have hfinish : SameOutcome (.error (.conflict "succeeded_requires_no_error_class")) (.ok ()) := h.2.2.2.2.1
  cases hfinish

end CommerceAgent.Evaluation
