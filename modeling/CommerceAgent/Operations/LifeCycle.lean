import CommerceAgent.Operations.ExactlyOnce

/-! # The life cycle of investigations and their risks -/

open CommerceAgent.Lib CommerceAgent.Operations.MemoryStore

namespace CommerceAgent.Operations

/-! ## What a command does to the tasks -/

namespace MemoryStore

/-- An update of a task: one version on, under the same identifier and with the same risk. -/
structure Updates (task changed : InvestigationTaskState) : Prop where
  task_id : changed.task_id = task.task_id
  linked : changed.linked_risk_id = task.linked_risk_id
  version : changed.version = task.version + 1

/-- An update that neither closes nor reopens. Of a closed task it keeps the conclusion. -/
structure Stays (command : Command Datetime Decimal) (ref : ProposalRef) (task changed : InvestigationTaskState) :
    Prop where
  closed : changed.status = .closed ↔ task.status = .closed
  conclusion : task.status = .closed → changed.conclusion_ref = task.conclusion_ref
  recorded : changed.conclusion_ref = task.conclusion_ref ∨
    changed.conclusion_ref = some (refName "conclusion" ref) ∧ ∃ c, command = .add_investigation_conclusion c

/-- The end of a task, under the conclusion that the command names. -/
structure Closes (command : Command Datetime Decimal) (task changed : InvestigationTaskState) : Prop where
  resolved : task.status = .resolved
  closed : changed.status = .closed
  conclusion : changed.conclusion_ref = task.conclusion_ref
  command : ∃ c, command = .close_investigation c ∧ task.conclusion_ref = some c.conclusion_ref.text

/-- The risk of a task that is closed: disposed of, if there is one. -/
def Disposes (task : InvestigationTaskState) (risks risks' : Dict UUID RiskAnnotationState) : Prop :=
  (task.linked_risk_id = none ∧ risks' = risks) ∨
    ∃ (r : UUID) (risk : RiskAnnotationState), task.linked_risk_id = some r ∧
      risk.status ≠ "under_investigation" ∧ risks' = risks.insert r risk

theorem put_task_ok {task changed : InvestigationTaskState} {s s' : MemoryStore} {versions : VersionStep}
    (h : s.put_task task changed = (.ok versions, s')) :
    (versions.before_version = task.version ∧ versions.after_version = task.version + 1) ∧
      s'.tasks = s.tasks.insert task.task_id { changed with version := task.version + 1 } ∧ s'.risks = s.risks := by
  unfold put_task at h
  obtain ⟨hversions, rfl⟩ := Prod.mk.inj h
  rw [← Except.ok.inj hversions]
  exact ⟨⟨rfl, rfl⟩, rfl, rfl⟩

theorem disposition_value (d : RiskDisposition) : d.value ≠ "under_investigation" := by
  cases d <;> decide

theorem close_ok {c : CloseInvestigation} {task : InvestigationTaskState} {s s' : MemoryStore} {versions : VersionStep}
    (h : s.close_investigation c task = (.ok versions, s')) :
    (versions.before_version = task.version ∧ versions.after_version = task.version + 1) ∧
      ∃ changed, s'.tasks = s.tasks.insert task.task_id changed ∧ Updates task changed ∧
        Closes (.close_investigation c) task changed ∧ Disposes task s.risks s'.risks := by
  unfold close_investigation at h
  split at h
  · cases (Prod.mk.inj h).1
  rename_i hresolved
  split at h
  · cases (Prod.mk.inj h).1
  rename_i hconclusion
  have hcloses : Closes (.close_investigation c) task { task with status := .closed, version := task.version + 1 } :=
    ⟨not_not.mp hresolved, rfl, rfl, c, rfl, not_not.mp hconclusion⟩
  split at h
  · rename_i hnone
    obtain ⟨hversions, htasks, hrisks⟩ := put_task_ok h
    exact ⟨hversions, _, htasks, ⟨rfl, rfl, rfl⟩, hcloses, Or.inl ⟨hnone, hrisks⟩⟩
  rename_i r hr
  split at h
  · cases (Prod.mk.inj h).1
  rename_i disposition _
  split at h
  · cases (Prod.mk.inj h).1
  rename_i risk _
  obtain ⟨hversions, htasks, hrisks⟩ := put_task_ok h
  exact ⟨hversions, _, htasks, ⟨rfl, rfl, rfl⟩, hcloses, Or.inr ⟨r, _, hr, disposition_value disposition, hrisks⟩⟩

theorem update_ok {command : Command Datetime Decimal} {ref : ProposalRef} {task : InvestigationTaskState}
    {s s' : MemoryStore} {versions : VersionStep} (h : s.update_task command ref task = (.ok versions, s')) :
    (versions.before_version = task.version ∧ versions.after_version = task.version + 1) ∧
      ∃ changed, s'.tasks = s.tasks.insert task.task_id changed ∧ Updates task changed ∧
        (Stays command ref task changed ∧ s'.risks = s.risks ∨
          Closes command task changed ∧ Disposes task s.risks s'.risks) := by
  have stays {changed : InvestigationTaskState} (hput : s.put_task task changed = (.ok versions, s'))
      (hid : changed.task_id = task.task_id) (hlinked : changed.linked_risk_id = task.linked_risk_id)
      (hstays : Stays command ref task { changed with version := task.version + 1 }) :
      (versions.before_version = task.version ∧ versions.after_version = task.version + 1) ∧
        ∃ changed, s'.tasks = s.tasks.insert task.task_id changed ∧ Updates task changed ∧
          (Stays command ref task changed ∧ s'.risks = s.risks ∨
            Closes command task changed ∧ Disposes task s.risks s'.risks) := by
    obtain ⟨hversions, htasks, hrisks⟩ := put_task_ok hput
    exact ⟨hversions, _, htasks, ⟨hid, hlinked, rfl⟩, .inl ⟨hstays, hrisks⟩⟩
  unfold update_task at h
  split at h
  · exact stays h rfl rfl ⟨Iff.rfl, fun _ => rfl, .inl rfl⟩
  · rename_i c
    split at h
    · cases (Prod.mk.inj h).1
    rename_i hfrom
    refine stays h rfl rfl ⟨?_, fun _ => rfl, .inl rfl⟩
    -- no transition leads into or out of a closed task
    have hallowed := c.allowed
    rw [← not_not.mp hfrom] at hallowed
    simp only [allowedTransitions, List.mem_cons, Prod.mk.injEq, List.not_mem_nil, or_false] at hallowed
    rcases hallowed with ⟨hs, hs'⟩ | ⟨hs, hs'⟩ | ⟨hs, hs'⟩ | ⟨hs, hs'⟩ | ⟨hs, hs'⟩ | ⟨hs, hs'⟩ <;> simp [hs, hs']
  · rename_i c
    split at h
    · cases (Prod.mk.inj h).1
    rename_i hresolved
    refine stays h rfl rfl ⟨Iff.rfl, fun hclosed => ?_, .inr ⟨rfl, c, rfl⟩⟩
    rw [not_not.mp hresolved] at hclosed
    cases hclosed
  · rename_i c
    obtain ⟨hversions, changed, htasks, hupdates, hcloses, hrisks⟩ := close_ok h
    exact ⟨hversions, changed, htasks, hupdates, .inr ⟨hcloses, hrisks⟩⟩
  · exact stays h rfl rfl ⟨Iff.rfl, fun _ => rfl, .inl rfl⟩

/-- The task that a command is about, if it is about one. -/
def commandTask (crypto : Crypto) (command : Command Datetime Decimal) (ref : ProposalRef) : Option UUID :=
  match command with
  | .create_and_enable_metric_alert_rule _ => none
  | command => some ((command.existingTask.map fun t => t.task_ref.task_id).getD (crypto.uuid5 (refName "task" ref)))

/-- What a command that succeeded did to the tasks and the risks. -/
inductive TaskEffect (crypto : Crypto) (command : Command Datetime Decimal) (ref : ProposalRef) (versions : VersionStep)
    (s s' : MemoryStore) : Prop
  | rule : command.existingTask = none → commandTask crypto command ref = none → s'.tasks = s.tasks →
      s'.risks = s.risks → TaskEffect crypto command ref versions s s'
  | create (id : UUID) (task : InvestigationTaskState) : id = crypto.uuid5 (refName "task" ref) →
      command.existingTask = none → commandTask crypto command ref = some id →
      (versions.before_version = 0 ∧ versions.after_version = 1) → task.task_id = id →
      (task.status = .open ∧ task.version = 1 ∧ task.conclusion_ref = none) →
      s'.tasks = s.tasks.insert id task →
      ((task.linked_risk_id = none ∧ s'.risks = s.risks) ∨
        ∃ r, r = crypto.uuid5 (refName "risk" ref) ∧ task.linked_risk_id = some r ∧
          s'.risks = s.risks.insert r ⟨r, "under_investigation", 1⟩) →
      TaskEffect crypto command ref versions s s'
  | update (t : ExistingTask) (task changed : InvestigationTaskState) : command.existingTask = some t →
      commandTask crypto command ref = some t.task_ref.task_id →
      s.tasks.lookup t.task_ref.task_id = some task → task.version = t.expected_target_version →
      (versions.before_version = task.version ∧ versions.after_version = task.version + 1) →
      s'.tasks = s.tasks.insert task.task_id changed → Updates task changed →
      (Stays command ref task changed ∧ s'.risks = s.risks) ∨ (Closes command task changed ∧ Disposes task s.risks s'.risks) →
      TaskEffect crypto command ref versions s s'

theorem require_task_ok {s : MemoryStore} {t : ExistingTask} {task : InvestigationTaskState}
    (h : s.require_task t = .ok task) :
    s.tasks.lookup t.task_ref.task_id = some task ∧ task.version = t.expected_target_version := by
  unfold require_task at h
  split at h
  · cases h
  · rename_i found hfound
    split_ifs at h with hversion
    rw [← Except.ok.inj h]
    exact ⟨hfound, not_not.mp hversion⟩

theorem apply_effect {crypto : Crypto} {command : Command Datetime Decimal} {ref : ProposalRef} {s s' : MemoryStore}
    {versions : VersionStep} (h : s.apply_command crypto command ref = (.ok versions, s')) :
    TaskEffect crypto command ref versions s s' := by
  unfold apply_command at h
  split at h
  · rename_i t ht
    split at h
    · cases (Prod.mk.inj h).1
    rename_i task htask
    obtain ⟨hfound, hversion⟩ := require_task_ok htask
    obtain ⟨hversions, changed, htasks, hupdates, heffect⟩ := update_ok h
    refine .update t task changed ht ?_ hfound hversion hversions htasks hupdates heffect
    cases command <;> simp_all [commandTask, Command.existingTask]
  · rename_i hnone
    cases command with
    | create_and_enable_metric_alert_rule c =>
      obtain ⟨-, rfl⟩ := Prod.mk.inj h
      exact .rule rfl rfl rfl rfl
    | create_investigation_task c =>
      obtain ⟨hversions, rfl⟩ := Prod.mk.inj h
      rw [← Except.ok.inj hversions]
      exact .create _ (new_task _ c.priority c.public_summary.text none) rfl rfl rfl ⟨rfl, rfl⟩ rfl ⟨rfl, rfl, rfl⟩ rfl
        (.inl ⟨rfl, rfl⟩)
    | create_investigation_from_alert_hit c =>
      obtain ⟨hversions, rfl⟩ := Prod.mk.inj h
      rw [← Except.ok.inj hversions]
      exact .create _ (new_task _ c.priority "Created from a reviewed alert hit." none) rfl rfl rfl ⟨rfl, rfl⟩ rfl
        ⟨rfl, rfl, rfl⟩ rfl (.inl ⟨rfl, rfl⟩)
    | open_seller_risk_case c =>
      obtain ⟨hversions, rfl⟩ := Prod.mk.inj h
      rw [← Except.ok.inj hversions]
      exact .create _ (new_task _ c.priority "Seller risk requires investigation." (some _)) rfl rfl rfl ⟨rfl, rfl⟩ rfl
        ⟨rfl, rfl, rfl⟩ rfl (.inr ⟨_, rfl, rfl, rfl⟩)
    | _ => simp [Command.existingTask] at hnone

end MemoryStore

/-! ## Names -/

theorem refName_inj {name : String} {a b : ProposalRef} (h : refName name a = refName name b) : a.key = b.key := by
  unfold refName at h
  have h := congrArg String.toList h
  simp only [String.toList_append, String.toList_ofList, List.append_assoc, List.append_cancel_left_eq] at h
  obtain ⟨hid, h⟩ := List.append_inj h (by rw [UUID.length_text, UUID.length_text])
  have hid : a.proposal_id = b.proposal_id := by
    have hparse := congrArg UUID.parse (String.toList_inj.mp hid)
    rw [UUID.parse_text, UUID.parse_text] at hparse
    exact Option.some.inj hparse
  have hversion := toDigits_inj (List.append_cancel_left h)
  exact Prod.ext hid hversion

/-! ## The history of a task -/

section Tasks

abbrev Tasks := Dict UUID InvestigationTaskState

variable (crypto : Crypto) (initial : Tasks)

/-- The task that a commit created or updated. -/
def Commit.task (c : Commit) : Option UUID := commandTask crypto c.proposal.command.command c.receipt.proposal_ref

/-- The commits about a task, the last one first. -/
def about (commits : List Commit) (id : UUID) : List Commit := commits.filter fun c => c.task crypto = some id

/-- The version that a task starts from: none, when it is not there from the start. -/
def firstVersion (id : UUID) : ℕ := (initial.lookup id).elim 0 InvestigationTaskState.version

/-- Receipts, the last one first, that lead from one version to another without a gap. -/
def Chained (first : ℕ) : ℕ → List Commit → Prop
  | version, [] => version = first
  | version, c :: older => c.receipt.after_version = version ∧ version = c.receipt.before_version + 1 ∧
      Chained first c.receipt.before_version older

/-- A conclusion that a task had from the start, or that one of the commits recorded. -/
def Concluded (id : UUID) (commits : List Commit) (conclusion_ref : String) : Prop :=
  (∃ t, initial.lookup id = some t ∧ t.conclusion_ref = some conclusion_ref) ∨
    ∃ c ∈ commits, (∃ a, c.proposal.command.command = .add_investigation_conclusion a) ∧
      conclusion_ref = refName "conclusion" c.receipt.proposal_ref

/-- A task that was closed from the start, or that one of the commits closed, under a conclusion
that was recorded before. -/
def ClosedBy (id : UUID) (commits : List Commit) (conclusion_ref : Option String) : Prop :=
  (∃ t, initial.lookup id = some t ∧ t.status = .closed ∧ conclusion_ref = t.conclusion_ref) ∨
    ∃ newer close older c, commits = newer ++ close :: older ∧
      close.proposal.command.command = .close_investigation c ∧ conclusion_ref = some c.conclusion_ref.text ∧
      Concluded initial id older c.conclusion_ref.text

/-- The commit that created a task together with its risk. -/
def LinkedBy (commits : List Commit) (id r : UUID) : Prop :=
  ∃ c ∈ commits, id = crypto.uuid5 (refName "task" c.receipt.proposal_ref) ∧
    r = crypto.uuid5 (refName "risk" c.receipt.proposal_ref)

structure TaskLife (commits : List Commit) (risks : Dict UUID RiskAnnotationState) (id : UUID)
    (task : InvestigationTaskState) : Prop where
  task_id : task.task_id = id
  origin : (initial.lookup id).isSome ∨ ∃ c ∈ commits, id = crypto.uuid5 (refName "task" c.receipt.proposal_ref)
  linked : ∀ r, task.linked_risk_id = some r → LinkedBy crypto commits id r ∧
    ∃ risk, risks.lookup r = some risk ∧ (risk.status = "under_investigation" ↔ task.status ≠ .closed)
  chain : Chained (firstVersion initial id) task.version (about crypto commits id)
  concluded : ∀ text, task.conclusion_ref = some text → Concluded initial id (about crypto commits id) text
  closed : task.status = .closed → ClosedBy initial id (about crypto commits id) task.conclusion_ref

structure Life (w : World) : Prop where
  tasks : ∀ id task, w.store.tasks.lookup id = some task → TaskLife crypto initial w.commits w.store.risks id task
  acted : ∀ c ∈ w.commits, ∀ id, c.task crypto = some id → (w.store.tasks.lookup id).isSome
  expected : ∀ c ∈ w.commits, ∀ t, c.proposal.command.command.existingTask = some t →
    c.receipt.before_version = t.expected_target_version

/-- The names that the commits drew identifiers for. -/
def drawnNames (commits : List Commit) : Set String :=
  {name | ∃ c ∈ commits, name = refName "task" c.receipt.proposal_ref ∨ name = refName "risk" c.receipt.proposal_ref}

/-- `uuid5` is injective on the names of a history, and no new task takes the place of an old one. -/
structure DistinctIds (commits : List Commit) : Prop where
  injective : Set.InjOn crypto.uuid5 (drawnNames commits)
  new : ∀ c ∈ commits, c.proposal.command.command.existingTask = none → c.task crypto ≠ none →
    initial.lookup (crypto.uuid5 (refName "task" c.receipt.proposal_ref)) = none

variable {crypto : Crypto} {initial : Tasks} {commits : List Commit} {risks risks' : Dict UUID RiskAnnotationState}
variable {id r : UUID} {task : InvestigationTaskState} {c : Commit}

theorem DistinctIds.of_cons (h : DistinctIds crypto initial (c :: commits)) : DistinctIds crypto initial commits := by
  refine ⟨h.injective.mono ?_, fun c' hc' => h.new c' (List.mem_cons_of_mem c hc')⟩
  rintro name ⟨c', hc', hname⟩
  exact ⟨c', List.mem_cons_of_mem c hc', hname⟩

theorem DistinctIds.same_task (h : DistinctIds crypto initial commits) {c c' : Commit} (hc : c ∈ commits) (hc' : c' ∈ commits)
    (heq : crypto.uuid5 (refName "task" c.receipt.proposal_ref) =
      crypto.uuid5 (refName "task" c'.receipt.proposal_ref)) : c.key = c'.key :=
  refName_inj (h.injective ⟨c, hc, .inl rfl⟩ ⟨c', hc', .inl rfl⟩ heq)

theorem DistinctIds.same_risk (h : DistinctIds crypto initial commits) {c c' : Commit} (hc : c ∈ commits) (hc' : c' ∈ commits)
    (heq : crypto.uuid5 (refName "risk" c.receipt.proposal_ref) =
      crypto.uuid5 (refName "risk" c'.receipt.proposal_ref)) : c.key = c'.key :=
  refName_inj (h.injective ⟨c, hc, .inr rfl⟩ ⟨c', hc', .inr rfl⟩ heq)

theorem about_other (h : c.task crypto ≠ some id) : about crypto (c :: commits) id = about crypto commits id := by
  unfold about
  exact List.filter_cons_of_neg (by simpa using h)

theorem about_this (h : c.task crypto = some id) : about crypto (c :: commits) id = c :: about crypto commits id := by
  unfold about
  exact List.filter_cons_of_pos (by simpa using h)

theorem LinkedBy.unique (hd : DistinctIds crypto initial commits) (hnodup : (commits.map Commit.key).Nodup) {id' : UUID}
    (h : LinkedBy crypto commits id r) (h' : LinkedBy crypto commits id' r) : id = id' := by
  obtain ⟨c, hc, rfl, hr⟩ := h
  obtain ⟨c', hc', rfl, hr'⟩ := h'
  have hkey := hd.same_risk hc hc' (hr.symm.trans hr')
  rw [List.inj_on_of_nodup_map hnodup hc hc' hkey]

theorem LinkedBy.cons (c : Commit) (h : LinkedBy crypto commits id r) : LinkedBy crypto (c :: commits) id r := by
  obtain ⟨c', hc', hid, hr⟩ := h
  exact ⟨c', List.mem_cons_of_mem c hc', hid, hr⟩

theorem TaskLife.frame (h : TaskLife crypto initial commits risks id task) (hc : c.task crypto ≠ some id)
    (hr : ∀ r, LinkedBy crypto commits id r → risks'.lookup r = risks.lookup r) :
    TaskLife crypto initial (c :: commits) risks' id task := by
  obtain ⟨hid, horigin, hlinked, hchain, hconcluded, hclosed⟩ := h
  have habout : about crypto (c :: commits) id = about crypto commits id := about_other hc
  refine ⟨hid, ?_, ?_, by rwa [habout], by rwa [habout], by rwa [habout]⟩
  · rcases horigin with hinitial | ⟨c', hc', hid⟩
    · exact .inl hinitial
    · exact .inr ⟨c', List.mem_cons_of_mem c hc', hid⟩
  · intro r hlink
    obtain ⟨hby, hrisk⟩ := hlinked r hlink
    rw [hr r hby]
    exact ⟨hby.cons c, hrisk⟩

theorem Concluded.cons (c : Commit) {text : String} (h : Concluded initial id commits text) :
    Concluded initial id (c :: commits) text := by
  rcases h with hinitial | ⟨c', hc', hrest⟩
  · exact .inl hinitial
  · exact .inr ⟨c', List.mem_cons_of_mem c hc', hrest⟩

theorem ClosedBy.cons (c : Commit) {conclusion_ref : Option String} (h : ClosedBy initial id commits conclusion_ref) :
    ClosedBy initial id (c :: commits) conclusion_ref := by
  rcases h with hinitial | ⟨newer, close, older, d, rfl, hrest⟩
  · exact .inl hinitial
  · exact .inr ⟨c :: newer, close, older, d, rfl, hrest⟩

/-! ## One commit -/

variable {w w' : World}

/-- The tasks stand as they were, or one more commit has changed them. -/
def LifeStep (crypto : Crypto) (w w' : World) : Prop :=
  (w'.store.tasks = w.store.tasks ∧ w'.store.risks = w.store.risks ∧ w'.commits = w.commits) ∨
    ∃ (c : Commit) (versions : VersionStep), w'.commits = c :: w.commits ∧
      c.receipt.before_version = versions.before_version ∧ c.receipt.after_version = versions.after_version ∧
      TaskEffect crypto c.proposal.command.command c.receipt.proposal_ref versions w.store w'.store

theorem MemoryStore.TaskEffect.congr {command : Command Datetime Decimal} {ref : ProposalRef} {versions : VersionStep}
    {s s₁ s₂ : MemoryStore} (h : TaskEffect crypto command ref versions s s₁) (htasks : s₂.tasks = s₁.tasks)
    (hrisks : s₂.risks = s₁.risks) : TaskEffect crypto command ref versions s s₂ := by
  cases h with
  | rule h₁ h₂ h₃ h₄ => exact .rule h₁ h₂ (htasks.trans h₃) (hrisks.trans h₄)
  | create id task h₁ h₂ h₃ h₄ h₅ h₆ h₇ h₈ =>
    rw [← htasks] at h₇
    rw [← hrisks] at h₈
    exact .create id task h₁ h₂ h₃ h₄ h₅ h₆ h₇ h₈
  | update t task changed h₁ h₂ h₃ h₄ h₅ h₆ h₇ h₈ =>
    rw [← htasks] at h₆
    rw [← hrisks] at h₈
    exact .update t task changed h₁ h₂ h₃ h₄ h₅ h₆ h₇ h₈

theorem act_lifeStep (crypto : Crypto) (keyring : HmacApprovalKeyring) (o : Outside) (req : Request) (op : Op)
    (w : World) : LifeStep crypto w (act crypto keyring o req op w).2 := by
  cases op with
  | create_or_get_proposal draft =>
    obtain ⟨htasks, hrisks, -⟩ := create_unwritten o.uuid4 draft w.store
    exact .inl ⟨htasks, hrisks, rfl⟩
  | decide_once receipt approval now =>
    have hunwritten : Unwritten w.store (w.store.decide_once crypto receipt approval now).2 :=
      decide_unwritten receipt approval now w.store
    obtain ⟨htasks, hrisks, -⟩ := hunwritten
    exact .inl ⟨htasks, hrisks, rfl⟩
  | execute_once proposal approval grant now =>
    rcases act_execute crypto keyring o req proposal approval grant now w with hw | ⟨-, -, versions, targets, happly, hw⟩
    · rw [hw]
      exact .inl ⟨rfl, rfl, rfl⟩
    · rw [hw]
      exact .inr ⟨_, versions, rfl, rfl, rfl, (apply_effect happly).congr rfl rfl⟩
  | sign e =>
    simp only [act]
    split <;> exact .inl ⟨rfl, rfl, rfl⟩
  | _ => exact .inl ⟨rfl, rfl, rfl⟩

theorem Life.fresh (h : Life crypto initial w) (hnodup : ((c :: w.commits).map Commit.key).Nodup)
    (hd : DistinctIds crypto initial (c :: w.commits)) (hnone : c.proposal.command.command.existingTask = none)
    (htask : c.task crypto ≠ none) :
    w.store.tasks.lookup (crypto.uuid5 (refName "task" c.receipt.proposal_ref)) = none := by
  by_contra hsome
  obtain ⟨task, hstored⟩ := Option.ne_none_iff_exists'.mp hsome
  rcases (h.tasks _ task hstored).origin with hinitial | ⟨c', hc', hid⟩
  · rw [hd.new c List.mem_cons_self hnone htask] at hinitial
    cases hinitial
  · have hkey := hd.same_task List.mem_cons_self (List.mem_cons_of_mem c hc') hid
    exact (List.nodup_cons.mp hnodup).1 (hkey ▸ List.mem_map_of_mem hc')

theorem Life.unacted (h : Life crypto initial w) (hnone : w.store.tasks.lookup id = none) :
    about crypto w.commits id = [] := by
  unfold about
  rw [List.filter_eq_nil_iff]
  intro c hc htask
  have hsome := h.acted c hc id (by simpa using htask)
  rw [hnone] at hsome
  cases hsome

theorem TaskLife.created (hid : id = crypto.uuid5 (refName "task" c.receipt.proposal_ref))
    (htask : c.task crypto = some id) (hversions : c.receipt.before_version = 0 ∧ c.receipt.after_version = 1)
    (htask_id : task.task_id = id) (hnew : task.status = .open ∧ task.version = 1 ∧ task.conclusion_ref = none)
    (hrisks : (task.linked_risk_id = none ∧ risks' = risks) ∨
      ∃ r, r = crypto.uuid5 (refName "risk" c.receipt.proposal_ref) ∧ task.linked_risk_id = some r ∧
        risks' = risks.insert r ⟨r, "under_investigation", 1⟩)
    (hinitial : initial.lookup id = none) (habout : about crypto commits id = []) :
    TaskLife crypto initial (c :: commits) risks' id task := by
  obtain ⟨hopen, hversion, hconclusion⟩ := hnew
  refine ⟨htask_id, .inr ⟨c, List.mem_cons_self, hid⟩, ?_, ?_, ?_, ?_⟩
  · intro r hlink
    rcases hrisks with ⟨hnone, -⟩ | ⟨r', hr', hlink', rfl⟩
    · rw [hnone] at hlink
      cases hlink
    · obtain rfl := Option.some.inj (hlink.symm.trans hlink')
      refine ⟨⟨c, List.mem_cons_self, hid, hr'⟩, _, AList.lookup_insert _, ?_⟩
      simp [hopen]
  · rw [about_this htask, habout, hversion]
    unfold Chained firstVersion
    rw [hinitial]
    exact ⟨hversions.2, by omega, hversions.1⟩
  · intro text htext
    rw [hconclusion] at htext
    cases htext
  · intro hclosed
    rw [hopen] at hclosed
    cases hclosed

theorem TaskLife.updated {changed : InvestigationTaskState}
    (h : TaskLife crypto initial commits risks id task) (htask : c.task crypto = some id)
    (hversions : c.receipt.before_version = task.version ∧ c.receipt.after_version = task.version + 1)
    (hupdates : Updates task changed)
    (heffect : (Stays c.proposal.command.command c.receipt.proposal_ref task changed ∧ risks' = risks) ∨
      (Closes c.proposal.command.command task changed ∧ Disposes task risks risks')) :
    TaskLife crypto initial (c :: commits) risks' id changed := by
  have habout : about crypto (c :: commits) id = c :: about crypto commits id := about_this htask
  have hchain : Chained (firstVersion initial id) changed.version (about crypto (c :: commits) id) := by
    rw [habout, hupdates.version]
    unfold Chained
    rw [hversions.1]
    exact ⟨hversions.2, rfl, h.chain⟩
  have horigin : (initial.lookup id).isSome ∨
      ∃ c' ∈ c :: commits, id = crypto.uuid5 (refName "task" c'.receipt.proposal_ref) := by
    rcases h.origin with hinitial | ⟨c', hc', hid⟩
    · exact .inl hinitial
    · exact .inr ⟨c', List.mem_cons_of_mem c hc', hid⟩
  have hid := hupdates.task_id.trans h.task_id
  rcases heffect with ⟨hstays, rfl⟩ | ⟨hcloses, hdisposes⟩
  · refine ⟨hid, horigin, ?_, hchain, ?_, ?_⟩
    · intro r hlink
      rw [hupdates.linked] at hlink
      obtain ⟨hby, risk, hrisk, hiff⟩ := h.linked r hlink
      exact ⟨hby.cons c, risk, hrisk, hiff.trans (not_congr hstays.closed.symm)⟩
    · intro text htext
      rw [habout]
      rcases hstays.recorded with hsame | ⟨hnew, a, ha⟩
      · exact (h.concluded text (hsame ▸ htext)).cons c
      · exact .inr ⟨c, List.mem_cons_self, ⟨a, ha⟩, Option.some.inj (htext.symm.trans hnew)⟩
    · intro hclosed
      have hclosed := hstays.closed.mp hclosed
      rw [habout, hstays.conclusion hclosed]
      exact (h.closed hclosed).cons c
  · obtain ⟨close, hclose, hconclusion⟩ := hcloses.command
    have hconcluded := h.concluded _ hconclusion
    refine ⟨hid, horigin, ?_, hchain, ?_, ?_⟩
    · intro r hlink
      rw [hupdates.linked] at hlink
      obtain ⟨hby, -⟩ := h.linked r hlink
      rcases hdisposes with ⟨hnone, -⟩ | ⟨r', risk, hlink', hstatus, rfl⟩
      · rw [hnone] at hlink
        cases hlink
      · obtain rfl := Option.some.inj (hlink.symm.trans hlink')
        refine ⟨hby.cons c, risk, AList.lookup_insert _, ?_⟩
        simp [hstatus, hcloses.closed]
    · intro text htext
      rw [hcloses.conclusion] at htext
      rw [habout]
      exact (h.concluded text htext).cons c
    · intro _
      rw [habout, hcloses.conclusion]
      exact .inr ⟨[], c, _, close, rfl, hclose, hconclusion, hconcluded⟩

theorem Life.next (h : Life crypto initial w) (hnodup : (w'.commits.map Commit.key).Nodup)
    (hd : DistinctIds crypto initial w'.commits) (hstep : LifeStep crypto w w') : Life crypto initial w' := by
  rcases hstep with ⟨htasks, hrisks, hcommits⟩ | ⟨c, versions, hcommits, hbefore, hafter, heffect⟩
  · obtain ⟨h₁, h₂, h₃⟩ := h
    constructor <;> simp only [htasks, hrisks, hcommits] <;> assumption
  rw [hcommits] at hnodup hd
  have hunique {id id' r : UUID} (hl : LinkedBy crypto w.commits id r) (hl' : LinkedBy crypto (c :: w.commits) id' r) :
      id = id' := LinkedBy.unique hd hnodup (hl.cons c) hl'
  cases heffect with
  | rule hnone htask htasks hrisks =>
    have htask : c.task crypto = none := htask
    refine ⟨?_, ?_, ?_⟩ <;> simp only [htasks, hrisks, hcommits, List.forall_mem_cons]
    · intro id task hlookup
      exact (h.tasks id task hlookup).frame (by rw [htask]; simp) fun _ _ => rfl
    · exact ⟨by simp [htask], h.acted⟩
    · exact ⟨by simp [hnone], h.expected⟩
  | create id task hid hnone htask hversions htask_id hnew htasks hrisks =>
    have htask : c.task crypto = some id := htask
    have hacts : c.task crypto ≠ none := htask ▸ Option.some_ne_none id
    have hfresh : w.store.tasks.lookup id = none := hid ▸ h.fresh hnodup hd hnone hacts
    refine ⟨?_, ?_, ?_⟩ <;> simp only [htasks, hcommits, List.forall_mem_cons, Dict.lookup_insert]
    · intro id' task' hlookup
      split_ifs at hlookup with hid'
      · obtain rfl := Option.some.inj hlookup
        rw [hid']
        exact TaskLife.created hid htask (by rw [hbefore, hafter]; exact hversions) htask_id hnew hrisks
          (hid ▸ hd.new c List.mem_cons_self hnone hacts) (h.unacted hfresh)
      · refine (h.tasks id' task' hlookup).frame (by rw [htask]; simpa using fun heq => hid' heq.symm) ?_
        intro r hlink
        rcases hrisks with ⟨-, hsame⟩ | ⟨r', hr', -, hinsert⟩
        · rw [hsame]
        · rw [hinsert, Dict.lookup_insert]
          refine if_neg fun heq => hid' (hunique hlink ⟨c, List.mem_cons_self, hid, heq.trans hr'⟩)
    · refine ⟨fun id' hid' => ?_, fun c' hc' id' hid' => ?_⟩
      · rw [htask, Option.some.injEq] at hid'
        simp [hid']
      · split_ifs
        · rfl
        · exact h.acted c' hc' id' hid'
    · exact ⟨by simp [hnone], h.expected⟩
  | update t task changed ht htask hfound hversion hversions htasks hupdates heffect =>
    have htask : c.task crypto = some t.task_ref.task_id := htask
    have hlife := h.tasks _ task hfound
    rw [hlife.task_id] at htasks
    refine ⟨?_, ?_, ?_⟩ <;> simp only [htasks, hcommits, List.forall_mem_cons, Dict.lookup_insert]
    · intro id' task' hlookup
      split_ifs at hlookup with hid'
      · obtain rfl := Option.some.inj hlookup
        rw [hid']
        exact hlife.updated htask (by rw [hbefore, hafter]; exact hversions) hupdates heffect
      · refine (h.tasks id' task' hlookup).frame (by rw [htask]; simpa using fun heq => hid' heq.symm) ?_
        intro r hlink
        rcases heffect with ⟨-, hsame⟩ | ⟨-, ⟨-, hsame⟩ | ⟨r', risk, hlink', -, hinsert⟩⟩
        · rw [hsame]
        · rw [hsame]
        · rw [hinsert, Dict.lookup_insert]
          refine if_neg fun heq => hid' (hunique hlink ?_)
          rw [heq]
          exact (hlife.linked r' hlink').1.cons c
    · refine ⟨fun id' hid' => ?_, fun c' hc' id' hid' => ?_⟩
      · rw [htask, Option.some.injEq] at hid'
        simp [hid']
      · split_ifs
        · rfl
        · exact h.acted c' hc' id' hid'
    · refine ⟨fun t' ht' => ?_, h.expected⟩
      obtain rfl := Option.some.inj (ht.symm.trans ht')
      rw [hbefore, hversions.1, hversion]

/-- A task after a step: as it was, or one version on. A closed task keeps its conclusion and stays closed. -/
def Moves (task task' : InvestigationTaskState) : Prop :=
  (task' = task ∨ task'.version = task.version + 1) ∧
    (task.status = .closed → task'.status = .closed ∧ task'.conclusion_ref = task.conclusion_ref)

theorem Moves.refl (task : InvestigationTaskState) : Moves task task := ⟨.inl rfl, fun h => ⟨h, rfl⟩⟩

theorem Life.moves (h : Life crypto initial w) (hnodup : (w'.commits.map Commit.key).Nodup)
    (hd : DistinctIds crypto initial w'.commits) (hstep : LifeStep crypto w w')
    (hlookup : w.store.tasks.lookup id = some task) :
    ∃ task', w'.store.tasks.lookup id = some task' ∧ Moves task task' := by
  rcases hstep with ⟨htasks, -, -⟩ | ⟨c, versions, hcommits, -, -, heffect⟩
  · rw [htasks]
    exact ⟨task, hlookup, .refl task⟩
  rw [hcommits] at hnodup hd
  cases heffect with
  | rule _ _ htasks _ =>
    rw [htasks]
    exact ⟨task, hlookup, .refl task⟩
  | create id' new hid hnone htask _ _ _ htasks _ =>
    have htask : c.task crypto = some id' := htask
    have hfresh := h.fresh hnodup hd hnone (htask ▸ Option.some_ne_none id')
    have hne : id ≠ id' := by
      rintro rfl
      rw [hid, hfresh] at hlookup
      cases hlookup
    rw [htasks, Dict.lookup_insert, if_neg hne]
    exact ⟨task, hlookup, .refl task⟩
  | update t found changed _ _ hfound _ _ htasks hupdates heffect =>
    rw [htasks, (h.tasks _ found hfound).task_id, Dict.lookup_insert]
    split_ifs with hid
    · rw [hid] at hlookup
      obtain rfl := Option.some.inj (hlookup.symm.trans hfound)
      refine ⟨changed, rfl, .inr hupdates.version, fun hclosed => ?_⟩
      rcases heffect with ⟨hstays, -⟩ | ⟨hcloses, -⟩
      · exact ⟨hstays.closed.mpr hclosed, hstays.conclusion hclosed⟩
      · rw [hcloses.resolved] at hclosed
        cases hclosed
    · exact ⟨task, hlookup, .refl task⟩

theorem LifeStep.of_later (hstep : LifeStep crypto w w') (hd : DistinctIds crypto initial w'.commits) :
    DistinctIds crypto initial w.commits := by
  rcases hstep with ⟨-, -, hcommits⟩ | ⟨c, _, hcommits, -⟩
  · rwa [hcommits] at hd
  · rw [hcommits] at hd
    exact hd.of_cons

/-! ## Over every run -/

theorem initial_tasks_lookup (initial_tasks : List InvestigationTaskState)
    (h : (MemoryStore.initial initial_tasks).tasks.lookup id = some task) : task ∈ initial_tasks ∧ task.task_id = id := by
  have hfold : ∀ (tasks : Tasks), (∀ id task, tasks.lookup id = some task → task ∈ initial_tasks ∧ task.task_id = id) →
      ∀ l, l ⊆ initial_tasks → ∀ id task,
        (l.foldl (fun (tasks : Tasks) task => tasks.insert task.task_id task) tasks).lookup id = some task →
          task ∈ initial_tasks ∧ task.task_id = id := by
    intro tasks htasks l
    induction l generalizing tasks with
    | nil => exact fun _ => htasks
    | cons t l ih =>
      intro hl
      obtain ⟨ht, hl⟩ := List.cons_subset.mp hl
      refine ih _ (fun id task hlookup => ?_) hl
      rw [Dict.lookup_insert] at hlookup
      split_ifs at hlookup with hid
      · rw [← Option.some.inj hlookup]
        exact ⟨ht, hid.symm⟩
      · exact htasks id task hlookup
  exact hfold ∅ (fun id task hlookup => by simp at hlookup) initial_tasks (List.Subset.refl _) id task h

theorem life_initial (crypto : Crypto) (initial_tasks : List InvestigationTaskState)
    (hunlinked : ∀ task ∈ initial_tasks, task.linked_risk_id = none) :
    Life crypto (MemoryStore.initial initial_tasks).tasks (World.initial initial_tasks) := by
  refine ⟨fun id task hlookup => ?_, by simp [World.initial], by simp [World.initial]⟩
  have hlookup : (MemoryStore.initial initial_tasks).tasks.lookup id = some task := hlookup
  obtain ⟨hmem, hid⟩ := initial_tasks_lookup initial_tasks hlookup
  refine ⟨hid, .inl (by rw [hlookup]; rfl), ?_, ?_, ?_, ?_⟩
  · intro r hlink
    rw [hunlinked task hmem] at hlink
    cases hlink
  · show task.version = firstVersion _ id
    unfold firstVersion
    rw [hlookup]
    rfl
  · intro text htext
    exact .inl ⟨task, hlookup, htext⟩
  · intro hclosed
    exact .inl ⟨task, hlookup, hclosed, rfl⟩

/-- The laws of the tasks, their risks and their receipts, in one state. -/
structure LifeCycle (crypto : Crypto) (initial : Tasks) (w : World) : Prop where
  /-- A linked risk exists, is open exactly while its task is, and has no other task. -/
  risks : ∀ id task r, w.store.tasks.lookup id = some task → task.linked_risk_id = some r →
    (∃ risk, w.store.risks.lookup r = some risk ∧ (risk.status = "under_investigation" ↔ task.status ≠ .closed)) ∧
      ∀ id' task', w.store.tasks.lookup id' = some task' → task'.linked_risk_id = some r → id' = id
  closed : ∀ id task, w.store.tasks.lookup id = some task → task.status = .closed →
    ClosedBy initial id (about crypto w.commits id) task.conclusion_ref
  chain : ∀ id task, w.store.tasks.lookup id = some task →
    Chained (firstVersion initial id) task.version (about crypto w.commits id)
  once : ∀ c ∈ w.commits, ∀ c' ∈ w.commits, ∀ t t', c.proposal.command.command.existingTask = some t →
    c'.proposal.command.command.existingTask = some t' → t.task_ref.task_id = t'.task_ref.task_id →
    t.expected_target_version = t'.expected_target_version → c = c'

theorem Chained.starts {first version : ℕ} {commits : List Commit} (h : Chained first version commits) :
    (∀ c ∈ commits, c.receipt.before_version < version) ∧
      ∀ c ∈ commits, ∀ c' ∈ commits, c.receipt.before_version = c'.receipt.before_version → c = c' := by
  induction commits generalizing version with
  | nil => simp
  | cons c older ih =>
    unfold Chained at h
    obtain ⟨-, hversion, holder⟩ := h
    obtain ⟨hless, hinj⟩ := ih holder
    simp only [List.forall_mem_cons]
    refine ⟨⟨by omega, fun c' hc' => ?_⟩, ⟨fun _ => trivial, fun c' hc' heq => ?_⟩, fun c₁ h₁ => ⟨fun heq => ?_, hinj c₁ h₁⟩⟩
    · have := hless c' hc'
      omega
    · have := hless c' hc'
      omega
    · have := hless c₁ h₁
      omega

theorem commit_task_update {t : ExistingTask} (ht : c.proposal.command.command.existingTask = some t) :
    c.task crypto = some t.task_ref.task_id := by
  unfold Commit.task commandTask
  generalize c.proposal.command.command = command at ht
  cases command <;> simp_all [Command.existingTask]

theorem Life.lifeCycle (h : Life crypto initial w) (hnodup : (w.commits.map Commit.key).Nodup)
    (hd : DistinctIds crypto initial w.commits) : LifeCycle crypto initial w := by
  refine ⟨fun id task r hlookup hlink => ?_, fun id task hlookup => (h.tasks id task hlookup).closed,
    fun id task hlookup => (h.tasks id task hlookup).chain, ?_⟩
  · obtain ⟨hby, hrisk⟩ := (h.tasks id task hlookup).linked r hlink
    refine ⟨hrisk, fun id' task' hlookup' hlink' => ?_⟩
    exact LinkedBy.unique hd hnodup ((h.tasks id' task' hlookup').linked r hlink').1 hby
  · intro c hc c' hc' t t' ht ht' hid hversion
    have htask : c.task crypto = some t.task_ref.task_id := commit_task_update ht
    have htask' : c'.task crypto = some t.task_ref.task_id := by rw [hid, commit_task_update ht']
    obtain ⟨task, hlookup⟩ := Option.isSome_iff_exists.mp (h.acted c hc _ htask)
    have hbefore : c.receipt.before_version = c'.receipt.before_version := by
      rw [h.expected c hc t ht, h.expected c' hc' t' ht', hversion]
    have hmem {d : Commit} (hd : d ∈ w.commits) (hdtask : d.task crypto = some t.task_ref.task_id) :
        d ∈ about crypto w.commits t.task_ref.task_id := List.mem_filter.mpr ⟨hd, by simpa using hdtask⟩
    exact (h.tasks _ task hlookup).chain.starts.2 c (hmem hc htask) c' (hmem hc' htask') hbefore

theorem life_runs {keyring : HmacApprovalKeyring} {rules : Pool.Rules World Request Op Outside}
    {p q : Pool World Request Op Ans (Except Raised Response)} (hq : Runs crypto keyring rules p q)
    (hcounted : Counted p.shared) (hlife : DistinctIds crypto initial p.shared.commits → Life crypto initial p.shared) :
    Counted q.shared ∧ (DistinctIds crypto initial q.shared.commits → Life crypto initial q.shared ∧
      ∀ id task, p.shared.store.tasks.lookup id = some task → ∃ task', q.shared.store.tasks.lookup id = some task' ∧
        (task.status = .closed → task'.status = .closed ∧ task'.conclusion_ref = task.conclusion_ref)) := by
  refine hq.invariant _ _ (I := fun w => Counted w ∧ (DistinctIds crypto initial w.commits → Life crypto initial w ∧
      ∀ id task, p.shared.store.tasks.lookup id = some task → ∃ task', w.store.tasks.lookup id = some task' ∧
        (task.status = .closed → task'.status = .closed ∧ task'.conclusion_ref = task.conclusion_ref))) ?_ ?_
  · rintro o req op w ⟨hcounted, hw⟩ -
    have hstep := act_lifeStep crypto keyring o req op w
    have hcounted' := hcounted.next (act_writesOnce crypto keyring o req op w)
    refine ⟨hcounted', fun hd => ?_⟩
    obtain ⟨hlife, hstays⟩ := hw (hstep.of_later hd)
    refine ⟨hlife.next hcounted'.versions hd hstep, fun id task hlookup => ?_⟩
    obtain ⟨task₁, hlookup₁, hclosed₁⟩ := hstays id task hlookup
    obtain ⟨task₂, hlookup₂, -, hclosed₂⟩ := hlife.moves hcounted'.versions hd hstep hlookup₁
    refine ⟨task₂, hlookup₂, fun hclosed => ?_⟩
    obtain ⟨hc₁, hr₁⟩ := hclosed₁ hclosed
    obtain ⟨hc₂, hr₂⟩ := hclosed₂ hc₁
    exact ⟨hc₂, hr₂.trans hr₁⟩
  · exact ⟨hcounted, fun hd => ⟨hlife hd, fun id task hlookup => ⟨task, hlookup, fun hclosed => ⟨hclosed, rfl⟩⟩⟩⟩

end Tasks

/-- In every reachable state the laws hold; from there on a closed task stays closed under its
conclusion, and each step leaves a task alone or raises its version by one. -/
theorem life_cycle (crypto : Crypto) (keyring : HmacApprovalKeyring) (rules : Pool.Rules World Request Op Outside)
    (initial_tasks : List InvestigationTaskState) (hunlinked : ∀ task ∈ initial_tasks, task.linked_risk_id = none)
    (p q : Pool World Request Op Ans (Except Raised Response)) (hp : Runs crypto keyring rules (newPool initial_tasks) p)
    (hq : Runs crypto keyring rules p q)
    (hdistinct : DistinctIds crypto (MemoryStore.initial initial_tasks).tasks q.shared.commits) :
    Counted q.shared ∧ LifeCycle crypto (MemoryStore.initial initial_tasks).tasks q.shared ∧
    (∀ id task, p.shared.store.tasks.lookup id = some task → ∃ task', q.shared.store.tasks.lookup id = some task' ∧
      (task.status = .closed → task'.status = .closed ∧ task'.conclusion_ref = task.conclusion_ref)) ∧
    (∀ m, q = Pool.step (body crypto keyring) (act crypto keyring) m p → ∀ id task,
      p.shared.store.tasks.lookup id = some task → ∃ task', q.shared.store.tasks.lookup id = some task' ∧
        (task' = task ∨ task'.version = task.version + 1)) := by
  obtain ⟨hcounted, hlife⟩ := life_runs hp (counted_initial initial_tasks)
    fun _ => life_initial crypto initial_tasks hunlinked
  obtain ⟨hcounted', hlife'⟩ := life_runs hq hcounted fun hd => (hlife hd).1
  obtain ⟨hlater, hstays⟩ := hlife' hdistinct
  refine ⟨hcounted', hlater.lifeCycle hcounted'.versions hdistinct, hstays, ?_⟩
  rintro m rfl id task hlookup
  have hstep : LifeStep crypto p.shared (Pool.step (body crypto keyring) (act crypto keyring) m p).shared := by
    cases m with
    | start req => exact .inl ⟨rfl, rfl, rfl⟩
    | advance i o =>
      simp only [Pool.step]
      split
      · exact act_lifeStep crypto keyring o _ _ _
      · exact .inl ⟨rfl, rfl, rfl⟩
  have hnow := (hlife (hstep.of_later hdistinct)).1
  obtain ⟨task', hlookup', hmoves, -⟩ := hnow.moves hcounted'.versions hdistinct hstep hlookup
  exact ⟨task', hlookup', hmoves⟩

/-! ## One proposal that is executed -/

/-- Identifiers that tell a task from a risk. -/
def sampleIds : Crypto :=
  { sampleCrypto with uuid5 := fun name => if name.toList.head? = some 't' then 1 else 2 }

def sampleStored : StoredProposal where
  snapshot :=
    { proposal_ref := ⟨7, 1, first_version⟩
      status := .approved
      requester_id := 1
      command_type := sampleCommand.command.type
      payload_sha256 := HexDigest.ofNat 0
      preview := preview sampleCommand.command (taskVersion 0) 1 "Create one investigation task."
      created_at := noon
      expires_at := laterAt
      increasing := by decide }
  command := sampleCommand
  requester_id := 1
  evidence_refs := sampleEvidence
  idempotency_key := sampleKey
  revises := none
  validated_references := ⟨sampleEvidence, []⟩

def sampleApproval : StoredApproval where
  proposal_ref := ⟨7, 1, first_version⟩
  payload_sha256 := HexDigest.ofNat 0
  requester_id := 1
  approver_id := 2
  target_versions := taskVersion 0
  expires_at := laterAt
  nonce_digest := HexDigest.ofNat 0
  key_version := 1

def sampleDirect : Request := .execute_once sampleStored sampleApproval (sampleGrant laterAt) noon

/-- The sample proposal is executed on a new store. -/
def executedPool (initial_tasks : List InvestigationTaskState) : Pool World Request Op Ans (Except Raised Response) :=
  Pool.step (body sampleIds sampleKeyring) (act sampleIds sampleKeyring) (.advance 0 (sampleOutside noon)) <|
  Pool.step (body sampleIds sampleKeyring) (act sampleIds sampleKeyring) (.start sampleDirect) (newPool initial_tasks)

theorem executedPool_runs (initial_tasks : List InvestigationTaskState) :
    Runs sampleIds sampleKeyring (workflowRules anyone) (newPool initial_tasks) (executedPool initial_tasks) := by
  refine .step _ (.step _ .init trivial) ?_
  rintro req op k hcall
  have hcall : some (sampleDirect, body sampleIds sampleKeyring sampleDirect) = some (req, .ask op k) := hcall
  obtain ⟨rfl, hflow⟩ := Prod.mk.inj (Option.some.inj hcall)
  obtain ⟨rfl, -⟩ := Flow.ask.inj hflow
  exact ⟨trivial, trivial⟩

def sampleCommit : Commit :=
  ⟨sampleDirect, sampleStored, sampleApproval, execution_receipt sampleIds sampleStored created noon⟩

theorem drawnNames_sample : Set.InjOn sampleIds.uuid5 (drawnNames [sampleCommit]) := by
  have htask : sampleIds.uuid5 (refName "task" ⟨7, 1, first_version⟩) = 1 := by decide +kernel
  have hrisk : sampleIds.uuid5 (refName "risk" ⟨7, 1, first_version⟩) = 2 := by decide +kernel
  rintro name ⟨c, hc, hname⟩ name' ⟨c', hc', hname'⟩ heq
  obtain rfl := List.mem_singleton.mp hc
  obtain rfl := List.mem_singleton.mp hc'
  have href : sampleCommit.receipt.proposal_ref = ⟨7, 1, first_version⟩ := rfl
  rw [href] at hname hname'
  rcases hname with rfl | rfl <;> rcases hname' with rfl | rfl
  · rfl
  · rw [htask, hrisk] at heq
    exact absurd heq (by decide)
  · rw [htask, hrisk] at heq
    exact absurd heq (by decide)
  · rfl

/-! ## A risk case, from its opening to its close -/

/-- Identifiers that tell the names of the case apart. -/
def hashedIds : Crypto :=
  { sampleCrypto with uuid5 := fun name => BitVec.ofNat 128 (name.toList.foldl (fun n c => 31 * n + c.toNat) 0) }

def caseRef (proposal_id : UUID) : ProposalRef := ⟨proposal_id, 1, first_version⟩

def caseTask : UUID := hashedIds.uuid5 (refName "task" (caseRef 7))

def caseRisk : UUID := hashedIds.uuid5 (refName "risk" (caseRef 7))

/-- The task of the case, at a version. -/
def caseVersion (version : ℕ) : ExistingTask := ⟨⟨caseTask, version⟩, version, rfl, sampleEvidence⟩

def caseConclusion : Text 1 256 := ⟨"conclusion:00000000-0000-0000-0000-00000000000a:1", by decide⟩

def caseReason : Code 2 127 := ⟨"case_reviewed", by decide⟩

/-- The commands of the case, one for each proposal from 7 on; the last one comes after the close. -/
def caseCommands : List OperationCommand := [
  ⟨.open_seller_risk_case
    { seller_ref := ⟨⟨"sellerref-1", by decide⟩⟩
      observation_started_at := noon
      observation_ended_at := laterAt
      metric_ref := ⟨⟨"metric.late_delivery", by decide⟩, ⟨"revision-1", by decide⟩⟩
      numerator := 1
      denominator := 4
      observed := .finite false 25 (-2)
      threshold := .finite false 20 (-2)
      title := sampleTitle
      priority := .high
      evidence_refs := sampleEvidence
      ratio := by decide }, by decide⟩,
  ⟨.transition_investigation { caseVersion 1 with
      from_status := .open, to_status := .in_progress, reason_code := caseReason, allowed := by decide }, trivial⟩,
  ⟨.transition_investigation { caseVersion 2 with
      from_status := .in_progress, to_status := .resolved, reason_code := caseReason, allowed := by decide }, trivial⟩,
  ⟨.add_investigation_conclusion { caseVersion 3 with
      conclusion_code := caseReason, conclusion_summary := sampleSummary }, trivial⟩,
  ⟨.close_investigation { caseVersion 4 with
      conclusion_ref := caseConclusion, risk_disposition := some .confirmed }, trivial⟩,
  ⟨.assign_investigation { caseVersion 5 with assignee_ref := ⟨"analyst-2", by decide⟩ }, trivial⟩]

def caseRequest (item : OperationCommand × ℕ) : Request :=
  let ref := caseRef (BitVec.ofNat 128 item.2)
  .execute_once
    { sampleStored with
      snapshot := { sampleStored.snapshot with proposal_ref := ref, command_type := item.1.command.type }
      command := item.1 }
    { sampleApproval with proposal_ref := ref, nonce_digest := HexDigest.ofNat item.2 } (sampleGrant laterAt) noon

/-- Requests that run to their end, one after the other. -/
def runAll (requests : List Request) (p : Pool World Request Op Ans (Except Raised Response)) :
    Pool World Request Op Ans (Except Raised Response) :=
  requests.foldl (fun p req =>
    ⟨((body hashedIds sampleKeyring req).run (act hashedIds sampleKeyring (sampleOutside noon) req) p.shared).2,
      p.calls ++ [(req, .done ((body hashedIds sampleKeyring req).run
        (act hashedIds sampleKeyring (sampleOutside noon) req) p.shared).1)]⟩) p

theorem runAll_runs (items : List (OperationCommand × ℕ)) {p q : Pool World Request Op Ans (Except Raised Response)}
    (h : Runs hashedIds sampleKeyring (workflowRules anyone) p q) :
    Runs hashedIds sampleKeyring (workflowRules anyone) p (runAll (items.map caseRequest) q) := by
  induction items generalizing q with
  | nil => exact h
  | cons item items ih =>
    have hnext := Pool.Reach.call _ _ (sampleOutside noon) (caseRequest item) h trivial ⟨⟨trivial, trivial⟩, trivial⟩
    exact ih hnext

def closedCase : Pool World Request Op Ans (Except Raised Response) :=
  runAll (((caseCommands.zipIdx 7).take 5).map caseRequest) (newPool [])

/-- The closed case is assigned to someone else. -/
def assignedCase : Pool World Request Op Ans (Except Raised Response) :=
  runAll (((caseCommands.zipIdx 7).drop 5).map caseRequest) closedCase

def caseNames : List String :=
  (List.range 6).flatMap fun i => ["task", "risk"].map fun name => refName name (caseRef (BitVec.ofNat 128 (7 + i)))

theorem assignedCase_state :
    assignedCase.shared.commits.map (fun c => c.receipt.proposal_ref) =
      (List.range 6).reverse.map (fun i => caseRef (BitVec.ofNat 128 (7 + i))) ∧
    (closedCase.shared.store.tasks.lookup caseTask).map (fun task => (task.status, task.version, task.linked_risk_id)) =
      some (.closed, 5, some caseRisk) ∧
    (assignedCase.shared.store.risks.lookup caseRisk).map RiskAnnotationState.status = some "confirmed" := by
  decide +kernel

theorem assignedCase_distinct :
    DistinctIds hashedIds (MemoryStore.initial []).tasks assignedCase.shared.commits := by
  refine ⟨?_, fun _ _ _ _ => rfl⟩
  have hnames : ∀ name ∈ drawnNames assignedCase.shared.commits, name ∈ caseNames := by
    rintro name ⟨c, hc, hname⟩
    have href := List.mem_map_of_mem (f := fun c : Commit => c.receipt.proposal_ref) hc
    rw [assignedCase_state.1] at href
    obtain ⟨i, hi, href⟩ := List.mem_map.mp href
    refine List.mem_flatMap.mpr ⟨i, List.mem_reverse.mp hi, ?_⟩
    rw [href]
    rcases hname with rfl | rfl
    · exact List.mem_cons_self
    · exact List.mem_cons_of_mem _ List.mem_cons_self
  have hnodup : (caseNames.map hashedIds.uuid5).Nodup := by decide +kernel
  intro name hname name' hname' heq
  exact List.inj_on_of_nodup_map hnodup (hnames name hname) (hnames name' hname') heq

/-- The case is closed under its conclusion and its risk disposed of, and stays so when it is assigned. -/
theorem life_cycle_case :
    ((closedCase.shared.store.tasks.lookup caseTask).map (fun task => (task.status, task.version, task.linked_risk_id)) =
        some (.closed, 5, some caseRisk) ∧
      (assignedCase.shared.store.risks.lookup caseRisk).map RiskAnnotationState.status = some "confirmed") ∧
    Counted assignedCase.shared ∧ LifeCycle hashedIds (MemoryStore.initial []).tasks assignedCase.shared ∧
    ∀ task, closedCase.shared.store.tasks.lookup caseTask = some task →
      ∃ task', assignedCase.shared.store.tasks.lookup caseTask = some task' ∧
        (task.status = .closed → task'.status = .closed ∧ task'.conclusion_ref = task.conclusion_ref) := by
  obtain ⟨hcounted, hlife, hstays, -⟩ := life_cycle hashedIds sampleKeyring (workflowRules anyone) [] (by simp)
    closedCase assignedCase (runAll_runs _ .init) (runAll_runs _ .init) assignedCase_distinct
  exact ⟨assignedCase_state.2, hcounted, hlife, hstays caseTask⟩

/-! ## A task that was closed from the start -/

/-- A task that is closed from the start, without a conclusion. -/
def closedTask : InvestigationTaskState := { new_task 1 .high "Closed." none with status := .closed }

/-- A task can be closed from the start without a conclusion, and a new task with its identifier opens it again. -/
theorem closed_from_the_start :
    ¬ (∀ (crypto : Crypto) (initial_tasks : List InvestigationTaskState)
        (p : Pool World Request Op Ans (Except Raised Response)), (∀ task ∈ initial_tasks, task.linked_risk_id = none) →
        Runs crypto sampleKeyring (workflowRules anyone) (newPool initial_tasks) p →
        Set.InjOn crypto.uuid5 (drawnNames p.shared.commits) →
        ∀ id task, p.shared.store.tasks.lookup id = some task → task.status = .closed → task.conclusion_ref ≠ none) ∧
    ¬ (∀ (crypto : Crypto) (initial_tasks : List InvestigationTaskState)
        (p q : Pool World Request Op Ans (Except Raised Response)), (∀ task ∈ initial_tasks, task.linked_risk_id = none) →
        Runs crypto sampleKeyring (workflowRules anyone) (newPool initial_tasks) p →
        Runs crypto sampleKeyring (workflowRules anyone) p q →
        Set.InjOn crypto.uuid5 (drawnNames q.shared.commits) →
        ∀ id task task', p.shared.store.tasks.lookup id = some task → task.status = .closed →
          q.shared.store.tasks.lookup id = some task' → task'.status = .closed) := by
  constructor
  · intro h
    exact h sampleIds [closedTask] (newPool [closedTask]) (by simp [closedTask, new_task]) .init
      (by simp [newPool, World.initial, drawnNames]) 1 closedTask rfl rfl rfl
  · intro h
    have hopen := h sampleIds [closedTask] (newPool [closedTask]) (executedPool [closedTask])
      (by simp [closedTask, new_task]) .init (executedPool_runs [closedTask]) drawnNames_sample 1 closedTask
      (new_task 1 .high "Deliveries are late." none) rfl rfl (by decide +kernel)
    cases hopen

end CommerceAgent.Operations
