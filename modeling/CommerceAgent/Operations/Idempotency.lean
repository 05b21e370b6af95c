import CommerceAgent.Operations.Answers
import CommerceAgent.Operations.RoundTrip

/-!
# Proposing again

A proposal is registered under the key of its request, and stays so. When the request is proposed again, the in-memory
store previews its command before the key is looked up, and the adapter of the database writes the snapshot from the new
draft.
-/

open CommerceAgent.Lib CommerceAgent.Operations.MemoryStore

namespace CommerceAgent.Operations

variable {crypto : Crypto} {keyring : HmacApprovalKeyring} {terms : Terms}

-- a sum of times is never computed here
attribute [local irreducible] Datetime.add

/-- The proposal that a snapshot shows is answered again, with its times. -/
structure SameAnswer (snapshot again : ProposalSnapshot) : Prop where
  proposal_ref : again.proposal_ref = snapshot.proposal_ref
  created_at : again.created_at.instant = snapshot.created_at.instant
  expires_at : again.expires_at.instant = snapshot.expires_at.instant

/-! ## In memory -/

section Memory

/-- The command's target is still as the command expects it. -/
def UpToDate (command : OperationCommand) (s : MemoryStore) : Prop :=
  ∀ t, command.command.existingTask = some t →
    ∃ task, s.tasks.lookup t.task_ref.task_id = some task ∧ task.version = t.expected_target_version

theorem preview_free {s : MemoryStore} {command : OperationCommand} (h : command.command.existingTask = none) :
    s.preview_command command = .ok (PostgresStore.preview_command command) := by
  obtain ⟨c, valid⟩ := command
  cases c <;> first | rfl | cases h

/-- Both stores preview a command alike, and the in-memory store only while its target is up to date. -/
theorem preview_ok_iff {s : MemoryStore} {command : OperationCommand} {preview : CommandPreview} :
    s.preview_command command = .ok preview ↔ preview = PostgresStore.preview_command command ∧ UpToDate command s := by
  cases htask : command.command.existingTask with
  | none =>
    have htarget : UpToDate command s := fun t ht => nomatch htask.symm.trans ht
    rw [preview_free htask, Except.ok.injEq, eq_comm, and_iff_left htarget]
  | some t =>
    have htarget : UpToDate command s ↔
        ∃ task, s.tasks.lookup t.task_ref.task_id = some task ∧ task.version = t.expected_target_version :=
      ⟨fun h => h t htask, fun h t' ht' => Option.some.inj (htask.symm.trans ht') ▸ h⟩
    rw [htarget]
    unfold MemoryStore.preview_command PostgresStore.preview_command require_task
    simp only [htask]
    cases hlookup : s.tasks.lookup t.task_ref.task_id with
    | none => simp [bind, Except.bind]
    | some task =>
      by_cases hversion : task.version = t.expected_target_version
      · simp [bind, Except.bind, pure, Except.pure, hversion, eq_comm]
      · simp [bind, Except.bind, hversion]

/-- What is registered under a key stays registered. -/
def Keeps (s s' : MemoryStore) : Prop :=
  ∀ key entry, s.idempotency.lookup key = some entry → s'.idempotency.lookup key = some entry

theorem Keeps.of_eq {s s' : MemoryStore} (h : s'.idempotency = s.idempotency) : Keeps s s' :=
  fun _ _ hentry => by rw [h]; exact hentry

theorem insert_keeps_keys {draft : ProposalDraft} {ref : ProposalRef} {s : MemoryStore}
    (hnone : s.idempotency.lookup (draft.request.actor.actor_id, draft.request.idempotency_key) = none) :
    Keeps s (s.insert_proposal draft ref).2 := by
  intro key entry hentry
  unfold insert_proposal
  dsimp only
  split
  · dsimp only
    rw [Dict.lookup_insert, if_neg]
    · exact hentry
    · rintro rfl
      rw [hnone] at hentry
      cases hentry
  · exact hentry

theorem create_keeps_keys (uuid4 : UUID) (draft : ProposalDraft) (s : MemoryStore) :
    Keeps s (s.create_or_get_proposal uuid4 draft).2 := by
  unfold MemoryStore.create_or_get_proposal
  dsimp only
  split
  · split
    · exact .of_eq rfl
    · split <;> exact .of_eq rfl
  · rename_i hnone
    split
    · exact insert_keeps_keys hnone
    · split
      · exact .of_eq rfl
      · split
        · exact .of_eq rfl
        · exact insert_keeps_keys (s := s.set_status _ .superseded _) hnone

theorem act_keeps_keys (o : Outside) (req : Request) (op : Op) (w : World) :
    Keeps w.store (act crypto keyring o req op w).2.store := by
  cases op with
  | create_or_get_proposal draft => exact create_keeps_keys o.uuid4 draft w.store
  | decide_once receipt approval now =>
    have hstore : (act crypto keyring o req (.decide_once receipt approval now) w).2.store =
        (w.store.decide_once crypto receipt approval now).2 := rfl
    rw [hstore]
    rcases decide_cases (Prod.eta (w.store.decide_once crypto receipt approval now)).symm with
      hs | ⟨_, -, -, hs | hs⟩ <;> rw [hs] <;> exact .of_eq rfl
  | execute_once proposal approval grant now =>
    rcases act_execute crypto keyring o req proposal approval grant now w with hw | ⟨-, -, _, _, -, hw⟩ <;> rw [hw] <;>
      exact .of_eq rfl
  | sign e =>
    simp only [act]
    split <;> exact .of_eq rfl
  | _ => exact .of_eq rfl

variable (crypto keyring terms) in
/-- The contract of the workflow, with what the keys are registered for. -/
def registry : Contract World Request Op :=
  { history crypto keyring terms with rely := fun w w' => World.Grows w w' ∧ Keeps w.store w'.store }

theorem registry_sound : (registry crypto keyring terms).Sound (act crypto keyring) (workflowRules terms) where
  refl w := ⟨.refl w, .of_eq rfl⟩
  trans _ _ _ h₁ h₂ := ⟨h₁.1.trans h₂.1, fun key entry h => h₂.2 key entry (h₁.2 key entry h)⟩
  keeps o req op w hinv hpre ho := by
    obtain ⟨hnext, hgrows⟩ := history_sound.keeps o req op w hinv hpre ho
    exact ⟨hnext, hgrows, act_keeps_keys o req op w⟩

theorem registry_starts : (registry crypto keyring terms).Starts (body crypto keyring) (act crypto keyring)
    (workflowRules terms) fun _ _ _ => True :=
  fun req w hinv haccepts => Contract.narrow (fun _ _ h => h.1) (history_starts req w hinv haccepts)

theorem registry_holds {tasks : List InvestigationTaskState} :
    (registry crypto keyring terms).Holds (act crypto keyring) (workflowRules terms) (fun _ _ _ => True)
      (newPool tasks) :=
  ⟨inv_initial tasks, by simp [newPool]⟩

variable (crypto) in
/-- A snapshot that its request is registered for. -/
structure Registered (request : ProposeRequest) (snapshot : ProposalSnapshot) (s : MemoryStore) : Prop where
  role : request.actor.role = .analyst
  entry : ∃ canonical, canonical_command crypto request.command
      (PostgresStore.preview_command request.command).target_versions = .ok canonical ∧
    s.idempotency.lookup (request.actor.actor_id, request.idempotency_key) =
      some (snapshot.proposal_ref, request.command.command.type, canonical.sha256)
  stored : ∃ p, s.proposals.lookup snapshot.proposal_ref.key = some p ∧ SameAnswer snapshot p.snapshot

theorem Registered.mono {request : ProposeRequest} {snapshot : ProposalSnapshot} {w w' : World}
    (h : Registered crypto request snapshot w.store) (hrely : World.Grows w w' ∧ Keeps w.store w'.store) :
    Registered crypto request snapshot w'.store := by
  obtain ⟨canonical, hcanonical, hentry⟩ := h.entry
  obtain ⟨p, hp, hsame⟩ := h.stored
  obtain ⟨q, hq, hkept, -⟩ := hrely.1.store.proposals _ p hp
  refine ⟨h.role, ⟨canonical, hcanonical, hrely.2 _ _ hentry⟩, q, hq, ?_⟩
  rw [hkept]
  exact ⟨hsame.proposal_ref, hsame.created_at, hsame.expires_at⟩

theorem insert_registered {draft : ProposalDraft} {ref : ProposalRef} {s s' : MemoryStore}
    {snapshot : ProposalSnapshot} {canonical : CanonicalPayload} (hrole : draft.request.actor.role = .analyst)
    (hcanonical : canonical_command crypto draft.request.command
      (PostgresStore.preview_command draft.request.command).target_versions = .ok canonical)
    (hsha256 : draft.payload_sha256 = canonical.sha256) (h : s.insert_proposal draft ref = (.ok snapshot, s')) :
    Registered crypto draft.request snapshot s' := by
  unfold insert_proposal at h
  dsimp only at h
  split at h
  · obtain ⟨hsnapshot, rfl⟩ := Prod.mk.inj h
    obtain rfl := Except.ok.inj hsnapshot
    refine ⟨hrole, ⟨canonical, hcanonical, ?_⟩, _, (Dict.lookup_insert _ _ _ _).trans (if_pos rfl), rfl, rfl, rfl⟩
    rw [← hsha256]
    exact (Dict.lookup_insert _ _ _ _).trans (if_pos rfl)
  · cases (Prod.mk.inj h).1

theorem create_registered {draft : ProposalDraft} {uuid4 : UUID} {s s' : MemoryStore} {snapshot : ProposalSnapshot}
    {canonical : CanonicalPayload} (hcoherent : Coherent crypto keyring s) (hrole : draft.request.actor.role = .analyst)
    (hcanonical : canonical_command crypto draft.request.command
      (PostgresStore.preview_command draft.request.command).target_versions = .ok canonical)
    (hsha256 : draft.payload_sha256 = canonical.sha256)
    (h : s.create_or_get_proposal uuid4 draft = (.ok snapshot, s')) : Registered crypto draft.request snapshot s' := by
  unfold MemoryStore.create_or_get_proposal at h
  dsimp only at h
  split at h
  · rename_i ref command_type payload_sha256 hentry
    split_ifs at h with hsame
    · cases (Prod.mk.inj h).1
    · obtain ⟨rfl, rfl⟩ := Prod.mk.inj (not_not.mp hsame)
      split at h
      · rename_i p hp
        obtain ⟨hsnapshot, rfl⟩ := Prod.mk.inj h
        obtain rfl := Except.ok.inj hsnapshot
        have href : p.snapshot.proposal_ref = ref := ProposalRef.key_inj.mp (hcoherent.ref _ p hp)
        exact ⟨hrole, ⟨canonical, hcanonical, by rw [hentry, hsha256, href]⟩, p, by rw [href]; exact hp, rfl, rfl, rfl⟩
      · cases (Prod.mk.inj h).1
  · split at h
    · exact insert_registered hrole hcanonical hsha256 h
    · split at h
      · cases (Prod.mk.inj h).1
      · split_ifs at h
        · cases (Prod.mk.inj h).1
        · exact insert_registered hrole hcanonical hsha256 h

variable (crypto keyring terms) in
/-- What a call that proposes comes to, wherever the others lead. -/
abbrev Registers (request : ProposeRequest) (call : Call ProposalSnapshot) (w : World) : Prop :=
  (registry crypto keyring terms).anytime.Safe (act crypto keyring) (workflowRules terms) (.propose request)
    (OnOk fun snapshot w' => Registered crypto request snapshot w'.store) call w

theorem registers_onOk {α : Type} {request : ProposeRequest} {f : α → Call ProposalSnapshot} {answer : Except Raised α}
    {w : World} (h : ∀ a, answer = .ok a → Registers crypto keyring terms request (f a) w) :
    Registers crypto keyring terms request (onOk f answer) w := by
  cases answer with
  | error e => exact fun _ _ _ _ h => nomatch h
  | ok a => exact h a rfl

theorem propose_registers (request : ProposeRequest) (w : World) :
    Registers crypto keyring terms request (propose crypto request) w := by
  unfold propose require_role
  split
  · exact fun _ _ _ _ h => nomatch h
  rename_i hrole
  refine Contract.anytime_ask fun w₁ _ _ o₁ _ => registers_onOk fun validated _ => ?_
  refine Contract.anytime_ask fun w₂ _ _ o₂ _ => registers_onOk fun preview hpreview => ?_
  obtain ⟨rfl, -⟩ := preview_ok_iff.mp hpreview
  refine registers_onOk fun canonical hcanonical => ?_
  refine Contract.anytime_ask fun w₃ _ _ o₃ _ => registers_onOk fun expires_at _ => ?_
  refine Contract.anytime_ask fun w₄ _ hinv o₄ _ w₅ hrely _ snapshot hsnapshot => ?_
  exact Registered.mono (w := (act crypto keyring o₄ (.propose request) (.create_or_get_proposal _) w₄).2)
    (create_registered hinv.coherent (not_not.mp hrole) hcanonical rfl (Prod.ext hsnapshot rfl)) hrely

theorem accepted_registered {tasks : List InvestigationTaskState}
    {p : Pool World Request Op Ans (Except Raised Response)}
    (hp : Runs crypto keyring (workflowRules terms) (newPool tasks) p) {request : ProposeRequest}
    {snapshot : ProposalSnapshot} {i : ℕ}
    (hget : p.calls[i]? = some (.propose request, .done (.ok (.proposal snapshot)))) :
    Registered crypto request snapshot p.shared.store := by
  have hbody : ∀ w, (registry crypto keyring terms).rely (newPool tasks).shared w →
      (registry crypto keyring terms).inv w →
      (registry crypto keyring terms).anytime.Safe (act crypto keyring) (workflowRules terms) (.propose request)
        (fun result w' => ∀ snapshot, result = .ok (.proposal snapshot) →
          Registered crypto request snapshot w'.store) (body crypto keyring (.propose request)) w := by
    intro w _ _
    refine Contract.anytime_map (propose_registers request w) fun result w' hpost snapshot hresult => ?_
    cases result with
    | error e => cases hresult
    | ok answer =>
      obtain rfl := Response.proposal.inj (Except.ok.inj hresult)
      exact hpost answer rfl
  exact Contract.later_returned registry_sound registry_starts registry_holds hp hbody (Nat.zero_le i) hget snapshot rfl

variable (crypto keyring) in
/-- A call that proposes, alone on the world. -/
def memoryRun (o : Op → Outside) (request : ProposeRequest) (w : World) : Except Raised ProposalSnapshot × World :=
  (propose crypto request).run (fun op => act crypto keyring (o op) (.propose request) op) w

/-- The request is answered as it was, and the store is left as it is. -/
def MemoryAnswers (snapshot : ProposalSnapshot) (result : Except Raised ProposalSnapshot × World) (w : World) : Prop :=
  ∃ again, result.1 = .ok again ∧ SameAnswer snapshot again ∧ result.2.store = w.store

/-- What proposing again needs in memory. -/
structure MemoryAccepts (o : Op → Outside) (request : ProposeRequest) (s : MemoryStore) : Prop where
  validated : ∃ validated, (o (.validate_command request.command request.evidence_refs)).validated = .ok validated
  target : UpToDate request.command s
  expires_at : ∃ expires_at, (o (.now .created_at)).now.add (Datetime.hours 24) = .ok expires_at

theorem memory_propose_run {o : Op → Outside} {request : ProposeRequest} {w : World} {validated : ValidatedReferences}
    {canonical : CanonicalPayload} {expires_at : Datetime} (hrole : request.actor.role = .analyst)
    (hvalidated : (o (.validate_command request.command request.evidence_refs)).validated = .ok validated)
    (htarget : UpToDate request.command w.store)
    (hcanonical : canonical_command crypto request.command
      (PostgresStore.preview_command request.command).target_versions = .ok canonical)
    (hexpires : (o (.now .created_at)).now.add (Datetime.hours 24) = .ok expires_at) :
    let draft : ProposalDraft := ⟨request, PostgresStore.preview_command request.command, canonical.sha256,
      (o (.now .created_at)).now, expires_at, validated⟩
    memoryRun crypto keyring o request w =
      World.onStore { w with clock := (o (.now .created_at)).now.instant }
        (w.store.create_or_get_proposal (o (.create_or_get_proposal draft)).uuid4 draft) := by
  unfold memoryRun propose require_role
  rw [if_neg (not_not.mpr hrole)]
  refine (run_onOk hvalidated).trans ?_
  refine (run_onOk (preview_ok_iff.mpr ⟨rfl, htarget⟩)).trans ?_
  refine (run_onOk hcanonical).trans ?_
  rw [Flow.run_ask]
  have hnow : Datetime.add (act crypto keyring (o (.now .created_at)) (.propose request) (.now .created_at) w).1
      (Datetime.hours 24) = .ok expires_at := hexpires
  refine (run_onOk hnow).trans ?_
  rw [Flow.run_ask, Flow.run_done]
  rfl

theorem registered_answer {request : ProposeRequest} {snapshot : ProposalSnapshot} {s : MemoryStore}
    (h : Registered crypto request snapshot s) {draft : ProposalDraft} (hrequest : draft.request = request)
    (hsha256 : ∀ canonical, canonical_command crypto request.command
      (PostgresStore.preview_command request.command).target_versions = .ok canonical →
        draft.payload_sha256 = canonical.sha256) (uuid4 : UUID) :
    ∃ again, s.create_or_get_proposal uuid4 draft = (.ok again, s) ∧ SameAnswer snapshot again := by
  obtain ⟨canonical, hcanonical, hentry⟩ := h.entry
  obtain ⟨p, hp, hsame⟩ := h.stored
  subst hrequest
  refine ⟨p.snapshot, ?_, hsame⟩
  simp only [MemoryStore.create_or_get_proposal, hentry, hsha256 canonical hcanonical, ne_eq, not_true_eq_false,
    if_false, hp]

/-- A registered request that is proposed again is answered as it was exactly while it is still accepted. -/
theorem memory_again_iff {o : Op → Outside} {request : ProposeRequest} {snapshot : ProposalSnapshot} {w : World}
    (h : Registered crypto request snapshot w.store) :
    MemoryAnswers snapshot (memoryRun crypto keyring o request w) w ↔ MemoryAccepts o request w.store := by
  constructor
  · rintro ⟨again, hagain, -, -⟩
    have hrun : memoryRun crypto keyring o request w = (.ok again, (memoryRun crypto keyring o request w).2) :=
      Prod.ext hagain rfl
    unfold memoryRun propose require_role at hrun
    rw [if_neg (not_not.mpr h.role), Flow.run_ask] at hrun
    obtain ⟨validated, hvalidated, hrun⟩ := onOk_returned hrun
    rw [Flow.run_ask] at hrun
    obtain ⟨preview, hpreview, hrun⟩ := onOk_returned hrun
    obtain ⟨_, -, hrun⟩ := onOk_returned hrun
    rw [Flow.run_ask] at hrun
    obtain ⟨expires_at, hexpires, -⟩ := onOk_returned hrun
    exact ⟨⟨validated, hvalidated⟩, (preview_ok_iff.mp hpreview).2, expires_at, hexpires⟩
  · rintro ⟨⟨validated, hvalidated⟩, htarget, expires_at, hexpires⟩
    obtain ⟨canonical, hcanonical, -⟩ := h.entry
    have hrun := @memory_propose_run crypto keyring o request w validated canonical expires_at h.role hvalidated htarget
      hcanonical hexpires
    dsimp only at hrun
    generalize hdraft : (⟨request, PostgresStore.preview_command request.command, canonical.sha256,
      (o (.now .created_at)).now, expires_at, validated⟩ : ProposalDraft) = draft at hrun
    have hsha256 : draft.payload_sha256 = canonical.sha256 := by rw [← hdraft]
    obtain ⟨again, hagain, hsame⟩ := registered_answer h (congrArg ProposalDraft.request hdraft.symm)
      (fun canonical' hcanonical' => hsha256.trans (congrArg _ (Except.ok.inj (hcanonical.symm.trans hcanonical'))))
      (o (.create_or_get_proposal draft)).uuid4
    rw [hrun, hagain]
    exact ⟨again, rfl, hsame, rfl⟩

end Memory

/-! ## In the database -/

section Database

open Sql

variable {o o' : Op → Outside} {request : ProposeRequest} {snapshot : ProposalSnapshot} {t t' later : Tables}

def rowOf (request : ProposeRequest) (t : Tables) : Option ProposalRow :=
  t.operation_proposal.find? fun r =>
    r.requester_id = request.actor.actor_id ∧ r.idempotency_key = request.idempotency_key

/-- A row that is found again for the request of its columns. -/
structure RowFits (request : ProposeRequest) (canonical : CanonicalPayload) (target : Option PrivateSellerTarget)
    (row : ProposalRow) : Prop where
  command_type : row.command_type = request.command.command.type
  payload_sha256 : row.payload_sha256 = canonical.sha256
  private_seller_id : row.private_seller_id = target.map PrivateSellerTarget.seller_id
  private_evidence_digest : row.private_evidence_digest = target.map PrivateSellerTarget.evidence_digest

/-- Behind `create_operation_proposal` the key of the request has a row, and the answer is taken from it. -/
theorem create_finds {uuid4 : UUID} {now : Datetime} {draft : ProposalDraft} {canonical : CanonicalPayload}
    {payload : Json} {target : Option PrivateSellerTarget} {result : UUID × ℕ × ProposalStatus}
    (h : create_operation_proposal now (PostgresStore.proposal_columns crypto uuid4 draft canonical payload target) t =
      .ok (result, t')) :
    ∃ row, rowOf draft.request t' = some row ∧ RowFits draft.request canonical target row ∧
      result = (row.proposal_id, row.proposal_version, row.status) := by
  rcases create_cases h with ⟨row, hrow, ⟨htype, hsha256, hseller, hdigest⟩, hresult, rfl⟩ |
    ⟨hnone, hresult, -, t₁, hsupersede, hinsert⟩
  · exact ⟨row, hrow, ⟨htype, hsha256, hseller, hdigest⟩, hresult⟩
  · obtain ⟨-, -, rfl⟩ := insert_ok hinsert
    refine ⟨inserted now (PostgresStore.proposal_columns crypto uuid4 draft canonical payload target), ?_,
      ⟨rfl, rfl, rfl, rfl⟩, hresult⟩
    have hbefore : rowOf draft.request t₁ = none := by
      unfold supersede at hsupersede
      split_ifs at hsupersede
      · split at hsupersede
        · cases hsupersede
        · split_ifs at hsupersede
          obtain rfl := Except.ok.inj hsupersede
          exact (Table.find_update (f := fun r : ProposalRow => { r with status := .superseded }) fun _ => rfl).trans
            (Option.map_eq_none_iff.mpr hnone)
      · obtain rfl := Except.ok.inj hsupersede
        exact hnone
    unfold rowOf at hbefore ⊢
    dsimp only
    rw [Table.insert, List.find?_append, hbefore]
    simp [inserted, PostgresStore.proposal_columns]

/-- The request is answered as it was, and the tables are left as they are. -/
def PgAnswers (snapshot : ProposalSnapshot) (result : Except Raised ProposalSnapshot × Tables) (t : Tables) : Prop :=
  ∃ again, result = (.ok again, t) ∧ SameAnswer snapshot again

/-- What proposing again needs of the database's adapter. -/
structure PgAccepts (o o' : Op → Outside) (request : ProposeRequest) : Prop where
  validated : (o' (.validate_command request.command request.evidence_refs)).validated.bind
      (PostgresStore.private_seller_binding request.command) =
    (o (.validate_command request.command request.evidence_refs)).validated.bind
      (PostgresStore.private_seller_binding request.command)
  clock : (o' (.now .created_at)).now.instant = (o (.now .created_at)).now.instant
  expires_at : ∃ expires_at, (o' (.now .created_at)).now.add (Datetime.hours 24) = .ok expires_at

theorem created_row {uuid4 : UUID} {now : Datetime} {draft : ProposalDraft}
    (h : PostgresStore.create_or_get_proposal crypto uuid4 now draft t = (.ok snapshot, t')) :
    ∃ canonical target row,
      canonical_command crypto draft.request.command draft.preview.target_versions = .ok canonical ∧
        canonical.sha256 = draft.payload_sha256 ∧
        PostgresStore.private_seller_binding draft.request.command draft.validated_references = .ok target ∧
        rowOf draft.request t' = some row ∧ RowFits draft.request canonical target row ∧
        snapshot.proposal_ref.key = (row.proposal_id, row.proposal_version) ∧
        snapshot.created_at = draft.created_at ∧ snapshot.expires_at = draft.expires_at := by
  obtain ⟨canonical, target, payload, result, hcanonical, hsha256, hbinding, -, -, hcreate, hsnapshot⟩ := create_ok h
  obtain ⟨row, hrow, hfits, rfl⟩ := create_finds hcreate
  obtain ⟨hkey, -, -, hcreated, hexpires⟩ := draft_snapshot_ok hsnapshot
  exact ⟨canonical, target, row, hcanonical, hsha256, hbinding, hrow, hfits, hkey, hcreated, hexpires⟩

theorem create_found {now : Datetime} {p : ProposalColumns} {row : ProposalRow}
    (hrow : later.operation_proposal.find? (fun r =>
      r.requester_id = p.requester_id ∧ r.idempotency_key = p.idempotency_key) = some row)
    (hfits : row.command_type = p.command_type ∧ row.payload_sha256 = p.payload_sha256 ∧
      row.private_seller_id = p.private_seller_id ∧ row.private_evidence_digest = p.private_evidence_digest) :
    create_operation_proposal now p later = .ok ((row.proposal_id, row.proposal_version, row.status), later) := by
  unfold create_operation_proposal
  split
  · rename_i existing hexisting
    obtain rfl := Option.some.inj (hrow.symm.trans hexisting)
    refine if_neg ?_
    push Not
    exact hfits
  · rename_i hnone
    cases hrow.symm.trans hnone

/-- The same call, while the row of the key is there: the snapshot of the new draft, under the key of the row. -/
theorem create_again {uuid4 uuid4' : UUID} {now now' : Datetime} {draft draft' : ProposalDraft}
    {canonical : CanonicalPayload} {target : Option PrivateSellerTarget} {row : ProposalRow}
    (h : PostgresStore.create_or_get_proposal crypto uuid4 now draft t = (.ok snapshot, t'))
    (hrequest : draft'.request = draft.request) (hpreview : draft'.preview = draft.preview)
    (hpayload : draft'.payload_sha256 = draft.payload_sha256)
    (hcanonical : canonical_command crypto draft.request.command draft.preview.target_versions = .ok canonical)
    (hbinding : PostgresStore.private_seller_binding draft.request.command draft.validated_references = .ok target)
    (hbinding' : PostgresStore.private_seller_binding draft'.request.command draft'.validated_references = .ok target)
    (hrow : rowOf draft.request later = some row) (hfits : RowFits draft.request canonical target row) :
    PostgresStore.create_or_get_proposal crypto uuid4' now' draft' later =
      (PostgresStore.draft_snapshot draft' (row.proposal_id, row.proposal_version, row.status), later) := by
  obtain ⟨canonical₁, target₁, payload, result, hcanonical₁, hsha256, hbinding₁, hloads, hparameters, -, -⟩ :=
    create_ok h
  obtain rfl := Except.ok.inj (hcanonical.symm.trans hcanonical₁)
  obtain rfl := Except.ok.inj (hbinding.symm.trans hbinding₁)
  have hsame : PostgresStore.proposal_parameters
      (PostgresStore.proposal_columns crypto uuid4' draft' canonical payload target) =
      PostgresStore.proposal_parameters
        (PostgresStore.proposal_columns crypto uuid4 draft canonical payload target) := by
    unfold PostgresStore.proposal_parameters PostgresStore.proposal_columns
    rw [hrequest, hpreview]
    cases draft.request.revises <;> rfl
  have hcreate : create_operation_proposal now'
      (PostgresStore.proposal_columns crypto uuid4' draft' canonical payload target) later =
      .ok ((row.proposal_id, row.proposal_version, row.status), later) := by
    refine create_found ?_ ?_
    · rw [← hrequest] at hrow
      exact hrow
    · rw [← hrequest] at hfits
      exact ⟨hfits.command_type, hfits.payload_sha256, hfits.private_seller_id, hfits.private_evidence_digest⟩
  unfold PostgresStore.create_or_get_proposal
  rw [hrequest, hpreview, hcanonical]
  dsimp only
  rw [if_neg (not_not.mpr (hsha256.trans hpayload.symm)), ← hrequest, hbinding', hloads]
  dsimp only
  rw [call, hsame, hparameters, hcreate]
  rfl

theorem target_ext {a b : Option PrivateSellerTarget}
    (hseller : a.map PrivateSellerTarget.seller_id = b.map PrivateSellerTarget.seller_id)
    (hdigest : a.map PrivateSellerTarget.evidence_digest = b.map PrivateSellerTarget.evidence_digest) : a = b := by
  cases a with
  | none =>
    cases b with
    | none => rfl
    | some b => cases hseller
  | some a =>
    cases b with
    | none => cases hseller
    | some b =>
      have h₁ : a.seller_id = b.seller_id := Option.some.inj hseller
      have h₂ : a.evidence_digest = b.evidence_digest := Option.some.inj hdigest
      cases a
      cases b
      simp_all

theorem pg_role (h : pgRun crypto keyring o (propose crypto request) t = (.ok snapshot, t')) :
    request.actor.role = .analyst := by
  unfold pgRun propose require_role at h
  split_ifs at h with hrole
  · cases (Prod.mk.inj h).1
  · exact not_not.mp hrole

theorem draft_snapshot_positive {draft : ProposalDraft} {proposal_id : UUID} {version : ℕ} {status : ProposalStatus}
    (hversion : 1 ≤ version) (hincreasing : draft.created_at.instant < draft.expires_at.instant) :
    ∃ again, PostgresStore.draft_snapshot draft (proposal_id, version, status) = .ok again := by
  unfold PostgresStore.draft_snapshot
  exact ⟨_, dif_pos ⟨hversion, hincreasing⟩⟩

/-- An accepted request that is proposed again is answered as it was exactly while its reference checks bind it to the
same seller, at the instant of the first call. -/
theorem pg_again_iff (haccepted : pgRun crypto keyring o (propose crypto request) t = (.ok snapshot, t'))
    (hlater : Kept t' later) :
    PgAnswers snapshot (pgRun crypto keyring o' (propose crypto request) later) later ↔ PgAccepts o o' request := by
  have hrole := pg_role haccepted
  obtain ⟨validated, canonical, expires_at, draft, hvalidated, hcanonical, hexpires, hdraft, hcreate⟩ :=
    pg_propose_ok haccepted
  subst hdraft
  obtain ⟨canonical₁, target, row, hcanonical₁, -, hbinding, hrow, hfits, hkey, hcreated, hexpired⟩ :=
    created_row hcreate
  obtain rfl := Except.ok.inj (hcanonical.symm.trans hcanonical₁)
  obtain ⟨status, hrow⟩ := Extends.find hlater (q := fun p =>
    p.requester_id = request.actor.actor_id ∧ p.idempotency_key = request.idempotency_key) hrow
  have hfirst : (o (.validate_command request.command request.evidence_refs)).validated.bind
      (PostgresStore.private_seller_binding request.command) = .ok target := by
    rw [hvalidated]
    exact hbinding
  constructor
  · rintro ⟨again, hagain, hsame⟩
    obtain ⟨validated', canonical', expires_at', draft', hvalidated', hcanonical', hexpires', hdraft', hcreate'⟩ :=
      pg_propose_ok hagain
    subst hdraft'
    obtain ⟨_, target', row', _, _, hbinding', hrow', hfits', -, hcreated', -⟩ := created_row hcreate'
    obtain rfl := Option.some.inj (hrow.symm.trans hrow')
    refine ⟨?_, ?_, expires_at', hexpires'⟩
    · rw [hfirst, hvalidated']
      refine hbinding'.trans (congrArg Except.ok ?_)
      exact target_ext (hfits'.private_seller_id.symm.trans hfits.private_seller_id)
        (hfits'.private_evidence_digest.symm.trans hfits.private_evidence_digest)
    · have hinstant := hsame.created_at
      rw [hcreated', hcreated] at hinstant
      exact hinstant
  · rintro ⟨hvalid, hclock, expires_at', hexpires'⟩
    rw [hfirst] at hvalid
    cases hvalidated' : (o' (.validate_command request.command request.evidence_refs)).validated with
    | error e =>
      rw [hvalidated'] at hvalid
      cases hvalid
    | ok validated' =>
      rw [hvalidated'] at hvalid
      have hrun := @pg_propose_run crypto keyring o' request later validated' canonical expires_at' hrole hvalidated'
        hcanonical hexpires'
      dsimp only at hrun
      generalize hdraft' : (⟨request, PostgresStore.preview_command request.command, canonical.sha256,
        (o' (.now .created_at)).now, expires_at', validated'⟩ : ProposalDraft) = draft' at hrun
      rw [create_again hcreate (by rw [← hdraft']) (by rw [← hdraft']) (by rw [← hdraft']) hcanonical hbinding
        (by rw [← hdraft']; exact hvalid) hrow
        ⟨hfits.command_type, hfits.payload_sha256, hfits.private_seller_id, hfits.private_evidence_digest⟩] at hrun
      have hversion : 1 ≤ row.proposal_version := by
        rw [← (Prod.mk.inj hkey).2]
        exact snapshot.proposal_ref.positive
      have hincreasing : draft'.created_at.instant < draft'.expires_at.instant := by
        rw [← hdraft']
        dsimp only
        rw [Datetime.add_instant hexpires']
        exact Nat.lt_add_of_pos_right (by decide)
      obtain ⟨again, hagain⟩ : ∃ again,
          PostgresStore.draft_snapshot draft' (row.proposal_id, row.proposal_version, status) = .ok again :=
        draft_snapshot_positive hversion hincreasing
      obtain ⟨hkey', -, -, hcreated', hexpired'⟩ := draft_snapshot_ok hagain
      refine ⟨again, hrun.trans (congrArg (·, later) hagain), ProposalRef.key_inj.mp (hkey'.trans hkey.symm), ?_, ?_⟩
      · rw [hcreated', hcreated, ← hdraft']
        exact hclock
      · rw [hexpired', hexpired, ← hdraft']
        dsimp only
        rw [Datetime.add_instant hexpires', Datetime.add_instant hexpires, hclock]

end Database

/-! ## Both stores -/

/-- **Proposing again.** In every later state the in-memory store answers an accepted request as it did exactly while the
request would be accepted anew: its references pass, and its target still has the version that it expects. The
database's adapter answers it as it did exactly when the clock reads what it read then, and the references bind the same
seller. -/
theorem proposed_again (crypto : Crypto) (keyring : HmacApprovalKeyring) (terms : Terms) :
    (∀ (tasks : List InvestigationTaskState) (p : Pool World Request Op Ans (Except Raised Response))
      (request : ProposeRequest) (snapshot : ProposalSnapshot) (i : ℕ),
      Runs crypto keyring (workflowRules terms) (newPool tasks) p →
      p.calls[i]? = some (.propose request, .done (.ok (.proposal snapshot))) → ∀ o : Op → Outside,
        (MemoryAnswers snapshot (memoryRun crypto keyring o request p.shared) p.shared ↔
          MemoryAccepts o request p.shared.store)) ∧
    ∀ (o o' : Op → Outside) (request : ProposeRequest) (snapshot : ProposalSnapshot) (t t' : Sql.Tables)
      (calls : List (Request × Flow Op Ans (Except Raised Response)))
      (later : Pool Sql.Tables Request Op Ans (Except Raised Response)),
      pgRun crypto keyring o (propose crypto request) t = (.ok snapshot, t') →
      PgRuns crypto keyring ⟨t', calls⟩ later →
        (PgAnswers snapshot (pgRun crypto keyring o' (propose crypto request) later.shared) later.shared ↔
          PgAccepts o o' request) := by
  constructor
  · intro tasks p request snapshot i hp hget o
    exact memory_again_iff (accepted_registered hp hget)
  · intro o o' request snapshot t t' calls later haccepted hruns
    exact pg_again_iff haccepted (pgRuns_kept hruns)

/-- A request that was proposed at noon, alone. -/
def proposedAtNoon : Pool World Request Op Ans (Except Raised Response) :=
  callAlone (sampleOutside noon) (.propose samplePropose) (newPool [])

theorem proposedAtNoon_runs : Runs sampleCrypto sampleKeyring (workflowRules anyone) (newPool []) proposedAtNoon := by
  refine callAlone_runs _ _ .init trivial ?_
  decide +kernel

theorem proposedAtNoon_returned : ∃ snapshot,
    proposedAtNoon.calls[0]? = some (.propose samplePropose, .done (.ok (.proposal snapshot))) := by
  obtain ⟨snapshot, w, hrun⟩ : ∃ snapshot w, (propose sampleCrypto samplePropose).run
      (act sampleCrypto sampleKeyring (sampleOutside noon) (.propose samplePropose)) (newPool []).shared =
        (.ok snapshot, w) := by
    apply returned_of_isOk
    decide +kernel
  refine ⟨snapshot, ?_⟩
  have hbody : (body sampleCrypto sampleKeyring (.propose samplePropose)).run
      (act sampleCrypto sampleKeyring (sampleOutside noon) (.propose samplePropose)) (newPool []).shared =
        (.ok (.proposal snapshot), w) := by
    refine (Flow.run_bind _ _ _).trans ?_
    rw [hrun]
    rfl
  exact congrArg (fun result => some (Request.propose samplePropose, Flow.done result)) (congrArg Prod.fst hbody)

/-- Ten minutes later the in-memory store answers as it did, and so does the database at noon. -/
theorem proposed_again_sample :
    (∃ snapshot, MemoryAnswers snapshot
      (memoryRun sampleCrypto sampleKeyring (fun _ => sampleOutside laterAt) samplePropose proposedAtNoon.shared)
      proposedAtNoon.shared) ∧
    ∃ snapshot t', PgAnswers snapshot
      (pgRun sampleCrypto sampleKeyring (fun _ => sampleValidator (sampleOrdered false))
        (propose sampleCrypto (sampleOrdered false)) t') t' := by
  have hexpires (d : Datetime) (h : (d.add (Datetime.hours 24)).isOk = true) :
      ∃ expires_at, d.add (Datetime.hours 24) = .ok expires_at := by
    cases hd : d.add (Datetime.hours 24) with
    | error e =>
      rw [hd] at h
      cases h
    | ok e => exact ⟨e, rfl⟩
  constructor
  · obtain ⟨snapshot, hget⟩ := proposedAtNoon_returned
    refine ⟨snapshot, ((proposed_again sampleCrypto sampleKeyring anyone).1 [] proposedAtNoon samplePropose snapshot 0
      proposedAtNoon_runs hget _).mpr ⟨⟨_, rfl⟩, (fun t ht => nomatch ht), hexpires _ ?_⟩⟩
    decide +kernel
  · obtain ⟨snapshot, t', hrun⟩ := sampleOrdered_accepted false
    refine ⟨snapshot, t', ((proposed_again sampleCrypto sampleKeyring anyone).2 _ _ _ snapshot _ t' [] ⟨t', []⟩ hrun
      .init).mpr ⟨rfl, rfl, hexpires _ ?_⟩⟩
    decide +kernel

/-- The database answers a request that is proposed again ten minutes later with other times. -/
theorem times_move_on :
    ¬ ∀ (crypto : Crypto) (keyring : HmacApprovalKeyring) (o o' : Op → Outside) (request : ProposeRequest)
      (snapshot : ProposalSnapshot) (t t' : Sql.Tables)
      (later : Pool Sql.Tables Request Op Ans (Except Raised Response)),
      pgRun crypto keyring o (propose crypto request) t = (.ok snapshot, t') → PgRuns crypto keyring ⟨t', []⟩ later →
      (∀ op, (o' op).validated = (o op).validated) →
        PgAnswers snapshot (pgRun crypto keyring o' (propose crypto request) later.shared) later.shared := by
  intro h
  obtain ⟨snapshot, t', hrun⟩ := sampleOrdered_accepted false
  have hagain := h sampleCrypto sampleKeyring _
    (fun _ => { sampleValidator (sampleOrdered false) with now := laterAt }) _
    snapshot _ t' ⟨t', []⟩ hrun .init fun _ => rfl
  exact absurd ((pg_again_iff hrun (.refl t')).mp hagain).clock (by decide)

end CommerceAgent.Operations
