import CommerceAgent.Orchestration.RetailRuns

/-!
# The budgets of a retail run

What every checkpoint of a run keeps, over any schedule of crashes.
-/

open CommerceAgent.Lib
open CommerceAgent.Lib.Flow (Steps Meets Obeys onOk)
open CommerceAgent.Operations (UUID Text Code Name HexDigest)

namespace CommerceAgent.Orchestration

/-! ## The budgets of a checkpoint -/

/-- The steps of the plan that a checkpoint holds. -/
def RetailGraphState.plan_step_ids (state : RetailGraphState) : List (Name 1 127) :=
  match state.investigation_plan with
  | some plan => plan.steps.map QueryPlanStep.step_id
  | none => []

/-- The plan, half done: the steps completed, each with one result, and those that are pending. -/
structure HalfDone (step_ids pending : List (Name 1 127)) (evidence : List EvidenceResult) : Prop where
  split : ∃ completed, step_ids = completed ++ pending ∧
    evidence.map (fun result => result.evidence_id.text) = completed.map fun step_id => s!"query:{step_id.text}"

/-- **The budgets.** -/
structure WithinBudget (policy : RetailLoopPolicy) (state : RetailGraphState) : Prop where
  model_calls : state.model_call_count ≤ policy.max_model_calls
  repairs : state.repair_count ≤ policy.max_repairs
  tool_calls : state.tool_call_count ≤ state.model_call_count
  plan : HalfDone state.plan_step_ids state.pending_plan_step_ids state.query_evidence

/-- The budgets, with the tool call that a stored candidate still has to its credit. -/
structure Funded (policy : RetailLoopPolicy) (state : RetailGraphState) : Prop extends WithinBudget policy state where
  credit : (RetailGraph.stored_candidate state).isSome → state.tool_call_count < state.model_call_count

theorem HalfDone.suffix {step_ids pending : List (Name 1 127)} {evidence : List EvidenceResult}
    (h : HalfDone step_ids pending evidence) : pending <:+ step_ids := by
  obtain ⟨completed, hsteps, -⟩ := h.split
  exact ⟨completed, hsteps.symm⟩

variable {policy : RetailLoopPolicy} {state : RetailGraphState}

theorem RetailGraph.stored_candidate_none (h : state.current_node ≠ .execute_query) : RetailGraph.stored_candidate state = none := by
  unfold RetailGraph.stored_candidate
  rw [if_neg h]

theorem funded_of (h : WithinBudget policy state) (hnode : state.current_node ≠ .execute_query) : Funded policy state := by
  refine ⟨h, ?_⟩
  rw [RetailGraph.stored_candidate_none hnode]
  exact nofun

theorem Funded.finalized (h : Funded policy state) {desired : RetailRunOutcome}
    (hmodel : desired.model_calls ≤ policy.max_model_calls) (htool : desired.tool_calls ≤ desired.model_calls) :
    Funded policy (RetailGraph.finalized desired state) :=
  funded_of ⟨hmodel, h.repairs, htool, h.plan⟩ nofun

theorem Funded.planned (policy : RetailLoopPolicy) (request : RetailRunRequest) (plan : InvestigationPlan)
    (hashes : PromptHashes) : Funded policy (RetailGraph.planned request plan hashes) :=
  funded_of ⟨policy.model_bound.1, Nat.zero_le _, le_refl 1, ⟨[], rfl, rfl⟩⟩ nofun

theorem Funded.answered (h : Funded policy state) (hless : state.model_call_count < policy.max_model_calls)
    (hashes : PromptHashes) : Funded policy (RetailGraph.answered state hashes) :=
  ⟨⟨hless, h.repairs, Nat.succ_le_succ h.tool_calls, h.plan⟩, fun hstored => Nat.succ_lt_succ (h.credit hstored)⟩

theorem Funded.proposing (h : Funded policy state) (call : ToolCall) : Funded policy (RetailGraph.proposing state call) :=
  funded_of ⟨h.model_calls, h.repairs, h.tool_calls, h.plan⟩ nofun

theorem Funded.proposed (h : Funded policy state) (proposal_refs : List String) :
    Funded policy (RetailGraph.proposed state proposal_refs) :=
  funded_of ⟨h.model_calls, h.repairs, h.tool_calls, h.plan⟩ nofun

theorem Funded.reconciled (h : Funded policy state) (reconciliation : ReconciliationResult) :
    Funded policy (RetailGraph.reconciled state reconciliation) :=
  funded_of ⟨h.model_calls, h.repairs, h.tool_calls, h.plan⟩ nofun

theorem Funded.generated (h : Funded policy state) (hless : state.model_call_count < policy.max_model_calls)
    (candidate : SqlCandidate) : Funded policy (RetailGraph.generated state candidate) :=
  ⟨⟨hless, h.repairs, Nat.le_succ_of_le h.tool_calls, h.plan⟩, fun _ => Nat.lt_succ_of_le h.tool_calls⟩

theorem Funded.repairing (h : Funded policy state) (hcredit : state.tool_call_count < state.model_call_count)
    (hless : state.repair_count < policy.max_repairs) (latest_error : ProductDbError) :
    Funded policy (RetailGraph.repairing state latest_error) :=
  funded_of ⟨h.model_calls, hless, hcredit, h.plan⟩ nofun

theorem Funded.answered_step (h : Funded policy state) (hcredit : state.tool_call_count < state.model_call_count)
    {pending : List (Name 1 127)} {evidence : List EvidenceResult} (hplan : HalfDone state.plan_step_ids pending evidence) :
    Funded policy (RetailGraph.answered_step state pending evidence) :=
  funded_of ⟨h.model_calls, h.repairs, hcredit, hplan⟩ nofun

/-! ## What a run saves -/

/-- An operation that saves only what is within the budgets. -/
def SavesFunded (policy : RetailLoopPolicy) : RetailOp → Prop
  | .save state => Funded policy state
  | _ => True

namespace RetailGraph

variable {graph : RetailGraph} {request : RetailRunRequest} {n : ℕ}

theorem finish_day4_steps (desired : RetailRunOutcome) :
    (graph.finish_day4 request desired).Steps (SavesFunded policy) 2 := by
  unfold finish_day4
  refine Steps.ask trivial fun answer => ?_
  cases answer with
  | error e => exact Steps.done
  | ok _ => exact Steps.ask trivial fun _ => Steps.done

theorem save_day4_state_steps {k : RetailCall RetailRunOutcome} (h : Funded policy state)
    (hk : k.Steps (SavesFunded policy) n) : (save_day4_state state k).Steps (SavesFunded policy) (n + 1) :=
  Steps.ask h fun _ => hk

theorem interrupt_day4_steps (request : RetailRunRequest) (state : RetailGraphState) {k : RetailCall RetailRunOutcome}
    (boundary : String)
    (hk : k.Steps (SavesFunded policy) n) :
    (interrupt_day4 request state boundary k).Steps (SavesFunded policy) (n + 1) := by
  unfold interrupt_day4
  refine Steps.ask trivial fun interrupted => ?_
  cases interrupted with
  | true => exact Steps.done
  | false => exact hk

theorem cache_and_finish_steps (h : Funded policy state) {desired : RetailRunOutcome}
    (hmodel : desired.model_calls ≤ policy.max_model_calls) (htool : desired.tool_calls ≤ desired.model_calls) :
    (graph.cache_and_finish request desired state).Steps (SavesFunded policy) 4 := by
  unfold cache_and_finish
  exact save_day4_state_steps (h.finalized hmodel htool) (interrupt_day4_steps _ _ _ (finish_day4_steps desired))

theorem stop_run_steps (h : Funded policy state) {reason_code : Code 2 127} {model_calls tool_calls : ℕ}
    (hmodel : model_calls ≤ policy.max_model_calls) (htool : tool_calls ≤ model_calls) :
    (graph.stop_run request state reason_code model_calls tool_calls).Steps (SavesFunded policy) 4 := by
  unfold stop_run
  exact cache_and_finish_steps h hmodel htool

theorem call_day4_model_steps (step : PromptStep) (evidence : List ContextDatum) (sequence : ℕ) :
    (graph.call_day4_model request step evidence sequence).Steps (SavesFunded policy) 2 := by
  unfold call_day4_model build
  refine Steps.ask trivial fun answer => ?_
  cases answer with
  | error e => exact Steps.done
  | ok hashes =>
    rw [Flow.onOk_ok]
    split
    · exact Steps.done
    · refine Steps.ask trivial fun answer => ?_
      cases answer with
      | error e => exact Steps.done
      | ok response =>
        rw [Flow.onOk_ok]
        split
        · exact Steps.done
        · exact Steps.done

theorem execute_proposal_steps (dispatcher : RetailToolDispatcher) (call : ToolCall) :
    (graph.execute_proposal dispatcher call).Steps (SavesFunded policy) 1 := by
  unfold execute_proposal raise
  split
  · split
    · exact Steps.done
    · split
      · exact Steps.done
      · refine Steps.ask trivial fun answer => ?_
        cases answer with
        | error e => exact Steps.done
        | ok snapshot =>
          rw [Flow.onOk_ok]
          split
          · exact Steps.done
          · exact Steps.done
  · exact Steps.done

theorem report_call_steps (datums : List ContextDatum) :
    (graph.report_call request datums state).Steps (SavesFunded policy) 2 := by
  unfold report_call raise
  refine (call_day4_model_steps _ _ _).bind (n := 0) fun result => ?_
  cases result with
  | error e => exact Steps.done
  | ok answer =>
    obtain ⟨output, hashes⟩ := answer
    rw [Flow.onOk_ok]
    dsimp only
    split
    · exact Steps.done
    · exact Steps.done

theorem submit_report_steps (h : Funded graph.policy state) (proposal_refs : List String) (call : ToolCall) :
    (graph.submit_report request state proposal_refs call).Steps (SavesFunded graph.policy) 4 := by
  unfold submit_report raise
  split
  · exact Steps.done
  · split
    · exact Steps.done
    · split
      · exact Steps.done
      · exact cache_and_finish_steps h h.model_calls h.tool_calls

theorem on_report_call_steps (h : Funded graph.policy state) (proposal_refs : List String) (call : ToolCall)
    {again : List String → RetailCall RetailRunOutcome}
    (hagain : ∀ proposal_refs, (again proposal_refs).Steps (SavesFunded graph.policy) n) :
    (graph.on_report_call request state proposal_refs call again).Steps (SavesFunded graph.policy) (n + 4) := by
  unfold on_report_call
  split
  · exact (submit_report_steps h proposal_refs call).mono (Nat.le_add_left 4 n)
  · split
    · exact (stop_run_steps h h.model_calls h.tool_calls).mono (Nat.le_add_left 4 n)
    · rename_i dispatcher _
      refine save_day4_state_steps (h.proposing call) ?_
      have hrest : ∀ result, (onOk (fun source_refs =>
          save_day4_state (proposed (proposing state call) (proposal_refs ++ source_refs)) <|
          interrupt_day4 request (proposed (proposing state call) (proposal_refs ++ source_refs)) "create_proposal" <|
          again (proposal_refs ++ source_refs)) result).Steps (SavesFunded graph.policy) (n + 2) := by
        intro result
        cases result with
        | error e => exact Steps.done
        | ok source_refs =>
          exact save_day4_state_steps ((h.proposing call).proposed _) (interrupt_day4_steps _ _ _ (hagain _))
      exact ((execute_proposal_steps dispatcher call).bind hrest).mono (by omega)

/-- How often the report loop may still turn. -/
def report_turns (policy : RetailLoopPolicy) (state : RetailGraphState) : ℕ :=
  policy.max_model_calls - state.model_call_count + if (pending_call state).isSome then 1 else 0

theorem report_turns_proposed (policy : RetailLoopPolicy) (state : RetailGraphState) (call : ToolCall)
    (proposal_refs : List String) :
    report_turns policy (proposed (proposing state call) proposal_refs) =
      policy.max_model_calls - state.model_call_count := rfl

theorem report_loop_steps (datums : List ContextDatum) {state : RetailGraphState} (proposal_refs : List String)
    (h : Funded graph.policy state) :
    (graph.report_loop request datums state proposal_refs).Steps (SavesFunded graph.policy)
      (6 * report_turns graph.policy state + 4) := by
  unfold report_loop
  split
  · rename_i call hpending
    have hturns : report_turns graph.policy state = graph.policy.max_model_calls - state.model_call_count + 1 := by
      rw [report_turns, hpending, Option.isSome_some, if_pos rfl]
    have hnext (proposal_refs : List String) :=
      report_loop_steps datums proposal_refs ((h.proposing call).proposed proposal_refs)
    simp only [report_turns_proposed] at hnext
    refine (on_report_call_steps h proposal_refs call hnext).mono ?_
    omega
  · rename_i hpending
    split
    · exact (stop_run_steps h h.model_calls h.tool_calls).mono (Nat.le_add_left 4 _)
    · rename_i hless
      rw [not_le] at hless
      have hturns : report_turns graph.policy state = graph.policy.max_model_calls - state.model_call_count := by
        rw [report_turns, hpending, Option.isSome_none, if_neg Bool.false_ne_true, Nat.add_zero]
      have hrest : ∀ result, (onOk (fun answer : ToolCall × PromptHashes =>
          graph.on_report_call request (answered state answer.2) proposal_refs answer.1 fun proposal_refs =>
          graph.report_loop request datums (proposed (proposing (answered state answer.2) answer.1) proposal_refs)
            proposal_refs) result).Steps (SavesFunded graph.policy)
          (6 * (graph.policy.max_model_calls - (state.model_call_count + 1)) + 4 + 4) := by
        intro result
        cases result with
        | error e => exact Steps.done
        | ok answer =>
          obtain ⟨call, hashes⟩ := answer
          have hanswered := h.answered hless hashes
          rw [Flow.onOk_ok]
          refine on_report_call_steps hanswered proposal_refs call fun proposal_refs => ?_
          exact report_loop_steps datums proposal_refs ((hanswered.proposing call).proposed proposal_refs)
      refine ((report_call_steps datums).bind hrest).mono ?_
      omega
termination_by report_turns graph.policy state
decreasing_by
  · rw [report_turns_proposed]
    omega
  · rw [report_turns_proposed]
    simp only [answered]
    omega

theorem report_turns_le (policy : RetailLoopPolicy) (state : RetailGraphState) :
    report_turns policy state ≤ policy.max_model_calls + 1 := by
  unfold report_turns
  split
  all_goals omega

theorem prepare_report_steps (h : Funded graph.policy state) (evidence_results : List EvidenceResult)
    (reconciliation : ReconciliationResult) :
    (graph.prepare_report request state evidence_results reconciliation).Steps (SavesFunded graph.policy)
      (6 * graph.policy.max_model_calls + 10) := by
  unfold prepare_report
  split
  · exact Steps.done
  · have hle := report_turns_le graph.policy state
    exact (report_loop_steps _ _ h).mono (by omega)

theorem prepare_reconciliation_steps (h : Funded graph.policy state) (evidence_results : List EvidenceResult) :
    (graph.prepare_reconciliation request state evidence_results).Steps (SavesFunded graph.policy)
      (6 * graph.policy.max_model_calls + 11) := by
  unfold prepare_reconciliation
  split
  · exact (prepare_report_steps h _ _).mono (Nat.le_succ _)
  · exact save_day4_state_steps (h.reconciled _) (prepare_report_steps (h.reconciled _) _ _)

/-! ## The plan loop -/

theorem parse_evidence_id {evidence_id : String} {result : QueryResult} {query_fingerprint : HexDigest}
    {evidence : EvidenceResult} (h : EvidenceResult.parse evidence_id result query_fingerprint = some evidence) :
    evidence.evidence_id.text = evidence_id := by
  unfold EvidenceResult.parse at h
  simp only [Option.bind_eq_bind, Option.bind_eq_some_iff] at h
  obtain ⟨id, hid, hevidence⟩ := h
  split at hevidence
  · cases hevidence
    unfold Operations.Checked.parse at hid
    split at hid
    · cases hid
      rfl
    · cases hid
  · cases hevidence

theorem HalfDone.next {step_ids pending : List (Name 1 127)} {evidence : List EvidenceResult} {step_id : Name 1 127}
    (h : HalfDone step_ids (step_id :: pending) evidence) {result : EvidenceResult}
    (hresult : result.evidence_id.text = s!"query:{step_id.text}") : HalfDone step_ids pending (evidence ++ [result]) := by
  obtain ⟨completed, hsteps, hevidence⟩ := h.split
  refine ⟨completed ++ [step_id], ?_, ?_⟩
  · rw [hsteps, List.append_assoc]
    rfl
  · rw [List.map_append, List.map_append, hevidence, List.map_singleton, hresult]
    rfl

theorem on_candidate_steps (h : Funded graph.policy state) (hcredit : state.tool_call_count < state.model_call_count)
    {step : QueryPlanStep} {pending : List (Name 1 127)} {evidence : List EvidenceResult}
    (hplan : HalfDone state.plan_step_ids (step.step_id :: pending) evidence) (candidate : SqlCandidate)
    {again : state.repair_count < graph.policy.max_repairs → ProductDbError → RetailCall RetailRunOutcome}
    {next : List EvidenceResult → RetailCall RetailRunOutcome}
    (hagain : ∀ hless latest_error, (again hless latest_error).Steps (SavesFunded graph.policy) n)
    (hnext : ∀ evidence, HalfDone state.plan_step_ids pending evidence → (next evidence).Steps (SavesFunded graph.policy) n) :
    (graph.on_candidate request state step evidence pending candidate again next).Steps (SavesFunded graph.policy)
      (n + 5) := by
  unfold on_candidate
  refine Steps.ask trivial fun answer => ?_
  cases answer with
  | error failure =>
    cases failure with
    | raised e => exact Steps.done
    | engine reason_code =>
      dsimp only
      split
      · exact (stop_run_steps h h.model_calls hcredit).mono (Nat.le_add_left 4 n)
      · rename_i hlimit
        split
        · exact Steps.done
        · have hless := not_le.mp (not_or.mp hlimit).2
          exact (save_day4_state_steps (h.repairing hcredit hless _) (hagain hless _)).mono (by omega)
  | ok result =>
    dsimp only
    split
    · exact Steps.done
    · rename_i evidence_result hparse
      have hdone := HalfDone.next hplan (parse_evidence_id hparse)
      have hsave := save_day4_state_steps (h.answered_step hcredit hdone)
        (interrupt_day4_steps request (answered_step state pending (evidence ++ [evidence_result])) "execute_query"
          (hnext _ hdone))
      exact hsave.mono (by omega)

theorem generate_candidate_steps (h : Funded graph.policy state) (step : QueryPlanStep)
    {k : SqlCandidate → RetailCall RetailRunOutcome}
    (hk : state.model_call_count < graph.policy.max_model_calls → ∀ candidate, (k candidate).Steps (SavesFunded graph.policy) n) :
    (graph.generate_candidate request state step k).Steps (SavesFunded graph.policy) (n + 5) := by
  unfold generate_candidate
  split
  · exact (stop_run_steps h h.model_calls h.tool_calls).mono (by omega)
  · rename_i hless
    rw [not_le] at hless
    split
    · exact Steps.done
    · split
      · exact Steps.done
      · refine Steps.ask trivial fun answer => ?_
        cases answer with
        | no_progress =>
          exact (stop_run_steps h hless (Nat.le_succ_of_le h.tool_calls)).mono (Nat.le_add_left 4 n)
        | raised e => exact Steps.done
        | candidate candidate =>
          have hsave := save_day4_state_steps (h.generated hless candidate)
            (interrupt_day4_steps request (generated state candidate) "checkpoint_candidate" (hk hless candidate))
          exact hsave.mono (by omega)

/-- How often the plan loop may still turn. -/
def plan_turns (policy : RetailLoopPolicy) (state : RetailGraphState) (pending : List (Name 1 127)) : ℕ :=
  pending.length + (policy.max_repairs - state.repair_count)

theorem plan_turns_repairing (hless : state.repair_count < policy.max_repairs) (latest_error : ProductDbError)
    (pending : List (Name 1 127)) :
    plan_turns policy (repairing state latest_error) pending + 1 = plan_turns policy state pending := by
  unfold plan_turns repairing
  dsimp only
  omega

theorem plan_turns_answered (policy : RetailLoopPolicy) (state : RetailGraphState) (step_id : Name 1 127)
    (pending : List (Name 1 127)) (evidence : List EvidenceResult) :
    plan_turns policy (answered_step state pending evidence) pending + 1 =
      plan_turns policy state (step_id :: pending) := by
  unfold plan_turns answered_step
  dsimp only
  rw [List.length_cons]
  omega

/-- The operations of a plan loop with some turns left. -/
def plan_steps (policy : RetailLoopPolicy) (turns : ℕ) : ℕ := 10 * turns + 6 * policy.max_model_calls + 11

theorem plan_loop_steps (plan : InvestigationPlan) {state : RetailGraphState} {evidence : List EvidenceResult}
    {pending : List (Name 1 127)} (h : Funded graph.policy state)
    (hplan : HalfDone state.plan_step_ids pending evidence) :
    (graph.plan_loop request plan state evidence pending).Steps (SavesFunded graph.policy)
      (plan_steps graph.policy (plan_turns graph.policy state pending)) := by
  induction hturns : plan_turns graph.policy state pending generalizing state evidence pending with
  | zero =>
    cases pending with
    | nil =>
      unfold plan_loop
      exact (prepare_reconciliation_steps h evidence).mono (by unfold plan_steps; omega)
    | cons step_id pending =>
      unfold plan_turns at hturns
      rw [List.length_cons] at hturns
      omega
  | succ turns ih =>
    unfold plan_loop
    cases pending with
    | nil => exact (prepare_reconciliation_steps h evidence).mono (by unfold plan_steps; omega)
    | cons step_id pending =>
      dsimp only
      split
      · exact Steps.done
      · rename_i step hfind
        have hid : step.step_id = step_id := by simpa using List.find?_some hfind
        subst hid
        have hagain {state : RetailGraphState} (h : Funded graph.policy state)
            (hcredit : state.tool_call_count < state.model_call_count)
            (hplan : HalfDone state.plan_step_ids (step.step_id :: pending) evidence)
            (hturns : plan_turns graph.policy state (step.step_id :: pending) = turns + 1)
            (hless : state.repair_count < graph.policy.max_repairs) (latest_error : ProductDbError) :
            (graph.plan_loop request plan (repairing state latest_error) evidence (step.step_id :: pending)).Steps
              (SavesFunded graph.policy) (plan_steps graph.policy turns) := by
          have hrepaired := plan_turns_repairing hless latest_error (step.step_id :: pending)
          exact ih (h.repairing hcredit hless latest_error) hplan (by omega)
        have hnext {state : RetailGraphState} (h : Funded graph.policy state)
            (hcredit : state.tool_call_count < state.model_call_count)
            (hturns : plan_turns graph.policy state (step.step_id :: pending) = turns + 1)
            (evidence : List EvidenceResult) (hplan : HalfDone state.plan_step_ids pending evidence) :
            (graph.plan_loop request plan (answered_step state pending evidence) evidence pending).Steps
              (SavesFunded graph.policy) (plan_steps graph.policy turns) := by
          have hanswered := plan_turns_answered graph.policy state step.step_id pending evidence
          exact ih (h.answered_step hcredit hplan) hplan (by omega)
        split
        · rename_i candidate hstored
          have hcredit := h.credit (by rw [hstored, Option.isSome_some])
          refine (on_candidate_steps h hcredit hplan candidate (hagain h hcredit hplan hturns)
            (hnext h hcredit hturns)).mono ?_
          unfold plan_steps
          omega
        · refine (generate_candidate_steps h step fun hless candidate => on_candidate_steps (h.generated hless candidate)
            (Nat.lt_succ_of_le h.tool_calls) hplan candidate
            (hagain (h.generated hless candidate) (Nat.lt_succ_of_le h.tool_calls) hplan hturns)
            (hnext (h.generated hless candidate) (Nat.lt_succ_of_le h.tool_calls) hturns)).mono ?_
          unfold plan_steps
          omega

/-! ## A whole run -/

theorem HalfDone.few (h : Funded policy state) (hplan : state.plan_step_ids.length ≤ 12) :
    plan_turns policy state state.pending_plan_step_ids ≤ 15 := by
  have hlength := h.plan.suffix.length_le
  have hrepairs := policy.repair_bound
  unfold plan_turns
  omega

theorem plan_step_ids_length (state : RetailGraphState) : state.plan_step_ids.length ≤ 12 := by
  unfold RetailGraphState.plan_step_ids
  split
  · rename_i plan _
    rw [List.length_map]
    exact plan.size.2
  · exact Nat.zero_le _

theorem investigate_steps (h : Funded graph.policy state) :
    (graph.investigate request state).Steps (SavesFunded graph.policy) 197 := by
  unfold investigate
  split
  · exact (stop_run_steps h h.model_calls h.tool_calls).mono (by omega)
  · split
    · exact Steps.done
    · have hfew := HalfDone.few h (plan_step_ids_length state)
      have hcalls := graph.policy.model_bound.2
      refine (plan_loop_steps _ h h.plan).mono ?_
      unfold plan_steps
      omega

theorem decide_day4_steps : (graph.decide_day4 request).Steps (SavesFunded graph.policy) 200 := by
  unfold decide_day4 raise
  refine (call_day4_model_steps _ _ _).bind (n := 198) fun result => ?_
  have hcalls := graph.policy.model_bound.1
  have hinitial : Funded graph.policy (initial_state request) :=
    funded_of ⟨Nat.zero_le _, Nat.zero_le _, le_refl 0, ⟨[], rfl, rfl⟩⟩ nofun
  cases result with
  | error e => exact Steps.done
  | ok answer =>
    obtain ⟨output, hashes⟩ := answer
    dsimp only
    split
    · exact Steps.done
    · split
      · split
        · exact Steps.done
        · exact (cache_and_finish_steps hinitial hcalls (le_refl 1)).mono (by omega)
      · split
        · exact Steps.done
        · split
          · exact Steps.done
          · rename_i plan _
            exact save_day4_state_steps (Funded.planned graph.policy request plan hashes)
              (investigate_steps (Funded.planned graph.policy request plan hashes))

theorem resume_day4_steps (h : Funded graph.policy state) :
    (graph.resume_day4 request state).Steps (SavesFunded graph.policy) 200 := by
  unfold resume_day4 raise
  split
  · exact Steps.done
  · split
    · split
      · exact Steps.done
      · split
        · exact Steps.done
        · exact (finish_day4_steps _).mono (by omega)
    · exact (investigate_steps h).mono (by omega)

end RetailGraph

/-! ## Runs that crash and resume -/

theorem Funded.marked (h : Funded policy state) : Funded policy state.marked :=
  funded_of ⟨h.model_calls, h.repairs, h.tool_calls, h.plan⟩ nofun

/-- Every checkpoint of a log is within the budgets. -/
structure FundedLog (policy : RetailLoopPolicy) (log : RetailLog) : Prop where
  saved : ∀ e ∈ log, SavesFunded policy e.op
  last : ∀ state, checkpoint log = some state → Funded policy state

theorem FundedLog.nil (policy : RetailLoopPolicy) : FundedLog policy [] :=
  ⟨fun _ he => absurd he List.not_mem_nil, fun _ h => nomatch h⟩

theorem FundedLog.append {log tail : RetailLog} (h : FundedLog policy log) (htail : ∀ e ∈ tail, SavesFunded policy e.op) :
    FundedLog policy (log ++ tail) := by
  induction tail using List.reverseRecOn with
  | nil => rwa [List.append_nil]
  | append_singleton tail e ih =>
    have hbefore := ih fun e he => htail e (List.mem_append_left _ he)
    have hop := htail e (List.mem_append_right _ List.mem_cons_self)
    rw [← List.append_assoc]
    refine ⟨fun e he => ?_, fun state hstate => ?_⟩
    · rcases List.mem_append.mp he with he | he
      · exact hbefore.saved e he
      · rwa [List.mem_singleton.mp he]
    · rw [checkpoint_append] at hstate
      unfold stored at hstate
      split at hstate
      · rename_i saved heq
        rw [heq] at hop
        rwa [← Option.some.inj hstate]
      · obtain ⟨before, hsome, rfl⟩ := Option.map_eq_some_iff.mp hstate
        exact (hbefore.last before hsome).marked
      · exact hbefore.last state hstate

namespace RetailGraph

variable {graph : RetailGraph} {env : Env RetailOp RetailAns} {log : RetailLog}

/-- A run after its load. -/
def loaded (graph : RetailGraph) (request : RetailRunRequest) : Option RetailGraphState → RetailCall RetailRunOutcome
  | none => graph.decide_day4 request
  | some state => graph.resume_day4 request state

theorem loaded_steps (request : RetailRunRequest) (henv : Obeys Checkpointed env) (h : FundedLog graph.policy log) :
    (graph.loaded request (env log .load)).Steps (SavesFunded graph.policy) 200 := by
  have hload : env log .load = checkpoint log := henv log .load
  rw [hload]
  cases hcheckpoint : checkpoint log with
  | none => exact decide_day4_steps
  | some state => exact resume_day4_steps (h.last state hcheckpoint)

theorem run_day4_cut_succ (request : RetailRunRequest) (i : ℕ) :
    (graph.run_day4 request).cut env (i + 1) log =
      (graph.loaded request (env log .load)).cut env i (log ++ [⟨.load, env log .load⟩]) := by
  unfold run_day4 loaded
  rw [Flow.cut]
  rfl

theorem run_day4_play (request : RetailRunRequest) :
    (graph.run_day4 request).play env log =
      (graph.loaded request (env log .load)).play env (log ++ [⟨.load, env log .load⟩]) := by
  unfold run_day4 loaded
  rw [Flow.play]
  rfl

theorem run_day4_cut (request : RetailRunRequest) (henv : Obeys Checkpointed env) (h : FundedLog graph.policy log) (i : ℕ) :
    ∃ tail : RetailLog, ((graph.run_day4 request).cut env i log).2 = log ++ tail ∧ tail.length ≤ 201 ∧
      ∀ e ∈ tail, SavesFunded graph.policy e.op := by
  cases i with
  | zero => exact ⟨[], (List.append_nil log).symm, Nat.zero_le _, fun _ he => absurd he List.not_mem_nil⟩
  | succ i =>
    obtain ⟨tail, htail, hlength, hops⟩ :=
      (loaded_steps request henv h).cut env i (log ++ [⟨.load, env log .load⟩])
    refine ⟨⟨.load, env log .load⟩ :: tail, ?_, Nat.succ_le_succ hlength, List.forall_mem_cons.mpr ⟨trivial, hops⟩⟩
    rw [run_day4_cut_succ, htail, List.append_assoc]
    rfl

theorem cuts_funded (request : RetailRunRequest) (henv : Obeys Checkpointed env) (crashes : List ℕ) {log : RetailLog}
    (h : FundedLog graph.policy log) : FundedLog graph.policy ((graph.run_day4 request).cuts env crashes log) := by
  induction crashes generalizing log with
  | nil => exact h
  | cons n crashes ih =>
    obtain ⟨tail, htail, -, hops⟩ := run_day4_cut request henv h n
    unfold Flow.cuts
    rw [htail]
    exact ih (h.append hops)

end RetailGraph

/-- Over any schedule of crashes every checkpoint is within the budgets, and each run ends. -/
theorem runs_within_budget (graph : RetailGraph) (request : RetailRunRequest) (env : Env RetailOp RetailAns)
    (henv : Obeys Checkpointed env) (crashes : List ℕ) :
    (∀ state, ⟨.save state, ()⟩ ∈ graph.runs request env crashes →
      WithinBudget graph.policy state ∧ state.pending_plan_step_ids <:+ state.plan_step_ids) ∧
      ∃ tail : RetailLog, ((graph.run_day4 request).play env (graph.runs request env crashes)).2 =
        graph.runs request env crashes ++ tail ∧ tail.length ≤ 201 := by
  have hlog : FundedLog graph.policy (graph.runs request env crashes) :=
    RetailGraph.cuts_funded request henv crashes (FundedLog.nil graph.policy)
  refine ⟨fun state hsave => ?_, ?_⟩
  · have hfunded : Funded graph.policy state := hlog.saved _ hsave
    exact ⟨hfunded.toWithinBudget, hfunded.plan.suffix⟩
  · have hsteps := RetailGraph.loaded_steps request henv hlog
    obtain ⟨tail, htail, hlength, -⟩ := RetailGraph.run_day4_cut request henv hlog 201
    refine ⟨tail, ?_, hlength⟩
    rw [RetailGraph.run_day4_cut_succ, hsteps.cut_eq_play env] at htail
    rw [RetailGraph.run_day4_play]
    exact htail

/-! ## Samples -/

theorem retail_mode : (Track.retail, Mode.retail) ∈ [(.retail, .retail), (.bird, .a), (.bird, .c)] := by decide

def sampleRetailRequest : RetailRunRequest where
  run_scope := ⟨2, .retail, .retail, ⟨"conversation-1", by decide⟩, ⟨"experiment-2", by decide⟩, HexDigest.ofNat 0, retail_mode⟩
  attempt_id := 3
  current_input := ⟨.user_input, .user_input, ⟨"turn-1", by decide⟩, none, ⟨"gmv by month", by decide⟩, HexDigest.ofNat 0⟩
  confirmed_facts := []
  evidence := []
  latest_error := none
  retail := rfl

/-- A graph whose model answers are never valid. -/
def sampleRetailGraph : RetailGraph where
  library := sampleLibrary
  policy := ⟨2, 1, by decide, by decide⟩
  tool_names _ := none
  dispatcher := none
  sql_reasoner := false
  query_engine := false
  clarification_request _ := none
  investigation_plan _ := none
  investigation_report _ := none
  propose_arguments _ := .error ValidationError

/-! ## An investigation that is repaired, and crashes -/

def monthsStep : QueryPlanStep := ⟨⟨"gmv_by_month", by decide⟩, .baseline, []⟩

def sellersStep : QueryPlanStep := ⟨⟨"gmv_by_seller", by decide⟩, .drilldown, []⟩

def gmvPlan : InvestigationPlan where
  steps := [monthsStep, sellersStep]
  reconciliation_rule_refs := []
  size := by decide
  baseline := by decide
  drilldown := by decide
  unique := by decide
  declared := by decide

def gmvReport : InvestigationReport where
  conversation_id := ⟨"conversation-1", by decide⟩
  report_id := 9
  claims := [⟨⟨"gmv_claim", by decide⟩, ⟨"gmv rose", by decide⟩, ["query:gmv_by_month"], by decide⟩]
  available_evidence := [⟨⟨"query:gmv_by_month", by decide⟩, .query, ⟨"gmv of each month", by decide⟩, zero_hash⟩]
  limitations := []
  reconciliation_refs := ["query:gmv_by_month"]
  proposal_refs := []
  selected_risk_status := none
  sensitivity_comparison := none
  valid := by decide

def investigatedRequest : RetailRunRequest :=
  { sampleRetailRequest with evidence := [sampleRetailRequest.current_input] }

/-- A graph whose model plans, and then reports. -/
def investigatingGraph : RetailGraph :=
  { sampleRetailGraph with
    policy := ⟨6, 1, by decide, by decide⟩
    tool_names := fun _ => some ["submit_investigation_plan", "submit_investigation_report"]
    sql_reasoner := true
    query_engine := true
    investigation_plan := fun _ => some gmvPlan
    investigation_report := fun _ => some gmvReport }

def investigatingCall (request : ModelRequest) : ToolCall :=
  ⟨⟨"investigating-1", by decide⟩,
    if request.sequence = 0 then ⟨"submit_investigation_plan", by decide⟩
    else ⟨"submit_investigation_report", by decide⟩, ⟨"submitted", by decide⟩⟩

def investigatingResponse (request : ModelRequest) : ModelResponse where
  output := .tool_calls ⟨[investigatingCall request], ⟨Nat.le_refl 1, Nat.le_add_left 1 7⟩, List.nodup_singleton _⟩
  provider_turn_ref :=
    ⟨7, scope_digest sampleLibrary request.run_scope, request.attempt_id, request.sequence,
      [(investigatingCall request).call_id]⟩
  finish_reason := .tool_calls
  fits := ⟨rfl, rfl⟩

def gmvCandidate (request : SqlReasoningRequest) : SqlCandidate where
  sql := ⟨"SELECT 1 AS gmv", by decide⟩
  step_id := request.step_id
  repair_number := request.repair_number
  evidence_refs := []
  execution_fingerprint := zero_hash
  repair_bound := request.repair_bound

/-- A world in which the first query fails, and everything else succeeds. -/
def investigating : Env RetailOp RetailAns
  | log, .load => checkpoint log
  | _, .save _ => ()
  | _, .mark_complete => ()
  | _, .interrupts _ => false
  | _, .build context => .ok { zero_hashes investigatedRequest with config_hash := context.run_scope.config_hash }
  | _, .complete request => .ok (investigatingResponse request)
  | _, .generate request => .candidate (gmvCandidate request)
  | log, .execute_query _ =>
    if log.any fun e => match e.op with
      | .execute_query _ => true
      | _ => false
    then .ok ⟨["gmv"], [[("gmv", .int 1)]]⟩ else .error (.engine "syntax_error")
  | _, .propose _ => .error ValidationError
  | _, .delete_attempt _ => .ok ()

theorem investigating_obeys : Obeys Checkpointed investigating := by
  intro log op
  cases op with
  | load => rfl
  | _ => trivial

/-- The first run crashes behind the query that fails, the second before the report, and the third ends. -/
def investigatedRuns : RetailLog := investigatingGraph.runs investigatedRequest investigating [9, 14, 7]

/-- Whether a checkpoint was saved that a test holds of. -/
def saved (log : RetailLog) (p : RetailGraphState → Bool) : Bool :=
  log.any fun e => match e.op with
    | .save state => p state
    | _ => false

theorem runs_within_budget_repaired :
    saved investigatedRuns (fun state =>
      state.repair_count = 1 && state.query_evidence.length = 2 && state.terminal_json.isSome) ∧
    (∀ state, ⟨.save state, ()⟩ ∈ investigatedRuns →
      WithinBudget investigatingGraph.policy state ∧ state.pending_plan_step_ids <:+ state.plan_step_ids) ∧
    ∃ tail : RetailLog, ((investigatingGraph.run_day4 investigatedRequest).play investigating investigatedRuns).2 =
      investigatedRuns ++ tail ∧ tail.length ≤ 201 :=
  ⟨by decide +kernel,
    runs_within_budget investigatingGraph investigatedRequest investigating investigating_obeys [9, 14, 7]⟩

end CommerceAgent.Orchestration
