import CommerceAgent.Orchestration.BirdAGraph
import Mathlib.Data.List.Chain
import Mathlib.Data.List.Induction

/-!
# What a BirdA attempt does

Whatever the context builder, the gate, the gateway, the tools and the store answer, an
attempt keeps its budgets, hands on its whole history and ends with its cleanup.
-/

open CommerceAgent.Lib
open CommerceAgent.Lib.Flow (onOk Meets Ends)
open CommerceAgent.Operations (UUID Text Code HexDigest)

namespace CommerceAgent.Orchestration.BirdAGraph

abbrev BirdALog := Log BirdAOp BirdAAns

/-! ## What a log shows -/

def modelCalls (log : BirdALog) : ℕ := log.countP fun e => e.op matches .complete _
def toolCalls (log : BirdALog) : ℕ := log.countP fun e => e.op matches .execute _
def turns (log : BirdALog) : ℕ := log.countP fun e => e.op matches .build _
def deletions (log : BirdALog) : ℕ := log.countP fun e => e.op matches .delete_attempt _

/-- The call and the result of a tool execution that returned. -/
def exchanged : Event BirdAOp BirdAAns → Option (ToolCall × ToolResult)
  | ⟨.execute call, .ok result⟩ => some (call, result)
  | _ => none

def exchanges (log : BirdALog) : List (ToolCall × ToolResult) := log.filterMap exchanged

variable (library : Library) (request : BirdARunRequest)

def ToolExchangeGroup.evidence (group : ToolExchangeGroup) : HexDigest :=
  evidence_digest library group.tool_calls group.tool_results

/-- The history of `n` turns, which holds the exchanges of `before`. -/
structure TurnHistory (n : ℕ) (before : BirdALog) (history : List ToolExchangeGroup) : Prop where
  sequences : history.map (fun g => g.provider_turn_ref.sequence) = List.range n
  attempt : ∀ g ∈ history, g.provider_turn_ref.scope_digest = scope_digest library request.run_scope ∧
    g.provider_turn_ref.attempt_id = request.attempt_id
  exchanges : history.flatMap (fun g => g.tool_calls.zip g.tool_results) = exchanges before
  progress : history.IsChain fun g g' => ToolExchangeGroup.evidence library g ≠ ToolExchangeGroup.evidence library g'

/-- Every turn was built in order and with the history so far. -/
def BuildsTurns (log : BirdALog) : Prop :=
  ∀ before context answer after, log = before ++ ⟨.build context, answer⟩ :: after →
    context.sequence = turns before ∧ TurnHistory library request (turns before) before context.history

/-- An attempt before its cleanup. -/
structure Attempted (result : Except Raised BirdARunOutcome) (log : BirdALog) : Prop where
  model_calls : modelCalls log ≤ request.max_model_calls
  tool_calls : toolCalls log ≤ request.max_tool_calls
  counts : ∀ outcome, result = .ok outcome → outcome.model_calls = modelCalls log ∧ outcome.tool_calls = toolCalls log
  turns : BuildsTurns library request log
  kept : deletions log = 0

variable {library request} {log tail : BirdALog}

/-! ## One more event -/

theorem modelCalls_append (log tail : BirdALog) : modelCalls (log ++ tail) = modelCalls log + modelCalls tail :=
  List.countP_append
theorem toolCalls_append (log tail : BirdALog) : toolCalls (log ++ tail) = toolCalls log + toolCalls tail :=
  List.countP_append
theorem turns_append (log tail : BirdALog) : turns (log ++ tail) = turns log + turns tail := List.countP_append
theorem deletions_append (log tail : BirdALog) : deletions (log ++ tail) = deletions log + deletions tail :=
  List.countP_append
theorem exchanges_append (log tail : BirdALog) : exchanges (log ++ tail) = exchanges log ++ exchanges tail :=
  List.filterMap_append

theorem buildsTurns_nil : BuildsTurns library request [] := by
  intro before context answer after h
  simp at h

theorem buildsTurns_append {e : Event BirdAOp BirdAAns} (h : BuildsTurns library request log)
    (he : ∀ context, e.op = .build context →
      context.sequence = turns log ∧ TurnHistory library request (turns log) log context.history) :
    BuildsTurns library request (log ++ [e]) := by
  intro before context answer after heq
  rcases List.append_eq_append_iff.mp heq with ⟨rest, rfl, hrest⟩ | ⟨rest, hlog, hrest⟩
  · cases rest with
    | nil =>
      simp only [List.nil_append, List.cons.injEq] at hrest
      rw [List.append_nil]
      exact he context (by rw [hrest.1])
    | cons x rest => simp at hrest
  · cases rest with
    | nil =>
      simp only [List.nil_append, List.cons.injEq] at hrest
      rw [List.append_nil] at hlog
      rw [← hlog]
      exact he context (by rw [← hrest.1])
    | cons x rest =>
      simp only [List.cons_append, List.cons.injEq] at hrest
      exact h before context answer rest (by rw [hlog, hrest.1])

/-- Events that are all tool executions. -/
def Executions (tail : BirdALog) : Prop := ∀ e ∈ tail, ∃ call, e.op = .execute call

theorem Executions.counts (h : Executions tail) :
    modelCalls tail = 0 ∧ toolCalls tail = tail.length ∧ turns tail = 0 ∧ deletions tail = 0 := by
  refine ⟨?_, ?_, ?_, ?_⟩
  · refine List.countP_eq_zero.mpr fun e he => ?_
    obtain ⟨call, hop⟩ := h e he
    simp [hop]
  · refine List.countP_eq_length.mpr fun e he => ?_
    obtain ⟨call, hop⟩ := h e he
    simp [hop]
  · refine List.countP_eq_zero.mpr fun e he => ?_
    obtain ⟨call, hop⟩ := h e he
    simp [hop]
  · refine List.countP_eq_zero.mpr fun e he => ?_
    obtain ⟨call, hop⟩ := h e he
    simp [hop]

theorem BuildsTurns.executions (h : BuildsTurns library request log) (ht : Executions tail) :
    BuildsTurns library request (log ++ tail) := by
  induction tail using List.reverseRecOn with
  | nil => rwa [List.append_nil]
  | append_singleton tail e ih =>
    rw [← List.append_assoc]
    refine buildsTurns_append (ih fun e he => ht e (List.mem_append_left _ he)) fun context hop => ?_
    obtain ⟨call, hcall⟩ := ht e (List.mem_append_right _ List.mem_cons_self)
    rw [hcall] at hop
    cases hop

/-! ## One tool batch -/

/-- The environment of the loop answers as it likes. -/
abbrev anything : BirdALog → Event BirdAOp BirdAAns → Prop := fun _ _ => True

theorem execute_all_meets {α : Type} {post : Except Raised α → BirdALog → Prop} (calls : List ToolCall)
    {k : List ToolResult → BirdACall α}
    (herror : ∀ tail e, Executions tail → tail.length ≤ calls.length → post (.error e) (log ++ tail))
    (hk : ∀ results tail, Executions tail → tail.length = calls.length → results.length = calls.length →
      exchanges tail = calls.zip results → (k results).Meets anything (Ends post) (log ++ tail)) :
    (execute_all calls k).Meets anything (Ends post) log := by
  induction calls generalizing k log with
  | nil =>
    have h := hk [] [] (by simp [Executions]) rfl rfl rfl
    rwa [List.append_nil] at h
  | cons call calls ih =>
    unfold execute_all
    refine Meets.ask fun answer _ => ?_
    have hone : Executions [⟨.execute call, answer⟩] := by simp [Executions]
    cases answer with
    | error e =>
      exact Meets.done (herror _ e hone (by simp))
    | ok result =>
      refine ih (fun tail e ht hlen => ?_) (fun results tail ht hlen hresults hexchanges => ?_)
      · rw [List.append_assoc]
        refine herror _ e ?_ (by simpa using hlen)
        exact fun e he => (List.mem_append.mp he).elim (hone e) (ht e)
      · rw [List.append_assoc]
        refine hk (result :: results) _ ?_ (by simp [hlen]) (by simp [hresults]) ?_
        · exact fun e he => (List.mem_append.mp he).elim (hone e) (ht e)
        · rw [exchanges_append, hexchanges]
          rfl

/-! ## One turn -/

variable (library request) in
/-- The loop in a turn, with what the turn has added to the log: a build or not, a completion or not. -/
structure InTurn (model_calls built answered : ℕ) (progress : Progress) (log : BirdALog) : Prop where
  turn : turns log = model_calls + built
  completions : modelCalls log = model_calls + answered
  executions : toolCalls log = progress.tool_calls
  tool_bound : progress.tool_calls ≤ request.max_tool_calls
  history : TurnHistory library request model_calls log progress.history
  last : progress.last_evidence_digest = progress.history.getLast?.map (ToolExchangeGroup.evidence library)
  builds : BuildsTurns library request log
  kept : deletions log = 0

variable {model_calls built answered : ℕ} {progress : Progress}

theorem InTurn.raised (h : InTurn library request model_calls built answered progress log)
    (hbound : model_calls + answered ≤ request.max_model_calls) (e : Raised) :
    Attempted library request (.error e) log := by
  refine ⟨?_, ?_, fun outcome ho => ?_, h.builds, h.kept⟩
  · rw [h.completions]
    exact hbound
  · rw [h.executions]
    exact h.tool_bound
  · cases ho

theorem InTurn.returned (h : InTurn library request model_calls built answered progress log)
    (hbound : model_calls + answered ≤ request.max_model_calls) {outcome : BirdARunOutcome}
    (hmodel : outcome.model_calls = model_calls + answered) (htool : outcome.tool_calls = progress.tool_calls) :
    Attempted library request (.ok outcome) log := by
  obtain ⟨hm, ht, -, hb, hk⟩ := h.raised hbound ValidationError
  refine ⟨hm, ht, fun o ho => ?_, hb, hk⟩
  obtain rfl := Except.ok.inj ho
  rw [h.completions, h.executions]
  exact ⟨hmodel, htool⟩

theorem InTurn.next (h : InTurn library request model_calls built answered progress log) {e : Event BirdAOp BirdAAns}
    {b a : ℕ} (hbuilt : turns [e] = b) (hanswered : modelCalls [e] = a) (htool : toolCalls [e] = 0)
    (hexchange : exchanges [e] = []) (hkept : deletions [e] = 0)
    (hbuilds : BuildsTurns library request (log ++ [e])) :
    InTurn library request model_calls (built + b) (answered + a) progress (log ++ [e]) := by
  obtain ⟨hturns, hmodel, htools, hbound, ⟨hs, ha, hx, hp⟩, hlast, -, hk⟩ := h
  refine ⟨?_, ?_, ?_, hbound, ⟨hs, ha, ?_, hp⟩, hlast, hbuilds, ?_⟩
  · rw [turns_append, hturns, hbuilt, Nat.add_assoc]
  · rw [modelCalls_append, hmodel, hanswered, Nat.add_assoc]
  · rw [toolCalls_append, htools, htool, Nat.add_zero]
  · rw [exchanges_append, hexchange, List.append_nil, hx]
  · rw [deletions_append, hk, hkept]

theorem InTurn.asked_gate (h : InTurn library request model_calls built answered progress log)
    (answer : Except Raised (Option StopOutcome)) :
    InTurn library request model_calls built answered progress (log ++ [⟨.stop_model_turn, answer⟩]) := by
  have hbuilds : BuildsTurns library request (log ++ [⟨.stop_model_turn, answer⟩]) := by
    refine buildsTurns_append h.builds fun context hop => ?_
    cases hop
  exact h.next (b := 0) (a := 0) rfl rfl rfl rfl rfl hbuilds

theorem InTurn.asked_completion (h : InTurn library request model_calls built answered progress log)
    (model_request : ModelRequest) (answer : Except Raised ModelResponse) :
    InTurn library request model_calls built (answered + 1) progress (log ++ [⟨.complete model_request, answer⟩]) := by
  have hbuilds : BuildsTurns library request (log ++ [⟨.complete model_request, answer⟩]) := by
    refine buildsTurns_append h.builds fun context hop => ?_
    cases hop
  exact h.next (b := 0) (a := 1) rfl rfl rfl rfl rfl hbuilds

theorem InTurn.asked_build (h : InTurn library request model_calls 0 answered progress log)
    (answer : Except Raised PromptHashes) :
    InTurn library request model_calls 1 answered progress
      (log ++ [⟨.build (context request progress.history model_calls), answer⟩]) := by
  have hbuilds : BuildsTurns library request
      (log ++ [⟨.build (context request progress.history model_calls), answer⟩]) := by
    refine buildsTurns_append h.builds fun context hop => ?_
    obtain rfl := BirdAOp.build.inj hop
    exact ⟨h.turn.symm, h.turn ▸ h.history⟩
  exact h.next (b := 1) (a := 0) rfl rfl rfl rfl rfl hbuilds

theorem InTurn.close (h : InTurn library request model_calls 1 1 progress log) {tail : BirdALog}
    (hexecutions : Executions tail) (group : ToolExchangeGroup) (hlength : tail.length = group.tool_results.length)
    (hexchanges : exchanges tail = group.tool_calls.zip group.tool_results)
    (hbound : progress.tool_calls + tail.length ≤ request.max_tool_calls)
    (hsequence : group.provider_turn_ref.sequence = model_calls)
    (hattempt : group.provider_turn_ref.scope_digest = scope_digest library request.run_scope ∧
      group.provider_turn_ref.attempt_id = request.attempt_id)
    (hprogress : some (ToolExchangeGroup.evidence library group) ≠ progress.last_evidence_digest)
    (bundle : Option PromptBundle) :
    InTurn library request (model_calls + 1) 0 0
      ⟨progress.history ++ [group], progress.tool_calls + group.tool_results.length,
        some (ToolExchangeGroup.evidence library group), bundle⟩ (log ++ tail) := by
  obtain ⟨hm, ht, hb, hd⟩ := hexecutions.counts
  obtain ⟨hs, ha, hx, hp⟩ := h.history
  refine ⟨?_, ?_, ?_, ?_, ⟨?_, ?_, ?_, ?_⟩, ?_, h.builds.executions hexecutions, ?_⟩
  · rw [turns_append, h.turn, hb]
  · rw [modelCalls_append, h.completions, hm]
  · rw [toolCalls_append, h.executions, ht, hlength]
  · rw [← hlength]
    exact hbound
  · rw [List.map_append, hs, List.range_succ, List.map_singleton, hsequence]
  · intro g hg
    rcases List.mem_append.mp hg with hg | hg
    · exact ha g hg
    · rw [List.mem_singleton.mp hg]
      exact hattempt
  · rw [List.flatMap_append, hx, List.flatMap_singleton, exchanges_append, hexchanges]
  · refine List.isChain_append.mpr ⟨hp, List.isChain_singleton _, fun g hg g' hg' heq => hprogress ?_⟩
    rw [List.head?_singleton, Option.mem_def, Option.some.injEq] at hg'
    rw [h.last, Option.mem_def.mp hg, Option.map_some, hg', heq]
  · rw [List.getLast?_concat, Option.map_some]
  · rw [deletions_append, h.kept, hd]

/-! ## The stages of a turn -/

/-- A turn goes on with the next one. -/
abbrev Continues (library : Library) (request : BirdARunRequest) (model_calls : ℕ)
    (next : Progress → BirdACall BirdARunOutcome) : Prop :=
  ∀ progress log, InTurn library request (model_calls + 1) 0 0 progress log →
    (next progress).Meets anything (Ends (Attempted library request)) log

variable {bundle : PromptBundle} {next : Progress → BirdACall BirdARunOutcome}

theorem on_tool_calls_meets (h : InTurn library request model_calls 1 1 progress log)
    (hbound : model_calls + 1 ≤ request.max_model_calls) {ref : ProviderTurnRef} (hsequence : ref.sequence = model_calls)
    (hattempt : ref.scope_digest = scope_digest library request.run_scope ∧ ref.attempt_id = request.attempt_id)
    (output : ToolCallOutput) (hnext : Continues library request model_calls next) :
    (on_tool_calls library request progress bundle (model_calls + 1) ref output next).Meets anything
      (Ends (Attempted library request)) log := by
  unfold on_tool_calls
  split
  · exact Meets.done (h.returned hbound rfl rfl)
  rename_i hroom
  have hraised (tail : BirdALog) (e : Raised) (hexecutions : Executions tail)
      (hlength : tail.length ≤ output.tool_calls.length) : Attempted library request (.error e) (log ++ tail) := by
    obtain ⟨hm, ht, -, hd⟩ := hexecutions.counts
    refine ⟨?_, ?_, fun outcome ho => ?_, h.builds.executions hexecutions, ?_⟩
    · rw [modelCalls_append, h.completions, hm]
      exact hbound
    · rw [toolCalls_append, h.executions, ht]
      omega
    · cases ho
    · rw [deletions_append, h.kept, hd]
  refine execute_all_meets output.tool_calls hraised fun results tail hexecutions hlength hresults hexchanges => ?_
  split
  · obtain ⟨hm, ht, -, hb, hd⟩ := hraised tail ValidationError hexecutions hlength.le
    refine Meets.done ⟨hm, ht, fun outcome ho => ?_, hb, hd⟩
    obtain ⟨hmodel, htool, -, -⟩ := hexecutions.counts
    rw [← Except.ok.inj ho, modelCalls_append, toolCalls_append, h.completions, h.executions, hmodel, htool, hlength,
      ← hresults]
    exact ⟨rfl, rfl⟩
  rename_i hprogress
  unfold tool_exchange
  split
  · rename_i hids
    exact hnext _ _ (h.close hexecutions
      ⟨ref, output.tool_calls, results, output.size, hids.1, hids.2.1, hids.2.2⟩ (hlength.trans hresults.symm) hexchanges (by omega) hsequence hattempt hprogress (some bundle))
  · exact Meets.done (hraised tail _ hexecutions hlength.le)

theorem on_final_meets (h : InTurn library request model_calls 1 1 progress log)
    (hbound : model_calls + 1 ≤ request.max_model_calls) (output : FinalOutput) (finish_reason : FinishReason) :
    (on_final request bundle (model_calls + 1) progress.tool_calls output finish_reason).Meets anything
      (Ends (Attempted library request)) log := by
  cases finish_reason with
  | tool_calls => exact Meets.done (h.raised hbound _)
  | _ => exact Meets.done (h.returned hbound rfl rfl)

theorem model_turn_meets (h : InTurn library request model_calls 1 0 progress log)
    (hbound : model_calls + 1 ≤ request.max_model_calls) (hscope : bundle.model_request.run_scope = request.run_scope)
    (hattempt : bundle.model_request.attempt_id = request.attempt_id)
    (hsequence : bundle.model_request.sequence = model_calls) (hnext : Continues library request model_calls next) :
    (model_turn library request progress bundle model_calls next).Meets anything (Ends (Attempted library request))
      log := by
  unfold model_turn
  refine Meets.ask fun answer _ => ?_
  have hanswered := h.asked_completion bundle.model_request answer
  split
  · -- a failed call is counted
    exact Meets.done (hanswered.returned hbound rfl rfl)
  · exact Meets.done (hanswered.raised hbound _)
  · rename_i response
    split
    · exact Meets.done (hanswered.raised hbound _)
    rename_i hbinding
    have hbinding := not_not.mp hbinding
    unfold response_bound at hbinding
    simp only [hscope, hattempt, hsequence, Bool.and_eq_true, decide_eq_true_eq] at hbinding
    obtain ⟨⟨hdigest, hid⟩, hseq⟩ := hbinding
    split
    · exact on_tool_calls_meets hanswered hbound hseq ⟨hdigest, hid⟩ _ hnext
    · exact on_final_meets hanswered hbound _ _

theorem gate_meets (gated : Bool) (h : InTurn library request model_calls 1 0 progress log)
    (hbound : model_calls ≤ request.max_model_calls) {go : BirdACall BirdARunOutcome}
    (hgo : ∀ log, InTurn library request model_calls 1 0 progress log →
      go.Meets anything (Ends (Attempted library request)) log) :
    (gate gated request progress bundle model_calls go).Meets anything (Ends (Attempted library request)) log := by
  unfold gate
  split
  · refine Meets.ask fun answer _ => ?_
    have hasked := h.asked_gate answer
    rcases answer with e | _ | stop
    · exact Meets.done (hasked.raised hbound _)
    · exact hgo _ hasked
    · exact Meets.done (hasked.returned hbound rfl rfl)
  · exact hgo log h

theorem loop_meets (gated : Bool) (model_calls : ℕ) (progress : Progress) (log : BirdALog)
    (h : InTurn library request model_calls 0 0 progress log) (hbound : model_calls ≤ request.max_model_calls) :
    (loop library gated request model_calls progress).Meets anything (Ends (Attempted library request)) log := by
  unfold loop
  split
  · split
    · exact Meets.done (h.raised hbound _)
    · exact Meets.done (h.returned hbound rfl rfl)
  rename_i hless
  refine Meets.ask fun answer _ => ?_
  have hbuilt := h.asked_build answer
  cases answer with
  | error e => exact Meets.done (hbuilt.raised hbound _)
  | ok hashes =>
    refine gate_meets gated hbuilt hbound fun log hlog => ?_
    refine model_turn_meets hlog (by omega) rfl rfl rfl fun progress' log' hlog' => ?_
    exact loop_meets gated (model_calls + 1) progress' log' hlog' (by omega)
termination_by request.max_model_calls - model_calls

/-! ## Every run -/

/-- A whole run: the attempt, and the deletion of its private turns, which is asked for once, at the
end, and for this attempt. -/
def RanAttempt (library : Library) (request : BirdARunRequest) (result : Except Raised BirdARunOutcome)
    (log : BirdALog) : Prop :=
  ∃ attempt outcome answer, Attempted library request outcome attempt ∧
    log = attempt ++ [⟨.delete_attempt ⟨scope_digest library request.run_scope, request.attempt_id⟩, answer⟩] ∧
    result = match answer with
      | .ok () => outcome
      | .error _ => .error (ToolInfrastructureError "private_turn_cleanup_failed")

/-- **Every behaviour.** Whatever the environment answers, a run ends, and keeps its laws. -/
theorem run_attempts (library : Library) (gated : Bool) (request : BirdARunRequest) (env : Env BirdAOp BirdAAns) :
    RanAttempt library request ((run library gated request).play env []).1 ((run library gated request).play env []).2 := by
  have hstart : InTurn library request 0 0 0 ⟨[], 0, none, none⟩ [] :=
    ⟨rfl, rfl, rfl, Nat.zero_le _, ⟨rfl, by simp, rfl, List.isChain_nil⟩, rfl, buildsTurns_nil, rfl⟩
  have hrun : (run library gated request).Meets anything (Ends (RanAttempt library request)) [] := by
    unfold run run_attempt
    refine Meets.seq ((loop_meets gated 0 _ [] hstart (Nat.zero_le _)).mono fun a log ha => ?_)
    intro outcome hsome
    have hattempted := ha outcome hsome
    refine Meets.ask fun answer _ => ?_
    cases answer with
    | ok u => exact Meets.done ⟨log, outcome, .ok u, hattempted, rfl, rfl⟩
    | error e => exact Meets.done ⟨log, outcome, .error e, hattempted, rfl, rfl⟩
  exact hrun.result fun _ _ => trivial

end CommerceAgent.Orchestration.BirdAGraph
