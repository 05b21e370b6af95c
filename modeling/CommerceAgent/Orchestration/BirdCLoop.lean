import CommerceAgent.Orchestration.BirdCSession
import Mathlib.Data.List.Basic

/-!
# What a c-mode session does

Questions, submissions and model turns of every run of a session, whatever the model and
the tools answer.
-/

open CommerceAgent.Lib
open CommerceAgent.Lib.Flow (onOk Meets Ends)
open CommerceAgent.Operations (UUID Text Code Checked HexDigest)

namespace CommerceAgent.Orchestration

abbrev BirdCLog := Log BirdCOp BirdCAns

/-! ## What a log shows -/

/-- A question that the tool service answered. -/
def asked : Event BirdCOp BirdCAns → Bool
  | ⟨.execute call, .ok result⟩ => call.name.text = "ask_user" && result.status = .success
  | _ => false

/-- A submission that reached the tool service. -/
def submitted : Event BirdCOp BirdCAns → Bool
  | ⟨.execute call, _⟩ => call.name.text = "submit_sql"
  | _ => false

def turned : Event BirdCOp BirdCAns → Bool
  | ⟨.complete _, _⟩ => true
  | _ => false

def asks (log : BirdCLog) : ℕ := log.countP asked
def submits (log : BirdCLog) : ℕ := log.countP submitted
def modelTurns (log : BirdCLog) : ℕ := log.countP turned

/-- Every prompt has the task message in it. -/
def Prompted (task_message : String) (log : BirdCLog) : Prop :=
  ∀ request answer, ⟨.build request, answer⟩ ∈ log →
    ∃ before after, request.current_input.content.text = before ++ task_message ++ after

def turnsLeft (s : CSession) : ℕ := (MAX_MODEL_TURNS - s.model_turns).toNat

variable {log : BirdCLog}

theorem asks_append (log : BirdCLog) (e : Event BirdCOp BirdCAns) :
    asks (log ++ [e]) = asks log + if asked e = true then 1 else 0 := by
  unfold asks
  rw [List.countP_append, List.countP_singleton]

theorem submits_append (log : BirdCLog) (e : Event BirdCOp BirdCAns) :
    submits (log ++ [e]) = submits log + if submitted e = true then 1 else 0 := by
  unfold submits
  rw [List.countP_append, List.countP_singleton]

theorem modelTurns_append (log : BirdCLog) (e : Event BirdCOp BirdCAns) :
    modelTurns (log ++ [e]) = modelTurns log + if turned e = true then 1 else 0 := by
  unfold modelTurns
  rw [List.countP_append, List.countP_singleton]

theorem Prompted.append {task_message : String} (h : Prompted task_message log) {op : BirdCOp} {answer : BirdCAns op}
    (hbuild : ∀ request, op = .build request →
      ∃ before after, request.current_input.content.text = before ++ task_message ++ after) :
    Prompted task_message (log ++ [⟨op, answer⟩]) := by
  intro request answer' hmem
  rcases List.mem_append.mp hmem with hmem | hmem
  · exact h request answer' hmem
  · have heq := List.mem_singleton.mp hmem
    simp only [Event.mk.injEq] at heq
    exact hbuild request heq.1.symm

/-! ## The prompt -/

theorem intercalate_begins (sep part : String) (parts : List String) :
    ∃ rest, sep.intercalate (part :: parts) = part ++ rest := by
  cases parts with
  | nil => exact ⟨"", by rw [String.intercalate_singleton, String.append_empty]⟩
  | cons next parts =>
    refine ⟨sep ++ sep.intercalate (next :: parts), ?_⟩
    rw [String.intercalate_cons_of_ne_nil (List.cons_ne_nil next parts), String.append_assoc]

theorem phase_content_task (library : Library) (task_message : String) (dialogue : List String) (state : SessionState)
    (message : String) :
    ∃ before after, phase_content library task_message dialogue state message = before ++ task_message ++ after := by
  unfold phase_content
  simp only [List.cons_append, List.nil_append]
  obtain ⟨rest, hrest⟩ := intercalate_begins "\n\n" ("User Query (official first message):\n" ++ task_message) _
  exact ⟨_, rest, hrest⟩

theorem validated_text {ok : String → Bool} {text : String} {checked : Checked ok} (h : validated text = .ok checked) :
    checked.text = text := by
  unfold validated Checked.parse at h
  split at h
  · rename_i hparse
    split_ifs at hparse
    rw [← Except.ok.inj h, ← Option.some.inj hparse]
  · cases h

theorem phase_datum_text {library : Library} {source_ref content : String} {datum : ContextDatum}
    (h : phase_datum library source_ref content = .ok datum) : datum.content.text = content := by
  unfold phase_datum at h
  cases hsource : (validated source_ref : Except Raised (Text 1 512)) with
  | error e =>
    rw [hsource] at h
    cases h
  | ok source =>
    cases hcontent : (validated content : Except Raised (Text 1 262144)) with
    | error e =>
      rw [hsource, hcontent] at h
      cases h
    | ok checked =>
      rw [hsource, hcontent] at h
      rw [← Except.ok.inj h]
      exact validated_text hcontent

/-! ## A question -/

namespace BirdSessionStatePort

variable {library : Library} {call : ToolCall} {state : SessionState}

theorem gate_clarification_budget_none (h : gate_clarification_budget library call state = none) :
    ∀ max_turn ∈ clarification_budget state, state.ask_user_turns < max_turn := by
  intro max_turn hsome
  unfold gate_clarification_budget at h
  rw [Option.mem_def.mp hsome] at h
  dsimp only at h
  split_ifs at h with hless
  exact hless

theorem gate_clarification_budget_some (library : Library) (call : ToolCall) {max_turn : ℕ}
    (h : clarification_budget state = some max_turn)
    (hspent : max_turn ≤ state.ask_user_turns) : ∃ gated, gate_clarification_budget library call state = some gated := by
  unfold gate_clarification_budget
  rw [h]
  dsimp only
  rw [if_neg (not_lt.mpr hspent)]
  exact ⟨_, rfl⟩

theorem execute_refused {Op : Type} {Ans : Op → Type} (inner : ToolCall → Flow Op Ans (Except Raised ToolResult))
    (hname : call.name.text = "ask_user") {max_turn : ℕ} (h : clarification_budget state = some max_turn)
    (hspent : max_turn ≤ state.ask_user_turns) :
    ∃ result, execute library inner .c call state = .done (result, state) := by
  obtain ⟨gated, hgated⟩ := gate_clarification_budget_some library call h hspent
  unfold execute gate
  simp only [hname, ↓reduceIte, hgated]
  exact ⟨gated, rfl⟩

theorem after_tool_ask (library : Library) (state : SessionState) (hname : call.name.text = "ask_user")
    (result : ToolResult) :
    (after_tool library .c call result state).2.ask_user_turns =
        state.ask_user_turns + (if result.status = .success then 1 else 0) ∧
      (after_tool library .c call result state).2.max_turn = state.max_turn := by
  unfold after_tool
  by_cases hstatus : result.status = .success
  · rw [if_pos ⟨hname, hstatus⟩, if_pos hstatus]
    unfold note_ask_user
    dsimp only
    split <;> exact ⟨rfl, rfl⟩
  · rw [if_neg (fun h => hstatus h.2), if_neg (by rw [hname]; decide), if_neg hstatus]
    exact ⟨rfl, rfl⟩

end BirdSessionStatePort

/-! ## One run -/

/-- Where a run began, and the task message of its session. -/
structure RunStart where
  budget : Option ℕ
  asks : ℕ
  submits : ℕ
  turns : ℕ
  task_message : String
  memory : List String

/-- A run before its submission. `owed` is a model turn that is counted and not yet asked for. -/
structure InRun (start : RunStart) (owed : ℕ) (s : CSession) (log : BirdCLog) : Prop where
  budget : clarification_budget s.state = start.budget
  asks : asks log = start.asks + s.state.ask_user_turns
  within : ∀ max_turn ∈ start.budget, s.state.ask_user_turns ≤ max_turn
  submits : submits log = start.submits
  turns : modelTurns log + owed + turnsLeft s ≤ start.turns
  task_message : s.task_message = some start.task_message
  memory : start.memory <+: s.memory
  prompts : Prompted start.task_message log

structure RanRun (start : RunStart) (s : CSession) (log : BirdCLog) : Prop where
  asks : ∀ max_turn ∈ start.budget, asks log ≤ start.asks + max_turn
  submits : submits log ≤ start.submits + 1
  turns : modelTurns log + turnsLeft s ≤ start.turns
  task_message : s.task_message = some start.task_message
  memory : start.memory <+: s.memory
  prompts : Prompted start.task_message log

abbrev anyAnswer : BirdCLog → Event BirdCOp BirdCAns → Prop := fun _ _ => True

variable {agent : SystemAgent} {start : RunStart} {owed : ℕ} {s s' : CSession}

theorem InRun.event {n : ℕ} (h : InRun start (owed + n) s log) {op : BirdCOp} {answer : BirdCAns op}
    (hasked : asked ⟨op, answer⟩ = false) (hsubmitted : submitted ⟨op, answer⟩ = false)
    (hturn : (if turned ⟨op, answer⟩ = true then 1 else 0) = n)
    (hbuild : ∀ request, op = .build request →
      ∃ before after, request.current_input.content.text = before ++ start.task_message ++ after) :
    InRun start owed s (log ++ [⟨op, answer⟩]) := by
  refine ⟨h.budget, ?_, h.within, ?_, ?_, h.task_message, h.memory, h.prompts.append hbuild⟩
  · rw [asks_append, hasked, if_neg nofun, Nat.add_zero]
    exact h.asks
  · rw [submits_append, hsubmitted, if_neg nofun, Nat.add_zero]
    exact h.submits
  · have hturns := h.turns
    rw [modelTurns_append, hturn]
    omega

theorem InRun.leave (h : InRun start owed s log) (hturns : s'.model_turns = s.model_turns)
    (htask : s'.task_message = s.task_message) (hmemory : s.memory <+: s'.memory) : RanRun start s' log := by
  have hleft : turnsLeft s' = turnsLeft s := by
    unfold turnsLeft
    rw [hturns]
  refine ⟨fun max_turn hm => ?_, ?_, ?_, htask.trans h.task_message, h.memory.trans hmemory, h.prompts⟩
  · have hwithin := h.within max_turn hm
    rw [h.asks]
    omega
  · rw [h.submits]
    exact Nat.le_succ _
  · have hbound := h.turns
    rw [hleft]
    omega

theorem RanRun.leave (h : RanRun start s log) (hturns : s'.model_turns = s.model_turns)
    (htask : s'.task_message = s.task_message) (hmemory : s.memory <+: s'.memory) : RanRun start s' log := by
  have hleft : turnsLeft s' = turnsLeft s := by
    unfold turnsLeft
    rw [hturns]
  exact ⟨h.asks, h.submits, hleft ▸ h.turns, htask.trans h.task_message, h.memory.trans hmemory, h.prompts⟩

/-! ### Tool calls -/

theorem execute_ask_meets (h : InRun start 0 s log) {call : ToolCall} (hname : call.name.text = "ask_user") :
    (BirdSessionStatePort.execute agent.library (fun call => .ask (.execute call) .done) .c call s.state).Meets
      anyAnswer (Ends fun r log => InRun start 0 { s with state := r.2 } log) log := by
  unfold BirdSessionStatePort.execute BirdSessionStatePort.gate
  simp only [hname, ↓reduceIte]
  cases hgate : BirdSessionStatePort.gate_clarification_budget agent.library call s.state with
  | some gated => exact Meets.done h
  | none =>
    have hless := BirdSessionStatePort.gate_clarification_budget_none hgate
    unfold BirdSessionStatePort.forward
    refine Meets.ask fun answer _ => ?_
    have hsubmitted : submitted ⟨.execute call, answer⟩ = false := by
      unfold submitted
      simp only [hname]
      decide
    cases answer with
    | error e => exact Meets.done (h.event rfl hsubmitted rfl (by rintro _ ⟨⟩))
    | ok result =>
      obtain ⟨hturns, hmax⟩ := BirdSessionStatePort.after_tool_ask agent.library s.state hname result
      refine Meets.done ⟨?_, ?_, ?_, ?_, ?_, h.task_message, h.memory, h.prompts.append (by rintro _ ⟨⟩)⟩
      · have hbudget := h.budget
        unfold clarification_budget at hbudget ⊢
        rwa [hmax]
      · rw [asks_append, hturns, h.asks]
        unfold asked
        simp only [hname, decide_true, Bool.true_and, decide_eq_true_eq]
        split_ifs <;> omega
      · intro max_turn hm
        have hbelow := hless max_turn (by rw [h.budget]; exact hm)
        rw [hturns]
        split_ifs <;> omega
      · rw [submits_append, hsubmitted, if_neg nofun]
        exact h.submits
      · exact modelTurns_append log ⟨.execute call, _⟩ ▸ h.turns

theorem execute_submit_meets (h : InRun start 0 s log) {call : ToolCall} (hname : call.name.text = "submit_sql") :
    (BirdSessionStatePort.execute agent.library (fun call => .ask (.execute call) .done) .c call s.state).Meets
      anyAnswer (Ends fun _ log => RanRun start s log) log := by
  have hother : ¬ call.name.text = "ask_user" := by
    rw [hname]
    decide
  unfold BirdSessionStatePort.execute BirdSessionStatePort.gate BirdSessionStatePort.forward
  simp only [hother, ↓reduceIte]
  refine Meets.ask fun answer _ => ?_
  have hran : RanRun start s (log ++ [⟨.execute call, answer⟩]) := by
    refine ⟨fun max_turn hm => ?_, ?_, ?_, h.task_message, h.memory, h.prompts.append (by rintro _ ⟨⟩)⟩
    · have hasked : asked ⟨.execute call, answer⟩ = false := by
        unfold asked
        cases answer with
        | error e => rfl
        | ok result => simp only [hother, decide_false, Bool.false_and]
      have hwithin := h.within max_turn hm
      rw [asks_append, hasked, if_neg nofun, h.asks]
      omega
    · rw [submits_append, h.submits]
      split_ifs <;> omega
    · exact modelTurns_append log ⟨.execute call, _⟩ ▸ h.turns
  cases answer with
  | error e => exact Meets.done hran
  | ok result => exact Meets.done hran

/-! ### The loop -/

theorem tool_call_name {library : Library} {call_id : String} {name : Code 2 63} {arguments : Value} {call : ToolCall}
    (h : tool_call library call_id name arguments = .ok call) : call.name = name := by
  unfold tool_call at h
  cases hid : (validated call_id : Except Raised (Text 1 128)) with
  | error e =>
    rw [hid] at h
    cases h
  | ok call_id =>
    cases harguments : (validated (library.canonical_json arguments) : Except Raised (Text 1 262144)) with
    | error e =>
      rw [hid, harguments] at h
      cases h
    | ok arguments_json =>
      rw [hid, harguments] at h
      rw [← Except.ok.inj h]

/-- What is left to show of a run that goes on with the next turn. -/
abbrev GoesOn (start : RunStart) (s : CSession) (next : SessionState → List String → BirdCCall) : Prop :=
  ∀ state memory log, InRun start 0 { s with state := state, memory := memory } log →
    (next state memory).Meets anyAnswer (Ends fun r log => RanRun start r.2 log) log

theorem on_candidate_meets (h : InRun start 0 s log) {next : SessionState → List String → BirdCCall}
    (hnext : GoesOn start s next) (candidate : BirdCCandidate) :
    (agent.on_candidate s next candidate).Meets anyAnswer (Ends fun r log => RanRun start r.2 log) log := by
  cases candidate with
  | text content => exact Meets.done (h.leave rfl rfl (List.prefix_append _ _))
  | ask_user question =>
    unfold SystemAgent.on_candidate
    dsimp only
    unfold SystemAgent.call_tool
    split
    · exact Meets.done (h.leave rfl rfl (List.prefix_refl _))
    rename_i call hcall
    have hname : call.name.text = "ask_user" := by rw [tool_call_name hcall]; rfl
    refine Meets.seq ((execute_ask_meets h hname).mono fun r log hr => ?_)
    intro executed hsome
    have hin := hr executed hsome
    obtain ⟨result, state⟩ := executed
    cases result with
    | error e => exact Meets.done (hin.leave rfl rfl (List.prefix_refl _))
    | ok result =>
      dsimp only
      split
      · exact Meets.done (hin.leave rfl rfl (List.prefix_append _ _))
      · refine hnext _ _ log ⟨hin.budget, hin.asks, hin.within, hin.submits, hin.turns, hin.task_message, ?_, hin.prompts⟩
        exact hin.memory.trans (List.prefix_append _ _)
  | submit_sql sql =>
    unfold SystemAgent.on_candidate
    dsimp only
    unfold SystemAgent.call_tool
    split
    · exact Meets.done (h.leave rfl rfl (List.prefix_refl _))
    rename_i call hcall
    have hname : call.name.text = "submit_sql" := by rw [tool_call_name hcall]; rfl
    refine Meets.seq ((execute_submit_meets h hname).mono fun r log hr => ?_)
    intro executed hsome
    have hran := hr executed hsome
    obtain ⟨result, state⟩ := executed
    cases result with
    | error e => exact Meets.done (hran.leave rfl rfl (List.prefix_refl _))
    | ok result => exact Meets.done (hran.leave rfl rfl (List.prefix_append _ _))

/-- The exchange with the model, which pays the turn. -/
theorem respond_meets (h : InRun start 1 s log) (request : BirdCRequest)
    (hprompt : ∃ before after, request.current_phase.content.text = before ++ start.task_message ++ after) :
    (BirdCResponder.respond agent.library request).Meets anyAnswer (Ends fun _ log => InRun start 0 s log) log := by
  have hpaid : ∀ log, InRun start 1 s log → InRun start 0 s log := fun log h =>
    ⟨h.budget, h.asks, h.within, h.submits, by have := h.turns; omega, h.task_message, h.memory, h.prompts⟩
  have honce : (BirdCResponder.respond_once agent.library request).Meets anyAnswer
      (Ends fun _ log => InRun start 0 s log) log := by
    unfold BirdCResponder.respond_once
    refine Meets.ask fun answer _ => ?_
    have hbuilt : InRun start 1 s (log ++ [⟨.build (BirdCResponder.context request), answer⟩]) :=
      h.event rfl rfl rfl (by rintro _ ⟨⟩; exact hprompt)
    cases answer with
    | error e => exact Meets.done (hpaid _ hbuilt)
    | ok hashes =>
      refine Meets.ask fun answer _ => ?_
      have hcompleted : InRun start 0 s (log ++ [⟨.build (BirdCResponder.context request), .ok hashes⟩] ++
          [⟨.complete ((BirdCResponder.context request).bundle hashes).model_request, answer⟩]) :=
        hbuilt.event rfl rfl rfl (by rintro _ ⟨⟩)
      cases answer with
      | error e => exact Meets.done hcompleted
      | ok response =>
        rw [Flow.onOk_ok]
        split <;> exact Meets.done hcompleted
  unfold BirdCResponder.respond
  refine Meets.seq (honce.mono fun a log ha => ?_)
  intro response hsome
  refine Meets.ask fun answer _ => ?_
  have hdeleted : InRun start 0 s (log ++
      [⟨.delete_attempt ⟨scope_digest agent.library request.run_scope, request.attempt_id⟩, answer⟩]) :=
    (ha response hsome).event rfl rfl rfl (by rintro _ ⟨⟩)
  cases answer with
  | ok u => exact Meets.done hdeleted
  | error e => exact Meets.done hdeleted

variable {track_mode : (agent.run_scope.track, agent.run_scope.mode) = (.bird, .c)}

theorem c_turn_meets (message : String) (h : InRun start 1 s log) {next : SessionState → List String → BirdCCall}
    (hnext : GoesOn start s next) :
    (agent.c_turn track_mode start.task_message message s next).Meets anyAnswer (Ends fun r log => RanRun start r.2 log)
      log := by
  unfold SystemAgent.c_turn
  refine Meets.ask fun attempt_id _ => ?_
  have hasked : InRun start 1 s (log ++ [⟨.attempt_id, attempt_id⟩]) := h.event rfl rfl rfl (by rintro _ ⟨⟩)
  split
  · exact Meets.done (hasked.leave rfl rfl (List.prefix_refl _))
  rename_i datum hdatum
  have hprompt := phase_content_task agent.library start.task_message s.memory s.state message
  rw [← phase_datum_text hdatum] at hprompt
  refine Meets.seq ((respond_meets hasked _ hprompt).mono fun a log ha => ?_)
  intro result hsome
  have hresponded := ha result hsome
  cases result with
  | error e => exact Meets.done (hresponded.leave rfl rfl (List.prefix_refl _))
  | ok response => exact on_candidate_meets hresponded hnext response.candidate

theorem InRun.count_turn (h : InRun start 0 s log) (hless : s.model_turns < MAX_MODEL_TURNS) :
    InRun start 1 (SystemAgent.count_turn s) log := by
  have hleft : turnsLeft (SystemAgent.count_turn s) + 1 = turnsLeft s := by
    unfold turnsLeft SystemAgent.count_turn
    dsimp only
    omega
  refine ⟨h.budget, h.asks, h.within, h.submits, ?_, h.task_message, h.memory, h.prompts⟩
  have hturns := h.turns
  omega

theorem c_loop_turn {task_message message : String} (hless : s.model_turns < MAX_MODEL_TURNS) :
    agent.c_loop track_mode task_message message s =
      agent.c_turn track_mode task_message message (SystemAgent.count_turn s) fun state memory =>
        agent.c_loop track_mode task_message message
          { SystemAgent.count_turn s with state := state, memory := memory } := by
  conv_lhs => unfold SystemAgent.c_loop
  rw [if_pos hless]

theorem c_loop_meets (message : String) (s : CSession) (log : BirdCLog) (h : InRun start 0 s log) :
    (agent.c_loop track_mode start.task_message message s).Meets anyAnswer (Ends fun r log => RanRun start r.2 log)
      log := by
  unfold SystemAgent.c_loop
  split
  · rename_i hless
    refine c_turn_meets message (h.count_turn hless) fun state memory log hin => ?_
    exact c_loop_meets message _ log hin
  · exact Meets.done (h.leave rfl rfl (List.prefix_refl _))
termination_by (MAX_MODEL_TURNS - s.model_turns).toNat
decreasing_by
  unfold SystemAgent.count_turn
  dsimp only
  omega

/-! ## Every run of a session -/

/-- The stop of the ablation, which nothing but a submission lifts. -/
def Declined (agent : SystemAgent) (s : CSession) : Prop :=
  agent.stop_on_submit_fail = true ∧ s.state.last_submit_passed = some false

/-- A session between two runs, of which the first began with `task_message`. -/
structure InSession (agent : SystemAgent) (turns : ℕ) (task_message : String) (s : CSession) (log : BirdCLog) : Prop where
  cap : modelTurns log + turnsLeft s ≤ turns
  prompts : Prompted task_message log
  begun : s.task_message = some task_message ∨ Declined agent s

/-- What one run does to the session and its log. -/
structure KeptRun (s : CSession) (log : BirdCLog) (s' : CSession) (log' : BirdCLog) : Prop where
  asks : ∀ max_turn ∈ clarification_budget s.state, asks log' ≤ asks log + max_turn
  submits : submits log' ≤ submits log + 1
  memory : s.memory <+: s'.memory

theorem run_c_meets {turns : ℕ} {task_message : String} (message : String) (hcap : modelTurns log + turnsLeft s ≤ turns)
    (hprompts : Prompted task_message log) (hbegun : s.task_message.getD message = task_message ∨ Declined agent s) :
    (agent.run_c track_mode message s).Meets anyAnswer
      (Ends fun r log' => KeptRun s log r.2 log' ∧ InSession agent turns task_message r.2 log') log := by
  unfold SystemAgent.run_c
  split
  · rename_i hdeclined
    refine Meets.done ⟨⟨fun _ _ => Nat.le_add_right _ _, Nat.le_succ _, List.prefix_refl _⟩, hcap, hprompts, .inr ?_⟩
    exact hdeclined
  rename_i hgoes
  obtain rfl : s.task_message.getD message = task_message := hbegun.resolve_right hgoes
  let start : RunStart :=
    ⟨clarification_budget s.state, asks log, submits log, turns, s.task_message.getD message, s.memory⟩
  have hstart : InRun start 0
      { SystemAgent.begin_phase s with task_message := some (s.task_message.getD message) } log :=
    ⟨rfl, rfl, fun _ _ => Nat.zero_le _, rfl, hcap, rfl, List.prefix_refl _, hprompts⟩
  refine (c_loop_meets message _ log hstart).mono fun r log' hr => ?_
  intro a hsome
  have hran := hr a hsome
  exact ⟨⟨hran.asks, hran.submits, hran.memory⟩, hran.turns, hran.prompts, .inl hran.task_message⟩

theorem run_c_keeps {turns : ℕ} {task_message : String} (message : String)
    (h : InSession agent turns task_message s log) :
    (agent.run_c track_mode message s).Meets anyAnswer
      (Ends fun r log' => KeptRun s log r.2 log' ∧ InSession agent turns task_message r.2 log') log := by
  refine run_c_meets message h.cap h.prompts (h.begun.imp_left fun htask => ?_)
  rw [htask]
  rfl

theorem runs_c_keep {turns : ℕ} {task_message : String} (messages : List String)
    (h : InSession agent turns task_message s log) :
    (Flow.each (agent.run_c track_mode) messages s).Meets anyAnswer
      (Ends fun r log => InSession agent turns task_message r.2 log) log := by
  refine Meets.each ?_ messages h
  intro message s log h
  exact (run_c_keeps message h).mono fun r log hr a hsome => (hr a hsome).2

/-- **A run of a session**, after any runs before it, and whatever the model and the tools answer. -/
theorem run_c_in_session (agent : SystemAgent)
    (track_mode : (agent.run_scope.track, agent.run_scope.mode) = (.bird, .c)) (state : SessionState)
    (earlier : List String) (message : String) (env : Env BirdCOp BirdCAns) :
    let before := (agent.runs_c track_mode earlier (.init state)).play env []
    let after := (agent.run_c track_mode message before.1.2).play env before.2
    KeptRun before.1.2 before.2 after.1.2 after.2 ∧
      modelTurns after.2 ≤ (MAX_MODEL_TURNS - state.model_turns).toNat ∧
      Prompted (earlier.headD message) after.2 ∧
      ∀ call s max_turn, call.name.text = "ask_user" → clarification_budget s = some max_turn →
        max_turn ≤ s.ask_user_turns → ∃ result,
          BirdSessionStatePort.execute agent.library (fun call => (.ask (.execute call) .done : Flow BirdCOp BirdCAns _))
            .c call s = .done (result, s) := by
  intro before after
  have hinit : modelTurns [] + turnsLeft (.init state) ≤ (MAX_MODEL_TURNS - state.model_turns).toNat :=
    (Nat.zero_add _).le
  have hend : KeptRun before.1.2 before.2 after.1.2 after.2 ∧
      InSession agent (MAX_MODEL_TURNS - state.model_turns).toNat (earlier.headD message) after.1.2 after.2 := by
    cases hearlier : earlier with
    | nil =>
      have hrun : (agent.run_c track_mode message (.init state)).Meets anyAnswer _ [] :=
        run_c_meets message hinit (by intro _ _ hmem; cases hmem) (.inl rfl)
      have hbefore : before = (([], .init state), []) := by
        unfold before
        rw [hearlier]
        rfl
      unfold after
      rw [hbefore]
      exact hrun.result fun _ _ => trivial
    | cons first rest =>
      -- the first run sets the task message, and every other one keeps it
      have hfirst : (agent.run_c track_mode first (.init state)).Meets anyAnswer _ [] :=
        run_c_meets first hinit (by intro _ _ hmem; cases hmem) (.inl rfl)
      have hruns : (agent.runs_c track_mode (first :: rest) (.init state)).Meets anyAnswer
          (Ends fun r log => InSession agent (MAX_MODEL_TURNS - state.model_turns).toNat first r.2 log) [] := by
        unfold SystemAgent.runs_c
        refine Meets.seq (hfirst.mono fun r log hr => ?_)
        intro a hsome
        refine Meets.seq ((runs_c_keep rest (hr a hsome).2).mono fun r log hr => ?_)
        intro a hsome
        exact Meets.done (hr a hsome)
      have hbefore : InSession agent (MAX_MODEL_TURNS - state.model_turns).toNat first
          ((agent.runs_c track_mode (first :: rest) (.init state)).play env []).1.2
          ((agent.runs_c track_mode (first :: rest) (.init state)).play env []).2 := hruns.result fun _ _ => trivial
      rw [← hearlier] at hbefore
      exact (run_c_keeps message hbefore).result fun _ _ => trivial
  refine ⟨hend.1, (Nat.le_add_right _ _).trans hend.2.cap, hend.2.prompts, ?_⟩
  intro call s max_turn hname hbudget hspent
  exact BirdSessionStatePort.execute_refused _ hname hbudget hspent

/-- A model that is out of reach. -/
def unreachable : Env BirdCOp BirdCAns := fun _ op =>
  match op with
  | .attempt_id => 4
  | .build _ => .ok ⟨HexDigest.ofNat 0, HexDigest.ofNat 0, HexDigest.ofNat 0, HexDigest.ofNat 0, HexDigest.ofNat 0⟩
  | .complete _ => .error (ModelGatewayError ⟨"provider_unreachable", by decide⟩ true)
  | .delete_attempt _ => .ok ()
  | .execute _ => .error (ToolInfrastructureError "tool_transport_failed")

/-- Python on the documents of a session that asks and submits. -/
def askingLibrary : Library where
  loads text :=
    if text = "\x7b\"question\":\"which year?\"\x7d" then some (.obj [("question", .str "which year?")])
    else if text = "\x7b\"sql\":\"SELECT 1\"\x7d" then some (.obj [("sql", .str "SELECT 1")])
    else if text = "\x7b\"answer\":\"2018\"\x7d" then some (.obj [("answer", .str "2018")])
    else if text = "\x7b\"passed\":false\x7d" then some (.obj [("passed", .bool false)])
    else none
  canonical_json value :=
    match value with
    | .obj [(key, .str text)] => "\x7b\"" ++ key ++ "\":\"" ++ text ++ "\"\x7d"
    | _ => "\x7b\x7d"
  dumps _ := "\x7b\x7d"
  sha256 _ := HexDigest.ofNat 0
  str value :=
    match value with
    | .str text => text
    | _ => ""
  float _ := .ok none
  fixed _ := ""
  strip text := text

def askingAgent : SystemAgent := { sampleCAgent with library := askingLibrary }

theorem askingAgent_mode : (askingAgent.run_scope.track, askingAgent.run_scope.mode) = (.bird, .c) := rfl

def oneCall (request : ModelRequest) (name : Code 2 63) (arguments_json : Text 1 262144) : ModelResponse where
  output := .tool_calls
    { tool_calls := [⟨⟨"call_c", by decide⟩, name, arguments_json⟩]
      size := by simp
      unique := List.nodup_singleton _ }
  provider_turn_ref := ⟨3, HexDigest.ofNat 0, request.attempt_id, request.sequence, [⟨"call_c", by decide⟩]⟩
  finish_reason := .tool_calls
  fits := ⟨rfl, rfl⟩

/-- A model that asks twice, submits, and is out of reach from then on. -/
def asksTwice : Env BirdCOp BirdCAns := fun log op =>
  match op with
  | .complete request =>
    match modelTurns log with
    | 0 | 1 => .ok (oneCall request ask_user_name ⟨"\x7b\"question\":\"which year?\"\x7d", by decide⟩)
    | 2 => .ok (oneCall request submit_sql_name ⟨"\x7b\"sql\":\"SELECT 1\"\x7d", by decide⟩)
    | _ => unreachable log (.complete request)
  | .execute call => .ok
    { call_id := call.call_id
      name := call.name
      status := .success
      content_json :=
        if call.name.text = "ask_user" then ⟨"\x7b\"answer\":\"2018\"\x7d", by decide⟩
        else ⟨"\x7b\"passed\":false\x7d", by decide⟩
      deterministic_summary := ⟨"the answer of the service", by decide⟩
      content_sha256 := HexDigest.ofNat 0
      source_refs := [] }
  | op => unreachable log op

/-- A session that may ask once: its second question is refused, and it submits in its third turn. -/
def onceState : SessionState := { sampleState with max_turn := some (.int 1) }

theorem run_c_in_session_asks :
    let before := (askingAgent.runs_c askingAgent_mode ["q"] (.init onceState)).play asksTwice []
    let after := (askingAgent.run_c askingAgent_mode "again" before.1.2).play asksTwice before.2
    KeptRun before.1.2 before.2 after.1.2 after.2 ∧
      modelTurns after.2 ≤ (MAX_MODEL_TURNS - onceState.model_turns).toNat ∧
      Prompted (["q"].headD "again") after.2 ∧
      ∀ call s max_turn, call.name.text = "ask_user" → clarification_budget s = some max_turn →
        max_turn ≤ s.ask_user_turns → ∃ result,
          BirdSessionStatePort.execute askingAgent.library
            (fun call => (.ask (.execute call) .done : Flow BirdCOp BirdCAns _)) .c call s = .done (result, s) :=
  run_c_in_session askingAgent askingAgent_mode onceState ["q"] "again" asksTwice

/-- The session of the sample after some runs, of which `n` is the turn counter. -/
def outOfReach (n : ℤ) (task_message : Option String) : CSession :=
  ⟨{ sampleState with model_turns := n }, n, task_message, []⟩

theorem validated_fits (lo hi : ℕ) (text : String) (hlo : lo ≤ text.length) (hhi : text.length ≤ hi) :
    ∃ checked, (validated text : Except Raised (Text lo hi)) = .ok checked := by
  unfold validated Checked.parse
  rw [dif_pos (by simp only [hlo, hhi, decide_true, Bool.and_self])]
  exact ⟨_, rfl⟩

theorem outOfReach_datum {turn : ℕ} (hturn : turn < 61) : ∃ datum,
    phase_datum sampleCAgent.library (sampleCAgent.phase_source (outOfReach turn (some "q")).model_turns)
      (phase_content sampleCAgent.library "q" (outOfReach turn (some "q")).memory (outOfReach turn (some "q")).state
        "q") = .ok datum := by
  have hid : sampleCAgent.session_id.text.length = 36 := by decide +kernel
  have hcounter : ∀ turn ∈ List.range 61, (toString (turn : ℤ)).length ≤ 2 := by decide +kernel
  have hcounter := hcounter turn (List.mem_range.mpr hturn)
  have hmodel : (outOfReach turn (some "q")).model_turns = turn := rfl
  have hcontent : phase_content sampleCAgent.library "q" (outOfReach turn (some "q")).memory
      (outOfReach turn (some "q")).state "q" = "User Query (official first message):\nq" := rfl
  have hlength : (sampleCAgent.phase_source turn).length = 54 + (toString (turn : ℤ)).length := by
    unfold SystemAgent.phase_source
    simp only [String.length_append, toString, hid]
    rfl
  obtain ⟨source_ref, hsource⟩ := validated_fits 1 512 (sampleCAgent.phase_source turn) (by omega) (by omega)
  obtain ⟨content, hok⟩ := validated_fits 1 262144 "User Query (official first message):\nq" (by decide) (by decide)
  unfold phase_datum
  rw [hmodel, hcontent, hsource, hok]
  exact ⟨_, rfl⟩

/-- One run of it is one more model turn. -/
theorem run_c_out_of_reach (turn : ℕ) (hturn : turn < 61) {task_message : Option String}
    (htask : task_message.getD "q" = "q") (log : BirdCLog) :
    ((sampleCAgent.run_c sampleCAgent_mode "q" (outOfReach (turn - 1) task_message)).play unreachable log).1.2 =
        outOfReach turn (some "q") ∧
      modelTurns ((sampleCAgent.run_c sampleCAgent_mode "q" (outOfReach (turn - 1) task_message)).play unreachable log).2 =
        modelTurns log + 1 := by
  obtain ⟨datum, hdatum⟩ := outOfReach_datum hturn
  have hless : (turn : ℤ) - 1 < MAX_MODEL_TURNS := by
    unfold MAX_MODEL_TURNS
    omega
  have hcount : SystemAgent.count_turn (outOfReach (turn - 1) (some "q")) = outOfReach turn (some "q") := by
    unfold SystemAgent.count_turn outOfReach
    simp only [sub_add_cancel]
  have hrun : sampleCAgent.run_c sampleCAgent_mode "q" (outOfReach (turn - 1) task_message) =
      sampleCAgent.c_loop sampleCAgent_mode "q" "q" (outOfReach (turn - 1) (some "q")) := by
    unfold SystemAgent.run_c
    rw [if_neg (fun h => Bool.false_ne_true h.1)]
    exact congrArg (fun first => sampleCAgent.c_loop sampleCAgent_mode first "q" (outOfReach (turn - 1) (some first))) htask
  rw [hrun, c_loop_turn hless, hcount]
  unfold SystemAgent.c_turn
  simp only [Flow.play, hdatum]
  refine ⟨rfl, ?_⟩
  change modelTurns (log ++ [_] ++ [_] ++ [_] ++ [_]) = _
  simp only [modelTurns_append]
  rfl

theorem runs_c_out_of_reach (n turn : ℕ) (hn : n + turn ≤ 61) (task_message : Option String)
    (htask : task_message.getD "q" = "q") (log : BirdCLog) :
    modelTurns ((sampleCAgent.runs_c sampleCAgent_mode (List.replicate n "q")
      (outOfReach (turn - 1) task_message)).play unreachable log).2 = modelTurns log + n := by
  induction n generalizing turn task_message log with
  | zero => rfl
  | succ n ih =>
    obtain ⟨hsession, hturns⟩ := run_c_out_of_reach turn (by omega) htask log
    have hrest := ih (turn + 1) (by omega) (some "q") rfl
      ((sampleCAgent.run_c sampleCAgent_mode "q" (outOfReach (turn - 1) task_message)).play unreachable log).2
    rw [Nat.cast_add, Nat.cast_one, add_sub_cancel_right, ← hsession, hturns] at hrest
    unfold SystemAgent.runs_c at hrest ⊢
    rw [List.replicate_succ]
    unfold Flow.each
    rw [Flow.play_bind, Flow.play_bind]
    unfold Flow.play
    rw [hrest]
    omega

/-- A counter that begins below zero lets a session make more turns than the cap. -/
theorem turn_cap_exceeded :
    ¬ ∀ (agent : SystemAgent) (track_mode : (agent.run_scope.track, agent.run_scope.mode) = (.bird, .c))
      (state : SessionState) (messages : List String) (env : Env BirdCOp BirdCAns),
      modelTurns ((agent.runs_c track_mode messages (.init state)).play env []).2 ≤ MAX_MODEL_TURNS := by
  intro h
  have hle := h sampleCAgent sampleCAgent_mode { sampleState with model_turns := -1 } (List.replicate 61 "q") unreachable
  have hmore := runs_c_out_of_reach 61 0 (le_refl 61) none rfl []
  have hinit : CSession.init { sampleState with model_turns := -1 } = outOfReach ((0 : ℕ) - 1) none := rfl
  rw [hinit, hmore] at hle
  exact absurd hle (by decide)

end CommerceAgent.Orchestration
