import CommerceAgent.Orchestration.BirdServer
import CommerceAgent.Orchestration.BirdALoop
import Mathlib.Algebra.Order.Ring.Rat
import Mathlib.Tactic.Linarith

/-!
# The coin budget of a session

Charges, the free exit and the stop signal, over every sequence of a-mode runs.
-/

open CommerceAgent.Lib
open CommerceAgent.Lib.Flow (onOk Meets Ends Follows)
open CommerceAgent.Operations (UUID Text Code HexDigest)

namespace CommerceAgent.Orchestration

/-! ## One call -/

def budget_after (budget : ℚ) (call : ToolCall) : ℚ :=
  match charge call budget with
  | none | some .uncosted => budget
  | some .free => -1
  | some (.charged cost) => if call.name.text = "submit_sql" ∧ budget - cost ≤ 0 then -1 else budget - cost

theorem coin_cost_pos {name : String} {cost : ℚ} (h : coin_cost name = some cost) : 0 < cost := by
  unfold coin_cost at h
  obtain ⟨before, after, hlist, -⟩ := List.lookup_eq_some_iff.mp h
  have hmem : (name, cost) ∈ before ++ (name, cost) :: after := by simp
  rw [← hlist] at hmem
  simp only [List.mem_cons, Prod.mk.injEq, List.not_mem_nil, or_false] at hmem
  rcases hmem with ⟨-, rfl⟩ | ⟨-, rfl⟩ | ⟨-, rfl⟩ | ⟨-, rfl⟩ | ⟨-, rfl⟩ | ⟨-, rfl⟩ | ⟨-, rfl⟩ | ⟨-, rfl⟩ | ⟨-, rfl⟩ <;>
    norm_num

variable {call : ToolCall} {budget : ℚ}

theorem charge_charged {cost : ℚ} (h : charge call budget = some (.charged cost)) :
    coin_cost call.name.text = some cost ∧ cost ≤ budget := by
  unfold charge at h
  split at h
  · cases h
  · rename_i c hcost
    split_ifs at h with hless hsubmit
    · cases h
    · obtain rfl := Charge.charged.inj (Option.some.inj h)
      exact ⟨hcost, not_lt.mp hless⟩

theorem charge_free (h : charge call budget = some .free) : call.name.text = "submit_sql" ∧ budget < 3 := by
  unfold charge at h
  split at h
  · cases h
  · rename_i c hcost
    split_ifs at h with hless hsubmit
    · rw [hsubmit] at hcost
      have hthree : coin_cost "submit_sql" = some 3 := by decide
      rw [hthree, Option.some.injEq] at hcost
      exact ⟨hsubmit, hcost ▸ hless⟩
    · cases h

namespace BirdSessionStatePort

variable (library : Library)

theorem gate_budget_after (call : ToolCall) (s : SessionState) :
    (gate_budget library call s).2.budget = budget_after s.budget call ∧
      (gate_budget library call s).2.task_done = s.task_done ∧
      ((gate_budget library call s).1 = none ↔ (charge call s.budget).isSome) := by
  unfold gate_budget budget_after charge
  split
  · exact ⟨rfl, rfl, by simp⟩
  · split_ifs <;> simp_all [SessionState.budget]

theorem note_ask_user_keeps (arguments : Value) (result : ToolResult) (s : SessionState) :
    (note_ask_user library arguments result s).2.budget = s.budget ∧
      (note_ask_user library arguments result s).2.task_done = s.task_done := by
  unfold note_ask_user
  dsimp only
  split <;> exact ⟨rfl, rfl⟩

theorem complete_phase_keeps (body : Value) (s : SessionState) :
    (complete_phase body s).budget = s.budget ∧ (s.task_done = true → (complete_phase body s).task_done = true) := by
  unfold complete_phase
  split
  · split <;> exact ⟨rfl, fun h => by simp [h]⟩
  · split <;> exact ⟨rfl, fun h => by simp [h]⟩

theorem apply_submit_state_keeps (result : ToolResult) (s : SessionState) :
    (apply_submit_state library result s).2.budget = s.budget ∧
      (s.task_done = true → (apply_submit_state library result s).2.task_done = true) := by
  unfold apply_submit_state
  split
  · exact ⟨rfl, id⟩
  split
  · split
    · split
      · exact ⟨rfl, id⟩
      · exact complete_phase_keeps _ _
    · exact ⟨rfl, id⟩
  · exact ⟨rfl, id⟩

theorem after_tool_keeps (mode : Mode) (call : ToolCall) (result : ToolResult) (s : SessionState) :
    (after_tool library mode call result s).2.budget = s.budget ∧
      (s.task_done = true → (after_tool library mode call result s).2.task_done = true) := by
  unfold after_tool
  split
  · obtain ⟨hbudget, hdone⟩ := note_ask_user_keeps library (arguments_of library call) result
      (count_ask_user mode (note_trajectory call (arguments_of library call) result s))
    rw [hbudget, hdone]
    unfold count_ask_user
    split <;> exact ⟨rfl, id⟩
  split
  · obtain ⟨hbudget, hdone⟩ := apply_submit_state_keeps library result
      (note_trajectory call (arguments_of library call) result s)
    split
    · rename_i heq
      rw [heq] at hbudget hdone
      exact ⟨hbudget, hdone⟩
    · rename_i heq
      rw [heq] at hbudget hdone
      split <;> exact ⟨hbudget, hdone⟩
  · exact ⟨rfl, id⟩

end BirdSessionStatePort

/-! ## The ledger of a session -/

def Entry.isTurn : Entry → Bool
  | .turn .. => true
  | .passed .. => false

/-- The cost that an entry charged. -/
def Entry.paid : Entry → ℚ
  | .passed _ (.charged cost) _ _ => cost
  | _ => 0

def Entry.isFree : Entry → Bool
  | .passed _ .free _ _ => true
  | _ => false

/-- The call that an entry let through to the tool service. -/
def Entry.call? : Entry → Option ToolCall
  | .passed call _ _ _ => some call
  | .turn .. => none

/-- The session is to stop: its budget is spent, or its task is done. -/
def Entry.stops : Entry → Prop
  | .passed _ _ budget task_done => budget = -1 ∨ task_done = true
  | .turn .. => False

def spent (ledger : List Entry) : ℚ := (ledger.map Entry.paid).sum

def freeExits (ledger : List Entry) : ℕ := ledger.countP Entry.isFree

/-- The model turns, and the calls that reached the tool service, by the log of the environment. -/
def logged (log : BirdAGraph.BirdALog) : List (Option ToolCall) :=
  log.filterMap fun e => match e.op with
    | .complete _ => some none
    | .execute call => some (some call)
    | _ => none

/-- An entry as the gates write it: a turn from a live session, or a call at its full cost unless it
is the free exit of a submission. -/
def Entry.Sound : Entry → Prop
  | .turn budget task_done _ => 0 ≤ budget ∧ task_done = false
  | .passed call charge budget _ => (budget = -1 ∨ 0 ≤ budget) ∧
    match charge with
    | .charged cost => coin_cost call.name.text = some cost
    | .free => call.name.text = "submit_sql"
    | .uncosted => coin_cost call.name.text = none

/-- A batch, of which no submission comes behind one that the budget does not cover. -/
def SingleExit (budget : ℚ) (calls : List ToolCall) : Prop :=
  ∀ before call after, calls = before ++ call :: after → charge call (before.foldl budget_after budget) = some .free →
    ∀ later ∈ after, later.name.text ≠ "submit_sql"

/-- What holds of every ledger. `initial` is the budget that the session began with. -/
structure Ledger (initial : ℚ) (s : ASession) (log : BirdAGraph.BirdALog) : Prop where
  spending : spent s.ledger ≤ initial
  budget : s.state.budget = -1 ∨ 0 ≤ s.state.budget
  entries : ∀ e ∈ s.ledger, e.Sound
  quiet : s.ledger.Pairwise fun e e' => e.stops → e'.isTurn = false
  logs : s.ledger.map Entry.call? = logged log

/-! ## One operation -/

/-- Where a run stands: at large, cleared for a model turn, or in a batch of tool calls. -/
inductive Phase where
  | idle
  | cleared
  | batch (calls : List ToolCall)

namespace Phase

def allowed : Phase → BirdAOp → Prop
  | q, .complete _ => q = .cleared
  | q, .execute call => ∃ rest, q = .batch (call :: rest)
  | _, _ => True

def next : Phase → (op : BirdAOp) → BirdAAns op → Phase
  | _, .stop_model_turn, .ok none => .cleared
  | _, .complete _, answer => .batch (calls_of answer)
  | .batch (_ :: rest), .execute _, _ => .batch rest
  | _, _, _ => .idle

end Phase

/-- The free exits that a batch takes from a budget. -/
def exits : ℚ → List ToolCall → ℕ
  | _, [] => 0
  | budget, call :: calls => (if charge call budget = some .free then 1 else 0) + exits (budget_after budget call) calls

theorem exits_eq_zero {calls : List ToolCall} (budget : ℚ) (h : ∀ call ∈ calls, call.name.text ≠ "submit_sql") :
    exits budget calls = 0 := by
  induction calls generalizing budget with
  | nil => rfl
  | cons call calls ih =>
    obtain ⟨hcall, hcalls⟩ := List.forall_mem_cons.mp h
    have hnot : charge call budget ≠ some .free := fun hfree => hcall (charge_free hfree).1
    unfold exits
    rw [if_neg hnot, ih _ hcalls]

theorem SingleExit.tail {budget : ℚ} {call : ToolCall} {calls : List ToolCall} (h : SingleExit budget (call :: calls)) :
    SingleExit (budget_after budget call) calls := by
  rintro before call' after rfl hfree
  exact h (call :: before) call' after rfl hfree

theorem SingleExit.exits {calls : List ToolCall} {budget : ℚ} (h : SingleExit budget calls) : exits budget calls ≤ 1 := by
  induction calls generalizing budget with
  | nil => exact Nat.zero_le 1
  | cons call calls ih =>
    unfold CommerceAgent.Orchestration.exits
    split_ifs with hfree
    · rw [exits_eq_zero _ (h [] call calls rfl hfree)]
    · rw [Nat.zero_add]
      exact ih h.tail

variable {initial : ℚ} {s : ASession} {log : BirdAGraph.BirdALog}

/-- The free exits that are still to come in the batch at hand. -/
def pendingExits (budget : ℚ) : Phase → ℕ
  | .batch calls => exits budget calls
  | _ => 0

@[simp] theorem pendingExits_idle (budget : ℚ) : pendingExits budget .idle = 0 := rfl

@[simp] theorem pendingExits_batch (budget : ℚ) (call : ToolCall) (calls : List ToolCall) :
    pendingExits budget (.batch (call :: calls)) =
      (if charge call budget = some .free then 1 else 0) + pendingExits (budget_after budget call) (.batch calls) := rfl

/-- The session between two operations of a run. -/
structure Budgeted (initial : ℚ) (q : Phase) (s : ASession) (log : BirdAGraph.BirdALog) : Prop
    extends Ledger initial s log where
  left : 0 ≤ s.state.budget → spent s.ledger + s.state.budget = initial ∧ freeExits s.ledger = 0
  stops : ∀ e ∈ s.ledger, e.stops → s.state.budget = -1 ∨ s.state.task_done = true
  cleared : q = .cleared → 0 ≤ s.state.budget ∧ s.state.task_done = false
  exits : (∀ budget task_done calls, .turn budget task_done calls ∈ s.ledger → SingleExit budget calls) →
    freeExits s.ledger + pendingExits s.state.budget q ≤ 1

theorem spent_append (ledger : List Entry) (e : Entry) : spent (ledger ++ [e]) = spent ledger + e.paid := by
  unfold spent
  rw [List.map_append, List.sum_append, List.map_singleton, List.sum_singleton]

theorem logged_append (log : BirdAGraph.BirdALog) (op : BirdAOp) (answer : BirdAAns op) :
    logged (log ++ [⟨op, answer⟩]) = logged log ++ (match op with
      | .complete _ => [none]
      | .execute call => [some call]
      | _ => []) := by
  unfold logged
  rw [List.filterMap_append]
  cases op <;> rfl

theorem Budgeted.other {q : Phase} (h : Budgeted initial q s log) {log' : BirdAGraph.BirdALog}
    (hlog : logged log' = logged log) : Budgeted initial .idle s log' := by
  obtain ⟨⟨hspent, hbudget, hentries, hquiet, hlogs⟩, hleft, hstops, -, hexits⟩ := h
  refine ⟨⟨hspent, hbudget, hentries, hquiet, hlogs.trans hlog.symm⟩, hleft, hstops, nofun, fun hsingle => ?_⟩
  have hle := hexits hsingle
  rw [pendingExits_idle]
  omega

theorem conditional_stop_gate_none {enabled : Bool} {state : SessionState} (h : conditional_stop_gate enabled state = none) :
    0 ≤ state.budget ∧ state.task_done = false := by
  unfold conditional_stop_gate at h
  split_ifs at h
  unfold budget_stop_gate at h
  split_ifs at h with hdone
  refine ⟨?_, by simpa using hdone⟩
  unfold SessionState.budget
  split at h
  · rename_i b hb
    split_ifs at h with hless
    rw [hb]
    exact not_lt.mp hless
  · rename_i hnone
    rw [hnone]
    exact le_refl 0

theorem Budgeted.turn (h : Budgeted initial .cleared s log) {log' : BirdAGraph.BirdALog}
    (hlog : logged log' = logged log ++ [none]) (calls : List ToolCall) :
    Budgeted initial (.batch calls) ⟨s.state, s.ledger ++ [.turn s.state.budget s.state.task_done calls]⟩ log' := by
  obtain ⟨⟨hspent, hbudget, hentries, hquiet, hlogs⟩, hleft, hstops, hcleared, -⟩ := h
  obtain ⟨hpositive, hdone⟩ := hcleared rfl
  obtain ⟨hsum, hfree⟩ := hleft hpositive
  have hspent' : spent (s.ledger ++ [.turn s.state.budget s.state.task_done calls]) = spent s.ledger := by
    rw [spent_append]
    exact add_zero _
  have hfree' : freeExits (s.ledger ++ [.turn s.state.budget s.state.task_done calls]) = 0 := by
    unfold freeExits at hfree ⊢
    rw [List.countP_append, hfree]
    rfl
  refine ⟨⟨hspent' ▸ hspent, hbudget, ?_, ?_, ?_⟩, fun hb => ⟨hspent' ▸ hsum, hfree'⟩, ?_, nofun, fun hsingle => ?_⟩
  · intro e he
    rcases List.mem_append.mp he with he | he
    · exact hentries e he
    · rw [List.mem_singleton.mp he]
      exact ⟨hpositive, hdone⟩
  · refine List.pairwise_append.mpr ⟨hquiet, List.pairwise_singleton _ _, fun e he e' _ hs => ?_⟩
    -- a session that is to stop is not cleared
    rcases hstops e he hs with hminus | hdone'
    · rw [hminus] at hpositive
      norm_num at hpositive
    · rw [hdone] at hdone'
      cases hdone'
  · rw [List.map_append, hlogs, hlog]
    rfl
  · intro e he hs
    rcases List.mem_append.mp he with he | he
    · exact hstops e he hs
    · rw [List.mem_singleton.mp he] at hs
      exact hs.elim
  · rw [hfree', Nat.zero_add]
    exact (hsingle _ _ calls (List.mem_append_right _ List.mem_cons_self)).exits

theorem Budgeted.rejected {calls : List ToolCall} (h : Budgeted initial (.batch (call :: calls)) s log)
    (hcharge : charge call s.state.budget = none) {state : SessionState}
    (hbudget : state.budget = budget_after s.state.budget call) (hdone : state.task_done = s.state.task_done) :
    Budgeted initial (.batch calls) ⟨state, s.ledger⟩ log := by
  have hafter : budget_after s.state.budget call = s.state.budget := by
    unfold budget_after
    rw [hcharge]
  rw [hafter] at hbudget
  obtain ⟨⟨hspent, hb, hentries, hquiet, hlogs⟩, hleft, hstops, -, hexits⟩ := h
  refine ⟨⟨hspent, ?_, hentries, hquiet, hlogs⟩, ?_, ?_, nofun, fun hsingle => ?_⟩
  · rwa [hbudget]
  · rwa [hbudget]
  · rwa [hbudget, hdone]
  · have hle := hexits hsingle
    rw [pendingExits_batch, if_neg (by rw [hcharge]; nofun), Nat.zero_add, hafter] at hle
    rw [hbudget]
    exact hle

theorem budget_after_minus_one (call : ToolCall) : budget_after (-1) call = -1 := by
  unfold budget_after
  split
  · rfl
  · rfl
  · rfl
  · rename_i cost hcharge
    obtain ⟨hcost, hle⟩ := charge_charged hcharge
    have := coin_cost_pos hcost
    linarith

theorem passed_budget {c : Charge} {initial spent : ℚ} (hcharge : charge call budget = some c)
    (hbudget : budget = -1 ∨ 0 ≤ budget) (hspent : spent ≤ initial) (hleft : 0 ≤ budget → spent + budget = initial)
    (task_done : Bool) :
    (budget_after budget call = -1 ∨ 0 ≤ budget_after budget call) ∧
      spent + (Entry.passed call c (budget_after budget call) task_done).paid ≤ initial ∧
      (0 ≤ budget_after budget call → 0 ≤ budget ∧ c ≠ .free ∧
        spent + (Entry.passed call c (budget_after budget call) task_done).paid + budget_after budget call = initial) := by
  unfold budget_after
  rw [hcharge]
  cases c with
  | uncosted =>
    have hpaid : (Entry.passed call .uncosted budget task_done).paid = 0 := rfl
    refine ⟨hbudget, ?_, fun hb => ⟨hb, nofun, ?_⟩⟩ <;> dsimp only <;> rw [hpaid]
    · linarith
    · linarith [hleft hb]
  | free =>
    have hpaid : (Entry.passed call .free (-1) task_done).paid = 0 := rfl
    refine ⟨.inl rfl, ?_, fun hb => ?_⟩ <;> dsimp only at *
    · rw [hpaid]
      linarith
    · norm_num at hb
  | charged cost =>
    obtain ⟨hcost, hle⟩ := charge_charged hcharge
    have hpositive := coin_cost_pos hcost
    have hsum := hleft (by linarith)
    dsimp only [Entry.paid]
    split_ifs with hlast
    · exact ⟨.inl rfl, by linarith, fun hb => by norm_num at hb⟩
    · exact ⟨.inr (by linarith), by linarith, fun _ => ⟨by linarith, nofun, by linarith⟩⟩

theorem Budgeted.passed {calls : List ToolCall} (h : Budgeted initial (.batch (call :: calls)) s log) {c : Charge}
    (hcharge : charge call s.state.budget = some c) {state : SessionState}
    (hbudget : state.budget = budget_after s.state.budget call)
    (hdone : s.state.task_done = true → state.task_done = true) {log' : BirdAGraph.BirdALog}
    (hlog : logged log' = logged log ++ [some call]) :
    Budgeted initial (.batch calls) ⟨state, s.ledger ++ [.passed call c state.budget state.task_done]⟩ log' := by
  obtain ⟨⟨hspent, hb, hentries, hquiet, hlogs⟩, hleft, hstops, -, hexits⟩ := h
  obtain ⟨hb', hspent', hleft'⟩ :=
    passed_budget hcharge hb hspent (fun hpositive => (hleft hpositive).1) state.task_done
  rw [← hbudget] at hb' hspent' hleft'
  have hstay : s.state.budget = -1 → state.budget = -1 := by
    intro hminus
    rw [hbudget, hminus, budget_after_minus_one]
  have hfree : freeExits (s.ledger ++ [.passed call c state.budget state.task_done]) =
      freeExits s.ledger + if c = .free then 1 else 0 := by
    unfold freeExits
    rw [List.countP_append]
    cases c <;> rfl
  refine ⟨⟨?_, hb', ?_, ?_, ?_⟩, fun hpositive => ?_, ?_, nofun, fun hsingle => ?_⟩
  · rwa [spent_append]
  · intro e he
    rcases List.mem_append.mp he with he | he
    · exact hentries e he
    · rw [List.mem_singleton.mp he]
      refine ⟨hb', ?_⟩
      cases c with
      | charged cost => exact (charge_charged hcharge).1
      | free => exact (charge_free hcharge).1
      | uncosted =>
        unfold charge at hcharge
        split at hcharge
        · assumption
        · split_ifs at hcharge <;> cases hcharge
  · exact List.pairwise_append.mpr ⟨hquiet, List.pairwise_singleton _ _, fun e _ e' he' _ => by
      rw [List.mem_singleton.mp he']
      rfl⟩
  · rw [List.map_append, hlogs, hlog]
    rfl
  · obtain ⟨hbefore, hnot, hsum⟩ := hleft' hpositive
    rw [spent_append, hfree, (hleft hbefore).2, if_neg hnot]
    exact ⟨hsum, rfl⟩
  · intro e he hs
    rcases List.mem_append.mp he with he | he
    · exact (hstops e he hs).imp hstay hdone
    · rw [List.mem_singleton.mp he] at hs
      exact hs
  · have hle := hexits fun budget task_done batch hturn => hsingle budget task_done batch (List.mem_append_left _ hturn)
    simp only [pendingExits_batch, hcharge, Option.some.injEq] at hle
    rw [hfree, hbudget]
    omega

/-! ## Runs -/

theorem on_op_rejected {agent : SystemAgent} {result : Except Raised ToolResult} {state : SessionState}
    (hgate : BirdSessionStatePort.gate_budget agent.library call s.state = (some result, state)) :
    agent.on_op (.execute call) s = .done (result, ⟨state, s.ledger ++ ((charge call s.state.budget).map fun c =>
      Entry.passed call c state.budget state.task_done).toList⟩) := by
  unfold SystemAgent.on_op BirdSessionStatePort.execute BirdSessionStatePort.gate
  simp only [hgate, Flow.bind]

theorem on_op_forwarded {agent : SystemAgent} {state : SessionState}
    (hgate : BirdSessionStatePort.gate_budget agent.library call s.state = (none, state)) :
    agent.on_op (.execute call) s = .ask (.execute call) fun answer =>
      (match answer with
        | .error e => Flow.done (Except.error e, state)
        | .ok result => Flow.done
            ((BirdSessionStatePort.after_tool agent.library .a call result state).1.map fun _ => result,
            (BirdSessionStatePort.after_tool agent.library .a call result state).2)).bind fun r =>
      Flow.done (r.1, ⟨r.2, s.ledger ++ ((charge call s.state.budget).map fun c =>
        Entry.passed call c r.2.budget r.2.task_done).toList⟩) := by
  unfold SystemAgent.on_op BirdSessionStatePort.execute BirdSessionStatePort.gate
  simp only [hgate, BirdSessionStatePort.forward, Flow.bind]
  congr
  funext answer
  cases answer <;> rfl

theorem on_op_keeps (agent : SystemAgent) (q : Phase) (op : BirdAOp) (s : ASession) (log : BirdAGraph.BirdALog)
    (hallowed : Phase.allowed q op) (h : Budgeted initial q s log) :
    (agent.on_op op s).Meets BirdAGraph.anything
      (Ends fun r log => Budgeted initial (Phase.next q op r.1) r.2 log) log := by
  cases op with
  | build request =>
    refine Meets.ask fun answer _ => Meets.done (h.other ?_)
    rw [logged_append, List.append_nil]
  | delete_attempt attempt =>
    refine Meets.ask fun answer _ => Meets.done (h.other ?_)
    rw [logged_append, List.append_nil]
  | stop_model_turn =>
    refine Meets.done ?_
    have hidle := h.other rfl
    cases hgate : conditional_stop_gate agent.stop_on_submit_fail s.state with
    | some stop => exact hidle
    | none =>
      exact ⟨hidle.toLedger, hidle.left, hidle.stops, fun _ => conditional_stop_gate_none hgate, hidle.exits⟩
  | complete request =>
    obtain rfl : q = .cleared := hallowed
    exact Meets.ask fun answer _ => Meets.done (h.turn (logged_append ..) (calls_of answer))
  | execute call =>
    obtain ⟨calls, rfl⟩ := hallowed
    obtain ⟨hbudget, hdone, hgate⟩ := BirdSessionStatePort.gate_budget_after agent.library call s.state
    rcases hgated : BirdSessionStatePort.gate_budget agent.library call s.state with ⟨_ | result, state⟩
    · rw [hgated] at hbudget hdone hgate
      obtain ⟨c, hcharge⟩ := Option.isSome_iff_exists.mp (hgate.mp rfl)
      rw [on_op_forwarded hgated, hcharge]
      refine Meets.ask fun answer _ => ?_
      have hlog : logged (log ++ [⟨.execute call, answer⟩]) = logged log ++ [some call] := logged_append ..
      cases answer with
      | error e => exact Meets.done (h.passed hcharge hbudget (fun hd => hdone ▸ hd) hlog)
      | ok result =>
        obtain ⟨hkept, hstays⟩ := BirdSessionStatePort.after_tool_keeps agent.library .a call result state
        exact Meets.done (h.passed hcharge (hkept.trans hbudget) (fun hd => hstays (hdone ▸ hd)) hlog)
    · rw [hgated] at hbudget hdone hgate
      have hnone : charge call s.state.budget = none := by
        rw [← Option.not_isSome_iff_eq_none, ← hgate]
        nofun
      rw [on_op_rejected hgated, hnone, Option.map_none, Option.toList_none, List.append_nil]
      exact Meets.done (h.rejected hnone hbudget hdone)

/-! ## Every session -/

theorem execute_all_follows {α : Type} (calls : List ToolCall) (k : List ToolResult → BirdACall α)
    (hk : ∀ results q, (k results).Follows Phase.allowed Phase.next q) :
    (BirdAGraph.execute_all calls k).Follows Phase.allowed Phase.next (.batch calls) := by
  induction calls generalizing k with
  | nil => exact hk [] _
  | cons call calls ih =>
    refine ⟨⟨calls, rfl⟩, fun answer => ?_⟩
    cases answer with
    | error e => trivial
    | ok result => exact ih _ fun results q => hk _ q

/-- No model turn without the gate, and the tool calls of a turn in their order. -/
theorem loop_follows (library : Library) (request : BirdARunRequest) (model_calls : ℕ) (progress : BirdAGraph.Progress)
    (q : Phase) : (BirdAGraph.loop library true request model_calls progress).Follows Phase.allowed Phase.next q := by
  unfold BirdAGraph.loop
  split
  · split <;> trivial
  refine ⟨trivial, fun answer => ?_⟩
  cases answer with
  | error e => trivial
  | ok hashes =>
    unfold BirdAGraph.gate
    rw [Flow.onOk_ok, if_pos rfl]
    refine ⟨trivial, fun answer => ?_⟩
    rcases answer with e | _ | stop
    · trivial
    · unfold BirdAGraph.model_turn
      refine ⟨rfl, fun answer => ?_⟩
      dsimp only
      split
      · trivial
      · trivial
      rename_i response
      split
      · trivial
      split
      · rename_i output houtput
        unfold BirdAGraph.on_tool_calls
        split
        · trivial
        have hcalls : calls_of (.ok response) = output.tool_calls := by
          unfold calls_of
          simp only [houtput]
        rw [← hcalls]
        refine execute_all_follows _ _ fun results q => ?_
        split
        · trivial
        unfold BirdAGraph.tool_exchange
        split
        · exact loop_follows library request (model_calls + 1) _ q
        · trivial
      · unfold BirdAGraph.on_final
        split <;> trivial
    · trivial
termination_by request.max_model_calls - model_calls

theorem run_follows (library : Library) (request : BirdARunRequest) :
    (BirdAGraph.run library true request).Follows Phase.allowed Phase.next .idle := by
  unfold BirdAGraph.run BirdAGraph.run_attempt
  refine Flow.Follows.bind (loop_follows library request 0 _ .idle) fun result q => ?_
  refine ⟨trivial, fun answer => ?_⟩
  cases answer <;> trivial

variable {agent : SystemAgent} {track_mode : (agent.run_scope.track, agent.run_scope.mode) = (.bird, .a)}

theorem run_a_keeps (message : String) (attempt_id : UUID) (h : Budgeted initial .idle s log) :
    (agent.run_a track_mode message attempt_id s).Meets BirdAGraph.anything
      (Ends fun r log => Budgeted initial .idle r.2 log) log := by
  unfold SystemAgent.run_a
  split
  · exact Meets.done h
  · refine Meets.seq ((Meets.handle (on_op_keeps agent) (run_follows _ _) h).mono fun r log hr => ?_)
    intro a hsome
    obtain ⟨q, hq⟩ := hr a hsome
    exact Meets.done (hq.other rfl)

theorem runs_a_keeps (runs : List (String × UUID)) (h : Budgeted initial .idle s log) :
    (agent.runs_a track_mode runs s).Meets BirdAGraph.anything
      (Ends fun r log => Budgeted initial .idle r.2 log) log := by
  unfold SystemAgent.runs_a
  refine Meets.each ?_ runs h
  rintro ⟨message, attempt_id⟩ s log h
  exact run_a_keeps message attempt_id h

/-- **The budget of a session.** Whatever the model and the tools answer, and however many runs the
session has, the ledger stays sound, and there is one free exit at most unless a batch has a
submission behind one that the budget did not cover. -/
theorem runs_a_ledger (agent : SystemAgent)
    (track_mode : (agent.run_scope.track, agent.run_scope.mode) = (.bird, .a)) (runs : List (String × UUID))
    (state : SessionState) (hbudget : 0 ≤ state.budget) (env : Env BirdAOp BirdAAns) :
    Ledger state.budget ((agent.runs_a track_mode runs ⟨state, []⟩).play env []).1.2
        ((agent.runs_a track_mode runs ⟨state, []⟩).play env []).2 ∧
      ((∀ budget task_done calls,
          .turn budget task_done calls ∈ ((agent.runs_a track_mode runs ⟨state, []⟩).play env []).1.2.ledger →
          SingleExit budget calls) →
        freeExits ((agent.runs_a track_mode runs ⟨state, []⟩).play env []).1.2.ledger ≤ 1) := by
  have hstart : Budgeted state.budget .idle ⟨state, []⟩ [] :=
    ⟨⟨hbudget, .inr hbudget, nofun, List.Pairwise.nil, rfl⟩, fun _ => ⟨zero_add _, rfl⟩, nofun, nofun,
      fun _ => Nat.zero_le 1⟩
  have hruns : (agent.runs_a track_mode runs ⟨state, []⟩).Meets BirdAGraph.anything
      (Ends fun r log => Budgeted state.budget .idle r.2 log) [] := runs_a_keeps runs hstart
  have hend : Budgeted state.budget .idle ((agent.runs_a track_mode runs ⟨state, []⟩).play env []).1.2
      ((agent.runs_a track_mode runs ⟨state, []⟩).play env []).2 := hruns.result fun _ _ => trivial
  exact ⟨hend.toLedger, hend.exits⟩

/-! ### One submission, or two, in one batch -/

def submission (call_id : Text 1 128) : ToolCall := ⟨call_id, submit_sql_name, ⟨"{}", by decide⟩⟩

def sampleBatch : ToolCallOutput where
  tool_calls := [submission ⟨"call_1", by decide⟩, submission ⟨"call_2", by decide⟩]
  size := by decide
  unique := by decide

/-- A model that submits twice in its first turn, and a tool service that fails the first submission
and does not answer the second. -/
def sampleEnv : Env BirdAOp BirdAAns := fun _ op =>
  match op with
  | .build _ => .ok ⟨HexDigest.ofNat 0, HexDigest.ofNat 0, HexDigest.ofNat 0, HexDigest.ofNat 0, HexDigest.ofNat 0⟩
  | .stop_model_turn => .ok none
  | .complete request => .ok
    { output := .tool_calls sampleBatch
      provider_turn_ref := ⟨3, HexDigest.ofNat 0, request.attempt_id, request.sequence,
        sampleBatch.tool_calls.map ToolCall.call_id⟩
      finish_reason := .tool_calls
      fits := ⟨rfl, rfl⟩ }
  | .execute call =>
    if call.call_id.text = "call_1" then
      .ok ⟨call.call_id, call.name, .error, ⟨"{}", by decide⟩, ⟨"{}", by decide⟩, HexDigest.ofNat 0, []⟩
    else .error (ToolInfrastructureError "tool_transport_failed")
  | .delete_attempt _ => .ok ()

def onceBatch : ToolCallOutput where
  tool_calls := [submission ⟨"call_1", by decide⟩]
  size := by decide
  unique := by decide

/-- A model that submits once, and is out of reach from then on. -/
def onceEnv : Env BirdAOp BirdAAns := fun log op =>
  match op with
  | .complete request =>
    if log.any fun e => match e.op with
      | .complete _ => true
      | _ => false
    then .error (ModelGatewayError ⟨"provider_timeout", by decide⟩ true)
    else .ok
      { output := .tool_calls onceBatch
        provider_turn_ref := ⟨3, HexDigest.ofNat 0, request.attempt_id, request.sequence,
          onceBatch.tool_calls.map ToolCall.call_id⟩
        finish_reason := .tool_calls
        fits := ⟨rfl, rfl⟩ }
  | op => sampleEnv log op

/-- Two runs of a session with two coins, of which a submission costs three. -/
def onceEnd : (List (Except Raised String) × ASession) × BirdAGraph.BirdALog :=
  (sampleAAgent.runs_a sampleAAgent_mode [("task", 4), ("again", 5)] ⟨sampleState, []⟩).play onceEnv []

theorem onceEnd_ledger : onceEnd.1.2.ledger = [.turn 2 false onceBatch.tool_calls,
    .passed (submission ⟨"call_1", by decide⟩) .free (-1) false] := by
  unfold onceEnd SystemAgent.runs_a Flow.each Flow.each Flow.each SystemAgent.run_a BirdAGraph.run
    BirdAGraph.run_attempt BirdAGraph.loop BirdAGraph.loop
  rfl

theorem singleExit_singleton (budget : ℚ) (call : ToolCall) : SingleExit budget [call] := by
  rintro before call' after hcalls - later hlater
  obtain ⟨-, hrest⟩ | ⟨-, hnil⟩ := List.append_eq_singleton_iff.mp hcalls.symm
  · obtain ⟨-, rfl⟩ := List.cons.inj hrest
    cases hlater
  · cases hnil

/-- The submission takes the free exit, and the second run finds the session stopped. -/
theorem runs_a_ledger_once : Ledger 2 onceEnd.1.2 onceEnd.2 ∧ freeExits onceEnd.1.2.ledger ≤ 1 := by
  obtain ⟨hledger, hexits⟩ := runs_a_ledger sampleAAgent sampleAAgent_mode [("task", 4), ("again", 5)] sampleState
    (by decide) onceEnv
  refine ⟨hledger, hexits ?_⟩
  intro budget task_done calls hturn
  change _ ∈ onceEnd.1.2.ledger at hturn
  rw [onceEnd_ledger] at hturn
  obtain ⟨rfl, rfl, rfl⟩ : budget = 2 ∧ task_done = false ∧ calls = onceBatch.tool_calls := by
    simpa using hturn
  exact singleExit_singleton 2 _

/-- Both submissions of the batch take the free exit. -/
theorem free_exit_taken_twice :
    ¬ ∀ (agent : SystemAgent) (track_mode : (agent.run_scope.track, agent.run_scope.mode) = (.bird, .a))
      (runs : List (String × UUID)) (state : SessionState) (env : Env BirdAOp BirdAAns), 0 ≤ state.budget →
      freeExits ((agent.runs_a track_mode runs ⟨state, []⟩).play env []).1.2.ledger ≤ 1 := by
  intro h
  have hle := h sampleAAgent sampleAAgent_mode [("task", 4)] sampleState sampleEnv (by decide)
  have htwo : freeExits ((sampleAAgent.runs_a sampleAAgent_mode [("task", 4)] ⟨sampleState, []⟩).play sampleEnv []).1.2.ledger = 2 := by
    unfold SystemAgent.runs_a Flow.each Flow.each SystemAgent.run_a BirdAGraph.run BirdAGraph.run_attempt BirdAGraph.loop
    rfl
  omega

end CommerceAgent.Orchestration
