import CommerceAgent.Orchestration.RetailGraph

/-!
# Runs of the retail graph

The checkpoint that a log leaves behind, and runs that crash and resume from it.
-/

open CommerceAgent.Lib
open CommerceAgent.Lib.Flow (Steps Meets Obeys onOk)
open CommerceAgent.Operations (UUID Text Code Name HexDigest)

namespace CommerceAgent.Orchestration

abbrev RetailLog := Log RetailOp RetailAns

/-- A checkpoint, marked as cleaned up. -/
def RetailGraphState.marked (state : RetailGraphState) : RetailGraphState :=
  { state with cleanup_complete := true, current_node := .complete }

/-- What an operation makes of the checkpoint. -/
def stored (checkpoint : Option RetailGraphState) (e : Event RetailOp RetailAns) : Option RetailGraphState :=
  match e.op with
  | .save state => some state
  | .mark_complete => checkpoint.map RetailGraphState.marked
  | _ => checkpoint

/-- The checkpoint that a log leaves behind. -/
def checkpoint (log : RetailLog) : Option RetailGraphState := log.foldl stored none

theorem checkpoint_append (log : RetailLog) (e : Event RetailOp RetailAns) :
    checkpoint (log ++ [e]) = stored (checkpoint log) e := by
  unfold checkpoint
  rw [List.foldl_append]
  rfl

/-- A log answers its loads from the checkpoints of the log. -/
def Checkpointed (log : RetailLog) (e : Event RetailOp RetailAns) : Prop :=
  match e with
  | ⟨.load, answer⟩ => answer = checkpoint log
  | _ => True

namespace RetailGraph

variable (graph : RetailGraph)

/-- A schedule of crashes: the run is made again and again, and each time it is stopped after some
operations, unless it has ended before. -/
def runs (request : RetailRunRequest) (env : Env RetailOp RetailAns) (crashes : List ℕ) : RetailLog :=
  (graph.run_day4 request).cuts env crashes []

end RetailGraph

end CommerceAgent.Orchestration
