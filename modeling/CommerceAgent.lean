import CommerceAgent.Operations.Expiry
import CommerceAgent.Operations.Grants
import CommerceAgent.Operations.LifeCycle
import CommerceAgent.Operations.SellerRefs
import CommerceAgent.Orchestration.BirdBudget
import CommerceAgent.Orchestration.BirdCLoop
import CommerceAgent.Orchestration.BirdToolErrors
import CommerceAgent.Model.Completion
import CommerceAgent.Model.TurnLifeCycle
import CommerceAgent.Model.Retry
import CommerceAgent.Model.History
import CommerceAgent.Orchestration.RetailReplay
import CommerceAgent.Evaluation.SpoolImporter
import CommerceAgent.Evaluation.SpoolScan
import CommerceAgent.Evaluation.Telemetry
import CommerceAgent.Evaluation.Recording
import CommerceAgent.Evaluation.Spool
import CommerceAgent.Evaluation.RunnerSerial
import CommerceAgent.Evaluation.StoreRuns
import CommerceAgent.Context.Tokens
import CommerceAgent.Context.Hashes
import CommerceAgent.Operations.BacktestIds
import CommerceAgent.Api.Sse
import CommerceAgent.QueryEngine.Reconciliation
import CommerceAgent.QueryEngine.DetailLimit
import CommerceAgent.QueryEngine.Executor
import CommerceAgent.ProductEval.Digest
import CommerceAgent.SqlReasoning.Reasoner
import CommerceAgent.ValueResolver.Resolver
import CommerceAgent.Orchestration.Checkpoint
import CommerceAgent.Knowledge.Serving
import CommerceAgent.ProductEval.DriverAudit
import CommerceAgent.Operations.Idempotency
import CommerceAgent.Orchestration.RetailTools
import CommerceAgent.Model.StoredTurns
