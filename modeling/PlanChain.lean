import PlanChain.Main
import PlanChain.Proofs.Execution.Commitment
import PlanChain.Proofs.Execution.Determinism
import PlanChain.Proofs.Execution.Integrity
import PlanChain.Proofs.Plan.FixedPoint
import PlanChain.Proofs.Run.Cancellation
import PlanChain.Proofs.Run.Registry
import PlanChain.Proofs.Run.Service
import PlanChain.Proofs.Trace.Evidence
import PlanChain.Sample
import PlanChain.Proofs.Json.Survival
import PlanChain.Proofs.Execution.Wire
import PlanChain.Proofs.Replay
import PlanChain.Proofs.Json.Reading
import PlanChain.Proofs.Run.Attempts
import PlanChain.Proofs.Sandbox.Scripts
import PlanChain.Proofs.Execution.Journal
import PlanChain.Proofs.Execution.Cancelled
import PlanChain.Proofs.Execution.Refinement
import PlanChain.Proofs.Sandbox.Sessions
import PlanChain.Proofs.Sandbox.Simulation
import PlanChain.Proofs.Run.Healing
import PlanChain.Proofs.Run.Ending
import PlanChain.Proofs.Run.Agreement
import PlanChain.Proofs.Execution.Meaning
import PlanChain.Proofs.Run.Steadiness
import PlanChain.Proofs.Plan.Identity
import PlanChain.Proofs.Execution.Resubmission
import PlanChain.Proofs.Execution.Headroom
import PlanChain.Proofs.Execution.Accounting
import PlanChain.Proofs.Sandbox.Deadlines
import PlanChain.Proofs.Trace.Rearrangement
import PlanChain.Proofs.Json.Unordered
import PlanChain.Proofs.Plan.Independence
import PlanChain.Proofs.Run.Wire
import PlanChain.Proofs.Run.Backoff
import PlanChain.Proofs.Plan.Repetition
import PlanChain.Proofs.Run.Budget
import PlanChain.Proofs.Run.Listing
import PlanChain.Proofs.Run.Filing
import PlanChain.Proofs.Execution.Atomicity
