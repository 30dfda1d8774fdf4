import ContextLock.Contracts.HumanApproval
import ContextLock.Contracts.ActionKind
import ContextLock.Contracts.Revocation
import ContextLock.Orchestrator.Resend
import ContextLock.Orchestrator.Signed
import ContextLock.Orchestrator.Verification
import ContextLock.Orchestrator.Completion
import ContextLock.Plan.Arrival
import ContextLock.Control.Locked
import ContextLock.Control.Fence
import ContextLock.Reality.Decision
import ContextLock.Studio.Completed
import ContextLock.Execution.Ccip
import ContextLock.Execution.Admission
import ContextLock.Runtime.ModelGateway
import ContextLock.Runtime.Checkpoint
import ContextLock.Lab.Bands
import ContextLock.Lab.Revisions
import ContextLock.Studio.Slots
import ContextLock.Studio.Answered
import ContextLock.Org.AgentCaps
import ContextLock.Policy.Commitment
import ContextLock.Contracts.ExpectedPolicy
import ContextLock.Bridge.Ceiling
import ContextLock.Broker.FailedCalls
import ContextLock.Broker.Signatures
import ContextLock.Contracts.EnsCurrent
import ContextLock.Contracts.Registries
import ContextLock.Simulator.TriggerGateway
import ContextLock.Runtime.Principal
import ContextLock.Simulator.Supervision
import ContextLock.Studio.ForkDeployment
import ContextLock.Reality.ForkLifecycle
import ContextLock.Events.Sqlite
import ContextLock.Strategy.Conversions
import ContextLock.Org.Reach
import ContextLock.Plan.State
import ContextLock.Strategy.Placing
import ContextLock.OpenApi.Conformance
import ContextLock.Bridge.Payload
import ContextLock.Plan.Identity
import ContextLock.Control.Finality
import ContextLock.Control.Terminal
import ContextLock.Org.Capacity
import ContextLock.Orchestrator.ReadBack
import ContextLock.Orchestrator.Images
import ContextLock.Execution.Health
import ContextLock.Reality.Agreement
import ContextLock.Reality.Disagreement
import ContextLock.Reality.Selection
import ContextLock.Execution.Uniswap
import ContextLock.Reality.Credentials
import ContextLock.Execution.TheGraph
import ContextLock.Lab.Assembly
import ContextLock.Runtime.Revision
import ContextLock.Lab.Soundness
import ContextLock.Lab.Staleness
import ContextLock.Studio.Stuck
import ContextLock.OpenApi.Cycles
import ContextLock.Lab.Ruling
import ContextLock.Studio.Evidence
