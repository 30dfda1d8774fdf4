/-
  Subject:   The Blueprint, and the deterministic engine that simulates its scenarios.

  A built-in scenario is walked through the stages of the real system, with the policy's own
  `evaluatePolicy` for the confidential decision; a scenario of an adapter has the outcome that
  the adapter's fixture states. What a run comes to is compared with what the Blueprint expects
  of the scenario.
-/
import ContextLock.Policy.Evaluate

namespace ContextLock.Studio

open Js Policy

/-! ## 1. The Blueprint -/

inductive Stage where
  | IDENTITY
  | POLICY
  | CRE
  | APPROVAL
  | CAPABILITY
  | EXECUTION
  deriving DecidableEq

inductive ExpectedVerdict where
  | ALLOW
  | ESCALATE
  | DENY
  | NO_VERDICT
  deriving DecidableEq

inductive Outcome where
  | EXECUTED
  | BLOCKED
  | APPROVAL_REQUIRED
  deriving DecidableEq

/-- An entry of `simulationScenarios`; no stage is `NONE`. -/
structure SimulationScenario where
  scenarioId : String
  expectedVerdict : ExpectedVerdict
  expectedOutcome : Outcome
  expectedStopStage : Option Stage
  deriving DecidableEq

/-- `ContextLockAgentBlueprint`, with the kinds of its actions; `β` is everything else it says. -/
structure Blueprint (β : Type) where
  revision : Int
  createdAt : String
  actions : List String
  simulationScenarios : List SimulationScenario
  rest : β
  deriving DecidableEq

def BASELINE_SCENARIOS : List String :=
  ["NORMAL", "PROMPT_INJECTION", "AMOUNT_MUTATION", "RECIPIENT_MUTATION", "TARGET_MUTATION",
   "REPLAY", "ENS_REVOCATION", "STALE_CONTEXT", "POLICY_CHANGE", "RPC_FAILURE"]

/-! ## 2. Scenarios -/

inductive BuiltIn where
  | NORMAL
  | PROMPT_INJECTION
  | AMOUNT_MUTATION
  | RECIPIENT_MUTATION
  | TARGET_MUTATION
  | REPLAY
  | ENS_REVOCATION
  | STALE_CONTEXT
  | POLICY_CHANGE
  | RPC_FAILURE
  | HEALTH_FACTOR_DROP
  | FLASH_CRASH
  | COLLATERAL_RECOVERY
  | REPAY_ABOVE_AUTO_LIMIT
  | PRIVATE_CONTEXT_ALLOW
  | PRIVATE_CONTEXT_ESCALATE
  | PRIVATE_CONTEXT_DENY

open BuiltIn in
/-- `BUILT_IN`, with the scenario that each id stands for. -/
def BUILT_IN : List (String × BuiltIn) :=
  [("NORMAL", NORMAL), ("PROMPT_INJECTION", PROMPT_INJECTION), ("AMOUNT_MUTATION", AMOUNT_MUTATION),
   ("RECIPIENT_MUTATION", RECIPIENT_MUTATION), ("TARGET_MUTATION", TARGET_MUTATION),
   ("REPLAY", REPLAY), ("ENS_REVOCATION", ENS_REVOCATION), ("STALE_CONTEXT", STALE_CONTEXT),
   ("POLICY_CHANGE", POLICY_CHANGE), ("RPC_FAILURE", RPC_FAILURE),
   ("HEALTH_FACTOR_DROP", HEALTH_FACTOR_DROP), ("FLASH_CRASH", FLASH_CRASH),
   ("COLLATERAL_RECOVERY", COLLATERAL_RECOVERY), ("REPAY_ABOVE_AUTO_LIMIT", REPAY_ABOVE_AUTO_LIMIT),
   ("PRIVATE_CONTEXT_ALLOW", PRIVATE_CONTEXT_ALLOW),
   ("PRIVATE_CONTEXT_ESCALATE", PRIVATE_CONTEXT_ESCALATE),
   ("PRIVATE_CONTEXT_DENY", PRIVATE_CONTEXT_DENY)]

def builtIn (id : String) : Option BuiltIn := BUILT_IN.lookup id

def SIM_NOW : Int := 1760000000

/-- `"0x" + text.repeat(n)`. -/
def hexRepeat (text : String) (n : Nat) : String := "0x" ++ String.join (List.replicate n text)

def AGENT_IDENTITY : String := hexRepeat "a1" 32
def POOL : String := "0x00000000000000000000000000000000000000aa"
def HOSTILE : String := "0x000000000000000000000000000000000000dead"
def SELF : String := "0x0000000000000000000000000000000000005e1f"

def SIM_PRIVATE_POLICY : PrivatePolicy where
  policyId := "contextlock-aave-guardian-v1"
  policyVersion := .int 1
  enabled := true
  autoLimit := 1000000000
  escalationLimit := 5000000000
  maxSlippageBps := .int 50
  maxVolatilityBps := .int 600
  minLiquidity := 1000000000000
  targetEthAllocationBps := .int 5000
  rebalanceDriftBps := .int 500
  minHealthFactorBps := .int 16000
  targetHealthFactorBps := .int 18000
  proprietaryRiskThreshold := .int 120
  canary := "CTXLOCK_SIM_CANARY_DO_NOT_EXPORT"
  allowedActionKinds := ["AAVE_REPAY", "AAVE_SUPPLY"]
  allowedTargets := [POOL]
  authorizedAgentIdentityHashes := [AGENT_IDENTITY]

def baseRequest : EvaluationRequest where
  requestHash := hexRepeat "11" 32
  agentIdentityHash := AGENT_IDENTITY
  ensNode := hexRepeat "22" 32
  agent := "0x00000000000000000000000000000000000a6e17"
  chainId := .int 11155111
  target := POOL
  value := 0
  calldataHash := hexRepeat "33" 32
  selector := "0x573ade81"
  decodedRecipient := SELF
  decodedAmount := 500000000
  intentHash := hexRepeat "44" 32
  policyId := SIM_PRIVATE_POLICY.policyId
  policyVersion := .int 1
  actionKind := "AAVE_REPAY"

def benignContext : MarketContext where
  observedAtUnix := .int (SIM_NOW - 5)
  slippageBps := .int 12
  volatilityBps := .int 150
  liquidity := 9000000000000
  healthFactorBps := .int 18000

/-- State the deterministic stages consult, independent of the policy verdict. -/
structure World where
  identityCurrent : Bool
  rpcAvailable : Bool
  policyEnabledAtExecution : Bool
  nonceAlreadyUsed : Bool
  submittedAmount : Option Int
  submittedRecipient : Option String
  submittedTarget : Option String
  approvalRecorded : Bool

def defaultWorld : World := ⟨true, true, true, false, none, none, none, false⟩

structure ScenarioSetup where
  request : EvaluationRequest
  context : MarketContext
  policy : PrivatePolicy
  world : World

def buildScenario (id : BuiltIn) (primaryActionKind : String) : ScenarioSetup :=
  let request := { baseRequest with actionKind := primaryActionKind }
  let context := benignContext
  let policy :=
    { SIM_PRIVATE_POLICY with
      allowedActionKinds := [primaryActionKind, "AAVE_REPAY", "AAVE_SUPPLY"] }
  let world := defaultWorld
  match id with
  | .NORMAL | .HEALTH_FACTOR_DROP => ⟨request, context, policy, world⟩
  | .PROMPT_INJECTION =>
    ⟨{ request with
        actionKind := "AAVE_WITHDRAW", decodedRecipient := HOSTILE, decodedAmount := 5000000000 },
      context, policy, world⟩
  | .AMOUNT_MUTATION =>
    ⟨request, context, policy, { world with submittedAmount := some 4900000000 }⟩
  | .RECIPIENT_MUTATION =>
    ⟨request, context, policy, { world with submittedRecipient := some HOSTILE }⟩
  | .TARGET_MUTATION =>
    ⟨request, context, policy, { world with submittedTarget := some HOSTILE }⟩
  | .REPLAY => ⟨request, context, policy, { world with nonceAlreadyUsed := true }⟩
  | .ENS_REVOCATION => ⟨request, context, policy, { world with identityCurrent := false }⟩
  | .STALE_CONTEXT =>
    ⟨request, { context with observedAtUnix := .int (SIM_NOW - 600) }, policy, world⟩
  | .POLICY_CHANGE =>
    ⟨request, context, policy, { world with policyEnabledAtExecution := false }⟩
  | .RPC_FAILURE => ⟨request, context, policy, { world with rpcAvailable := false }⟩
  | .FLASH_CRASH => ⟨request, { context with volatilityBps := .int 5000 }, policy, world⟩
  | .COLLATERAL_RECOVERY => ⟨request, { context with liquidity := 1 }, policy, world⟩
  | .REPAY_ABOVE_AUTO_LIMIT =>
    ⟨{ request with decodedAmount := 3000000000 }, context, policy, world⟩
  | .PRIVATE_CONTEXT_ALLOW => ⟨request, context, policy, world⟩
  | .PRIVATE_CONTEXT_ESCALATE =>
    ⟨request, { context with volatilityBps := .int 5000 }, policy, world⟩
  | .PRIVATE_CONTEXT_DENY => ⟨request, { context with slippageBps := .int 900 }, policy, world⟩

/-! ## 3. The walk through the stages -/

inductive StageStatus where
  | PASS
  | STOP
  | SKIPPED
  deriving DecidableEq

structure StageResult where
  stage : Stage
  status : StageStatus
  reason : Option String

def STAGE_ORDER : List Stage := [.IDENTITY, .POLICY, .CRE, .APPROVAL, .CAPABILITY, .EXECUTION]

/-- How far a walk has come; no stage is `NONE`. -/
structure Walk where
  verdict : ExpectedVerdict
  reasonCode : String
  stoppedAt : Option Stage
  outcome : Outcome
  stages : List StageResult

def Walk.start : Walk := ⟨.NO_VERDICT, "NONE", none, .BLOCKED, []⟩

namespace Walk

variable (w : Walk)

def stop (stage : Stage) (reason : String) : Walk :=
  { w with
    stoppedAt := some stage
    stages := w.stages ++ ⟨stage, .STOP, some reason⟩ ::
      (STAGE_ORDER.drop (STAGE_ORDER.idxOf stage + 1)).map (⟨·, .SKIPPED, none⟩) }

def pass (stage : Stage) : Walk := { w with stages := w.stages ++ [⟨stage, .PASS, none⟩] }

def judged (verdict : ExpectedVerdict) (reasonCode : ReasonCode) : Walk :=
  { w with verdict := verdict, reasonCode := reasonCode.text }

/-- `f`, unless the walk was stopped. -/
def next (f : Walk → Walk) : Walk := if w.stoppedAt.isNone then f w else w

end Walk

/-- `decision.verdict`. -/
def verdictOf : Verdict → ExpectedVerdict
  | .allow => .ALLOW
  | .escalate => .ESCALATE
  | .deny => .DENY

section Stages

variable (actions : List String) (setup : ScenarioSetup)

def identityStage (w : Walk) : Walk :=
  if !setup.world.rpcAvailable then w.stop .IDENTITY "IdentityUnavailable"
  else if !setup.world.identityCurrent then w.stop .IDENTITY "IdentityNotCurrent"
  else w.pass .IDENTITY

def policyStage (w : Walk) : Walk :=
  if !actions.contains setup.request.actionKind then
    (w.judged .DENY .DENY_ACTION_NOT_ALLOWED).stop .POLICY "ActionNotPermitted"
  else if !setup.world.policyEnabledAtExecution then
    (w.judged .DENY .DENY_POLICY_DISABLED).stop .POLICY "PolicyDisabled"
  else w.pass .POLICY

def creStage (w : Walk) : Walk :=
  let decision := evaluatePolicy setup.request setup.policy setup.context SIM_NOW
  let w := w.judged (verdictOf decision.verdict) decision.reasonCode
  if decision.verdict = .deny then w.stop .CRE "AuthorizationNotAllow" else w.pass .CRE

def approvalStage (w : Walk) : Walk :=
  if w.verdict = .ESCALATE then
    if !setup.world.approvalRecorded then
      { w.stop .APPROVAL "HumanApprovalRequired" with outcome := .APPROVAL_REQUIRED }
    else w.pass .APPROVAL
  else { w with stages := w.stages ++ [⟨.APPROVAL, .SKIPPED, none⟩] }

def capabilityStage (w : Walk) : Walk := w.pass .CAPABILITY

def executionStage (w : Walk) : Walk :=
  if setup.world.nonceAlreadyUsed then w.stop .EXECUTION "NonceUsed"
  else if setup.world.submittedAmount.any (· ≠ setup.request.decodedAmount) then
    w.stop .EXECUTION "CalldataHashMismatch"
  else if setup.world.submittedRecipient.any (· ≠ setup.request.decodedRecipient) then
    w.stop .EXECUTION "CalldataHashMismatch"
  else if setup.world.submittedTarget.any (· ≠ setup.request.target) then
    w.stop .EXECUTION "TargetMismatch"
  else { w.pass .EXECUTION with outcome := .EXECUTED }

/-- What is stopped is blocked, unless it waits for an approval. -/
def closeWalk (w : Walk) : Walk :=
  if w.stoppedAt.isSome ∧ w.outcome ≠ .APPROVAL_REQUIRED then { w with outcome := .BLOCKED } else w

/-- The six stages, in order. -/
def walk : Walk :=
  let w := identityStage setup Walk.start
  let w := w.next (policyStage actions setup)
  let w := w.next (creStage setup)
  let w := w.next (approvalStage setup)
  let w := w.next capabilityStage
  let w := w.next (executionStage setup)
  closeWalk w

end Stages

/-! ## 4. Results -/

structure SimulationAssertion where
  id : String
  held : Bool

structure SimulationResult where
  scenarioId : String
  blueprintRevision : Int
  buildRevision : Nat
  verdict : ExpectedVerdict
  reasonCode : String
  outcome : Outcome
  stoppedAt : Option Stage
  stages : List StageResult
  assertions : List SimulationAssertion
  passed : Bool

inductive FixtureOutcome where
  | ACCEPTED
  | REJECTED
  deriving DecidableEq

structure AdapterScenarioFixture where
  outcome : FixtureOutcome
  reasonCode : String
  stoppedAt : Option Stage

/-- `AdapterFixtureMap`: the fixtures by scenario id. -/
abbrev AdapterFixtureMap := List (String × AdapterScenarioFixture)

section Run

variable {β : Type} (bp : Blueprint β) (buildRevision : Nat)

/-- `bp.simulationScenarios.find(...)`: the first entry of the id. -/
def expectedOf (scenarioId : String) : Option SimulationScenario :=
  bp.simulationScenarios.find? (·.scenarioId = scenarioId)

def walkOf (id : BuiltIn) (approvalRecorded : Bool) : Walk :=
  let setup := buildScenario id (bp.actions.head?.getD "AAVE_REPAY")
  walk bp.actions { setup with world := { setup.world with approvalRecorded := approvalRecorded } }

/-- The comparison with what the Blueprint expects of the scenario. -/
def expectationAssertions (expected : Option SimulationScenario) (w : Walk) :
    List SimulationAssertion :=
  match expected with
  | some expected =>
    [⟨"A1", w.verdict = expected.expectedVerdict⟩,
     ⟨"A2", w.outcome = expected.expectedOutcome⟩,
     ⟨"A3", w.stoppedAt = expected.expectedStopStage⟩]
  | none => [⟨"A0", false⟩]

def escalationAssertions (w approved : Walk) : List SimulationAssertion :=
  if w.verdict = .ESCALATE then
    [⟨"A5", approved.outcome = .EXECUTED && approved.stoppedAt.isNone⟩,
     ⟨"A6", approved.verdict = w.verdict⟩]
  else []

def denyAssertion (w : Walk) : SimulationAssertion :=
  ⟨"A4", !(decide (w.verdict = .DENY) && w.stages.any fun s =>
    (decide (s.stage = .APPROVAL) || decide (s.stage = .EXECUTION)) && decide (s.status = .PASS))⟩

def runBuiltInScenario (scenarioId : String) (id : BuiltIn) : SimulationResult :=
  let w := walkOf bp id false
  let assertions := expectationAssertions (expectedOf bp scenarioId) w
    ++ escalationAssertions w (walkOf bp id true) ++ [denyAssertion w]
  { scenarioId := scenarioId
    blueprintRevision := bp.revision
    buildRevision := buildRevision
    verdict := w.verdict
    reasonCode := w.reasonCode
    outcome := w.outcome
    stoppedAt := w.stoppedAt
    stages := w.stages
    assertions := assertions
    passed := assertions.all SimulationAssertion.held }

def fixtureStages (stoppedAt : Option Stage) (reasonCode : String) : List StageResult :=
  STAGE_ORDER.map fun stage =>
    match stoppedAt with
    | none => ⟨stage, .PASS, none⟩
    | some stopped =>
      if STAGE_ORDER.idxOf stage < STAGE_ORDER.idxOf stopped then ⟨stage, .PASS, none⟩
      else if stage = stopped then ⟨stage, .STOP, some reasonCode⟩
      else ⟨stage, .SKIPPED, none⟩

/-- A scenario of an adapter: the fixture states the outcome. -/
def runAdapterScenario (scenarioId : String) (fixtures : AdapterFixtureMap) : SimulationResult :=
  match fixtures.lookup scenarioId with
  | none =>
    { scenarioId := scenarioId
      blueprintRevision := bp.revision
      buildRevision := buildRevision
      verdict := .NO_VERDICT
      reasonCode := "SCENARIO_UNRUNNABLE"
      outcome := .BLOCKED
      stoppedAt := some .POLICY
      stages := STAGE_ORDER.map (⟨·, .SKIPPED, none⟩)
      assertions := [⟨"A0", false⟩]
      passed := false }
  | some fixture =>
    let accepted := decide (fixture.outcome = .ACCEPTED)
    let outcome := if accepted then Outcome.EXECUTED else .BLOCKED
    let stoppedAt := if accepted then none else some (fixture.stoppedAt.getD .EXECUTION)
    let assertions : List SimulationAssertion :=
      match expectedOf bp scenarioId with
      | some expected =>
        [⟨"A1", outcome = expected.expectedOutcome⟩,
         ⟨"A2", stoppedAt = expected.expectedStopStage⟩]
      | none => [⟨"A0", false⟩]
    { scenarioId := scenarioId
      blueprintRevision := bp.revision
      buildRevision := buildRevision
      verdict := .NO_VERDICT
      reasonCode := fixture.reasonCode
      outcome := outcome
      stoppedAt := stoppedAt
      stages := fixtureStages stoppedAt fixture.reasonCode
      assertions := assertions
      passed := assertions.all SimulationAssertion.held }

def runScenario (scenarioId : String) (fixtures : AdapterFixtureMap) : SimulationResult :=
  match builtIn scenarioId with
  | some id => runBuiltInScenario bp buildRevision scenarioId id
  | none => runAdapterScenario bp buildRevision scenarioId fixtures

def runAllScenarios (fixtures : AdapterFixtureMap) : List SimulationResult :=
  bp.simulationScenarios.map fun s => runScenario bp buildRevision s.scenarioId fixtures

end Run

/-! ## 5. What a passed run was compared with -/

/-- The run came to what the entry expects. -/
def Meets (r : SimulationResult) (entry : SimulationScenario) : Prop :=
  r.verdict = entry.expectedVerdict ∧ r.outcome = entry.expectedOutcome ∧
    r.stoppedAt = entry.expectedStopStage

instance instDecidableMeets (r : SimulationResult) (entry : SimulationScenario) :
    Decidable (Meets r entry) :=
  inferInstanceAs (Decidable (_ ∧ _ ∧ _))

section Passed

variable {β : Type} {bp : Blueprint β} {buildRevision : Nat} {fixtures : AdapterFixtureMap}
  {entry first : SimulationScenario}

end Passed

end ContextLock.Studio
