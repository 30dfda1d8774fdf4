/-
  Subject:   The agent runtime on a fork: its ticks, its escalations and what humans answer.

  A tick observes the positions, asks each driver for a proposal, rules on it, and where it is
  allowed issues capabilities, records authorizations and submits the steps. An escalated proposal
  is kept with its steps until a human approves or declines it. All of these are threads over one
  state; each chain call is awaited.
-/
import Mathlib.Data.Nat.Digits.Defs
import ContextLock.Machine.Thread
import ContextLock.Policy.Evaluate

namespace ContextLock.Studio.ForkRuntime

open Machine Policy

/-! ## 1. Data -/

structure Driver where
  id : String
  protocol : String

structure ProposalStep where
  kind : String
  target : String
  calldata : String
  value : Int
  label : String

structure Proposal where
  kind : String
  label : String
  amountUsd6 : Int
  steps : List ProposalStep

structure DriverObservation where
  driverId : String
  protocol : String
  healthBps : Option Int
  detail : String

structure Capability where
  agentIdentityHash : String
  agent : String
  executor : String
  target : String
  value : Int
  calldataHash : String
  intentHash : String
  policyHash : String
  authorizationId : String
  contextCommitment : String
  issuedAt : Int
  expiresAt : Int
  nonce : Int

structure PreparedStep extends ProposalStep where
  cap : Capability
  signature : String
  digest : String

structure PendingEscalation where
  correlationId : String
  driverId : String
  protocol : String
  label : String
  amountUsd6 : Int
  reasonCode : ReasonCode
  sinceMs : Int
  capabilityIds : List String
  expiresAtUnix : Int

/-- An escalation that waits for a human. Its number, which nothing reads, tells it from others
    under the same correlation id. -/
structure Pending where
  escalation : PendingEscalation
  steps : List PreparedStep
  obs : DriverObservation
  number : Nat

structure DecisionRecord where
  correlationId : String
  atMs : Int
  driverId : String
  protocol : String
  actionKind : String
  label : String
  verdict : Verdict
  reasonCode : ReasonCode
  riskBand : RiskBand
  amountUsd6 : Int
  healthFactorBps : Option Int
  policyEnabled : Bool
  executed : Bool
  approvedByHuman : Bool
  txHashes : List String
  healthFactorAfterBps : Option Int

structure ExecutionRecord where
  correlationId : String
  atMs : Int
  driverId : String
  label : String
  amountUsd6 : Int
  txs : List String
  healthFactorBeforeBps : Option Int
  healthFactorAfterBps : Option Int
  approvedByHuman : Bool

inductive TickAction where
  | NONE
  | PROPOSED
  | EXECUTED
  | ERROR
  deriving DecidableEq

/-- What a tick did. -/
structure Outcome where
  action : TickAction
  verdict : Option Verdict
  reasonCode : Option ReasonCode
  correlationId : Option String

structure TickSample extends Outcome where
  atMs : Int
  policyEnabled : Bool
  protocols : List DriverObservation

inductive EventType where
  | RUNTIME_STATE_CHANGED
  | ADAPTER_READ
  | ADAPTER_FAILED
  | DECISION_NO_ACTION
  | AGENT_TRIGGERED
  | STRATEGY_EVALUATED
  | DECISION_ALLOW
  | DECISION_ESCALATE
  | DECISION_DENY
  | CAPABILITY_REQUESTED
  | CAPABILITY_ISSUED
  | AUTHORIZATION_RECORDED
  | EXECUTION_SUBMITTED
  | EXECUTION_REVERTED
  | EXECUTION_MINED
  | AGENT_RUN_COMPLETED
  | AGENT_RUN_FAILED
  | CAPABILITY_REJECTED

structure Event where
  type : EventType
  correlationId : String

/-! ## 2. What is awaited -/

/-- The calls of the chain and of the signers. -/
inductive ChainAsk where
  | latestBlock
  | signCapability (cap : Capability)
  | recordAuthorization (authorizationId : String) (verdict : Verdict)
  | execute (digest : String)
  | receipt (hash : String)
  | observe (driverId : String)
  | approvalDigest (digest : String) (expiresAt : Int)
  | recoverAddress (hash signature : String)
  | signApproval (hash : String)
  | submitApproval (digest : String) (expiresAt : Int) (signature : String)

structure Receipt where
  success : Bool

def ChainValue : ChainAsk → Type
  | .latestBlock => Int
  | .receipt _ => Receipt
  | .observe _ => DriverObservation
  | _ => String

/-- What a thread awaits: an observation or a proposal, or a call that prepares the steps of a
    proposal, that executes them (by a human's approval of the escalation of that number, or not),
    or that approves the escalation of that number. -/
inductive Ask where
  | now
  | readings
  | observe (driverId : String)
  | propose (driverId : String) (obs : DriverObservation)
  | preparing (q : ChainAsk)
  | executing (human : Option Nat) (q : ChainAsk)
  | answering (number : Nat) (q : ChainAsk)

def Ask.instant : Ask → Bool
  | now => true
  | _ => false

/-- The answers. Of the readings of the fork, whether the policy is enabled there. -/
def Answer : Ask → Type
  | .now => Int
  | .readings => Except String Bool
  | .observe _ => Except String DriverObservation
  | .propose _ _ => Except String (Option Proposal)
  | .preparing q => Except String (ChainValue q)
  | .executing _ q => Except String (ChainValue q)
  | .answering _ q => Except String (ChainValue q)

/-! ## 3. The state -/

/-- What the runtime does on its own initiative. -/
inductive Act where
  | capability
  | authorization
  | submission
  deriving DecidableEq

/-- What an observer notes of the runtime. -/
structure Watch where
  /-- What the runtime did on its own initiative while it was paused or stopping. -/
  heldActs : List Act
  /-- How many escalations there were. -/
  escalations : Nat
  /-- The steps submitted on a human's approval, by the number of the escalation. -/
  submitted : List (Nat × Nat)
  /-- The escalations that a decline has returned for. -/
  declined : List Nat
  /-- An approval was submitted or recorded, or a step submitted, for one of them. -/
  afterDecline : Bool

structure RuntimeState where
  paused : Bool
  stopping : Bool
  timer : Bool
  inFlight : Bool
  startedAtMs : Option Int
  lastHeartbeatMs : Option Int
  lastTickAtMs : Option Int
  ticks : Nat
  consecutiveErrors : Nat
  lastError : Option String
  pendingByCorrelation : List Pending
  lastVerdict : List (String × (Verdict × ReasonCode × Int) × Int)
  nonceSeq : Int
  lastObservationLogMs : Int
  samples : List TickSample
  decisions : List DecisionRecord
  executions : List ExecutionRecord
  events : List Event
  watch : Watch

/-- A runtime that was just constructed. -/
def RuntimeState.new : RuntimeState :=
  ⟨false, false, false, false, none, none, none, 0, 0, none, [], [], 0, 0, [], [], [], [],
    ⟨[], 0, [], [], false⟩⟩

/-- The runtime is not to act on its own. -/
def RuntimeState.held (s : RuntimeState) : Bool := s.paused || s.stopping

/-- The escalation under a correlation id. -/
def RuntimeState.pendingOf (s : RuntimeState) (correlationId : String) : Option Pending :=
  s.pendingByCorrelation.find? (·.escalation.correlationId = correlationId)

inductive ApproverMode where
  | STAND_IN
  | WALLET

/-- The deployment the runtime is for, and the hashing around it. -/
structure Deps where
  deploymentId : String
  agentIdentityHash : String
  ensNode : String
  policyHash : String
  user : String
  approver : String
  executor : String
  approverMode : ApproverMode
  policy : PrivatePolicy
  drivers : List Driver
  keccak256 : String → String
  contextCommitment : MarketContext → String
  capabilityDigest : Capability → String

/-- A computation of the runtime. -/
abbrev Job : Type → Type := Thread RuntimeState Ask Answer String

inductive Reply where
  | done
  | sampled (sample : Option TickSample)
  | executed (record : ExecutionRecord)

def now : Job Int := Thread.ask Ask.now

def readings : Job Bool := (Thread.ask Ask.readings : Job (Except String Bool)).bind Thread.lift

def observeDriver (driverId : String) : Job DriverObservation :=
  (Thread.ask (Ask.observe driverId) : Job (Except String DriverObservation)).bind Thread.lift

def propose (driverId : String) (obs : DriverObservation) : Job (Option Proposal) :=
  (Thread.ask (Ask.propose driverId obs) : Job (Except String (Option Proposal))).bind Thread.lift

def preparing (q : ChainAsk) : Job (ChainValue q) :=
  (Thread.ask (Ask.preparing q) : Job (Except String (ChainValue q))).bind Thread.lift

def executing (human : Option Nat) (q : ChainAsk) : Job (ChainValue q) :=
  (Thread.ask (Ask.executing human q) : Job (Except String (ChainValue q))).bind Thread.lift

def answering (number : Nat) (q : ChainAsk) : Job (ChainValue q) :=
  (Thread.ask (Ask.answering number q) : Job (Except String (ChainValue q))).bind Thread.lift

def emit (type : EventType) (correlationId : String) : Job Unit :=
  Thread.update fun s => { s with events := s.events ++ [⟨type, correlationId⟩] }

/-- Note what the runtime does on its own initiative, if it is not to. -/
def own (a : Act) : Job Unit :=
  Thread.update fun s =>
    if s.held then { s with watch := { s.watch with heldActs := s.watch.heldActs ++ [a] } } else s

def RuntimeState.forEscalation (s : RuntimeState) (number : Nat) : RuntimeState :=
  { s with watch := { s.watch with
    afterDecline := s.watch.afterDecline || s.watch.declined.contains number } }

/-- Note that the `i`th step of an escalation is submitted. -/
def RuntimeState.submit (s : RuntimeState) (number i : Nat) : RuntimeState :=
  { s.forEscalation number with watch := { (s.forEscalation number).watch with
    submitted := s.watch.submitted ++ [(number, i)] } }

def submitting : Option Nat → Nat → Job Unit
  | none, _ => own .submission
  | some number, i => Thread.update fun s => s.submit number i

/-! ## 4. The ContextLock path -/

variable (D : Deps)

def CAPABILITY_TTL_S : Int := 3600

/-- A capability per step, and its authorization with the verdict. -/
def prepareSteps (correlationId : String) (ctx : MarketContext) (verdict : Verdict) (issuedAt : Int) :
    List ProposalStep → List PreparedStep → Job (List PreparedStep)
  | [], out => pure out
  | step :: steps, out => do
    Thread.update fun s => { s with nonceSeq := s.nonceSeq + 1 }
    let atMs ← now
    let s ← Thread.read
    let cap : Capability := {
      agentIdentityHash := D.agentIdentityHash
      agent := D.user
      executor := D.executor
      target := step.target
      value := step.value
      calldataHash := D.keccak256 step.calldata
      intentHash := D.keccak256 (correlationId ++ ":" ++ step.kind)
      policyHash := D.policyHash
      authorizationId := D.keccak256 (correlationId ++ ":" ++ step.kind ++ ":authorization")
      contextCommitment := D.contextCommitment ctx
      issuedAt := issuedAt
      expiresAt := issuedAt + CAPABILITY_TTL_S
      nonce := atMs * 1000 + s.nonceSeq }
    own .capability
    let signature ← preparing (.signCapability cap)
    emit .CAPABILITY_ISSUED correlationId
    own .authorization
    let authHash ← preparing (.recordAuthorization cap.authorizationId verdict)
    let _ ← preparing (.receipt authHash)
    emit .AUTHORIZATION_RECORDED correlationId
    prepareSteps correlationId ctx verdict issuedAt steps
      (out ++ [⟨step, cap, signature, D.capabilityDigest cap⟩])

def prepare (correlationId : String) (proposal : Proposal) (ctx : MarketContext)
    (verdict : Verdict) : Job (List PreparedStep) := do
  let issuedAt ← preparing .latestBlock
  prepareSteps D correlationId ctx verdict issuedAt proposal.steps []

/-- The prepared steps, submitted one after the other from the `i`th on. -/
def executeSteps (correlationId : String) (human : Option Nat) :
    List PreparedStep → Nat → List String → Job (List String)
  | [], _, txs => pure txs
  | step :: steps, i, txs => do
    emit .EXECUTION_SUBMITTED correlationId
    submitting human i
    let sent : Except String String ← Thread.attempt (executing human (.execute step.digest))
    match sent with
    | .error message =>
      emit .EXECUTION_REVERTED correlationId
      .threw message
    | .ok hash =>
      let receipt ← executing human (.receipt hash)
      if receipt.success then
        emit .EXECUTION_MINED correlationId
        executeSteps correlationId human steps (i + 1) (txs ++ [hash])
      else
        emit .EXECUTION_REVERTED correlationId
        .threw (step.label ++ " reverted on the fork")

def bounded {α : Type} (limit : Nat) (l : List α) : List α := l.drop (l.length - limit)

/-- Submit each prepared step through the executor. -/
def execute (correlationId driverId label : String) (amountUsd6 : Int) (before : DriverObservation)
    (steps : List PreparedStep) (human : Option Nat) : Job ExecutionRecord := do
  let txs ← executeSteps correlationId human steps 0 []
  let after ← executing human (.observe driverId)
  let atMs ← now
  let result : ExecutionRecord := ⟨correlationId, atMs, driverId, label, amountUsd6, txs,
    before.healthBps, after.healthBps, human.isSome⟩
  Thread.update fun s => { s with executions := bounded 100 (s.executions ++ [result]) }
  emit .AGENT_RUN_COMPLETED correlationId
  pure result

def DecisionRecord.ran (d : DecisionRecord) (exec : ExecutionRecord) : DecisionRecord :=
  { d with
    executed := true
    approvedByHuman := d.approvedByHuman || exec.approvedByHuman
    txHashes := exec.txs
    healthFactorAfterBps := exec.healthFactorAfterBps }

/-- The first record under a correlation id, changed. -/
def changeFirst (correlationId : String) (f : DecisionRecord → DecisionRecord) :
    List DecisionRecord → List DecisionRecord
  | [] => []
  | d :: ds =>
    if d.correlationId = correlationId then f d :: ds else d :: changeFirst correlationId f ds

/-! ## 5. Deciding -/

def REPEAT_DECISION_MS : Int := 60000

def digit36 (d : Nat) : Char := if d < 10 then Char.ofNat (48 + d) else Char.ofNat (87 + d)

/-- `now.toString(36)`. -/
def base36 (n : Int) : String :=
  let digits := String.ofList ((Nat.digits 36 n.natAbs).reverse.map digit36)
  if n = 0 then "0" else if n < 0 then "-" ++ digits else digits

def correlationIdOf (atMs : Int) (driver : Driver) : String :=
  "corr_" ++ String.ofList (D.deploymentId.toList.drop 4) ++ "_" ++ base36 atMs ++ "_"
    ++ String.ofList (driver.id.toList.take 4)

def request (correlationId : String) (step : ProposalStep) (amountUsd6 : Int) :
    EvaluationRequest where
  requestHash := D.keccak256 (correlationId ++ ":" ++ step.kind ++ ":request")
  agentIdentityHash := D.agentIdentityHash
  ensNode := D.ensNode
  agent := D.user
  chainId := .int 31337
  target := step.target
  value := 0
  calldataHash := D.keccak256 step.calldata
  selector := String.ofList (step.calldata.toList.take 10)
  decodedRecipient := D.user
  decodedAmount := amountUsd6
  intentHash := D.keccak256 (correlationId ++ ":" ++ step.kind)
  policyId := D.policy.policyId
  policyVersion := D.policy.policyVersion
  actionKind := step.kind

def rank : Verdict → Nat
  | .allow => 0
  | .escalate => 1
  | .deny => 2

def worst (a b : PolicyDecision) : PolicyDecision := if rank a.verdict < rank b.verdict then b else a

/-- Every step is ruled on; the worst verdict stands. -/
def ruleOn (correlationId : String) (proposal : Proposal) (policy : PrivatePolicy)
    (ctx : MarketContext) (nowUnix : Int) : Option PolicyDecision :=
  proposal.steps.foldl
    (fun decision step =>
      let d := evaluatePolicy (request D correlationId step proposal.amountUsd6) policy ctx nowUnix
      some ((decision.map (worst · d)).getD d)) none

/-- The place of the last verdict on a driver, set. -/
def RuntimeState.setVerdict (s : RuntimeState) (driverId : String)
    (key : Verdict × ReasonCode × Int) (atMs : Int) : RuntimeState :=
  { s with lastVerdict :=
    s.lastVerdict.filter (fun e => decide (e.1 ≠ driverId)) ++ [(driverId, key, atMs)] }

def RuntimeState.dropVerdict (s : RuntimeState) (driverId : String) : RuntimeState :=
  { s with lastVerdict := s.lastVerdict.filter fun e => decide (e.1 ≠ driverId) }

/-- `Map.set`, by the correlation id. -/
def setPending (p : Pending) : List Pending → List Pending
  | [] => [p]
  | q :: qs =>
    if q.escalation.correlationId = p.escalation.correlationId then p :: qs
    else q :: setPending p qs

/-- An escalation, kept until a human answers it. -/
def RuntimeState.escalate (s : RuntimeState) (e : PendingEscalation) (steps : List PreparedStep)
    (obs : DriverObservation) : RuntimeState :=
  { s with
    pendingByCorrelation :=
      setPending ⟨e, steps, obs, s.watch.escalations⟩ s.pendingByCorrelation
    watch := { s.watch with escalations := s.watch.escalations + 1 } }

def RuntimeState.remove (s : RuntimeState) (correlationId : String) : RuntimeState :=
  { s with pendingByCorrelation :=
    s.pendingByCorrelation.filter fun p => decide (p.escalation.correlationId ≠ correlationId) }

def setDecision (correlationId : String) (f : DecisionRecord → DecisionRecord) : Job Unit :=
  Thread.update fun s => { s with decisions := changeFirst correlationId f s.decisions }

def setNewestDecision (correlationId : String) (f : DecisionRecord → DecisionRecord) : Job Unit :=
  Thread.update fun s =>
    { s with decisions := (changeFirst correlationId f s.decisions.reverse).reverse }

def decisionEvent : Verdict → EventType
  | .allow => .DECISION_ALLOW
  | .escalate => .DECISION_ESCALATE
  | .deny => .DECISION_DENY

/-- A proposal that is allowed or escalated: prepared, and kept or executed. -/
def carryOut (driver : Driver) (obs : DriverObservation) (correlationId : String)
    (proposal : Proposal) (ctx : MarketContext) (decision : PolicyDecision) (atMs : Int) :
    Job Outcome := do
  let prepared ← prepare D correlationId proposal ctx decision.verdict
  if decision.verdict = .escalate then
    let expiresAtUnix := (prepared.head?.map (·.cap.expiresAt)).getD 0
    Thread.update fun s => s.escalate ⟨correlationId, driver.id, driver.protocol, proposal.label,
      proposal.amountUsd6, decision.reasonCode, atMs, prepared.map (·.digest), expiresAtUnix⟩
      prepared obs
    emit .CAPABILITY_REQUESTED correlationId
    pure ⟨.PROPOSED, some .escalate, some decision.reasonCode, some correlationId⟩
  else
    let exec ← execute correlationId driver.id proposal.label proposal.amountUsd6 obs prepared none
    setNewestDecision correlationId (·.ran exec)
    pure ⟨.EXECUTED, some .allow, some decision.reasonCode, some correlationId⟩

/-- A ruling that is new: it is recorded, and carried out unless it denies. -/
def ruled (driver : Driver) (obs : DriverObservation) (sample : TickSample) (correlationId : String)
    (proposal : Proposal) (ctx : MarketContext) (decision : PolicyDecision) (atMs : Int) :
    Job Outcome := do
  emit .AGENT_TRIGGERED correlationId
  emit .ADAPTER_READ correlationId
  emit .ADAPTER_READ correlationId
  emit .STRATEGY_EVALUATED correlationId
  emit (decisionEvent decision.verdict) correlationId
  let record : DecisionRecord := ⟨correlationId, atMs, driver.id, driver.protocol, proposal.kind,
    proposal.label, decision.verdict, decision.reasonCode, decision.riskBand, proposal.amountUsd6,
    obs.healthBps, sample.policyEnabled, false, false, [], none⟩
  Thread.update fun s => { s with decisions := bounded 200 (s.decisions ++ [record]) }
  if decision.verdict = .deny then
    pure ⟨.PROPOSED, some .deny, some decision.reasonCode, some correlationId⟩
  else
    match ← Thread.attempt (carryOut D driver obs correlationId proposal ctx decision atMs) with
    | .ok outcome => pure outcome
    | .error _ =>
      emit .AGENT_RUN_FAILED correlationId
      pure ⟨.ERROR, some decision.verdict, some decision.reasonCode, some correlationId⟩

/-- The ruling on a proposal; one that repeats the last is not recorded again. -/
def ruleAndRecord (driver : Driver) (obs : DriverObservation) (sample : TickSample) (atMs : Int)
    (proposal : Proposal) : Job (Option Outcome) := do
  let ctx : MarketContext := ⟨.int (atMs.fdiv 1000), .int 0, .int 0, D.policy.minLiquidity,
    (obs.healthBps.map .int).getD D.policy.targetHealthFactorBps⟩
  let correlationId := correlationIdOf D atMs driver
  match ruleOn D correlationId proposal { D.policy with enabled := sample.policyEnabled } ctx
      (atMs.fdiv 1000) with
  | none => .threw "Cannot read properties of null (reading 'verdict')"
  | some decision =>
    let key := (decision.verdict, decision.reasonCode, proposal.amountUsd6.tdiv 100000000)
    let s ← Thread.read
    if decision.verdict ≠ .allow && s.lastVerdict.any fun e =>
        decide (e.1 = driver.id) && decide (e.2.1 = key) &&
          decide (atMs - e.2.2 < REPEAT_DECISION_MS) then
      pure (some ⟨.PROPOSED, some decision.verdict, some decision.reasonCode, none⟩)
    else
      Thread.update fun s => s.setVerdict driver.id key atMs
      let outcome ← ruled D driver obs sample correlationId proposal ctx decision atMs
      pure (some outcome)

/-- What one driver asks for, and what comes of it. -/
def decideFor (driver : Driver) (obs : DriverObservation) (sample : TickSample) :
    Job (Option Outcome) := do
  let atMs ← now
  let s ← Thread.read
  match s.pendingByCorrelation.find? (·.escalation.driverId = driver.id) with
  | some outstanding =>
    pure (some ⟨.PROPOSED, some .escalate, some outstanding.escalation.reasonCode,
      some outstanding.escalation.correlationId⟩)
  | none =>
    match ← propose driver.id obs with
    | none =>
      let s ← Thread.read
      if s.lastVerdict.any (·.1 = driver.id) then
        Thread.update fun s => s.dropVerdict driver.id
        emit .DECISION_NO_ACTION ("corr_" ++ String.ofList (D.deploymentId.toList.drop 4) ++ "_"
          ++ base36 atMs)
        pure none
      else pure none
    | some proposal => ruleAndRecord D driver obs sample atMs proposal

/-! ## 6. The tick -/

def OBSERVATION_LOG_MS : Int := 60000
def SAMPLE_LIMIT : Nat := 600

def observeDrivers : List Driver → List DriverObservation → Job (List DriverObservation)
  | [], out => pure out
  | d :: ds, out => do
    let obs ← observeDriver d.id
    observeDrivers ds (out ++ [obs])

def observe (atMs : Int) : Job TickSample := do
  let policyEnabled ← readings
  let protocols ← observeDrivers D.drivers []
  pure ⟨⟨.NONE, none, none, none⟩, atMs, policyEnabled, protocols⟩

/-- The sample records the most consequential thing that happened on the tick. -/
def TickSample.record (result sample : TickSample) : Option Outcome → TickSample
  | none => result
  | some r =>
    if result.action = .NONE ∨ r.action = .EXECUTED ∨ r.action = .ERROR then
      { sample with toOutcome := r }
    else result

def decideAll (sample : TickSample) : List Driver → TickSample → Job TickSample
  | [], result => pure result
  | d :: ds, result => do
    match sample.protocols.find? (·.driverId = d.id) with
    | none => .threw "Cannot read properties of undefined (reading 'healthBps')"
    | some obs =>
      let r ← decideFor D d obs sample
      decideAll sample ds (result.record sample r)

/-- A tick that is not paused. -/
def observeAndDecide (atMs : Int) : Job (Option TickSample) := do
  let sample ← observe D atMs
  Thread.update fun s =>
    { s with
      lastTickAtMs := some atMs
      ticks := s.ticks + 1
      consecutiveErrors := 0
      lastError := none }
  let result ← decideAll D sample D.drivers sample
  let s ← Thread.read
  if result.action = .NONE ∧ OBSERVATION_LOG_MS ≤ atMs - s.lastObservationLogMs then
    Thread.update fun s => { s with lastObservationLogMs := atMs }
    emit .ADAPTER_READ ("corr_observe_" ++ toString atMs)
  Thread.update fun s => { s with samples := bounded SAMPLE_LIMIT (s.samples ++ [result]) }
  pure (some result)

def unlessPaused (atMs : Int) : Job (Option TickSample) := do
  let s ← Thread.read
  if s.paused then pure none else observeAndDecide D atMs

def runTick : Job (Option TickSample) := do
  let atMs ← now
  Thread.update fun s => { s with lastHeartbeatMs := some atMs }
  match ← Thread.attempt (unlessPaused D atMs) with
  | .ok sample => pure sample
  | .error message =>
    Thread.update fun s =>
      { s with consecutiveErrors := s.consecutiveErrors + 1, lastError := some message }
    emit .ADAPTER_FAILED ("corr_tick_" ++ toString atMs)
    pure none

/-- A tick, unless the runtime stops; while one is in flight it is that one. -/
def tick : Job Reply := do
  let s ← Thread.read
  if s.stopping then pure (.sampled none)
  else if s.inFlight then pure .done
  else
    Thread.update fun s => { s with inFlight := true }
    let sample ← runTick D
    Thread.update fun s => { s with inFlight := false }
    pure (.sampled sample)

/-! ## 7. The answers of humans -/

structure ApprovalSignature where
  capabilityDigest : String
  expiresAt : Int
  signature : String
  deriving DecidableEq

def noEscalation (correlationId : String) : String :=
  "no escalation " ++ correlationId ++ " is waiting for approval"

/-- The signatures by the digest they are for, the newest first. -/
abbrev Signed := List (String × Int × String)

def signedFor (signed : Signed) (digest : String) : Option (Int × String) :=
  (signed.find? (·.1 = Js.toLowerCase digest)).map (·.2)

/-- The signatures of a wallet, each checked to recover to the approver. -/
def checkSignatures (number : Nat) (timestamp : Int) :
    List ApprovalSignature → Signed → Job Signed
  | [], signed => pure signed
  | s :: rest, signed => do
    let short := String.ofList (s.capabilityDigest.toList.take 12) ++ "…"
    if s.expiresAt ≤ timestamp then
      .threw ("the signed approval for " ++ short ++ " has already expired on the fork")
    else
      let digest ← answering number (.approvalDigest s.capabilityDigest s.expiresAt)
      let recovered : String ← answering number (.recoverAddress digest s.signature)
      if Js.toLowerCase recovered ≠ Js.toLowerCase D.approver then
        .threw ("the signature for " ++ short ++ " was made by " ++ recovered
          ++ ", not the deployment's approver " ++ D.approver)
      else
        checkSignatures number timestamp rest
          ((Js.toLowerCase s.capabilityDigest, s.expiresAt, s.signature) :: signed)

def standIn (number : Nat) (expiresAt : Int) : List PreparedStep → Signed → Job Signed
  | [], signed => pure signed
  | step :: steps, signed => do
    let digest ← answering number (.approvalDigest step.digest expiresAt)
    let signature : String ← answering number (.signApproval digest)
    standIn number expiresAt steps ((Js.toLowerCase step.digest, expiresAt, signature) :: signed)

/-- The signatures for the steps of an escalation. -/
def collect (pending : Pending) (signatures : List ApprovalSignature) (timestamp : Int) :
    Job Signed :=
  match D.approverMode with
  | .WALLET => do
    if signatures.isEmpty then
      .threw ("this deployment's approver is the connected wallet; the approval needs its EIP-712 "
        ++ "signatures")
    else
      let signed ← checkSignatures D pending.number timestamp signatures []
      let missing := pending.steps.filter fun st => (signedFor signed st.digest).isNone
      if missing ≠ [] then
        .threw ("no signature for " ++ ", ".intercalate (missing.map (·.label))
          ++ "; every step of an escalation needs one")
      else pure signed
  | .STAND_IN => standIn pending.number (timestamp + 1800) pending.steps []

def approving (number : Nat) : Job Unit := Thread.update fun s => s.forEscalation number

def recordApprovals (correlationId : String) (number : Nat) (signed : Signed) :
    List PreparedStep → Job Unit
  | [] => pure ()
  | step :: steps => do
    match signedFor signed step.digest with
    | none => .threw "Cannot destructure property 'expiresAt' of 'undefined'"
    | some (expiresAt, signature) =>
      approving number
      let hash : String ← answering number (.submitApproval step.digest expiresAt signature)
      let receipt ← answering number (.receipt hash)
      if receipt.success then
        approving number
        emit .AUTHORIZATION_RECORDED correlationId
        recordApprovals correlationId number signed steps
      else .threw ("the approval for " ++ step.label ++ " was not recorded (tx " ++ hash ++ ")")

def approve (correlationId : String) (signatures : List ApprovalSignature) : Job Reply := do
  let s ← Thread.read
  match s.pendingOf correlationId with
  | none => .threw (noEscalation correlationId)
  | some pending =>
    let timestamp ← answering pending.number .latestBlock
    let signed ← collect D pending signatures timestamp
    recordApprovals correlationId pending.number signed pending.steps
    Thread.update fun s => s.remove correlationId
    let exec ← execute correlationId pending.escalation.driverId pending.escalation.label
      pending.escalation.amountUsd6 pending.obs pending.steps (some pending.number)
    setDecision correlationId (·.ran exec)
    Thread.update fun s => s.dropVerdict pending.escalation.driverId
    pure (.executed exec)

def decline (correlationId : String) : Job Reply := do
  let s ← Thread.read
  match s.pendingOf correlationId with
  | none => .threw (noEscalation correlationId)
  | some pending =>
    Thread.update fun s =>
      { s.remove correlationId with watch := { s.watch with
        declined := s.watch.declined ++ [pending.number] } }
    emit .CAPABILITY_REJECTED correlationId
    pure .done

/-! ## 8. The lifecycle, and the calls as operations -/

def runtimeCorrelation : String := "corr_runtime_" ++ D.deploymentId

/-- The first tick that is begun here is a turn of its own. -/
def start : Job Reply := do
  let s ← Thread.read
  if s.timer then pure .done
  else
    let startedAt ← now
    let heartbeat ← now
    Thread.update fun s => { s with startedAtMs := some startedAt, lastHeartbeatMs := some heartbeat }
    emit .RUNTIME_STATE_CHANGED (runtimeCorrelation D)
    pure .done

/-- The timer is set, after a tick. The tick it begins is a turn of its own. -/
def loop : Job Reply := do
  Thread.update fun s => { s with timer := true }
  pure .done

def stop : Job Reply := do
  Thread.update fun s => { s with stopping := true, timer := false }
  emit .RUNTIME_STATE_CHANGED (runtimeCorrelation D)
  pure .done

def pause : Job Reply := do
  Thread.update fun s => { s with paused := true }
  emit .RUNTIME_STATE_CHANGED (runtimeCorrelation D)
  pure .done

def resume : Job Reply := do
  Thread.update fun s => { s with paused := false }
  emit .RUNTIME_STATE_CHANGED (runtimeCorrelation D)
  pure .done

inductive Op where
  | start
  | loop
  | stop
  | pause
  | resume
  | tick
  | approve (correlationId : String) (signatures : List ApprovalSignature)
  | decline (correlationId : String)
  deriving DecidableEq

def program : Op → Job Reply
  | .start => start D
  | .loop => loop
  | .stop => stop D
  | .pause => pause D
  | .resume => resume D
  | .tick => tick D
  | .approve correlationId signatures => approve D correlationId signatures
  | .decline correlationId => decline correlationId

abbrev Runtime := Pool RuntimeState Ask Answer String Reply Op

abbrev RuntimeTurn := Turn Answer Op

def Runtime.step : Runtime → RuntimeTurn → Option Runtime := Pool.step Ask.instant (program D)

def Runtime.new : Runtime := Pool.idle .new

end ContextLock.Studio.ForkRuntime
